import Vicinity.Channel.Delivery

/-! # Callbacks that act

A callback may do more than take note of a message: it may subscribe, unsubscribe and publish on the
place it was called from, and then return or panic. What it does is a finite script. The steps are
taken in the first few calls only, as many as the script says; the calls are counted for each
registration, so that a script registered anew starts again. A publication inside a script finishes
before the script goes on.

A script can register scripts and can publish to itself, but each run of its steps uses up one call
of a registration. `Journal.budget` counts what is left to run, so it bounds how deep calls nest and
how much they can still publish.
-/

namespace Vicinity

mutual

/-- What a callback does when it is called: `limit` calls take the `steps`, and a call panics if
`panics` names its message or names none. -/
inductive Script (N T S M : Type) where
  | mk (tag : String) (limit : Nat) (steps : List (ScriptStep N T S M))
    (panics : Option (Option M))

/-- One step of a script, on a topic of a node. -/
inductive ScriptStep (N T S M : Type) where
  | subscribe (node : N) (topic : T) (subscriber : S) (script : Script N T S M)
  | unsubscribe (node : N) (topic : T) (subscriber : S)
  | publish (node : N) (topic : T) (message : M)
  | close (node : N)

end

namespace Script

variable {N T S M : Type}

def tag : Script N T S M → String
  | mk tag _ _ _ => tag

def limit : Script N T S M → Nat
  | mk _ limit _ _ => limit

def steps : Script N T S M → List (ScriptStep N T S M)
  | mk _ _ steps _ => steps

/-- How a call with a message ends. -/
def outcome [DecidableEq M] : Script N T S M → M → Outcome
  | mk _ _ _ none, _ => .returned
  | mk _ _ _ (some none), _ => .panicked
  | mk _ _ _ (some (some trigger)), message => if message = trigger then .panicked else .returned

/-- A callback that only takes note. -/
def quiet (tag : String) : Script N T S M := mk tag 0 [] none

mutual

/-- What a new registration of a script can still run. -/
def weight : Script N T S M → Nat
  | mk _ limit steps _ => limit * (1 + stepsWeight steps)

def stepsWeight : List (ScriptStep N T S M) → Nat
  | [] => 0
  | step :: rest => stepWeight step + stepsWeight rest

def stepWeight : ScriptStep N T S M → Nat
  | .subscribe _ _ _ script => 1 + weight script
  | .unsubscribe _ _ _ => 1
  | .publish _ _ _ => 1
  | .close _ => 1

end

end Script

/-- A script that was registered for a subscriber, and how often it has been called. -/
structure Registration (N T S M : Type) where
  subscriber : S
  script : Script N T S M
  calls : Nat

/-- The registrations, which callbacks go by their numbers, and the calls that were made: the
subscriber, the tag of its script and the message. -/
structure Journal (N T S M : Type) where
  registrations : Array (Registration N T S M)
  calls : List (S × String × M)

namespace Journal

variable {N T S M : Type}

def new : Journal N T S M := ⟨#[], []⟩

/-- Register a script; the answer is the number of the registration. -/
def register (journal : Journal N T S M) (subscriber : S) (script : Script N T S M) :
    Nat × Journal N T S M :=
  (journal.registrations.size,
    { journal with registrations := journal.registrations.push ⟨subscriber, script, 0⟩ })

/-- Count a call of a registration and note it. -/
def note (journal : Journal N T S M) (callback : Nat) (registration : Registration N T S M)
    (message : M) : Journal N T S M where
  registrations := journal.registrations.setIfInBounds callback
    { registration with calls := registration.calls + 1 }
  calls := journal.calls ++ [(registration.subscriber, registration.script.tag, message)]

/-- The same registrations with no calls noted. -/
def forgetCalls (journal : Journal N T S M) : Journal N T S M := { journal with calls := [] }

/-- What all registrations together can still run. -/
def budget (journal : Journal N T S M) : Nat :=
  (journal.registrations.toList.map fun registration =>
    (registration.script.limit - registration.calls) *
      (1 + Script.stepsWeight registration.script.steps)).foldr (· + ·) 0

end Journal

/-- A world in which scripts run: where it keeps the journal, and how it carries out a step once the
script in it has a number. -/
structure Stage (W N T S M : Type) where
  journal : W → Journal N T S M
  withJournal : W → Journal N T S M → W
  subscribe : N → T → S → Nat → W → W
  unsubscribe : N → T → S → W → W
  publish : (Nat → M → W → Outcome × W) → N → T → M → W → W
  close : N → W → W

namespace Stage

variable {W N T S M : Type}

/-- Take one step, with a way to call callbacks. -/
def perform (stage : Stage W N T S M) (call : Nat → M → W → Outcome × W) (w : W) :
    ScriptStep N T S M → W
  | .subscribe node topic subscriber script =>
    let (callback, journal) := (stage.journal w).register subscriber script
    stage.subscribe node topic subscriber callback (stage.withJournal w journal)
  | .unsubscribe node topic subscriber => stage.unsubscribe node topic subscriber w
  | .publish node topic message => stage.publish call node topic message w
  | .close node => stage.close node w

/-- Call a callback: note the call, run the script's steps if it is one of the first calls, and end
as the script says. Calls nest no deeper than `depth`. -/
def call [DecidableEq M] (stage : Stage W N T S M) : Nat → Nat → M → W → Outcome × W
  | 0, callback, message, w =>
    match (stage.journal w).registrations[callback]? with
    | none => (.returned, w)
    | some registration =>
      (registration.script.outcome message,
        stage.withJournal w ((stage.journal w).note callback registration message))
  | depth + 1, callback, message, w =>
    match (stage.journal w).registrations[callback]? with
    | none => (.returned, w)
    | some registration =>
      let noted := stage.withJournal w ((stage.journal w).note callback registration message)
      let after :=
        if registration.calls < registration.script.limit then
          registration.script.steps.foldl (stage.perform (stage.call depth)) noted
        else noted
      (registration.script.outcome message, after)

/-- Call a callback, nesting as deep as the registrations in the world allow. -/
def callFully [DecidableEq M] (stage : Stage W N T S M) (callback : Nat) (message : M) (w : W) :
    Outcome × W :=
  stage.call ((stage.journal w).budget + 1) callback message w

end Stage

end Vicinity
