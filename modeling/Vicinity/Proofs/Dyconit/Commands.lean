import Mathlib.Data.List.Induction
import Vicinity.Dyconit.Basic
import Vicinity.Proofs.Latest
import Vicinity.Proofs.Table

/-! # Commands carried out

What a list of commands leaves of a dyconit is settled by the last command about it, and no command
about another dyconit has a part in it. Commands that subscribe to different dyconits all stand: they
come one after another into the table that is left, each with its own bounds.
-/

namespace Vicinity.Dyconit

variable {A M V : Type}

/-! ## The last command about a dyconit -/

/-- The bounds that a command leaves its dyconit with, if it leaves it any. -/
def Command.bounds? : Command → Option Bounds
  | subscribe _ bounds => some bounds
  | unsubscribe _ => none

/-- The last command about a dyconit. -/
def latest? (commands : List Command) (name : String) : Option Command :=
  (commands.filter (·.name = name)).getLast?

/-- A command stands in a list, and none of those after it is about the same dyconit. -/
def Final (commands : List Command) (command : Command) : Prop :=
  ∃ before after, commands = before ++ command :: after ∧
    ∀ later ∈ after, later.name ≠ command.name

theorem latest?_concat (commands : List Command) (command : Command) (name : String) :
    latest? (commands ++ [command]) name =
      if command.name = name then some command else latest? commands name := by
  rw [latest?, getLast?_filter_concat, ← latest?]
  simp only [decide_eq_true_eq]

theorem latest?_eq_some_iff (commands : List Command) (name : String) (command : Command) :
    latest? commands name = some command ↔ command.name = name ∧ Final commands command := by
  rw [latest?, getLast?_filter_eq_some_iff, decide_eq_true_eq]
  refine and_congr_right ?_
  rintro rfl
  simp only [Final, decide_eq_false_iff_not, ne_eq]

theorem get?_apply (held : Table String Bounds) (command : Command) (name : String) :
    (command.apply held).get? name =
      if command.name = name then command.bounds? else held.get? name := by
  cases command with
  | subscribe own bounds =>
    simp only [Command.apply, Table.get?_insert, Command.name, Command.bounds?, eq_comm]
  | unsubscribe own =>
    simp only [Command.apply, Table.get?_erase, Command.name, Command.bounds?, eq_comm]

theorem get?_applyAll (commands : List Command) (name : String) :
    (applyAll commands).get? name = (latest? commands name).bind Command.bounds? := by
  induction commands using List.reverseRecOn with
  | nil => rfl
  | append_singleton commands command ih =>
    rw [latest?_concat, applyAll, List.foldl_concat, ← applyAll, get?_apply, ih]
    split
    · rfl
    · rfl

/-- A dyconit has bounds if the last command about it gives them. -/
theorem get?_applyAll_eq_some_iff (commands : List Command) (name : String) (bounds : Bounds) :
    (applyAll commands).get? name = some bounds ↔ Final commands (.subscribe name bounds) := by
  rw [get?_applyAll, Option.bind_eq_some_iff]
  constructor
  · rintro ⟨command, last, left⟩
    obtain ⟨rfl, final⟩ := (latest?_eq_some_iff commands name command).mp last
    cases command with
    | subscribe name given =>
      cases left
      exact final
    | unsubscribe name => cases left
  · intro final
    exact ⟨_, (latest?_eq_some_iff commands name _).mpr ⟨rfl, final⟩, rfl⟩

/-- Bounds and topics are what the last command about each dyconit leaves. -/
structure Settles (commands : List Command) (held : Table String Bounds) (topics : TopicSet String) :
    Prop where
  bounds : ∀ name bounds, held.get? name = some bounds ↔ Final commands (.subscribe name bounds)
  absent : ∀ name, held.get? name = none ↔ ∀ bounds, ¬ Final commands (.subscribe name bounds)
  topics : ∀ name, name ∈ topics ↔ ∃ bounds, Final commands (.subscribe name bounds)

theorem Adapter.mem_interest_iff (adapter : Adapter V M) (subscriber : V) (name : String) :
    name ∈ adapter.interest subscriber ↔
      ∃ bounds, (adapter.bounds subscriber).get? name = some bounds := by
  rw [← Option.isSome_iff_exists]
  exact ((adapter.bounds subscriber).contains_iff name).symm

/-- Whatever commands a policy gives, a subscriber has the bounds that the last command about each
dyconit gives, and hears the dyconits that have bounds. So where the last commands are the same, the
bounds and the topics are, whatever other commands there are and in whatever order they come. -/
theorem last_command_settles (adapter : Adapter V M) (subscriber : V) :
    let commands := adapter.policy.update subscriber
    Settles commands (adapter.bounds subscriber) (adapter.interest subscriber) ∧
    ∀ (other : Adapter V M) (someone : V),
      (∀ name, latest? (other.policy.update someone) name = latest? commands name) →
        (other.bounds someone).get? = (adapter.bounds subscriber).get? ∧
        ∀ name, name ∈ other.interest someone ↔ name ∈ adapter.interest subscriber := by
  intro commands
  have bounds := get?_applyAll_eq_some_iff commands
  refine ⟨⟨bounds, fun name => ?absent, fun name => ?topics⟩, fun other someone same => ?alike⟩
  case absent =>
    rw [Option.eq_none_iff_forall_ne_some]
    exact forall_congr' fun given => not_congr (bounds name given)
  case topics =>
    rw [Adapter.mem_interest_iff]
    exact exists_congr (bounds name)
  case alike =>
    have views : (other.bounds someone).get? = (adapter.bounds subscriber).get? := by
      funext name
      rw [Adapter.bounds, Adapter.bounds, get?_applyAll, get?_applyAll, same]
    refine ⟨views, fun name => ?_⟩
    rw [Adapter.mem_interest_iff, Adapter.mem_interest_iff, views]

/-- Commands about other dyconits come elsewhere, and earlier ones are missing. -/
theorem last_command_settles_rearranged :
    let long : List Command := [.unsubscribe "c", .subscribe "a" ⟨3, 4⟩, .subscribe "b" Bounds.zero,
      .subscribe "a" ⟨5, 1⟩, .unsubscribe "b"]
    let short : List Command := [.unsubscribe "b", .unsubscribe "c", .subscribe "a" ⟨5, 1⟩]
    let giving (commands : List Command) : Adapter Unit Unit :=
      ⟨⟨"Scripted", fun _ => .ok "a", fun _ => commands, fun _ => 1⟩⟩
    (∀ name, latest? short name = latest? long name) ∧
    ((giving short).bounds ()).get? = ((giving long).bounds ()).get? ∧
    ((giving long).bounds ()).get? "a" = some ⟨5, 1⟩ ∧
    ∀ name, name ∈ (giving long).interest () ↔ name = "a" := by
  intro long short giving
  have same (name : String) : latest? short name = latest? long name := by
    by_cases a : name = "a"
    · subst a
      rfl
    · by_cases b : name = "b"
      · subst b
        rfl
      · by_cases c : name = "c"
        · subst c
          rfl
        · simp [latest?, short, long, Command.name, Ne.symm a, Ne.symm b, Ne.symm c]
  obtain ⟨settles, alike⟩ := last_command_settles (giving long) ()
  have final : Final long (.subscribe "a" ⟨5, 1⟩) :=
    ⟨[.unsubscribe "c", .subscribe "a" ⟨3, 4⟩, .subscribe "b" Bounds.zero], [.unsubscribe "b"], rfl,
      by decide⟩
  have heard : ((giving long).interest ()).toList = ["a"] := rfl
  refine ⟨same, (alike (giving short) () same).1, (settles.bounds "a" ⟨5, 1⟩).mpr final, fun name => ?_⟩
  change name ∈ ((giving long).interest ()).toList ↔ name = "a"
  rw [heard, List.mem_singleton]

/-! ## Subscriptions -/

/-- Subscribe to the dyconits of some items, each with its bounds. -/
def subscriptions (nameOf : A → String) (boundsOf : A → Bounds) (items : List A) : List Command :=
  items.map fun item => .subscribe (nameOf item) (boundsOf item)

private theorem entries_foldl_subscriptions (nameOf : A → String) (boundsOf : A → Bounds)
    (items : List A) (held : Table String Bounds) (distinct : (items.map nameOf).Nodup)
    (fresh : ∀ item ∈ items, held.contains (nameOf item) = false) :
    ((subscriptions nameOf boundsOf items).foldl Command.apply held).entries =
      held.entries ++ items.map fun item => (nameOf item, boundsOf item) := by
  induction items generalizing held with
  | nil => simp [subscriptions]
  | cons item rest ih =>
    rw [List.map_cons, List.nodup_cons] at distinct
    have absent := fresh item (List.mem_cons_self ..)
    have later : ∀ other ∈ rest,
        (held.insert (nameOf item) (boundsOf item)).contains (nameOf other) = false := by
      intro other member
      have different : nameOf other ≠ nameOf item :=
        fun same => distinct.1 (same ▸ List.mem_map_of_mem member)
      rw [Table.contains, Table.get?_insert, if_neg different]
      exact fresh other (List.mem_cons_of_mem _ member)
    rw [subscriptions, List.map_cons, List.foldl_cons, ← subscriptions, Command.apply,
      ih _ distinct.2 later, Table.entries_insert_of_absent absent, List.append_assoc,
      List.singleton_append, List.map_cons]

/-- Subscriptions to different dyconits all stand, with the bounds that were given. -/
theorem entries_applyAll_subscriptions {nameOf : A → String} (boundsOf : A → Bounds) {items : List A}
    (distinct : (items.map nameOf).Nodup) :
    (applyAll (subscriptions nameOf boundsOf items)).entries =
      items.map fun item => (nameOf item, boundsOf item) := by
  have fresh : ∀ item ∈ items, (∅ : Table String Bounds).contains (nameOf item) = false :=
    fun _ _ => rfl
  rw [applyAll, entries_foldl_subscriptions nameOf boundsOf items ∅ distinct fresh]
  rfl

end Vicinity.Dyconit
