/-! # Delivery filters

A filter is asked before a message reaches a subscriber. A kind filter rejects messages by their
kind alone; kinds are compared as they are written.
-/

namespace Vicinity

/-- Whether a message may be sent to a subscriber. -/
abbrev Filter (V M : Type) := V → M → Bool

/-- The filter that lets everything pass. -/
def Filter.acceptAll {V M : Type} : Filter V M := fun _ _ => true

/-- The kinds of messages that are not sent. -/
structure KindFilter where
  rejected : List String
deriving DecidableEq, Repr, Inhabited

namespace KindFilter

/-- Nothing is rejected. -/
def none : KindFilter := ⟨[]⟩

/-- The animation of a block being broken is not sent to game clients. -/
def blockBreakAnimation : String := "block_break_animation"

/-- The filter for game clients. -/
def clientDefault : KindFilter := ⟨[blockBreakAnimation]⟩

def reject (filter : KindFilter) (kind : String) : KindFilter := ⟨kind :: filter.rejected⟩

def isRejected (filter : KindFilter) (kind : String) : Bool := filter.rejected.contains kind

/-- The filter on messages whose kind is known. -/
def toFilter {V M : Type} (filter : KindFilter) (kindOf : M → String) : Filter V M :=
  fun _ message => !filter.isRejected (kindOf message)

theorem isRejected_reject (filter : KindFilter) (kind other : String) :
    (filter.reject kind).isRejected other = true ↔
      other = kind ∨ filter.isRejected other = true := by
  simp [reject, isRejected]

end KindFilter

end Vicinity
