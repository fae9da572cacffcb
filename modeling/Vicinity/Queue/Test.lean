/-! # Tests that remember

A test is shown elements one after another and says of each whether it accepts it. It may remember
what it was shown, so its answers can depend on the order of showing; `S` is the type of what it
remembers.
-/

namespace Vicinity

/-- A test of elements, with what it remembers between two of them. -/
abbrev Test (E S : Type) := E → S → Bool × S

namespace Test

variable {E S : Type}

/-- A test that remembers nothing. -/
def plain (accepts : E → Bool) : Test E S := fun e s => (accepts e, s)

/-- The opposite answers. -/
def negated (test : Test E S) : Test E S := fun e s =>
  let (accepted, next) := test e s
  (!accepted, next)

/-- Accept every so many-th element; what is remembered is how many were shown. -/
def everyNth (n : Nat) : Test E Nat := fun _ shown => ((shown + 1) % n == 0, shown + 1)

/-- Accept the first so many elements; what is remembered is how many were shown. -/
def firstOnes (n : Nat) : Test E Nat := fun _ shown => (shown < n, shown + 1)

end Test

end Vicinity
