/-! # Integers that fit a word -/

namespace Vicinity.Number

/-- Whether an integer fits a signed word of 64 bits. -/
def isInt64 (i : Int) : Bool := Int64.minValue.toInt ≤ i && i ≤ Int64.maxValue.toInt

/-- Whether an integer fits a word of 64 bits, signed or not. -/
def fitsWord (i : Int) : Bool := Int64.minValue.toInt ≤ i && i < UInt64.size

theorem fitsWord_iff (i : Int) :
    fitsWord i = true ↔ -0x8000000000000000 ≤ i ∧ i < 0x10000000000000000 := by
  have least : Int64.minValue.toInt = -0x8000000000000000 := by decide
  simp only [fitsWord, least, UInt64.size, Bool.and_eq_true, decide_eq_true_eq]
  omega

end Vicinity.Number
