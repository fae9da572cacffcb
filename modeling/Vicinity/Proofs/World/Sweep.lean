import Vicinity.Proofs.World.Square

/-! # Squares of chunks in words

The ends of a square, its cells and its distances are said in integers. They can be had in words as
well: the ends stop where a word would wrap around, the cells are two walks over the words between the
ends, one within the other, and a distance is a difference of bits. Nothing wraps around on the way,
and so the outcome is the same (`sweep_eq_square`, `distance_eq_max`).
-/

namespace Vicinity.ChunkKey

/-! ## Walks over words -/

theorem toInt_succ {low high : Int32} (less : low < high) : (low + 1).toInt = low.toInt + 1 := by
  rw [Int32.lt_iff_toInt_lt] at less
  have bottom := low.le_toInt
  have top := high.toInt_lt
  rw [Int32.toInt_add, show (1 : Int32).toInt = 1 from rfl]
  exact Int.bmod_eq_of_le (by omega) (by omega)

/-- The words from one up to another, both included. -/
def through (low high : Int32) : List Int32 :=
  if low < high then low :: through (low + 1) high
  else if low = high then [low] else []
termination_by (high.toInt - low.toInt).toNat
decreasing_by
  next less =>
    rw [toInt_succ less]
    rw [Int32.lt_iff_toInt_lt] at less
    omega

theorem mem_through (low high k : Int32) : k ∈ through low high ↔ low ≤ k ∧ k ≤ high := by
  fun_induction through low high with
  | case1 low less ih =>
    rw [List.mem_cons, ih]
    simp only [Int32.le_iff_toInt_le, ← Int32.toInt_inj, toInt_succ less]
    rw [Int32.lt_iff_toInt_lt] at less
    omega
  | case2 _ =>
    simp only [List.mem_singleton, Int32.le_iff_toInt_le, ← Int32.toInt_inj]
    omega
  | case3 low notLess different =>
    simp only [List.not_mem_nil, false_iff, Int32.le_iff_toInt_le]
    rw [Int32.lt_iff_toInt_lt] at notLess
    rw [← Int32.toInt_inj] at different
    omega

theorem pairwise_through (low high : Int32) : (through low high).Pairwise (· < ·) := by
  fun_induction through low high with
  | case1 low less ih =>
    refine List.pairwise_cons.mpr ⟨fun k later => ?_, ih⟩
    have above := ((mem_through _ _ _).mp later).1
    rw [Int32.le_iff_toInt_le, toInt_succ less] at above
    rw [Int32.lt_iff_toInt_lt]
    omega
  | case2 => exact List.pairwise_singleton ..
  | case3 => exact .nil

/-! ## Ends of a square -/

/-- The radius as a coordinate. -/
def reachWord (radius : UInt32) : Int32 := (min radius 0x7FFFFFFF).toInt32

/-- The coordinate so far below another one, or the least one if that wraps around. -/
def below (c r : Int32) : Int32 := if c - r ≤ c then c - r else Int32.minValue

/-- The coordinate so far above another one, or the greatest one if that wraps around. -/
def above (c r : Int32) : Int32 := if c ≤ c + r then c + r else Int32.maxValue

/-- A word as an integer and as its bits. -/
theorem toInt_eq_ite (c : Int32) :
    c.toInt = if 2 * c.toUInt32.toNat < 2 ^ 32 then (c.toUInt32.toNat : Int)
      else c.toUInt32.toNat - 2 ^ 32 :=
  BitVec.toInt_eq_toNat_cond c.toBitVec

theorem toInt_reachWord (radius : UInt32) : (reachWord radius).toInt = reach radius := by
  have least : (min radius 0x7FFFFFFF).toNat = reach radius := toNat_min radius 0x7FFFFFFF
  have small : reach radius ≤ 0x7FFFFFFF := Nat.min_le_right ..
  rw [toInt_eq_ite, reachWord, UInt32.toUInt32_toInt32, least, if_pos (by omega)]

theorem toInt_below {c r : Int32} (ahead : 0 ≤ r.toInt) :
    (below c r).toInt = lowest c r.toInt.toNat := by
  have bottom := c.le_toInt
  have top := c.toInt_lt
  have bound := r.toInt_lt
  have least : Int32.minValue.toInt = -2 ^ 31 := rfl
  have wrapped := Int32.toInt_sub c r
  rw [Int.bmod_def] at wrapped
  unfold below lowest
  split
  case isTrue stays =>
    rw [Int32.le_iff_toInt_le] at stays
    omega
  case isFalse wraps =>
    rw [Int32.le_iff_toInt_le] at wraps
    omega

theorem toInt_above {c r : Int32} (ahead : 0 ≤ r.toInt) :
    (above c r).toInt = highest c r.toInt.toNat := by
  have bottom := c.le_toInt
  have top := c.toInt_lt
  have bound := r.toInt_lt
  have greatest : Int32.maxValue.toInt = 2 ^ 31 - 1 := rfl
  have wrapped := Int32.toInt_add c r
  rw [Int.bmod_def] at wrapped
  unfold above highest
  split
  case isTrue stays =>
    rw [Int32.le_iff_toInt_le] at stays
    omega
  case isFalse wraps =>
    rw [Int32.le_iff_toInt_le] at wraps
    omega

/-- The words between the ends are the coordinates within the radius. -/
theorem mem_through_ends (c k : Int32) (radius : UInt32) :
    k ∈ through (below c (reachWord radius)) (above c (reachWord radius)) ↔
      gap c k ≤ reach radius := by
  have word := toInt_reachWord radius
  have ahead : 0 ≤ (reachWord radius).toInt := word ▸ Int.natCast_nonneg _
  rw [mem_through, Int32.le_iff_toInt_le, Int32.le_iff_toInt_le, toInt_below ahead, toInt_above ahead,
    word, Int.toNat_natCast, gap_le_iff]

/-! ## Squares and distances -/

/-- The cells of a square: for each first coordinate a walk over the second ones. -/
def sweep (center : ChunkKey) (radius : UInt32) : List ChunkKey :=
  let r := reachWord radius
  (through (below center.x r) (above center.x r)).flatMap fun x =>
    (through (below center.z r) (above center.z r)).map fun z => ⟨x, z⟩

theorem sweeps_sweep (center : ChunkKey) (radius : UInt32) :
    Sweeps center (reach radius) (center.sweep radius) where
  mem_iff key := by
    simp only [sweep, List.mem_flatMap, List.mem_map, mem_through_ends, toNat_distance_le_iff]
    constructor
    · rintro ⟨x, nearX, z, nearZ, rfl⟩
      exact ⟨nearX, nearZ⟩
    · rintro ⟨nearX, nearZ⟩
      exact ⟨key.x, nearX, key.z, nearZ, rfl⟩
  ascending := by
    rw [sweep, List.pairwise_flatMap]
    refine ⟨fun x _ => ?within, (pairwise_through _ _).imp fun {x y} less => ?between⟩
    case within =>
      rw [List.pairwise_map]
      exact (pairwise_through _ _).imp fun less => .inr ⟨rfl, less⟩
    case between =>
      intro a inX b inY
      obtain ⟨_, -, rfl⟩ := List.mem_map.mp inX
      obtain ⟨_, -, rfl⟩ := List.mem_map.mp inY
      exact .inl less

theorem sweep_eq_square (center : ChunkKey) (radius : UInt32) :
    center.sweep radius = center.square radius :=
  (sweeps_sweep center radius).eq (sweeps_square center radius)

/-- How far two coordinates are apart: the bits of the greater one less those of the other. -/
def gapWord (a b : Int32) : UInt32 :=
  if a < b then b.toUInt32 - a.toUInt32 else a.toUInt32 - b.toUInt32

theorem toNat_gapWord (a b : Int32) : (gapWord a b).toNat = gap a b := by
  have valueA := toInt_eq_ite a
  have valueB := toInt_eq_ite b
  have boundA := a.toUInt32.toNat_lt
  have boundB := b.toUInt32.toNat_lt
  unfold gapWord gap
  split
  case isTrue less =>
    rw [Int32.lt_iff_toInt_lt] at less
    rw [UInt32.toNat_sub]
    omega
  case isFalse notLess =>
    rw [Int32.lt_iff_toInt_lt] at notLess
    rw [UInt32.toNat_sub]
    omega

theorem distance_eq_max (a b : ChunkKey) :
    a.distance b = max (gapWord a.x b.x) (gapWord a.z b.z) := by
  rw [← UInt32.toNat_inj, toNat_distance, toNat_max, toNat_gapWord, toNat_gapWord]

/-- The square around a chunk is the ball around it, whose radius is at most the greatest coordinate,
and words that wrap around would give the same square and the same distances. -/
theorem ball_square (center : ChunkKey) (radius : UInt32) :
    Ball center (min radius.toNat (2 ^ 31 - 1)) (center.square radius) ∧
    center.sweep radius = center.square radius ∧
    ∀ key, center.distance key = max (gapWord center.x key.x) (gapWord center.z key.z) :=
  ⟨(sweeps_square center radius).ball, sweep_eq_square center radius, distance_eq_max center⟩

/-- In a corner of the coordinate range a quarter of the ball is left. -/
example : square ⟨0x7FFFFFFF, -0x80000000⟩ 1 =
    [⟨0x7FFFFFFE, -0x80000000⟩, ⟨0x7FFFFFFE, -0x7FFFFFFF⟩, ⟨0x7FFFFFFF, -0x80000000⟩,
      ⟨0x7FFFFFFF, -0x7FFFFFFF⟩] := by
  decide

end Vicinity.ChunkKey
