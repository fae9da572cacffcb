import Mathlib.Algebra.Group.Int.Defs
import Mathlib.Algebra.Group.Nat.Defs
import Mathlib.Data.List.Sort
import Vicinity.World.Square

/-! # Squares of chunks are balls

The coordinates within a radius of another one are those from `lowest` to `highest`, and the cells of
a square run through all pairs of them. So a square holds exactly the chunks whose distance from its
center is at most the radius. It lists them in the order of their coordinates, and a list that holds
these chunks in this order is the square (`Sweeps.eq`).
-/

namespace Vicinity.ChunkKey

theorem gap_le_iff (c k : Int32) (r : Nat) :
    gap c k ≤ r ↔ lowest c r ≤ k.toInt ∧ k.toInt ≤ highest c r := by
  have low := k.le_toInt
  have high := k.toInt_lt
  unfold gap lowest highest
  omega

theorem toNat_distance_le_iff (a b : ChunkKey) (r : Nat) :
    (a.distance b).toNat ≤ r ↔ gap a.x b.x ≤ r ∧ gap a.z b.z ≤ r := by
  rw [toNat_distance, Nat.max_le]

theorem toNat_distance_self (a : ChunkKey) : (a.distance a).toNat = 0 := by
  simp [toNat_distance, gap]

/-- Only a chunk itself is not away from it. -/
theorem toNat_distance_eq_zero_iff (a b : ChunkKey) : (a.distance b).toNat = 0 ↔ a = b := by
  constructor
  · intro near
    rw [toNat_distance] at near
    have x : a.x = b.x := Int32.toInt_inj.mp (by unfold gap at near; omega)
    have z : a.z = b.z := Int32.toInt_inj.mp (by unfold gap at near; omega)
    cases a
    cases b
    cases x
    cases z
    rfl
  · rintro rfl
    exact toNat_distance_self a

theorem toNat_min (a b : UInt32) : (min a b).toNat = min a.toNat b.toNat := by
  change (if a ≤ b then a else b).toNat = _
  split
  case isTrue le => exact (Nat.min_eq_left le).symm
  case isFalse notLe => exact (Nat.min_eq_right (Nat.le_of_not_le notLe)).symm

theorem toNat_max (a b : UInt32) : (max a b).toNat = max a.toNat b.toNat := by
  change (if a ≤ b then b else a).toNat = _
  split
  case isTrue le => exact (Nat.max_eq_right le).symm
  case isFalse notLe => exact (Nat.max_eq_left (Nat.le_of_not_le notLe)).symm

/-- A coordinate between the ends is so many steps away from the lower one. -/
theorem exists_step {c k : Int32} {r : Nat} (within : gap c k ≤ r) :
    ∃ step < breadth c r, k.toInt = lowest c r + step := by
  obtain ⟨low, high⟩ := (gap_le_iff c k r).mp within
  refine ⟨(k.toInt - lowest c r).toNat, ?_, ?_⟩
  · unfold breadth
    omega
  · omega

theorem gap_le_of_step {c k : Int32} {r step : Nat} (inside : step < breadth c r)
    (stands : k.toInt = lowest c r + step) : gap c k ≤ r := by
  rw [gap_le_iff]
  unfold breadth at inside
  omega

/-- A square holds the chunks within its radius, and no others. -/
theorem mem_square_iff (center key : ChunkKey) (radius : UInt32) :
    key ∈ center.square radius ↔ (center.distance key).toNat ≤ reach radius := by
  rw [toNat_distance_le_iff, square, List.mem_map]
  have wide := breadth_pos center.z (reach radius)
  constructor
  · rintro ⟨i, listed, rfl⟩
    have inside := List.mem_range.mp listed
    obtain ⟨x, z⟩ := toInt_squareCell center radius i inside
    exact ⟨gap_le_of_step ((Nat.div_lt_iff_lt_mul wide).mpr inside) x,
      gap_le_of_step (Nat.mod_lt i wide) z⟩
  · rintro ⟨nearX, nearZ⟩
    obtain ⟨row, rowBound, x⟩ := exists_step nearX
    obtain ⟨column, columnBound, z⟩ := exists_step nearZ
    let i := row * breadth center.z (reach radius) + column
    have inside : i < squareSize center radius := by
      calc
        i < (row + 1) * breadth center.z (reach radius) := by
          rw [Nat.succ_mul]
          exact Nat.add_lt_add_left columnBound _
        _ ≤ squareSize center radius := Nat.mul_le_mul_right _ rowBound
    have quotient : i / breadth center.z (reach radius) = row := by
      dsimp only [i]
      rw [Nat.mul_comm, Nat.mul_add_div wide, Nat.div_eq_of_lt columnBound, Nat.add_zero]
    have remainder : i % breadth center.z (reach radius) = column := by
      dsimp only [i]
      rw [Nat.mul_add_mod', Nat.mod_eq_of_lt columnBound]
    obtain ⟨cellX, cellZ⟩ := toInt_squareCell center radius i inside
    rw [quotient, ← x, Int32.toInt_inj] at cellX
    rw [remainder, ← z, Int32.toInt_inj] at cellZ
    refine ⟨i, List.mem_range.mpr inside, ?_⟩
    rw [show key = ⟨key.x, key.z⟩ from rfl, ← cellX, ← cellZ]

/-! ## The order of the cells -/

/-- A chunk stands before another: its first coordinate is smaller, or its second one if the first
ones are the same. -/
def Precedes (a b : ChunkKey) : Prop := a.x < b.x ∨ a.x = b.x ∧ a.z < b.z

theorem Precedes.not_precedes {a b : ChunkKey} (first : a.Precedes b) : ¬ b.Precedes a := by
  simp only [Precedes, Int32.lt_iff_toInt_lt, ← Int32.toInt_inj] at first ⊢
  omega

instance : Std.Irrefl Precedes where
  irrefl _ first := first.not_precedes first

instance : Std.Antisymm Precedes where
  antisymm _ _ first second := absurd second first.not_precedes

/-- The chunks within a radius of a center, in their order. -/
structure Sweeps (center : ChunkKey) (r : Nat) (cells : List ChunkKey) : Prop where
  mem_iff : ∀ key, key ∈ cells ↔ (center.distance key).toNat ≤ r
  ascending : cells.Pairwise Precedes

/-- There is one such list. -/
theorem Sweeps.eq {center : ChunkKey} {r : Nat} {cells others : List ChunkKey}
    (sweeps : Sweeps center r cells) (again : Sweeps center r others) : cells = others :=
  sweeps.ascending.eq_of_mem_iff again.ascending fun key =>
    (sweeps.mem_iff key).trans (again.mem_iff key).symm

theorem precedes_squareCell (center : ChunkKey) (radius : UInt32) {i j : Nat} (less : i < j)
    (inside : j < squareSize center radius) :
    (squareCell center radius i).Precedes (squareCell center radius j) := by
  obtain ⟨xi, zi⟩ := toInt_squareCell center radius i (less.trans inside)
  obtain ⟨xj, zj⟩ := toInt_squareCell center radius j inside
  rw [Precedes, Int32.lt_iff_toInt_lt, Int32.lt_iff_toInt_lt, ← Int32.toInt_inj, xi, xj, zi, zj]
  have rows : i / breadth center.z (reach radius) ≤ j / breadth center.z (reach radius) :=
    Nat.div_le_div_right less.le
  have splitI := Nat.div_add_mod i (breadth center.z (reach radius))
  have splitJ := Nat.div_add_mod j (breadth center.z (reach radius))
  rcases rows.lt_or_eq with earlier | same
  · exact .inl (by omega)
  · rw [same] at splitI ⊢
    exact .inr ⟨rfl, by omega⟩

theorem sweeps_square (center : ChunkKey) (radius : UInt32) :
    Sweeps center (reach radius) (center.square radius) where
  mem_iff key := mem_square_iff center key radius
  ascending := by
    rw [square, List.pairwise_map]
    refine List.pairwise_lt_range.imp_of_mem fun {i j} _ inside less => ?_
    exact precedes_squareCell center radius less (List.mem_range.mp inside)

/-! ## Balls -/

/-- A list of the chunks around a center: those within a radius, each of them once, in their order. -/
structure Ball (center : ChunkKey) (r : Nat) (cells : List ChunkKey) : Prop
    extends Sweeps center r cells where
  once : ∀ key ∈ cells, cells.count key = 1
  center_mem : center ∈ cells
  /-- In the plane of integers it is the ball cut off where the coordinates end. -/
  clipped : ∀ x z : Int, (∃ key ∈ cells, key.x.toInt = x ∧ key.z.toInt = z) ↔
    (x - center.x.toInt).natAbs ≤ r ∧ (z - center.z.toInt).natAbs ≤ r ∧
      (-2 ^ 31 ≤ x ∧ x < 2 ^ 31) ∧ -2 ^ 31 ≤ z ∧ z < 2 ^ 31

theorem Sweeps.ball {center : ChunkKey} {r : Nat} {cells : List ChunkKey}
    (sweeps : Sweeps center r cells) : Ball center r cells where
  toSweeps := sweeps
  once key member := List.count_eq_one_of_mem sweeps.ascending.nodup member
  center_mem := by
    rw [sweeps.mem_iff, toNat_distance_self]
    exact Nat.zero_le r
  clipped x z := by
    simp only [sweeps.mem_iff, toNat_distance_le_iff, gap]
    constructor
    · rintro ⟨key, ⟨nearX, nearZ⟩, rfl, rfl⟩
      exact ⟨by omega, by omega, ⟨key.x.le_toInt, key.x.toInt_lt⟩, key.z.le_toInt, key.z.toInt_lt⟩
    · rintro ⟨nearX, nearZ, ⟨lowX, highX⟩, lowZ, highZ⟩
      have wordX := Int32.toInt_ofInt_of_le lowX highX
      have wordZ := Int32.toInt_ofInt_of_le lowZ highZ
      refine ⟨⟨.ofInt x, .ofInt z⟩, ?_, wordX, wordZ⟩
      dsimp only
      rw [wordX, wordZ]
      exact ⟨by omega, by omega⟩

end Vicinity.ChunkKey
