import Vicinity.World.Basic

/-! # Squares of chunks

The square of radius `r` around a chunk holds the chunks that differ from it by at most `r` in each
coordinate. The radius counts as at most 2³¹ - 1 and the square is cut off at the ends of the
coordinate range, so it is never empty and no cell lies outside the range. Cells are numbered from
zero along the second coordinate first; a square may hold nearly 2⁶⁴ cells, so `squareFirst` lists
only as many as are asked for.
-/

namespace Vicinity.ChunkKey

/-- The radius as it is used: at most the largest coordinate. -/
def reach (radius : UInt32) : Nat := min radius.toNat 0x7FFFFFFF

/-- The least coordinate within `r` of a coordinate. -/
def lowest (c : Int32) (r : Nat) : Int := max (c.toInt - r) (-0x80000000)

/-- The greatest coordinate within `r` of a coordinate. -/
def highest (c : Int32) (r : Nat) : Int := min (c.toInt + r) 0x7FFFFFFF

/-- How many coordinates lie within `r` of a coordinate. -/
def breadth (c : Int32) (r : Nat) : Nat := (highest c r - lowest c r + 1).toNat

def squareSize (center : ChunkKey) (radius : UInt32) : Nat :=
  breadth center.x (reach radius) * breadth center.z (reach radius)

/-- The cell with a given number. -/
def squareCell (center : ChunkKey) (radius : UInt32) (i : Nat) : ChunkKey :=
  let r := reach radius
  ⟨.ofInt (lowest center.x r + (i / breadth center.z r : Nat)),
    .ofInt (lowest center.z r + (i % breadth center.z r : Nat))⟩

/-- All cells of the square, in the order of their numbers. -/
def square (center : ChunkKey) (radius : UInt32) : List ChunkKey :=
  (List.range (squareSize center radius)).map (squareCell center radius)

/-- The first cells of the square, at most `limit` of them. -/
def squareFirst (center : ChunkKey) (radius : UInt32) (limit : Nat) : List ChunkKey :=
  (List.range (min limit (squareSize center radius))).map (squareCell center radius)

theorem squareFirst_eq_take (center : ChunkKey) (radius : UInt32) (limit : Nat) :
    center.squareFirst radius limit = (center.square radius).take limit := by
  rw [squareFirst, square, ← List.map_take, List.take_range]

theorem lowest_bounds (c : Int32) (r : Nat) :
    -0x80000000 ≤ lowest c r ∧ lowest c r ≤ c.toInt := by
  have := c.toInt_lt; have := c.le_toInt
  unfold lowest
  omega

theorem highest_bounds (c : Int32) (r : Nat) :
    c.toInt ≤ highest c r ∧ highest c r ≤ 0x7FFFFFFF := by
  have := c.toInt_lt; have := c.le_toInt
  unfold highest
  omega

theorem breadth_pos (c : Int32) (r : Nat) : 0 < breadth c r := by
  have := lowest_bounds c r; have := highest_bounds c r
  unfold breadth
  omega

/-- A step inside the breadth stays inside the coordinate range. -/
theorem toInt_ofInt_lowest_add (c : Int32) (r step : Nat) (inside : step < breadth c r) :
    (Int32.ofInt (lowest c r + step)).toInt = lowest c r + step := by
  have low := lowest_bounds c r
  have high := highest_bounds c r
  unfold breadth at inside
  exact Int32.toInt_ofInt_of_le (by omega) (by omega)

private theorem split_bounds {i rows columns : Nat} (inside : i < rows * columns) :
    i / columns < rows ∧ i % columns < columns := by
  have pos : 0 < columns := by
    rcases Nat.eq_zero_or_pos columns with rfl | pos
    · simp at inside
    · exact pos
  exact ⟨(Nat.div_lt_iff_lt_mul pos).2 inside, Nat.mod_lt _ pos⟩

theorem toInt_squareCell (center : ChunkKey) (radius : UInt32) (i : Nat)
    (inside : i < squareSize center radius) :
    (squareCell center radius i).x.toInt =
        lowest center.x (reach radius) + (i / breadth center.z (reach radius) : Nat) ∧
      (squareCell center radius i).z.toInt =
        lowest center.z (reach radius) + (i % breadth center.z (reach radius) : Nat) := by
  obtain ⟨row, column⟩ := split_bounds inside
  exact ⟨toInt_ofInt_lowest_add _ _ _ row, toInt_ofInt_lowest_add _ _ _ column⟩

theorem squareCell_inj (center : ChunkKey) (radius : UInt32) {i j : Nat}
    (hi : i < squareSize center radius) (hj : j < squareSize center radius)
    (same : squareCell center radius i = squareCell center radius j) : i = j := by
  have ci := toInt_squareCell center radius i hi
  have cj := toInt_squareCell center radius j hj
  rw [same] at ci
  have rows : i / breadth center.z (reach radius) = j / breadth center.z (reach radius) := by omega
  have columns : i % breadth center.z (reach radius) = j % breadth center.z (reach radius) := by
    omega
  rw [← Nat.div_add_mod i (breadth center.z (reach radius)), rows, columns, Nat.div_add_mod]

theorem nodup_square (center : ChunkKey) (radius : UInt32) : (center.square radius).Nodup := by
  rw [square, List.Nodup, List.pairwise_map]
  refine (List.nodup_range (n := squareSize center radius)).imp_of_mem ?_
  intro i j hi hj distinct same
  exact distinct (squareCell_inj center radius (List.mem_range.1 hi) (List.mem_range.1 hj) same)

end Vicinity.ChunkKey
