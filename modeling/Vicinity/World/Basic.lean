import Vicinity.Text.Numeral

/-! # Worlds, chunks and places

The world is a plane of square chunks, sixteen blocks wide. Block and chunk coordinates are signed
32-bit words. A place is given in floating-point coordinates; the block under it is found by
rounding down, coordinates beyond the words count as the nearest word, and a coordinate that is not
a number counts as zero.
-/

namespace Vicinity

/-- One of the separate worlds of a server. -/
structure WorldId where
  index : UInt32
deriving DecidableEq, Repr, Inhabited

/-- A cell of the grid into which a world is divided. -/
structure ChunkKey where
  x : Int32
  z : Int32
deriving DecidableEq, Repr, Inhabited, Hashable

/-- A block, addressed by whole coordinates. -/
structure Block where
  world : WorldId
  x : Int32
  y : Int32
  z : Int32
deriving DecidableEq, Repr, Inhabited

/-- A place in a world. -/
structure Location where
  world : WorldId
  x : Float
  y : Float
  z : Float
deriving Repr, Inhabited

/-- An entity at its current place. -/
structure Entity where
  id : UInt64
  location : Location
deriving Repr, Inhabited

/-- A subscriber with a place and the view distance, in chunks, that its client asks for. Two
viewers with one `id` are the same subscriber. -/
structure Viewer where
  id : UInt64
  location : Location
  viewDistance : UInt32
deriving Repr, Inhabited

def WorldId.name (w : WorldId) : String := "world-" ++ Numeral.natural w.index.toNat

namespace ChunkKey

/-- The blocks along one side of a chunk. -/
def width : Int := 16

/-- The chunk of a block: its coordinates divided by the chunk width, rounded down. -/
def containing (blockX blockZ : Int32) : ChunkKey :=
  ⟨.ofInt (blockX.toInt / width), .ofInt (blockZ.toInt / width)⟩

/-- How far two coordinates are apart; this always fits an unsigned word. -/
def gap (a b : Int32) : Nat := (a.toInt - b.toInt).natAbs

/-- The Chebyshev distance in chunks: the larger of the two coordinate gaps. -/
def distance (a b : ChunkKey) : UInt32 := .ofNat (max (gap a.x b.x) (gap a.z b.z))

def name (c : ChunkKey) : String :=
  "chunk:" ++ Numeral.integer c.x.toInt ++ ":" ++ Numeral.integer c.z.toInt

/-- Chunks in the order of their first, then of their second coordinate. -/
def before (a b : ChunkKey) : Bool := a.x < b.x || (a.x == b.x && a.z ≤ b.z)

theorem gap_lt (a b : Int32) : gap a b < UInt32.size := by
  have ha := a.toInt_lt; have ha' := a.le_toInt
  have hb := b.toInt_lt; have hb' := b.le_toInt
  unfold gap UInt32.size
  omega

theorem toNat_distance (a b : ChunkKey) :
    (a.distance b).toNat = max (gap a.x b.x) (gap a.z b.z) := by
  have hx := gap_lt a.x b.x
  have hz := gap_lt a.z b.z
  unfold UInt32.size at hx hz
  simp only [distance, UInt32.toNat_ofNat']
  omega

end ChunkKey

namespace Location

/-- The block coordinate under a floating-point one. -/
def blockCoordinate (v : Float) : Int32 := v.floor.toInt32

def blockX (l : Location) : Int32 := blockCoordinate l.x
def blockZ (l : Location) : Int32 := blockCoordinate l.z

def chunk (l : Location) : ChunkKey := .containing l.blockX l.blockZ

end Location

def Block.chunk (b : Block) : ChunkKey := .containing b.x b.z
def Entity.chunk (e : Entity) : ChunkKey := e.location.chunk

end Vicinity
