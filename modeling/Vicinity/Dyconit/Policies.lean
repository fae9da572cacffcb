import Vicinity.Dyconit.Basic

/-! # The dyconit policies

Two policies give each visible chunk a dyconit of its own, named after the chunk: one with no slack
at all, one whose staleness grows with the square of the distance to the viewer and whose weight is
not bounded. The other three put everyone into one dyconit: without slack, without bounds, or with
two given bounds.
-/

namespace Vicinity.Dyconit

variable {M : Type}

/-- The one dyconit of the policies that do not divide space. -/
def catchAll : String := "catch-all"

/-- The one dyconit of the policy with given bounds. -/
def single : String := "single"

/-- The bounds of a chunk at a distance from the viewer: the square of the distance in ticks, at
most the largest bound, and any weight. -/
def quadraticBounds (distance : UInt32) : Bounds :=
  ⟨.ofNat (min (distance.toNat * distance.toNat) Bounds.unlimited.toNat), Bounds.unlimited⟩

/-- The dyconit of the chunk in which a publisher stands. -/
def chunkOf (publisher : Publisher) : Except UnsupportedPublisher String :=
  publisher.chunkOf.map ChunkKey.name

/-- One dyconit for each visible chunk, with bounds that may depend on the chunk. -/
def perChunk (name : String) (viewDistance : UInt32) (boundsOf : Viewer → ChunkKey → Bounds) :
    Policy Viewer M where
  name := name
  affected := chunkOf
  update viewer :=
    (viewer.visibleChunks viewDistance).map fun chunk =>
      .subscribe chunk.name (boundsOf viewer chunk)
  weigh _ := 1

/-- One dyconit for everyone. -/
def shared (name dyconit : String) (bounds : Bounds) : Policy Viewer M where
  name := name
  affected _ := .ok dyconit
  update _ := [.subscribe dyconit bounds]
  weigh _ := 1

/-- The kinds of dyconit policies. -/
inductive Family where
  | chunk
  | zero
  | infinite
  | single
  | quadratic
deriving DecidableEq, Repr, Inhabited

namespace Family

/-- All families, in the order in which a name is matched against them. -/
def all : List Family := [chunk, zero, infinite, single, quadratic]

def name : Family → String
  | chunk => "ChunkDyconitPolicy"
  | zero => "ZeroBoundsPolicy"
  | infinite => "InfiniteBoundsPolicy"
  | single => "SingleDyconitPolicy"
  | quadratic => "QuadraticGradientStalenessAoI"

end Family

def chunkPolicy (viewDistance : UInt32) : Policy Viewer M :=
  perChunk Family.chunk.name viewDistance fun _ _ => Bounds.zero

def zeroPolicy : Policy Viewer M := shared Family.zero.name catchAll Bounds.zero

def infinitePolicy : Policy Viewer M := shared Family.infinite.name catchAll Bounds.infinite

def singlePolicy (bounds : Bounds) : Policy Viewer M := shared Family.single.name single bounds

def quadraticPolicy (viewDistance : UInt32) : Policy Viewer M :=
  perChunk Family.quadratic.name viewDistance fun viewer chunk =>
    quadraticBounds (viewer.location.chunk.distance chunk)

end Vicinity.Dyconit
