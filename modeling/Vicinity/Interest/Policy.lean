import Vicinity.Interest.TopicSet
import Vicinity.World.Publisher
import Vicinity.World.Square

/-! # Interest policies

A policy says which topics a subscriber wants to hear now and to which topics a publisher's message
goes. The chunk policy serves one world: a viewer there wants the chunks within the smaller of the
server's view distance and its own, a viewer elsewhere wants none, and a message goes to the chunk
in which its publisher stands.
-/

namespace Vicinity

/-- What subscribers of type `V` hear and where their publishers speak, in topics of type `T`. -/
structure Policy (V T : Type) where
  interest : V → TopicSet T
  targets : Publisher → Except UnsupportedPublisher (List T)

/-- The chunks a viewer can see, and the chunk it stands in: the square around that chunk with the
smaller of two view distances as its radius. -/
def Viewer.visibleChunks (viewer : Viewer) (viewDistance : UInt32) : List ChunkKey :=
  viewer.location.chunk.square (min viewDistance viewer.viewDistance)

/-- Viewers see the chunks around them, in one world. -/
structure ChunkPolicy where
  world : WorldId
  viewDistance : UInt32
deriving DecidableEq, Repr, Inhabited

namespace ChunkPolicy

def interest (policy : ChunkPolicy) (viewer : Viewer) : TopicSet ChunkKey :=
  if viewer.location.world = policy.world then
    ⟨viewer.visibleChunks policy.viewDistance, ChunkKey.nodup_square _ _⟩
  else ∅

def targets (publisher : Publisher) : Except UnsupportedPublisher (List ChunkKey) :=
  publisher.chunkOf.map fun chunk => [chunk]

def toPolicy (policy : ChunkPolicy) : Policy Viewer ChunkKey where
  interest := policy.interest
  targets := targets

end ChunkPolicy

end Vicinity
