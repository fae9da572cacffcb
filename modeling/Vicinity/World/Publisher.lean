import Vicinity.World.Basic

/-! # Publishers

Anything may publish. A chunk, a block and an entity stand in a chunk; of a text only its words are
known, and of any other value only the name of its type. A policy that cannot place a publisher
says so by that name.
-/

namespace Vicinity

/-- Where a message comes from. -/
inductive Publisher where
  | chunk (chunk : ChunkKey)
  | block (block : Block)
  | entity (entity : Entity)
  | text (text : String)
  | foreign (typeName : String)
deriving Repr, Inhabited

/-- A publisher that a policy cannot place. -/
structure UnsupportedPublisher where
  typeName : String
deriving DecidableEq, Repr, Inhabited

def UnsupportedPublisher.message (e : UnsupportedPublisher) : String :=
  "Cannot select target topic for type: " ++ e.typeName

namespace Publisher

/-- The name of a publisher's type, as error texts give it. -/
def typeName : Publisher → String
  | chunk _ => "regionbus::world::ChunkKey"
  | block _ => "regionbus::world::Block"
  | entity _ => "regionbus::world::Entity"
  | text _ => "alloc::string::String"
  | foreign name => name

def unsupported (p : Publisher) : UnsupportedPublisher := ⟨p.typeName⟩

/-- The chunk in which a publisher stands, if it stands in one. -/
def chunkOf : Publisher → Except UnsupportedPublisher ChunkKey
  | chunk c => .ok c
  | block b => .ok b.chunk
  | entity e => .ok e.chunk
  | other => .error other.unsupported

end Publisher

end Vicinity
