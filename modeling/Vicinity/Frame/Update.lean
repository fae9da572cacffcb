import Vicinity.Frame.Basic
import Vicinity.Interest.Filter

/-! # Frames of updates and events

Messages that a game server sends: numbered updates of a topic, events in a world, each under the
tag of its sort, and messages of an open kind with a text.
-/

namespace Vicinity

/-- A numbered update of a topic. -/
structure TopicUpdate where
  topic : String
  sequence : UInt32
deriving DecidableEq, Repr, Inhabited

/-- Something that happened in a world. -/
inductive WorldEvent where
  | blockChange (x y z : Int32)
  | blockBreakAnimation (x y z : Int32) (stage : UInt8)
  | chunkGenerated (x z : Int32)
deriving DecidableEq, Repr, Inhabited

/-- A message of some kind with a text. -/
structure KindMessage where
  kind : String
  text : String
deriving DecidableEq, Repr, Inhabited

namespace Frame

def update : Form TopicUpdate where
  write u := .object [("topic", .string u.topic), ("seq", Json.ofNat u.sequence.toNat)]
  read value := do
    let [topic, sequence] ← RawJson.fields ["topic", "seq"] value | none
    return ⟨← RawJson.readText topic, ← RawJson.readUInt32 sequence⟩

/-- The field by which events are told apart. -/
def tag : String := "type"

def blockChangeTag : String := "block_change"
def blockBreakAnimationTag : String := KindFilter.blockBreakAnimation
def chunkGeneratedTag : String := "chunk_generated"

def event : Form WorldEvent where
  write
    | .blockChange x y z => .object
      [(tag, .string blockChangeTag), ("x", coordinate x), ("y", coordinate y),
        ("z", coordinate z)]
    | .blockBreakAnimation x y z stage => .object
      [(tag, .string blockBreakAnimationTag), ("x", coordinate x), ("y", coordinate y),
        ("z", coordinate z), ("stage", Json.ofNat stage.toNat)]
    | .chunkGenerated x z => .object
      [(tag, .string chunkGeneratedTag), ("x", coordinate x), ("z", coordinate z)]
  read value := do
    let (name, body) ← RawJson.tagged tag value
    if name = blockChangeTag then
      let [x, y, z] ← RawJson.fields ["x", "y", "z"] body | none
      return .blockChange (← RawJson.readInt32 x) (← RawJson.readInt32 y) (← RawJson.readInt32 z)
    else if name = blockBreakAnimationTag then
      let [x, y, z, stage] ← RawJson.fields ["x", "y", "z", "stage"] body | none
      return .blockBreakAnimation (← RawJson.readInt32 x) (← RawJson.readInt32 y)
        (← RawJson.readInt32 z) (← RawJson.readUInt8 stage)
    else if name = chunkGeneratedTag then
      let [x, z] ← RawJson.fields ["x", "z"] body | none
      return .chunkGenerated (← RawJson.readInt32 x) (← RawJson.readInt32 z)
    else none

def kindMessage : Form KindMessage where
  write m := .object [("kind", .string m.kind), ("text", .string m.text)]
  read value := do
    let [kind, body] ← RawJson.fields ["kind", "text"] value | none
    return ⟨← RawJson.readText kind, ← RawJson.readText body⟩

end Frame

end Vicinity
