import Vicinity.Broker.Middleware
import Vicinity.Json.Shape
import Vicinity.Json.Write
import Vicinity.World.Basic

/-! # Frames

A frame is the Json text of a message in UTF-8. A message type says how its values are written and
which values it reads; reading is more generous than writing. An empty frame holds no message.
-/

namespace Vicinity

/-- How messages of a type stand in Json. -/
structure Frame.Form (M : Type) where
  write : M → Json
  read : RawJson.Reader M

namespace Frame

/-- What is wrong with a frame without any bytes. -/
def emptyReason : String := "empty frame"

namespace Form

variable {M : Type}

def encode (form : Form M) (message : M) : ByteArray := (form.write message).render.toUTF8

def decode (form : Form M) (frame : ByteArray) : Except CodecError M :=
  if frame.size = 0 then .error (.malformed emptyReason)
  else
    match (RawJson.ofBytes? frame.toList).bind form.read with
    | some message => .ok message
    | none => .error .unreadable

/-- The codec of a form; every message can be encoded. -/
def toCodec (form : Form M) : Codec M where
  encode message := .ok (form.encode message)
  decode := form.decode

end Form

/-! ## Texts, numbers and places -/

def text : Form String := ⟨.string, RawJson.readText⟩

def word : Form UInt64 := ⟨fun n => Json.ofNat n.toNat, RawJson.readUInt64⟩

def world : Form WorldId :=
  ⟨fun w => Json.ofNat w.index.toNat, fun value => (RawJson.readUInt32 value).map WorldId.mk⟩

/-- A signed coordinate. -/
def coordinate (c : Int32) : Json := Json.ofInt c.toInt

def chunk : Form ChunkKey where
  write c := .object [("x", coordinate c.x), ("z", coordinate c.z)]
  read value := do
    let [x, z] ← RawJson.fields ["x", "z"] value | none
    return ⟨← RawJson.readInt32 x, ← RawJson.readInt32 z⟩

def block : Form Block where
  write b := .object
    [("world", world.write b.world), ("x", coordinate b.x), ("y", coordinate b.y),
      ("z", coordinate b.z)]
  read value := do
    let [w, x, y, z] ← RawJson.fields ["world", "x", "y", "z"] value | none
    return ⟨← world.read w, ← RawJson.readInt32 x, ← RawJson.readInt32 y, ← RawJson.readInt32 z⟩

def location : Form Location where
  write l := .object
    [("world", world.write l.world), ("x", Json.ofFloat l.x), ("y", Json.ofFloat l.y),
      ("z", Json.ofFloat l.z)]
  read value := do
    let [w, x, y, z] ← RawJson.fields ["world", "x", "y", "z"] value | none
    return ⟨← world.read w, ← RawJson.readFloat x, ← RawJson.readFloat y, ← RawJson.readFloat z⟩

def entity : Form Entity where
  write e := .object [("id", word.write e.id), ("location", location.write e.location)]
  read value := do
    let [id, place] ← RawJson.fields ["id", "location"] value | none
    return ⟨← word.read id, ← location.read place⟩

end Frame

end Vicinity
