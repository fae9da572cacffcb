import Vicinity.Json.Write
import Vicinity.Json.Shape
import Vicinity.Table

/-! # Values by their types

`Json.Encode` and `Json.Decode` say how the values of a type stand in Json; `get` decodes the field
of an object. Of two fields with one name the later one counts. An absent field and a field that
holds null are different things: `get?` and `getD` are for fields that may be absent.
-/

namespace Vicinity.Json

/-- Types whose values can be written. -/
class Encode (A : Type) where
  encode : A → Json

/-- Types whose values can be read. -/
class Decode (A : Type) where
  decode : Json → Option A

export Encode (encode)
export Decode (decode)

instance : Encode Json := ⟨id⟩
instance : Encode String := ⟨.string⟩
instance : Encode Bool := ⟨.bool⟩
instance : Encode Nat := ⟨ofNat⟩
instance : Encode Int := ⟨ofInt⟩
instance : Encode UInt32 := ⟨fun n => ofNat n.toNat⟩
instance : Encode UInt64 := ⟨fun n => ofNat n.toNat⟩
instance : Encode Int32 := ⟨fun i => ofInt i.toInt⟩
instance : Encode Unit := ⟨fun _ => .null⟩

variable {A B : Type}

instance [Encode A] : Encode (List A) := ⟨fun items => .array (items.map encode)⟩

/-- Nothing is written as null. -/
instance [Encode A] : Encode (Option A) :=
  ⟨fun value => match value with
    | none => .null
    | some a => encode a⟩

/-- A value or an error, each in its own form. -/
instance [Encode A] [Encode B] : Encode (Except A B) :=
  ⟨fun result => match result with
    | .error a => encode a
    | .ok b => encode b⟩

instance : Decode Json := ⟨some⟩

instance : Decode String :=
  ⟨fun value => match value with
    | .string s => some s
    | _ => none⟩

instance : Decode Bool :=
  ⟨fun value => match value with
    | .bool b => some b
    | _ => none⟩

instance : Decode Int :=
  ⟨fun value => match value with
    | .number literal => literal.integer?
    | _ => none⟩

instance : Decode Nat :=
  ⟨fun value => (decode value).bind fun (i : Int) => if i < 0 then none else some i.toNat⟩

instance : Decode UInt8 := ⟨fun value => RawJson.readUInt8 (.ofJson value)⟩
instance : Decode UInt32 := ⟨fun value => RawJson.readUInt32 (.ofJson value)⟩
instance : Decode UInt64 := ⟨fun value => RawJson.readUInt64 (.ofJson value)⟩
instance : Decode Int32 := ⟨fun value => RawJson.readInt32 (.ofJson value)⟩

instance [Decode A] : Decode (List A) :=
  ⟨fun value => match value with
    | .array items => items.mapM decode
    | _ => none⟩

/-- Null is read as nothing. -/
instance [Decode A] : Decode (Option A) :=
  ⟨fun value => match value with
    | .null => some none
    | value => (decode value).map some⟩

/-- An object whose members all hold values of one type. -/
instance [Decode A] : Decode (Table String A) :=
  ⟨fun value => match value with
    | .object members =>
      (members.mapM fun member => (decode member.2).map fun a => (member.1, a)).map Table.ofList
    | _ => none⟩

/-- The value of a field. -/
def field? (value : Json) (name : String) : Option Json :=
  match value with
  | .object members => (members.filter fun member => member.1 = name).getLast?.map Prod.snd
  | _ => none

def has (value : Json) (name : String) : Bool := (value.field? name).isSome

/-- A field that must be there. -/
def get [Decode A] (value : Json) (name : String) : Option A := (value.field? name).bind decode

/-- A field that may be absent. -/
def get? [Decode A] (value : Json) (name : String) : Option (Option A) :=
  match value.field? name with
  | none => some none
  | some found => (decode found).map some

/-- A field that may be absent, and what it counts as then. -/
def getD [Decode A] (value : Json) (name : String) (absent : A) : Option A :=
  (value.get? name).map fun found => found.getD absent

end Vicinity.Json
