import Vicinity.Json.Shape
import Vicinity.Proofs.Json.Value

/-! # Shapes read back

An integer that fits a word is read as that word, a structure written as an object gives its fields
in order, and a tagged structure gives its tag and the fields that are left.
-/

namespace Vicinity.RawJson

open Json Number

/-! ## Words -/

theorem readInteger_ofInt {low high i : Int} (above : low ≤ i) (below : i ≤ high) :
    readInteger low high (ofJson (ofInt i)) = some i := by
  rw [ofInt, ofJson, readInteger, Literal.integer?_ofInt, Option.bind_some, if_pos ⟨above, below⟩]

theorem ofNat_eq_ofInt (n : Nat) : Json.ofNat n = Json.ofInt n := by
  rw [Json.ofNat, Json.ofInt, Literal.ofNat_eq_ofInt]

theorem readInteger_ofNat {n size : Nat} (below : n < size) :
    readInteger 0 (size - 1) (ofJson (Json.ofNat n)) = some (n : Int) := by
  rw [ofNat_eq_ofInt]
  exact readInteger_ofInt (by omega) (by omega)

theorem readUInt8_ofNat (n : UInt8) : readUInt8 (ofJson (Json.ofNat n.toNat)) = some n := by
  rw [readUInt8, readInteger_ofNat n.toNat_lt_size]
  simp

theorem readUInt32_ofNat (n : UInt32) : readUInt32 (ofJson (Json.ofNat n.toNat)) = some n := by
  rw [readUInt32, readInteger_ofNat n.toNat_lt_size]
  simp

theorem readUInt64_ofNat (n : UInt64) : readUInt64 (ofJson (Json.ofNat n.toNat)) = some n := by
  rw [readUInt64, readInteger_ofNat n.toNat_lt_size]
  simp

theorem readInt32_ofInt (c : Int32) : readInt32 (ofJson (Json.ofInt c.toInt)) = some c := by
  have low : Int32.minValue.toInt ≤ c.toInt := c.minValue_le_toInt
  have high : c.toInt ≤ Int32.maxValue.toInt := c.toInt_le
  rw [readInt32, readInteger_ofInt low high, Option.map_some, Int32.ofInt_toInt]

/-! ## Structures -/

variable {members : List (String × Json)}

theorem ofMembers_eq_map (members : List (String × Json)) :
    ofMembers members = members.map fun member => (some member.1, ofJson member.2) := by
  induction members with
  | nil => rfl
  | cons member rest ih => rw [ofMembers, ih, List.map_cons]

theorem namedMembers?_ofMembers (members : List (String × Json)) :
    namedMembers? (ofMembers members) =
      some (members.map fun member => (member.1, ofJson member.2)) := by
  rw [namedMembers?]
  induction members with
  | nil => rfl
  | cons member rest ih =>
    rw [ofMembers, List.mapM_cons, ih]
    rfl

/-- Among members without a name nothing is found under it. -/
theorem filter_of_notMem {name : String} (absent : name ∉ members.map Prod.fst) :
    members.filter (fun member => member.1 = name) = [] := by
  rw [List.filter_eq_nil_iff]
  intro member there same
  exact absent (List.mem_map.mpr ⟨member, there, of_decide_eq_true same⟩)

/-- Of members with distinct names each is the only one of its name. -/
theorem filter_of_mem (distinct : (members.map Prod.fst).Nodup) {member : String × Json}
    (there : member ∈ members) : members.filter (fun other => other.1 = member.1) = [member] := by
  induction members with
  | nil => exact absurd there List.not_mem_nil
  | cons head rest ih =>
    rw [List.map_cons, List.nodup_cons] at distinct
    obtain ⟨fresh, distinct⟩ := distinct
    rcases List.mem_cons.mp there with rfl | later
    · rw [List.filter_cons_of_pos (by simp), filter_of_notMem fresh]
    · have apart : head.1 ≠ member.1 := by
        intro same
        exact fresh (same ▸ List.mem_map_of_mem later)
      rw [List.filter_cons_of_neg (by simpa using apart), ih distinct later]

theorem onlyMember?_of_filter {name : String} {member : String × Json}
    (only : members.filter (fun other => other.1 = name) = [member]) :
    onlyMember? (members.map fun member => (member.1, ofJson member.2)) name =
      some (ofJson member.2) := by
  have found : (members.map fun member => (member.1, ofJson member.2)).filter
      (fun other => other.1 = name) = [(member.1, ofJson member.2)] := by
    rw [List.filter_map]
    exact congrArg (List.map _) only
  rw [onlyMember?, found]

theorem mapM_eq_map {A B C : Type} {f : A → Option B} {key : C → A} {value : C → B} {list : List C}
    (same : ∀ c ∈ list, f (key c) = some (value c)) :
    (list.map key).mapM f = some (list.map value) := by
  induction list with
  | nil => rfl
  | cons c rest ih =>
    have first := same c (List.mem_cons_self ..)
    have later := ih fun other member => same other (List.mem_cons_of_mem _ member)
    rw [List.map_cons, List.mapM_cons, first, later]
    rfl

/-- An object with distinct names gives its fields. -/
theorem fields_object (distinct : (members.map Prod.fst).Nodup) :
    fields (members.map Prod.fst) (ofJson (.object members)) =
      some (members.map fun member => ofJson member.2) := by
  rw [ofJson, fields, namedMembers?_ofMembers, Option.bind_some]
  exact mapM_eq_map fun member there => onlyMember?_of_filter (filter_of_mem distinct there)

/-! ## Tagged structures -/

/-- A value that is a text or an integer of at most 64 bits. -/
inductive Scalar : Json → Prop
  | string (s : String) : Scalar (.string s)
  | number (i : Int) (fits : fitsWord i = true) : Scalar (ofInt i)

theorem Scalar.integral {v : Json} (scalar : Scalar v) : Integral v := by
  cases scalar with
  | string s => exact .string s
  | number i _ => exact .number i

theorem strictWithin?_scalar {v : Json} (scalar : Scalar v) (depth : Nat) :
    strictWithin? depth (ofJson v) = some v := by
  cases scalar with
  | string s => rfl
  | number i fits =>
    have finite : (Literal.ofInt i).isFinite = true := by
      rw [Literal.isFinite, Literal.integer?_ofInt, Option.any_some, fits, Bool.true_or]
    rw [ofInt, ofJson, strictWithin?, if_pos finite]

theorem strictMembers?_scalars (scalars : ∀ member ∈ members, Scalar member.2) (depth : Nat) :
    strictMembers? depth (ofMembers members) = some members := by
  induction members with
  | nil => rfl
  | cons member rest ih =>
    have first := strictWithin?_scalar (scalars member (List.mem_cons_self ..)) depth
    have later := ih fun other there => scalars other (List.mem_cons_of_mem _ there)
    rw [ofMembers, strictMembers?, first, later]
    rfl

/-- A structure that was written after its tag gives the tag and itself. -/
theorem tagged_object {tag : String} (name : String) (untagged : tag ∉ members.map Prod.fst)
    (scalars : ∀ member ∈ members, Scalar member.2) :
    tagged tag (ofJson (.object ((tag, .string name) :: members))) =
      some (name, ofJson (.object members)) := by
  let all : List (String × Json) := (tag, .string name) :: members
  have strict : strict? (ofJson (.object all)) = some (.object all) := by
    have plain : ∀ member ∈ all, Scalar member.2 :=
      List.forall_mem_cons.mpr ⟨.string name, scalars⟩
    rw [ofJson, strict?, mostNested, strictWithin?, strictMembers?_scalars plain]
    rfl
  have only : all.filter (fun member => member.1 = tag) = [(tag, .string name)] := by
    rw [List.filter_cons_of_pos (by simp), filter_of_notMem untagged]
  have rest : (ofMembers all).filter (fun member => member.1 ≠ some tag) = ofMembers members := by
    rw [ofMembers, List.filter_cons_of_neg (by simp), List.filter_eq_self, ofMembers_eq_map]
    intro member there
    obtain ⟨other, inside, rfl⟩ := List.mem_map.mp there
    have apart : other.1 ≠ tag := by
      rintro rfl
      exact untagged (List.mem_map_of_mem inside)
    simpa using apart
  have opened : tagged tag (ofJson (.object all)) =
      (strict? (ofJson (.object all))).bind fun _ => (namedMembers? (ofMembers all)).bind fun named =>
        (onlyMember? named tag).bind fun first => (readText first).bind fun name =>
          some (name, .object ((ofMembers all).filter fun member => member.1 ≠ some tag)) := rfl
  rw [opened, strict, Option.bind_some]
  rw [namedMembers?_ofMembers, Option.bind_some]
  rw [onlyMember?_of_filter only, rest]
  rfl

end Vicinity.RawJson
