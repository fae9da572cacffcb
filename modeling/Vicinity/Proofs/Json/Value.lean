import Vicinity.Proofs.Json.Number
import Vicinity.Proofs.Json.Text

/-! # Values read back

A value is written without blanks and can be read by looking at its first byte. What is read before a
comma, a closing bracket or the end is the value that was written, with its members in the order in
which they were written. The reader counts its steps: a byte is paid for with two of them, one for
the list in which a value stands and one for the value.
-/

namespace Vicinity

namespace Json

/-- The bytes of a value as it is written. -/
def written (v : Json) : List UInt8 := Text.encode (render v).toList

/-- Texts with commas between them, as bytes. -/
def joined (parts : List String) : List UInt8 := Text.encode (String.intercalate "," parts).toList

/-- Values in which every number is an integer. -/
inductive Integral : Json → Prop
  | null : Integral .null
  | bool (b : Bool) : Integral (.bool b)
  | number (i : Int) : Integral (ofInt i)
  | string (s : String) : Integral (.string s)
  | array (items : List Json) : (∀ item ∈ items, Integral item) → Integral (.array items)
  | object (members : List (String × Json)) :
      (∀ member ∈ members, Integral member.2) → Integral (.object members)

end Json

namespace RawJson

open Json Text

theorem joined_singleton (part : String) : joined [part] = encode part.toList := by
  rw [joined, String.intercalate_singleton]

theorem joined_cons_cons (part next : String) (rest : List String) :
    joined (part :: next :: rest) = encode part.toList ++ ascii ',' :: joined (next :: rest) := by
  rw [joined, String.intercalate_cons_cons, String.toList_append, String.toList_append,
    encode_append, encode_append, List.append_assoc]
  rfl

theorem written_array (items : List Json) :
    written (.array items) = ascii '[' :: (joined (renderItems items) ++ [ascii ']']) := by
  rw [written, render, String.toList_append, String.toList_append, encode_append, encode_append]
  rfl

theorem written_object (members : List (String × Json)) :
    written (.object members) =
      ascii '\x7b' :: (joined (renderMembers members) ++ [ascii '\x7d']) := by
  rw [written, render, String.toList_append, String.toList_append, encode_append, encode_append]
  rfl

/-- A byte that may begin a value. -/
def Opens (b : UInt8) : Prop := isBlank b = false ∧ b ≠ ascii ']'

theorem skipBlanks_of_opens {b : UInt8} (opens : Opens b) (rest : List UInt8) :
    skipBlanks (b :: rest) = b :: rest := by
  simp [skipBlanks, opens.1]

/-- A byte that begins a number. -/
def Numeric (b : UInt8) : Prop :=
  Opens b ∧ b ∉ ['"', '[', '\x7b', 'n', 't', 'f'].map ascii

theorem written_ofInt_head (i : Int) : ∃ b front, written (ofInt i) = b :: front ∧ Numeric b := by
  have digit : ∀ d < 10, Numeric (ascii (Numeral.digitChar d)) := by
    unfold Numeric Opens
    decide
  have minus : Numeric (ascii '-') := by
    unfold Numeric Opens
    decide
  have text : written (ofInt i) = encode (Number.Literal.ofInt i).render.toList := rfl
  rw [text, encode_ofInt]
  by_cases negative : i < 0
  · rw [if_pos negative]
    exact ⟨_, _, rfl, minus⟩
  · rw [if_neg negative]
    obtain ⟨d, ds, shape⟩ := List.exists_cons_of_ne_nil (Numeral.digits_ne_nil i.natAbs)
    have small := Numeral.digit_lt_ten i.natAbs d (shape ▸ List.mem_cons_self ..)
    exact ⟨_, digitBytes ds, congrArg digitBytes shape, digit d small⟩

theorem written_head {v : Json} (integral : Integral v) :
    ∃ b front, written v = b :: front ∧ Opens b := by
  unfold Opens
  cases integral with
  | null => exact ⟨_, _, rfl, by decide⟩
  | bool b => cases b <;> exact ⟨_, _, rfl, by decide⟩
  | number i =>
    obtain ⟨b, front, shape, opens, -⟩ := written_ofInt_head i
    exact ⟨b, front, shape, opens⟩
  | string s =>
    obtain ⟨inner, shape, -⟩ := text_quote s
    exact ⟨_, inner, shape, by decide⟩
  | array items _ => exact ⟨_, _, written_array items, by decide⟩
  | object members _ => exact ⟨_, _, written_object members, by decide⟩

/-- A written value is read up to its end. -/
def Reads (v : Json) : Prop :=
  ∀ rest, Ends rest → ∀ fuel, 2 * (written v).length ≤ fuel →
    value fuel (written v ++ rest) = some (ofJson v, rest)

/-- Every value takes a step, since something is written for it. -/
theorem reads_of_succ {v : Json} {b : UInt8} {front : List UInt8} (shape : written v = b :: front)
    (reads : ∀ rest, Ends rest → ∀ fuel, 2 * front.length + 1 ≤ fuel →
      value (fuel + 1) (b :: (front ++ rest)) = some (ofJson v, rest)) : Reads v := by
  intro rest ends fuel enough
  rw [shape, List.length_cons] at enough
  cases fuel with
  | zero => omega
  | succ fuel =>
    rw [shape, List.cons_append]
    exact reads rest ends fuel (by omega)

theorem ends_comma (rest : List UInt8) : Ends (ascii ',' :: rest) := ends_cons rest (by decide)

theorem ends_bracket (rest : List UInt8) : Ends (ascii ']' :: rest) := ends_cons rest (by decide)

theorem ends_brace (rest : List UInt8) : Ends (ascii '\x7d' :: rest) := ends_cons rest (by decide)

theorem reads_number (i : Int) : Reads (ofInt i) := by
  obtain ⟨b, front, shape, opens, apart⟩ := written_ofInt_head i
  refine reads_of_succ shape fun rest ends fuel _ => ?_
  have read : literal (written (ofInt i) ++ rest) = some (.ofInt i, rest) := literal_ofInt i ends
  rw [shape, List.cons_append] at read
  simp only [List.map_cons, List.map_nil, List.mem_cons, List.not_mem_nil, or_false,
    not_or] at apart
  rw [value, skipBlanks_of_opens opens]
  simp [apart, read, ofInt, ofJson]

theorem reads_string (s : String) : Reads (.string s) := by
  obtain ⟨inner, shape, read⟩ := text_quote s
  have text : written (.string s) = ascii '"' :: inner := shape
  refine reads_of_succ text fun rest _ fuel _ => ?_
  have opened : value (fuel + 1) (ascii '"' :: (inner ++ rest)) =
      (RawJson.text (inner ++ rest)).map fun read => (.string read.1, read.2) := rfl
  rw [opened, read]
  rfl

/-! ## Arrays -/

theorem items_joined {list : List Json} (nonempty : list ≠ []) (reads : ∀ item ∈ list, Reads item)
    (rest : List UInt8) (fuel : Nat) (enough : 2 * (joined (renderItems list)).length + 3 ≤ fuel) :
    items fuel (joined (renderItems list) ++ ascii ']' :: rest) = some (ofItems list, rest) := by
  induction list generalizing fuel with
  | nil => exact absurd rfl nonempty
  | cons item others ih =>
    have first := reads item (List.mem_cons_self ..)
    have later := fun other member => reads other (List.mem_cons_of_mem _ member)
    obtain ⟨fuel, rfl⟩ : ∃ before, fuel = before + 1 := ⟨fuel - 1, by omega⟩
    cases others with
    | nil =>
      have bytes : joined (renderItems [item]) = written item := joined_singleton _
      rw [bytes] at enough ⊢
      have read := first _ (ends_bracket rest) fuel (by omega)
      rw [items, read]
      rfl
    | cons next others =>
      have bytes : joined (renderItems (item :: next :: others)) =
          written item ++ ascii ',' :: joined (renderItems (next :: others)) :=
        joined_cons_cons ..
      rw [bytes, List.length_append, List.length_cons] at enough
      have read := first _ (ends_comma (joined (renderItems (next :: others)) ++ ascii ']' :: rest))
        fuel (by omega)
      have remaining := ih (List.cons_ne_nil _ _) later fuel (by omega)
      rw [bytes, List.append_assoc, List.cons_append, items, read]
      change ((items fuel _).bind _) = _
      rw [remaining]
      rfl

theorem joined_head (item : Json) (others : List Json)
    (integral : ∀ other ∈ item :: others, Integral other) :
    ∃ b front, joined (renderItems (item :: others)) = b :: front ∧ Opens b := by
  obtain ⟨b, front, shape, opens⟩ := written_head (integral item (List.mem_cons_self ..))
  cases others with
  | nil => exact ⟨b, front, (joined_singleton _).trans shape, opens⟩
  | cons next others =>
    refine ⟨b, front ++ ascii ',' :: joined (renderItems (next :: others)), ?_, opens⟩
    rw [← List.cons_append, ← shape]
    exact joined_cons_cons ..

theorem reads_array {list : List Json} (integral : ∀ item ∈ list, Integral item)
    (reads : ∀ item ∈ list, Reads item) : Reads (.array list) := by
  refine reads_of_succ (written_array list) fun rest _ fuel enough => ?_
  rw [List.length_append, List.length_singleton] at enough
  rw [List.append_assoc, List.singleton_append]
  cases list with
  | nil => rfl
  | cons item others =>
    have read := items_joined (List.cons_ne_nil item others) reads rest fuel (by omega)
    obtain ⟨b, front, shape, opens⟩ := joined_head item others integral
    rw [shape, List.cons_append] at read ⊢
    have opened : skipBlanks (ascii '[' :: b :: (front ++ ascii ']' :: rest)) =
        ascii '[' :: b :: (front ++ ascii ']' :: rest) := rfl
    have apart : ascii '[' ≠ ascii '"' := by decide
    rw [value, opened]
    simp [skipBlanks_of_opens opens, opens.2, apart, read, ofJson]

/-! ## Objects -/

theorem written_member (name : String) (v : Json) :
    encode (Json.quote name ++ ":" ++ render v).toList =
      encode (Json.quote name).toList ++ ascii ':' :: written v := by
  rw [String.toList_append, String.toList_append, encode_append, encode_append, List.append_assoc]
  rfl

theorem memberName_quote (name : String) (rest : List UInt8) :
    memberName (encode (Json.quote name).toList ++ ascii ':' :: rest) = some (some name, rest) := by
  obtain ⟨inner, shape, read⟩ := text_quote name
  rw [shape, List.cons_append]
  change ((text (inner ++ ascii ':' :: rest)).bind _) = _
  rw [read]
  rfl

theorem joined_quote (member : String × Json) (others : List (String × Json)) :
    ∃ front, joined (renderMembers (member :: others)) = ascii '"' :: front := by
  obtain ⟨name, item⟩ := member
  obtain ⟨inner, shape, -⟩ := text_quote name
  have head : encode (Json.quote name ++ ":" ++ render item).toList =
      ascii '"' :: (inner ++ ascii ':' :: written item) := by
    rw [written_member, shape, List.cons_append]
  cases others with
  | nil => exact ⟨_, (joined_singleton _).trans head⟩
  | cons next others =>
    refine ⟨inner ++ ascii ':' :: written item ++
      ascii ',' :: joined (renderMembers (next :: others)), ?_⟩
    rw [← List.cons_append, ← head]
    exact joined_cons_cons ..

theorem members_joined {list : List (String × Json)} (nonempty : list ≠ [])
    (reads : ∀ member ∈ list, Reads member.2) (rest : List UInt8) (fuel : Nat)
    (enough : 2 * (joined (renderMembers list)).length + 3 ≤ fuel) :
    members fuel (joined (renderMembers list) ++ ascii '\x7d' :: rest) =
      some (ofMembers list, rest) := by
  induction list generalizing fuel with
  | nil => exact absurd rfl nonempty
  | cons member others ih =>
    obtain ⟨name, item⟩ := member
    have first : Reads item := reads (name, item) (List.mem_cons_self ..)
    have later := fun other member => reads other (List.mem_cons_of_mem _ member)
    obtain ⟨fuel, rfl⟩ : ∃ before, fuel = before + 1 := ⟨fuel - 1, by omega⟩
    cases others with
    | nil =>
      have bytes : joined (renderMembers [(name, item)]) =
          encode (Json.quote name).toList ++ ascii ':' :: written item :=
        (joined_singleton _).trans (written_member name item)
      rw [bytes, List.length_append, List.length_cons] at enough
      have read := first _ (ends_brace rest) fuel (by omega)
      rw [bytes, List.append_assoc, List.cons_append, members, memberName_quote]
      change ((value fuel (written item ++ ascii '\x7d' :: rest)).bind _) = _
      rw [read]
      rfl
    | cons next others =>
      have bytes : joined (renderMembers ((name, item) :: next :: others)) =
          encode (Json.quote name).toList ++ ascii ':' :: (written item ++
            ascii ',' :: joined (renderMembers (next :: others))) := by
        refine (joined_cons_cons ..).trans ?_
        rw [written_member, List.append_assoc]
        rfl
      rw [bytes, List.length_append, List.length_cons, List.length_append, List.length_cons] at enough
      have read := first _
        (ends_comma (joined (renderMembers (next :: others)) ++ ascii '\x7d' :: rest))
        fuel (by omega)
      have remaining := ih (List.cons_ne_nil _ _) later fuel (by omega)
      rw [bytes, List.append_assoc, List.cons_append, List.append_assoc, List.cons_append, members,
        memberName_quote]
      change ((value fuel (written item ++ _)).bind _) = _
      rw [read]
      change ((members fuel _).bind _) = _
      rw [remaining]
      rfl

theorem reads_object {list : List (String × Json)} (reads : ∀ member ∈ list, Reads member.2) :
    Reads (.object list) := by
  refine reads_of_succ (written_object list) fun rest _ fuel enough => ?_
  rw [List.length_append, List.length_singleton] at enough
  rw [List.append_assoc, List.singleton_append]
  cases list with
  | nil => rfl
  | cons member others =>
    have read := members_joined (List.cons_ne_nil member others) reads rest fuel (by omega)
    obtain ⟨front, shape⟩ := joined_quote member others
    rw [shape, List.cons_append] at read ⊢
    have opened : value (fuel + 1) (ascii '\x7b' :: ascii '"' :: (front ++ ascii '\x7d' :: rest)) =
        (members fuel (ascii '"' :: (front ++ ascii '\x7d' :: rest))).map fun read =>
          (.object read.1, read.2) := rfl
    rw [opened, read]
    rfl

/-! ## Documents -/

/-- A value without fractions is read as it was written. -/
theorem reads_integral {v : Json} (integral : Integral v) : Reads v := by
  induction integral with
  | null => exact reads_of_succ rfl fun _ _ _ _ => rfl
  | bool b => cases b <;> exact reads_of_succ rfl fun _ _ _ _ => rfl
  | number i => exact reads_number i
  | string s => exact reads_string s
  | array items integral ih => exact reads_array integral ih
  | object members _ ih => exact reads_object ih

/-- A document with nothing but a value in it is read as the value. -/
theorem ofBytes?_written {v : Json} (integral : Integral v) :
    ofBytes? (written v) = some (ofJson v) := by
  have read := reads_integral integral [] ends_nil (2 * (written v).length + 2) (by omega)
  rw [List.append_nil] at read
  rw [ofBytes?, read]
  rfl

end RawJson

end Vicinity
