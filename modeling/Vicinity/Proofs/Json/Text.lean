import Vicinity.Json.Read
import Vicinity.Json.Write
import Vicinity.Proofs.Text.Utf8

/-! # String literals read back

A written character takes one of three forms: itself, a backslash and a letter, or a code in four
digits. Each form is read as pieces that have the bytes of the character, so a written text is read
as the text it was written for, whatever follows its closing quote.
-/

namespace Vicinity.RawJson

open Text

/-! ## Pieces -/

/-- The pieces up to the closing quote, and what follows it. -/
def Pieced (input : List UInt8) (literal : List Piece) (rest : List UInt8) : Prop :=
  ∀ fuel, input.length < fuel → pieces fuel input = some (literal, rest)

/-- A byte that stands for itself. -/
def Plain (b : UInt8) : Prop := b ≠ ascii '"' ∧ b ≠ ascii '\\' ∧ 0x20 ≤ b.toNat

variable {input rest : List UInt8} {literal : List Piece}

theorem pieced_quote (rest : List UInt8) : Pieced (ascii '"' :: rest) [] rest := by
  intro fuel enough
  cases fuel with
  | zero => exact absurd enough (Nat.not_lt_zero _)
  | succ fuel => simp [pieces]

theorem Pieced.byte {b : UInt8} (plain : Plain b) (reads : Pieced input literal rest) :
    Pieced (b :: input) (.byte b :: literal) rest := by
  obtain ⟨unquoted, unescaped, printable⟩ := plain
  have visible : ¬ b < 0x20 := Nat.not_lt_of_le printable
  intro fuel enough
  cases fuel with
  | zero => exact absurd enough (Nat.not_lt_zero _)
  | succ fuel =>
    have later := reads fuel (Nat.lt_of_succ_lt_succ enough)
    simp [pieces, unquoted, unescaped, visible, later]

theorem Pieced.bytes {front : List UInt8} (plain : ∀ b ∈ front, Plain b)
    (reads : Pieced input literal rest) :
    Pieced (front ++ input) (front.map .byte ++ literal) rest := by
  induction front with
  | nil => exact reads
  | cons b front ih =>
    have later := ih fun other member => plain other (List.mem_cons_of_mem _ member)
    exact later.byte (plain b (List.mem_cons_self ..))

theorem Pieced.letter {letter b : UInt8} (coded : letter ≠ ascii 'u')
    (stands : escaped? letter = some b) (reads : Pieced input literal rest) :
    Pieced (ascii '\\' :: letter :: input) (.byte b :: literal) rest := by
  intro fuel enough
  cases fuel with
  | zero => exact absurd enough (Nat.not_lt_zero _)
  | succ fuel =>
    have later := reads fuel (by simp only [List.length_cons] at enough; omega)
    have escape : ascii '\\' ≠ ascii '"' ∧ ¬ ascii '\\' < 0x20 := by decide
    simp [pieces, escape, coded, stands, later]

theorem Pieced.unit {code : List UInt8} {n : Nat}
    (coded : ∀ after, unit? (code ++ after) = some (n, after)) (reads : Pieced input literal rest) :
    Pieced (ascii '\\' :: ascii 'u' :: (code ++ input)) (.unit n :: literal) rest := by
  intro fuel enough
  cases fuel with
  | zero => exact absurd enough (Nat.not_lt_zero _)
  | succ fuel =>
    have later := reads fuel (by
      simp only [List.length_cons, List.length_append] at enough
      omega)
    have escape : ascii '\\' ≠ ascii '"' ∧ ¬ ascii '\\' < 0x20 := by decide
    simp [pieces, escape, coded, later]

/-! ## The bytes of pieces -/

theorem bytes?_bytes (front : List UInt8) (literal : List Piece) :
    bytes? (front.map .byte ++ literal) = (bytes? literal).map (front ++ ·) := by
  induction front with
  | nil => simp
  | cons b front ih => simp [bytes?, ih, Function.comp_def]

/-- A unit that is no half of a character stands alone, whatever follows it. -/
theorem bytes?_unit {n : Nat} (whole : isHighUnit n = false ∧ isLowUnit n = false)
    (literal : List Piece) :
    bytes? (.unit n :: literal) =
      (bytes? literal).map (String.utf8EncodeChar (Char.ofNat n) ++ ·) := by
  obtain ⟨high, low⟩ := whole
  rcases literal with _ | ⟨_ | _, _⟩ <;> simp [bytes?, high, low]

/-! ## Written characters -/

/-- Input that is read as some characters up to the closing quote. -/
def Spells (input : List UInt8) (cs : List Char) (rest : List UInt8) : Prop :=
  ∃ literal, Pieced input literal rest ∧ bytes? literal = some (encode cs)

variable {cs : List Char}

theorem spells_quote (rest : List UInt8) : Spells (ascii '"' :: rest) [] rest :=
  ⟨[], pieced_quote rest, rfl⟩

/-- A character of which no byte means anything else. -/
theorem Spells.plain {c : Char} (visible : 0x20 ≤ c.toNat) (unquoted : c ≠ '"')
    (unescaped : c ≠ '\\') (spells : Spells input cs rest) :
    Spells (String.utf8EncodeChar c ++ input) (c :: cs) rest := by
  obtain ⟨literal, reads, stands⟩ := spells
  have plain : ∀ b ∈ String.utf8EncodeChar c, Plain b := by
    intro b there
    by_cases small : c.toNat < 128
    · rw [utf8EncodeChar_ascii small, List.mem_singleton] at there
      subst there
      refine ⟨fun same => unquoted ?_, fun same => unescaped ?_, ?_⟩
      · exact toUInt8_inj small (by decide) same
      · exact toUInt8_inj small (by decide) same
      · rwa [toNat_toUInt8 small]
    · have large := le_of_mem_utf8EncodeChar (Nat.le_of_not_lt small) b there
      refine ⟨?_, ?_, Nat.le_trans (by decide) large⟩
      · rintro rfl
        exact absurd large (by decide)
      · rintro rfl
        exact absurd large (by decide)
  refine ⟨_, reads.bytes plain, ?_⟩
  rw [bytes?_bytes, stands, Option.map_some, encode_cons]

theorem Spells.letter {c letter : Char} (coded : ascii letter ≠ ascii 'u')
    (stands : escaped? (ascii letter) = some c.toUInt8) (small : c.toNat < 128)
    (spells : Spells input cs rest) :
    Spells (ascii '\\' :: ascii letter :: input) (c :: cs) rest := by
  obtain ⟨literal, reads, same⟩ := spells
  refine ⟨_, reads.letter coded stands, ?_⟩
  rw [bytes?, same, Option.map_some, encode_cons, utf8EncodeChar_ascii small]
  rfl

theorem Spells.unit {c : Char} {code : List UInt8} (control : c.toNat < 0x20)
    (coded : ∀ after, unit? (code ++ after) = some (c.toNat, after))
    (spells : Spells input cs rest) :
    Spells (ascii '\\' :: ascii 'u' :: (code ++ input)) (c :: cs) rest := by
  obtain ⟨literal, reads, same⟩ := spells
  refine ⟨_, reads.unit coded, ?_⟩
  have whole : isHighUnit c.toNat = false ∧ isLowUnit c.toNat = false := by
    constructor <;> simp [isHighUnit, isLowUnit] <;> omega
  rw [bytes?_unit whole, same, Option.map_some, encode_cons, Char.ofNat_toNat]

/-- The characters that are written as a backslash and a letter. -/
def lettered : List Char := ['"', '\\', '\x08', '\t', '\n', '\x0c', '\r']

/-- The three forms of a written character. -/
theorem escape_forms (c : Char) :
    (∃ letter : Char, Json.escape c = ['\\', letter] ∧ letter.toNat < 128 ∧
      ascii letter ≠ ascii 'u' ∧ escaped? (ascii letter) = some c.toUInt8 ∧ c.toNat < 128) ∨
    (Json.escape c = ['\\', 'u', '0', '0', Nat.digitChar (c.toNat / 16),
      Nat.digitChar (c.toNat % 16)] ∧ c.toNat < 0x20) ∨
    (Json.escape c = [c] ∧ 0x20 ≤ c.toNat ∧ c ≠ '"' ∧ c ≠ '\\') := by
  by_cases letter : c ∈ lettered
  · left
    simp only [lettered, List.mem_cons, List.not_mem_nil, or_false] at letter
    rcases letter with rfl | rfl | rfl | rfl | rfl | rfl | rfl <;>
      exact ⟨_, rfl, by decide, by decide, by decide, by decide⟩
  · right
    simp only [lettered, List.mem_cons, List.not_mem_nil, or_false, not_or] at letter
    by_cases control : c.toNat < 0x20
    · left
      simp [Json.escape, letter, control]
    · right
      simp [Json.escape, letter, control, Nat.le_of_not_lt control]

/-- The code of a control character is read as its number. -/
theorem unit?_code {n : Nat} (control : n < 0x20) (rest : List UInt8) :
    unit? (encode ['0', '0', Nat.digitChar (n / 16), Nat.digitChar (n % 16)] ++ rest) =
      some (n, rest) := by
  have codes : ∀ n < 0x20, encode ['0', '0', Nat.digitChar (n / 16), Nat.digitChar (n % 16)] =
        [ascii '0', ascii '0', ascii (Nat.digitChar (n / 16)), ascii (Nat.digitChar (n % 16))] ∧
      hexDigit? (ascii (Nat.digitChar (n / 16))) = some (n / 16) ∧
      hexDigit? (ascii (Nat.digitChar (n % 16))) = some (n % 16) := by
    decide
  have zero : hexDigit? (ascii '0') = some 0 := by decide
  obtain ⟨code, first, second⟩ := codes n control
  have value : (0 * 16 + 0) * 256 + (n / 16 * 16 + n % 16) = n := by omega
  rw [code]
  simp only [List.cons_append, List.nil_append, unit?, zero, first, second, Option.bind_eq_bind,
    Option.bind_some, value]
  rfl

/-- A written character comes before the characters that follow it. -/
theorem Spells.escape (c : Char) (spells : Spells input cs rest) :
    Spells (encode (Json.escape c) ++ input) (c :: cs) rest := by
  rcases escape_forms c with ⟨letter, form, ascii, coded, stands, small⟩ | ⟨form, control⟩ |
    ⟨form, visible, unquoted, unescaped⟩
  · have bytes : encode (Json.escape c) = [RawJson.ascii '\\', RawJson.ascii letter] := by
      rw [form, encode_cons, encode_cons, utf8EncodeChar_ascii ascii]
      rfl
    rw [bytes]
    exact spells.letter coded stands small
  · have bytes : encode (Json.escape c) = RawJson.ascii '\\' :: RawJson.ascii 'u' ::
        encode ['0', '0', Nat.digitChar (c.toNat / 16), Nat.digitChar (c.toNat % 16)] := by
      rw [form]
      rfl
    rw [bytes]
    exact spells.unit control (unit?_code control)
  · have bytes : encode (Json.escape c) = String.utf8EncodeChar c := by
      rw [form, encode_cons, encode_nil, List.append_nil]
    rw [bytes]
    exact spells.plain visible unquoted unescaped

theorem spells_escapes (cs : List Char) (rest : List UInt8) :
    Spells (encode (cs.flatMap Json.escape) ++ ascii '"' :: rest) cs rest := by
  induction cs with
  | nil => exact spells_quote rest
  | cons c cs ih =>
    rw [List.flatMap_cons, encode_append, List.append_assoc]
    exact ih.escape c

/-- A written text is read, whatever follows it. -/
theorem text_quote (s : String) :
    ∃ inner, encode (Json.quote s).toList = ascii '"' :: inner ∧
      ∀ rest, text (inner ++ rest) = some (some s, rest) := by
  refine ⟨encode (s.toList.flatMap Json.escape) ++ [ascii '"'], ?_, fun rest => ?_⟩
  · simp only [Json.quote, String.toList_append, String.toList_ofList, encode_append]
    rfl
  · obtain ⟨literal, reads, stands⟩ := spells_escapes s.toList rest
    have value : textOf? literal = some s := by
      rw [textOf?, stands, Option.bind_some, fromUTF8?_encode]
    rw [List.append_assoc, List.singleton_append, text, reads _ (Nat.lt_succ_self _), ← value]
    rfl

end Vicinity.RawJson
