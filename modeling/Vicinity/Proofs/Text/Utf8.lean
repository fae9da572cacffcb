/-! # Texts as bytes

In UTF-8 the bytes of a text are those of its characters one after another. An ASCII character is a
byte of its own, and every byte of any other character lies beyond the ASCII range.
-/

namespace Vicinity.Text

/-- The bytes of characters one after another. -/
def encode (cs : List Char) : List UInt8 := cs.flatMap String.utf8EncodeChar

@[simp] theorem encode_nil : encode [] = [] := rfl

theorem encode_cons (c : Char) (rest : List Char) :
    encode (c :: rest) = String.utf8EncodeChar c ++ encode rest := List.flatMap_cons ..

theorem encode_append (cs ds : List Char) : encode (cs ++ ds) = encode cs ++ encode ds :=
  List.flatMap_append ..

/-! ## Byte arrays -/

private theorem toList_loop (array : ByteArray) (i : Nat) (front : List UInt8) :
    ByteArray.toList.loop array i front = front.reverse ++ array.data.toList.drop i := by
  fun_induction ByteArray.toList.loop array i front with
  | case1 i front inside ih =>
    have bound : i < array.data.toList.length := by simpa using inside
    have next : array.get! i = array.data.toList[i] := getElem!_pos array.data i inside
    rw [ih, List.drop_eq_getElem_cons bound, next]
    simp
  | case2 i front outside =>
    have done : array.data.toList.length ≤ i := by simpa using outside
    rw [List.drop_eq_nil_of_le done, List.append_nil]

theorem toList_eq (array : ByteArray) : array.toList = array.data.toList := by
  rw [ByteArray.toList, toList_loop, List.drop_zero]
  rfl

theorem toList_toByteArray (bytes : List UInt8) : bytes.toByteArray.toList = bytes := by
  rw [toList_eq, List.toList_data_toByteArray]

theorem length_toList (array : ByteArray) : array.toList.length = array.size := by
  rw [toList_eq]
  rfl

theorem toByteArray_encode (s : String) : (encode s.toList).toByteArray = s.toByteArray :=
  String.utf8Encode_toList

theorem toList_toUTF8 (s : String) : s.toUTF8.toList = encode s.toList := by
  rw [String.toUTF8, ← toByteArray_encode, toList_toByteArray]

/-- A text is known by its bytes. -/
theorem fromUTF8?_encode (s : String) :
    String.fromUTF8? (encode s.toList).toByteArray = some s := by
  rw [toByteArray_encode, String.fromUTF8?, dif_pos s.isValidUTF8]
  rfl

/-! ## Single characters -/

theorem utf8EncodeChar_ascii {c : Char} (small : c.toNat < 128) :
    String.utf8EncodeChar c = [c.toUInt8] := by
  have below : c.val.toNat ≤ 127 := Nat.le_of_lt_succ small
  rw [String.utf8EncodeChar, if_pos below]
  rfl

theorem toNat_toUInt8 {c : Char} (small : c.toNat < 128) : c.toUInt8.toNat = c.toNat :=
  Nat.mod_eq_of_lt (Nat.lt_trans small (by decide))

theorem toUInt8_inj {c d : Char} (smallC : c.toNat < 128) (smallD : d.toNat < 128)
    (same : c.toUInt8 = d.toUInt8) : c = d := by
  rw [← Char.ofNat_toNat c, ← toNat_toUInt8 smallC, same, toNat_toUInt8 smallD, Char.ofNat_toNat]

theorem le_of_mem_utf8EncodeChar {c : Char} (large : 128 ≤ c.toNat) :
    ∀ b ∈ String.utf8EncodeChar c, 128 ≤ b.toNat := by
  have above : ¬ c.val.toNat ≤ 127 := Nat.not_le_of_lt large
  intro b there
  rw [String.utf8EncodeChar, if_neg above] at there
  have byte (n : Nat) (low : 128 ≤ n) (high : n < 256) : 128 ≤ (UInt8.ofNat n).toNat := by
    rwa [UInt8.toNat_ofNat_of_lt' high]
  split at there
  · simp only [List.mem_cons, List.not_mem_nil, or_false] at there
    rcases there with rfl | rfl <;> exact byte _ (by omega) (by omega)
  · split at there
    · simp only [List.mem_cons, List.not_mem_nil, or_false] at there
      rcases there with rfl | rfl | rfl <;> exact byte _ (by omega) (by omega)
    · simp only [List.mem_cons, List.not_mem_nil, or_false] at there
      rcases there with rfl | rfl | rfl | rfl <;> exact byte _ (by omega) (by omega)

end Vicinity.Text
