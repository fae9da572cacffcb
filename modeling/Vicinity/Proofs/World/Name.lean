import Vicinity.Proofs.Text.Numeral
import Vicinity.World.Basic

/-! # Names of chunks

A chunk is named by its two coordinates with a colon between them. No colon stands in a numeral, so
the name says where the first coordinate ends, and the numerals say what the coordinates are.
-/

namespace Vicinity.ChunkKey

theorem toList_name (c : ChunkKey) :
    c.name.toList = "chunk:".toList ++
      ((Numeral.integer c.x.toInt).toList ++ ':' :: (Numeral.integer c.z.toInt).toList) := by
  rw [name, String.toList_append, String.toList_append, String.toList_append,
    show ":".toList = [':'] from rfl, List.append_assoc, List.append_assoc, List.singleton_append]

/-- A name belongs to one chunk alone. -/
theorem eq_of_name_eq {a b : ChunkKey} (same : a.name = b.name) : a = b := by
  have listed := congrArg String.toList same
  rw [toList_name, toList_name, List.append_cancel_left_eq] at listed
  have apart (i : Int) : ':' ∉ (Numeral.integer i).toList :=
    Numeral.notMem_integer (by decide) (by decide) i
  obtain ⟨first, -, second⟩ :=
    (List.append_cons_inj_of_notMem (apart a.x.toInt) (apart a.z.toInt)).mp listed
  have x := Int32.toInt_inj.mp (Numeral.integer_inj (String.toList_inj.mp first))
  have z := Int32.toInt_inj.mp (Numeral.integer_inj (String.toList_inj.mp second))
  cases a
  cases b
  cases x
  cases z
  rfl

end Vicinity.ChunkKey
