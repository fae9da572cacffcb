/-! # The latest of a kind

What a row of events comes to is often settled by the latest of those of one kind, whatever stands
before it. It is found by keeping the events of that kind and taking the last.
-/

namespace Vicinity

variable {A : Type}

theorem getLast?_filter_concat (kind : A → Bool) (row : List A) (last : A) :
    ((row ++ [last]).filter kind).getLast? =
      if kind last then some last else (row.filter kind).getLast? := by
  rw [List.filter_append]
  cases own : kind last with
  | true => simp [own]
  | false => simp [own]

/-- The latest of a kind is of that kind, and nothing after it is. -/
theorem getLast?_filter_eq_some_iff (kind : A → Bool) (row : List A) (event : A) :
    (row.filter kind).getLast? = some event ↔ kind event = true ∧
      ∃ before after, row = before ++ event :: after ∧ ∀ later ∈ after, kind later = false := by
  rw [List.getLast?_filter, List.find?_eq_some_iff_append]
  refine and_congr_right fun _ => ?_
  simp only [Bool.not_eq_true']
  -- The row read backwards begins with what comes after the event.
  constructor
  · rintro ⟨after, before, reversed, others⟩
    refine ⟨before.reverse, after.reverse, ?_, fun later member => others later (by simpa using member)⟩
    rw [← List.reverse_reverse row, reversed]
    simp
  · rintro ⟨before, after, rfl, others⟩
    exact ⟨after.reverse, before.reverse, by simp, fun later member => others later (by simpa using member)⟩

end Vicinity
