import Mathlib.Data.Set.Card
import Vicinity.Table

/-! # Entries and size of tables

The view `get?` says all there is to say about which pairs a table holds. These lemmas tie the list
of entries and its length to that view, so that later arguments about tables never open the list.
-/

namespace Vicinity.Table

variable {K V : Type}

theorem eq_of_entries {left right : Table K V} (same : left.entries = right.entries) :
    left = right := by
  cases left
  cases right
  cases same
  rfl

theorem eq_empty_of_isEmpty {t : Table K V} (blank : t.isEmpty = true) : t = ∅ :=
  eq_of_entries (List.isEmpty_iff.mp blank)

/-- The same entries in another order. -/
def arrange (t : Table K V) {order : List (K × V)} (arranged : order.Perm t.entries) : Table K V :=
  ⟨order, (arranged.map Prod.fst).nodup_iff.mpr t.nodup⟩

theorem length_keys (t : Table K V) : t.keys.length = t.size := by
  simp only [keys, size, List.length_map]

variable [DecidableEq K]

private theorem lookup_eq_some_iff (entries : List (K × V)) (distinct : (entries.map Prod.fst).Nodup)
    (k : K) (v : V) : entries.lookup k = some v ↔ (k, v) ∈ entries := by
  induction entries with
  | nil => simp
  | cons entry rest ih =>
    obtain ⟨key, value⟩ := entry
    rw [List.map_cons, List.nodup_cons] at distinct
    by_cases same : k = key
    · subst same
      have absent : (k, v) ∉ rest := fun there => distinct.1 (List.mem_map.mpr ⟨(k, v), there, rfl⟩)
      simp [absent, eq_comm]
    · simp [List.lookup_cons, beq_eq_false_iff_ne.mpr same, same, ih distinct.2]

/-- A pair stands in a table exactly if the view shows it. -/
theorem mem_entries_iff (t : Table K V) (k : K) (v : V) :
    (k, v) ∈ t.entries ↔ t.get? k = some v :=
  (lookup_eq_some_iff t.entries t.nodup k v).symm

/-- The order of the entries does not show in the view. -/
theorem get?_arrange (t : Table K V) {order : List (K × V)} (arranged : order.Perm t.entries) :
    (t.arrange arranged).get? = t.get? := by
  funext k
  refine Option.ext fun v => ?_
  rw [← mem_entries_iff, ← mem_entries_iff]
  exact arranged.mem_iff

theorem mem_values_iff (t : Table K V) (v : V) : v ∈ t.values ↔ ∃ k, t.get? k = some v := by
  simp only [values, List.mem_map, ← mem_entries_iff, Prod.exists, exists_eq_right]

theorem isEmpty_iff (t : Table K V) : t.isEmpty = true ↔ ∀ k, t.get? k = none := by
  rw [isEmpty, List.isEmpty_iff, List.eq_nil_iff_forall_not_mem]
  constructor
  · intro none k
    refine Option.eq_none_iff_forall_ne_some.mpr fun v found => ?_
    exact none (k, v) ((t.mem_entries_iff k v).mpr found)
  · rintro none ⟨k, v⟩ there
    rw [mem_entries_iff, none k] at there
    contradiction

theorem isEmpty_eq_false_iff (t : Table K V) : t.isEmpty = false ↔ ∃ k v, t.get? k = some v := by
  rw [← Bool.not_eq_true, isEmpty_iff]
  simp only [not_forall, ← ne_eq, Option.ne_none_iff_exists']

theorem get?_eq_none_iff (t : Table K V) (k : K) : t.get? k = none ↔ t.contains k = false := by
  simp [contains]

/-- The size of a table is the number of its keys. -/
theorem encard_keys (t : Table K V) : {k | t.contains k = true}.encard = t.size := by
  have listed : {k | t.contains k = true} = (t.keys.toFinset : Set K) := by
    ext k
    simp [contains_iff]
  have counted : t.keys.toFinset.card = t.keys.length := List.toFinset_card_of_nodup t.nodup
  rw [listed, Set.encard_coe_eq_coe_finsetCard, counted, length_keys]

theorem insertNew_of_present {t : Table K V} {k : K} (present : t.contains k = true) (v : V) :
    t.insertNew k v = t := by
  simp only [insertNew, present, ↓reduceDIte]

theorem insert_of_absent {t : Table K V} {k : K} (absent : t.contains k = false) (v : V) :
    t.insert k v = t.insertNew k v := by
  simp only [insert, absent, Bool.false_eq_true, ↓reduceIte]

theorem entries_insert_of_absent {t : Table K V} {k : K} (absent : t.contains k = false) (v : V) :
    (t.insert k v).entries = t.entries ++ [(k, v)] := by
  rw [insert_of_absent absent]
  simp only [insertNew, absent, Bool.false_eq_true, ↓reduceDIte]

/-- Putting in what is there already changes nothing. -/
theorem insert_of_get? {t : Table K V} {k : K} {v : V} (found : t.get? k = some v) :
    t.insert k v = t := by
  have present : t.contains k = true := by rw [contains, found, Option.isSome_some]
  have same : t.entries.map (fun entry => (entry.1, if entry.1 = k then v else entry.2)) =
      t.entries := by
    refine (List.map_congr_left ?_).trans (List.map_id' _)
    rintro ⟨key, old⟩ there
    by_cases own : key = k
    · rw [mem_entries_iff, own, found] at there
      rw [if_pos own, Option.some.inj there]
    · rw [if_neg own]
  refine eq_of_entries ?_
  simp only [insert, present, ↓reduceIte]
  exact same

theorem erase_of_absent {t : Table K V} {k : K} (absent : t.contains k = false) : t.erase k = t := by
  refine eq_of_entries (List.filter_eq_self.mpr ?_)
  rintro ⟨key, v⟩ there
  have found := (t.mem_entries_iff key v).mp there
  refine decide_eq_true ?_
  rintro rfl
  rw [(t.get?_eq_none_iff key).mpr absent] at found
  contradiction

private theorem lookup_filter (entries : List (K × V)) (distinct : (entries.map Prod.fst).Nodup)
    (keep : K → V → Bool) (k : K) :
    (entries.filter fun entry => keep entry.1 entry.2).lookup k =
      (entries.lookup k).filter (keep k) := by
  refine Option.ext fun v => ?_
  have kept := distinct.sublist
    ((List.filter_sublist (p := fun entry : K × V => keep entry.1 entry.2)).map Prod.fst)
  simp only [lookup_eq_some_iff _ kept, List.mem_filter, Option.filter_eq_some_iff,
    lookup_eq_some_iff _ distinct]

theorem get?_filter (keep : K → V → Bool) (t : Table K V) (k : K) :
    (t.filter keep).get? k = (t.get? k).filter (keep k) :=
  lookup_filter t.entries t.nodup keep k

/-- An entry stands in one place, and no other entry has its key. -/
theorem entries_split {t : Table K V} {k : K} {v : V} (found : t.get? k = some v) :
    ∃ before after, t.entries = before ++ (k, v) :: after ∧ ∀ entry ∈ before ++ after, entry.1 ≠ k := by
  obtain ⟨before, after, listed⟩ := List.append_of_mem ((t.mem_entries_iff k v).mpr found)
  refine ⟨before, after, listed, fun entry member same => ?_⟩
  have distinct := t.nodup
  rw [listed, List.map_append, List.map_cons, List.nodup_middle, List.nodup_cons] at distinct
  rw [← List.map_append] at distinct
  exact distinct.1 (List.mem_map.mpr ⟨entry, member, same⟩)

end Vicinity.Table
