/-! # Finite tables

A table holds at most one value for each key and remembers the order in which the keys were first
put in. `get?` is the view through which a table is read; each operation below comes with the
equation that says what it does to that view. The order of `entries` is only an order of visiting:
no operation looks a value up by its position.
-/

namespace Vicinity

/-- A finite map, listed in the order of first insertion. -/
structure Table (K V : Type) where
  entries : List (K × V)
  nodup : (entries.map Prod.fst).Nodup

namespace Table

variable {K V W : Type}

def empty : Table K V := ⟨[], List.nodup_nil⟩

instance : EmptyCollection (Table K V) := ⟨empty⟩
instance : Inhabited (Table K V) := ⟨empty⟩

def keys (t : Table K V) : List K := t.entries.map Prod.fst
def values (t : Table K V) : List V := t.entries.map Prod.snd
def size (t : Table K V) : Nat := t.entries.length
def isEmpty (t : Table K V) : Bool := t.entries.isEmpty

/-- Replace every value, keeping the keys and their order. -/
def map (f : V → W) (t : Table K V) : Table K W where
  entries := t.entries.map fun entry => (entry.1, f entry.2)
  nodup := by
    have same : (t.entries.map fun entry => (entry.1, f entry.2)).map Prod.fst =
        t.entries.map Prod.fst := by simp
    exact same ▸ t.nodup

/-- Keep the entries that a test accepts. -/
def filter (keep : K → V → Bool) (t : Table K V) : Table K V where
  entries := t.entries.filter fun entry => keep entry.1 entry.2
  nodup := t.nodup.sublist (List.filter_sublist.map Prod.fst)

variable [DecidableEq K]

def get? (t : Table K V) (k : K) : Option V := t.entries.lookup k

def contains (t : Table K V) (k : K) : Bool := (t.get? k).isSome

private theorem lookup_isSome_iff (entries : List (K × V)) (k : K) :
    (entries.lookup k).isSome = true ↔ k ∈ entries.map Prod.fst := by
  induction entries with
  | nil => simp
  | cons entry rest ih =>
    obtain ⟨key, value⟩ := entry
    by_cases same : k = key
    · subst same; simp
    · simp [List.lookup_cons, beq_eq_false_iff_ne.mpr same, same, ih]

theorem contains_iff (t : Table K V) (k : K) : t.contains k = true ↔ k ∈ t.keys :=
  lookup_isSome_iff t.entries k

/-- Put a value under a key that has none; a key that has one keeps it. -/
def insertNew (t : Table K V) (k : K) (v : V) : Table K V :=
  if present : t.contains k then t
  else
    { entries := t.entries ++ [(k, v)]
      nodup := by
        have absent : k ∉ t.entries.map Prod.fst := fun there =>
          present ((t.contains_iff k).2 there)
        rw [List.map_append]
        refine List.nodup_append.2 ⟨t.nodup, by simp, ?_⟩
        rintro key there _ last rfl
        obtain rfl : key = k := by simpa using last
        exact absent there }

/-- Put a value under a key, over the one it may have. -/
def insert (t : Table K V) (k : K) (v : V) : Table K V :=
  if t.contains k then
    { entries := t.entries.map fun entry => (entry.1, if entry.1 = k then v else entry.2)
      nodup := by
        have same : (t.entries.map fun entry => (entry.1, if entry.1 = k then v else entry.2)).map
            Prod.fst = t.entries.map Prod.fst := by simp
        exact same ▸ t.nodup }
  else t.insertNew k v

def erase (t : Table K V) (k : K) : Table K V :=
  t.filter fun key _ => key ≠ k

/-- Drop the entry of a key if its value passes a test. -/
def eraseIf (t : Table K V) (k : K) (drop : V → Bool) : Table K V :=
  match t.get? k with
  | some v => if drop v then t.erase k else t
  | none => t

/-- Build a table from pairs; of two values for one key the later one counts. -/
def ofList (entries : List (K × V)) : Table K V :=
  entries.foldl (fun t entry => t.insert entry.1 entry.2) empty

/-! ## What the operations do to the view -/

omit [DecidableEq K] in
@[simp] theorem size_empty : (empty : Table K V).size = 0 := rfl

@[simp] theorem get?_empty (k : K) : (empty : Table K V).get? k = none := rfl

private theorem lookup_append (left right : List (K × V)) (k : K) :
    (left ++ right).lookup k = (left.lookup k).or (right.lookup k) := by
  induction left with
  | nil => simp
  | cons entry rest ih =>
    obtain ⟨key, value⟩ := entry
    by_cases same : k = key
    · subst same; simp
    · simp [List.lookup_cons, beq_eq_false_iff_ne.mpr same, ih]

theorem get?_insertNew (t : Table K V) (k : K) (v : V) (key : K) :
    (t.insertNew k v).get? key = (t.get? key).or (if key = k then some v else none) := by
  by_cases present : t.contains k
  · simp only [insertNew, present, ↓reduceDIte]
    by_cases same : key = k
    · subst same
      obtain ⟨old, found⟩ := Option.isSome_iff_exists.1 present
      simp [found]
    · simp [same]
  · simp only [insertNew, present, get?, Bool.false_eq_true, ↓reduceDIte, lookup_append]
    congr 1
    by_cases same : key = k
    · subst same; simp
    · simp [List.lookup_cons, beq_eq_false_iff_ne.mpr same, same]

private theorem lookup_replace (entries : List (K × V)) (k key : K) (v : V) :
    (entries.map fun entry => (entry.1, if entry.1 = k then v else entry.2)).lookup key =
      (entries.lookup key).map fun old => if key = k then v else old := by
  induction entries with
  | nil => simp
  | cons entry rest ih =>
    obtain ⟨name, value⟩ := entry
    by_cases same : key = name
    · subst same; simp
    · simp [List.lookup_cons, beq_eq_false_iff_ne.mpr same, ih]

theorem get?_insert (t : Table K V) (k : K) (v : V) (key : K) :
    (t.insert k v).get? key = if key = k then some v else t.get? key := by
  by_cases present : t.contains k
  · simp only [insert, present, ↓reduceIte, get?, lookup_replace]
    by_cases same : key = k
    · subst same
      obtain ⟨old, found⟩ := Option.isSome_iff_exists.1 present
      rw [get?] at found
      simp [found]
    · simp [same]
  · simp only [insert, present, Bool.false_eq_true, ↓reduceIte, get?_insertNew]
    by_cases same : key = k
    · subst same
      have missing : t.get? key = none := by simpa [contains] using present
      simp [missing]
    · simp [same]

private theorem lookup_filter_ne (entries : List (K × V)) (k key : K) :
    (entries.filter fun entry => entry.1 ≠ k).lookup key =
      if key = k then none else entries.lookup key := by
  induction entries with
  | nil => simp
  | cons entry rest ih =>
    obtain ⟨name, value⟩ := entry
    by_cases dropped : name = k
    · subst dropped
      by_cases same : key = name
      · subst same; simpa using ih
      · simpa [List.lookup_cons, beq_eq_false_iff_ne.mpr same, same] using ih
    · by_cases same : key = name
      · subst same; simp [dropped]
      · simpa [List.lookup_cons, beq_eq_false_iff_ne.mpr same, dropped] using ih

theorem get?_erase (t : Table K V) (k key : K) :
    (t.erase k).get? key = if key = k then none else t.get? key :=
  lookup_filter_ne t.entries k key

theorem get?_eraseIf (t : Table K V) (k : K) (drop : V → Bool) (key : K) :
    (t.eraseIf k drop).get? key =
      if key = k ∧ ((t.get? k).map drop).getD false then none else t.get? key := by
  unfold eraseIf
  cases found : t.get? k with
  | none => simp
  | some v =>
    by_cases gone : drop v
    · simp [gone, get?_erase]
    · simp [gone]

private theorem lookup_map_snd (entries : List (K × V)) (f : V → W) (key : K) :
    (entries.map fun entry => (entry.1, f entry.2)).lookup key = (entries.lookup key).map f := by
  induction entries with
  | nil => simp
  | cons entry rest ih =>
    obtain ⟨name, value⟩ := entry
    by_cases same : key = name
    · subst same; simp
    · simp [List.lookup_cons, beq_eq_false_iff_ne.mpr same, ih]

theorem get?_map (f : V → W) (t : Table K V) (key : K) :
    (t.map f).get? key = (t.get? key).map f :=
  lookup_map_snd t.entries f key

end Table

end Vicinity
