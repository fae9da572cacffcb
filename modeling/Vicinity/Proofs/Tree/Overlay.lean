import Vicinity.Tree.Path

/-! # What is laid over what

Trees that are laid over one another are read name by name. A value that is laid over what stands at
a path of names stands there afterwards, unless it is a table. What stands under other names stays,
and a table stays a table while something is laid over what is in it. Where two trees differ in what
is no table and no list, laying anything over both at one place makes them the same there.
-/

namespace Vicinity

namespace Tree

/-- What stands under names, one below the other. -/
def at? : Tree → List String → Option Tree
  | t, [] => some t
  | t, name :: rest => (t.entries.get? name).bind fun below => below.at? rest

def isTable : Tree → Bool
  | table _ => true
  | _ => false

/-- What stands at a place, if anything does, is a table. -/
def IsSection (place : Option Tree) : Prop := place.all isTable = true

instance (place : Option Tree) : Decidable (IsSection place) := instDecidableEqBool _ _

theorem at?_append (t : Tree) (names more : List String) :
    t.at? (names ++ more) = (t.at? names).bind fun below => below.at? more := by
  induction names generalizing t with
  | nil => rfl
  | cons name rest ih =>
    rw [List.cons_append, at?, at?, Option.bind_assoc]
    simp only [ih]

/-- Below a place where nothing stands there is nothing, as there is nothing below null. -/
theorem bind_at?_cons (place : Option Tree) (name : String) (rest : List String) :
    (place.bind fun below => below.at? (name :: rest)) =
      ((place.getD null).entries.get? name).bind fun below => below.at? rest := by
  cases place <;> rfl

/-! ## Laying over -/

theorem overlay_of_not_table {value : Tree} (plain : value.isTable = false) (lower : Tree) :
    overlay lower value = value := by
  cases value with
  | table entries => contradiction
  | _ => rfl

theorem get?_entries_overlayAt_name (t : Tree) (name : String) (path : Path) (value : Tree)
    (key : String) :
    (t.overlayAt (.name name :: path) value).entries.get? key =
      if key = name then some (((t.entries.get? name).getD null).overlayAt path value)
      else t.entries.get? key :=
  Entries.get?_put ..

/-- Laying a value over a place only depends on the entries and items that are there. -/
theorem overlayAt_congr {t other : Tree} (entries : t.entries = other.entries)
    (items : t.items = other.items) (path : Path) (value : Tree) :
    t.overlayAt path value = other.overlayAt path value := by
  cases path with
  | nil =>
    cases value with
    | table upper =>
      change table (overlayEntries t.entries upper) = table (overlayEntries other.entries upper)
      rw [entries]
    | _ => rfl
  | cons step rest =>
    cases step with
    | name name =>
      simp only [overlayAt, alter, entry, entries]
    | position i =>
      simp only [overlayAt, alter, items]

/-- Whether a table comes of it depends on what is laid over what is there, not on what is there. -/
theorem isTable_overlayAt (t other : Tree) (path : Path) (value : Tree) :
    (t.overlayAt path value).isTable = (other.overlayAt path value).isTable := by
  cases path with
  | nil => cases value <;> rfl
  | cons step rest => cases step <;> rfl

/-- A relation between what stands at one place in two trees that is kept when a value is laid over
both. -/
structure Overlaid (E : Option Tree → Option Tree → Prop) : Prop where
  refl : ∀ place, E place place
  step : ∀ place other path value, E place other →
    E (some ((place.getD null).overlayAt path value)) (some ((other.getD null).overlayAt path value))

namespace Overlaid

variable {E : Option Tree → Option Tree → Prop}

/-- What is kept where values are laid over trees is kept at every place of them, since a table is
laid over another one entry by entry. -/
theorem bind_at? (kept : Overlaid E) (names : List String) (path : Path) (value : Tree)
    {place other : Option Tree}
    (related : E (place.bind fun below => below.at? names) (other.bind fun below => below.at? names)) :
    E (((place.getD null).overlayAt path value).at? names)
      (((other.getD null).overlayAt path value).at? names) := by
  induction names generalizing path value place other with
  | nil =>
    have same (place : Option Tree) : (place.bind fun below => below.at? []) = place := by
      cases place <;> rfl
    rw [same, same] at related
    exact kept.step place other path value related
  | cons name rest ih =>
    rw [bind_at?_cons, bind_at?_cons] at related
    generalize place.getD null = t at related ⊢
    generalize other.getD null = t' at related ⊢
    have put {lower lower' : Entries Tree}
        (related : E ((lower.get? name).bind fun below => below.at? rest)
          ((lower'.get? name).bind fun below => below.at? rest))
        (key : String) (path : Path) (value : Tree) :
        E (((Entries.put key (((lower.get? key).getD null).overlayAt path value) lower).get?
            name).bind fun below => below.at? rest)
          (((Entries.put key (((lower'.get? key).getD null).overlayAt path value) lower').get?
            name).bind fun below => below.at? rest) := by
      rw [Entries.get?_put, Entries.get?_put]
      split
      case isTrue same =>
        subst same
        exact ih path value related
      case isFalse => exact related
    cases path with
    | cons step more =>
      cases step with
      | name key => exact put related key more value
      | position i => exact kept.refl none
    | nil =>
      cases value with
      | table upper =>
        change E (((overlayEntries t.entries upper).get? name).bind fun below => below.at? rest)
          (((overlayEntries t'.entries upper).get? name).bind fun below => below.at? rest)
        generalize t.entries = lower at related ⊢
        generalize t'.entries = lower' at related ⊢
        induction upper generalizing lower lower' with
        | nil => exact related
        | cons entry others inner => exact inner _ _ (put related entry.1 [] entry.2)
      | _ => exact kept.refl _

theorem at? (kept : Overlaid E) {names : List String} {t other : Tree}
    (related : E (t.at? names) (other.at? names)) (path : Path) (value : Tree) :
    E ((t.overlayAt path value).at? names) ((other.overlayAt path value).at? names) := by
  have places : E ((some t).bind fun below => below.at? names)
      ((some other).bind fun below => below.at? names) := related
  exact kept.bind_at? names path value places

end Overlaid

/-- What is a section in one tree is one in another as well. -/
theorem overlaid_isSection : Overlaid fun place other => IsSection other → IsSection place where
  refl _ := id
  step place other path value _ isSection :=
    (isTable_overlayAt (place.getD null) (other.getD null) path value).trans isSection

end Tree

/-! ## Paths that part -/

namespace Path

/-- A path goes another way than names do: at some step it takes another name. -/
def parts : Path → List String → Bool
  | .name own :: rest, name :: names => own != name || parts rest names
  | _, _ => false

/-- A path goes another way than names do, or further down by a name. -/
def clears : Path → List String → Bool
  | .name own :: rest, name :: names => own != name || clears rest names
  | .name _ :: _, [] => true
  | _, _ => false

theorem parts_self (names : List String) : parts (names.map .name) names = false := by
  induction names with
  | nil => rfl
  | cons name rest ih => rw [List.map_cons, parts, ih, Bool.or_false, bne_self_eq_false]

theorem clears_of_parts {path : Path} {names more : List String}
    (parts : path.parts (names ++ more) = true) : path.clears names = true := by
  induction names generalizing path with
  | nil =>
    cases path with
    | nil => contradiction
    | cons step rest =>
      cases step with
      | name own => rfl
      | position i => contradiction
  | cons name names ih =>
    cases path with
    | nil => contradiction
    | cons step rest =>
      cases step with
      | position i => contradiction
      | name own =>
        rw [List.cons_append, Path.parts, Bool.or_eq_true] at parts
        rw [clears, Bool.or_eq_true]
        exact parts.imp_right ih

end Path

namespace Tree

/-- What is laid over the place under names stands there. -/
theorem at?_overlayAt_self {value : Tree} (plain : value.isTable = false) (t : Tree)
    (names : List String) : (t.overlayAt (names.map .name) value).at? names = some value := by
  induction names generalizing t with
  | nil => exact congrArg some (overlay_of_not_table plain t)
  | cons name rest ih =>
    rw [List.map_cons, at?, get?_entries_overlayAt_name, if_pos rfl]
    exact ih _

private theorem at?_getD_overlayAt_of_parts {path : Path} {names : List String}
    (parts : path.parts names = true) (value : Tree) (place : Option Tree) :
    ((place.getD null).overlayAt path value).at? names = place.bind fun below => below.at? names := by
  induction names generalizing path place with
  | nil =>
    rw [Path.parts] at parts
    · contradiction
    · exact nofun
  | cons name rest ih =>
    cases path with
    | nil => contradiction
    | cons step more =>
      cases step with
      | position i => contradiction
      | name own =>
        rw [Path.parts, Bool.or_eq_true, bne_iff_ne] at parts
        rw [bind_at?_cons, at?, get?_entries_overlayAt_name]
        split
        case isFalse => rfl
        case isTrue same =>
          subst same
          exact ih (parts.resolve_left fun different => different rfl) _

/-- What is laid elsewhere leaves a place as it is. -/
theorem at?_overlayAt_of_parts {path : Path} {names : List String} (parts : path.parts names = true)
    (t value : Tree) : (t.overlayAt path value).at? names = t.at? names :=
  at?_getD_overlayAt_of_parts parts value (some t)

private theorem isSection_bind_overlayAt {path : Path} {names : List String}
    (clears : path.clears names = true) (value : Tree) {place : Option Tree}
    (isSection : IsSection (place.bind fun below => below.at? names)) :
    IsSection (((place.getD null).overlayAt path value).at? names) := by
  induction names generalizing path place with
  | nil =>
    cases path with
    | nil => contradiction
    | cons step more =>
      cases step with
      | position i => contradiction
      | name own => rfl
  | cons name rest ih =>
    cases path with
    | nil => contradiction
    | cons step more =>
      cases step with
      | position i => contradiction
      | name own =>
        rw [Path.clears, Bool.or_eq_true, bne_iff_ne] at clears
        rw [bind_at?_cons] at isSection
        rw [at?, get?_entries_overlayAt_name]
        split
        case isFalse => exact isSection
        case isTrue same =>
          subst same
          exact ih (clears.resolve_left fun different => different rfl) isSection

/-- A section stays one when something is laid elsewhere or over what is in it. -/
theorem isSection_overlayAt {path : Path} {names : List String} (clears : path.clears names = true)
    (value : Tree) {t : Tree} (isSection : IsSection (t.at? names)) :
    IsSection ((t.overlayAt path value).at? names) := by
  have place : IsSection ((some t).bind fun below => below.at? names) := isSection
  exact isSection_bind_overlayAt clears value place

end Tree

end Vicinity
