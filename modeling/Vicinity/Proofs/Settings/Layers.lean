import Mathlib.Tactic.ByContra
import Mathlib.Tactic.Choose
import Vicinity.Proofs.Settings.Fields
import Vicinity.Proofs.Settings.Validate
import Vicinity.Proofs.Table
import Vicinity.Settings.Layers

/-! # Settings layer by layer

Each setting is what a variable says of it, or what the file says, or its default, whatever is said of
other settings. This takes that variables and the file say things in the right places: a variable
names a setting or nothing among the settings, neither a record of them nor something below one of
them, and the file has tables for records. Where they do not, a value that stands for a whole record
hides what others say of its fields.
-/

namespace Vicinity

namespace Layer

/-- The last value that a layer has for a path. -/
def last? (path : Path) : Layer → Option Tree
  | [] => none
  | (own, value) :: rest => (last? path rest).or (if own = path then some value else none)

theorem last?_append (path : Path) (first second : Layer) :
    Layer.last? path (first ++ second) = (second.last? path).or (first.last? path) := by
  induction first with
  | nil => exact (Option.or_none ..).symm
  | cons said rest ih => rw [List.cons_append, last?, last?, ih, Option.or_assoc]

theorem last?_eq_none {path : Path} {layer : Layer} (silent : ∀ said ∈ layer, said.1 ≠ path) :
    layer.last? path = none := by
  induction layer with
  | nil => rfl
  | cons said rest ih =>
    obtain ⟨different, others⟩ := List.forall_mem_cons.mp silent
    rw [last?, ih others, if_neg different]
    rfl

/-- A layer of single values has each where names lead to, or apart from where they lead. -/
def Apart (names : List String) (layer : Layer) : Prop :=
  ∀ said ∈ layer, said.2.isTable = false ∧
    (said.1 = names.map .name ∨ said.1.parts names = true)

theorem at?_lay {names : List String} {layer : Layer} (apart : layer.Apart names) (t : Tree) :
    (layer.lay t).at? names = (layer.last? (names.map .name)).or (t.at? names) := by
  induction layer generalizing t with
  | nil => rfl
  | cons said rest ih =>
    obtain ⟨path, value⟩ := said
    obtain ⟨⟨plain, own⟩, others⟩ := List.forall_mem_cons.mp apart
    have later := ih others (t.overlayAt path value)
    change (Layer.lay rest (t.overlayAt path value)).at? names = _
    rw [later, last?, Option.or_assoc]
    congr 1
    rcases own with same | parts
    · obtain rfl : path = names.map .name := same
      rw [if_pos rfl, Tree.at?_overlayAt_self plain]
      rfl
    · have different : path ≠ names.map .name := by
        rintro rfl
        exact absurd parts (Bool.eq_false_iff.mp (Path.parts_self names))
      rw [if_neg different, Tree.at?_overlayAt_of_parts parts]
      rfl

theorem isSection_lay {names : List String} {layer : Layer}
    (clear : ∀ said ∈ layer, said.1.clears names = true) {t : Tree}
    (isSection : Tree.IsSection (t.at? names)) : Tree.IsSection ((layer.lay t).at? names) := by
  induction layer generalizing t with
  | nil => exact isSection
  | cons said rest ih =>
    obtain ⟨clears, others⟩ := List.forall_mem_cons.mp clear
    exact ih others (Tree.isSection_overlayAt clears said.2 isSection)

end Layer

theorem Tree.Overlaid.lay {E : Option Tree → Option Tree → Prop} (kept : Overlaid E)
    {names : List String} {t other : Tree} (related : E (t.at? names) (other.at? names))
    (layer : Layer) : E ((layer.lay t).at? names) ((layer.lay other).at? names) := by
  induction layer generalizing t other with
  | nil => exact related
  | cons said rest ih => exact ih (kept.at? related said.1 said.2)

/-- What one variable says, if it counts. -/
def Environment.said? (entry : String × String) : Option (Path × Tree) :=
  (variablePath? entry.1).map fun path => (path, Tree.ofVariable entry.2)

theorem Environment.layer_eq (environment : Environment) :
    environment.layer = environment.entries.filterMap said? := rfl

namespace Setting

/-- The path that leads to a setting. -/
def path (setting : Setting) : Path := setting.place.map .name

/-- What variables say of a setting; of two variables that name it the later one counts. -/
def fromVariables? (environment : Environment) (setting : Setting) : Option Tree :=
  environment.layer.last? setting.path

/-- A setting that one variable names has that variable's value. -/
theorem fromVariables?_of_get? {environment : Environment} {name value : String} {setting : Setting}
    (found : environment.get? name = some value) (names : variablePath? name = some setting.path)
    (only : ∀ other, environment.contains other = true → variablePath? other = some setting.path →
      other = name) :
    setting.fromVariables? environment = some (Tree.ofVariable value) := by
  obtain ⟨before, after, listed, others⟩ := Table.entries_split found
  have silent : Layer.last? setting.path (after.filterMap Environment.said?) = none := by
    refine Layer.last?_eq_none fun said member same => ?_
    obtain ⟨⟨other, content⟩, there, counts⟩ := List.mem_filterMap.mp member
    obtain ⟨path, written, rfl⟩ := Option.map_eq_some_iff.mp counts
    have kept : (other, content) ∈ environment.entries := by
      rw [listed]
      exact List.mem_append_right _ (List.mem_cons_of_mem _ there)
    have set : environment.contains other = true := by
      rw [Table.contains, (environment.mem_entries_iff other content).mp kept]
      rfl
    exact others _ (List.mem_append_right _ there) (only other set (same ▸ written))
  have own : Environment.said? (name, value) = some (setting.path, Tree.ofVariable value) :=
    congrArg (Option.map _) names
  rw [fromVariables?, Environment.layer_eq, listed, List.filterMap_append, Layer.last?_append,
    List.filterMap_cons_some own, Layer.last?, silent, if_pos rfl]
  rfl

/-- The value of a setting by what a variable says of it, or else the file, or else its default. -/
def resolved (said : Tree) (environment : Environment) (setting : Setting) :
    Option setting.Value :=
  setting.value? ((setting.fromVariables? environment).or (said.at? setting.place))

/-! ## Defaults that are laid below -/

/-- What stands in two places comes to the same for a setting: it is the same, or its default in the
one place and nothing in the other. -/
def Same (setting : Setting) (place other : Option Tree) : Prop :=
  place = other ∨ other = none ∧ ∃ absent, place = some absent ∧ absent.entries = [] ∧
    absent.items = [] ∧ setting.read absent = some (setting.get .default)

theorem Same.value?_eq {setting : Setting} {place other : Option Tree}
    (same : setting.Same place other) : setting.value? place = setting.value? other := by
  rcases same with rfl | ⟨rfl, absent, rfl, -, -, reads⟩
  · rfl
  · exact reads

theorem overlaid_same (setting : Setting) : Tree.Overlaid setting.Same where
  refl _ := .inl rfl
  step place other path value same := by
    rcases same with rfl | ⟨rfl, absent, rfl, entries, items, -⟩
    · exact .inl rfl
    · exact .inl (congrArg some (Tree.overlayAt_congr entries items path value))

theorem same_defaultLayer (setting : Setting) :
    setting.Same ((Settings.defaultLayer.lay (.table [])).at? setting.place)
      ((Tree.table []).at? setting.place) := by
  cases setting with
  | brokerKind => exact .inr ⟨rfl, _, rfl, rfl, rfl, rfl⟩
  | channelKind => exact .inr ⟨rfl, _, rfl, rfl, rfl, rfl⟩
  | shards => exact .inr ⟨rfl, _, rfl, rfl, rfl, rfl⟩
  | _ => exact .inl rfl

end Setting

/-! ## Places of variables -/

/-- Every variable that counts names a setting, or else goes apart from all settings: none names a
record of settings, or something in a setting. -/
def Environment.Tidy (environment : Environment) : Prop :=
  ∀ said ∈ environment.layer, ∀ setting : Setting,
    said.1 = setting.path ∨ said.1.parts setting.place = true

namespace Environment

variable {environment : Environment}

theorem isTable_ofVariable (s : String) : (Tree.ofVariable s).isTable = false := by
  rw [Tree.ofVariable]
  split
  · rfl
  · split
    · rfl
    · split <;> rfl

theorem isTable_of_mem_layer {said : Path × Tree} (member : said ∈ environment.layer) :
    said.2.isTable = false := by
  rw [layer_eq] at member
  obtain ⟨entry, -, counts⟩ := List.mem_filterMap.mp member
  obtain ⟨path, -, rfl⟩ := Option.map_eq_some_iff.mp counts
  exact isTable_ofVariable entry.2

theorem Tidy.apart (tidy : environment.Tidy) (setting : Setting) :
    Layer.Apart setting.place environment.layer := fun said member =>
  ⟨isTable_of_mem_layer member, tidy said member setting⟩

/-- Every record has a setting in it, however deep. -/
theorem exists_setting_below : ∀ place ∈ Settings.sections, ∃ (setting : Setting) (more : List String),
    setting.place = place ++ more ∧ setting.path.clears place = true := by
  intro place listed
  simp only [Settings.sections, List.mem_cons, List.not_mem_nil, or_false] at listed
  rcases listed with rfl | rfl | rfl | rfl | rfl | rfl | rfl
  · exact ⟨.uri, _, rfl, rfl⟩
  · exact ⟨.uri, ["uri"], rfl, by decide⟩
  · exact ⟨.world, ["world"], rfl, by decide⟩
  · exact ⟨.poolSize, ["pool_size"], rfl, by decide⟩
  · exact ⟨.level, ["level"], rfl, by decide⟩
  · exact ⟨.consoleFormat, ["format"], rfl, by decide⟩
  · exact ⟨.filename, ["filename"], rfl, by decide⟩

theorem Tidy.clears (tidy : environment.Tidy) {place : List String}
    (listed : place ∈ Settings.sections) :
    ∀ said ∈ environment.layer, said.1.clears place = true := by
  intro said member
  obtain ⟨setting, more, below, clears⟩ := exists_setting_below place listed
  rcases tidy said member setting with same | parts
  · rwa [same]
  · rw [below] at parts
    exact Path.clears_of_parts parts

end Environment

/-! ## Loading -/

namespace Settings

variable {layer : Layer} {environment : Environment}

/-- All layers as one tree, with what the file says given. -/
def stacked (layer : Layer) (environment : Environment) : Tree :=
  environment.layer.lay (layer.lay (defaultLayer.lay (.table [])))

/-- The defaults that are laid below change nothing for any setting. -/
theorem value?_stacked (tidy : environment.Tidy) (setting : Setting) :
    setting.value? ((stacked layer environment).at? setting.place) =
      setting.resolved (layer.lay (.table [])) environment := by
  have same := setting.overlaid_same.lay setting.same_defaultLayer layer
  rw [stacked, Layer.at?_lay (tidy.apart setting), Setting.resolved, Setting.fromVariables?,
    Setting.path]
  cases environment.layer.last? (setting.place.map .name) with
  | none => exact same.value?_eq
  | some value => rfl

theorem sectioned_stacked (tidy : environment.Tidy)
    (sectioned : Tree.Sectioned (layer.lay (.table []))) : (stacked layer environment).Sectioned := by
  have defaults : ∀ place ∈ sections, Tree.IsSection ((defaultLayer.lay (.table [])).at? place) := by
    decide
  intro place listed
  refine Layer.isSection_lay (tidy.clears listed) ?_
  exact Tree.overlaid_isSection.lay (fun _ => defaults place listed) layer (sectioned place listed)

/-- Loading goes setting by setting. Settings are loaded if each of them is resolved and all of them
together pass the check; the error of the check is reported; and a setting that is not resolved makes
what is said unreadable. -/
structure Layered (said : Tree) (environment : Environment) (result : Except LoadError Settings) :
    Prop where
  loads : ∀ s : Settings, result = .ok s ↔
    (∀ setting : Setting, setting.resolved said environment = some (setting.get s)) ∧
      s.validate = .ok ()
  invalid : ∀ e, result = .error (.invalid e) ↔ ∃ s : Settings,
    (∀ setting : Setting, setting.resolved said environment = some (setting.get s)) ∧
      s.validate = .error e
  unreadable : result = .error .unreadable ↔
    ∃ setting : Setting, setting.resolved said environment = none

namespace Layered

variable {said : Tree}

/-- If there are no settings to be loaded, some setting is missing. -/
theorem of_unresolved (unresolved : ∀ s : Settings, ¬ ∀ setting : Setting,
    setting.resolved said environment = some (setting.get s)) :
    Layered said environment (.error .unreadable) := by
  refine ⟨fun s => iff_of_false nofun fun both => unresolved s both.1,
    fun e => iff_of_false nofun fun ⟨s, both⟩ => unresolved s both.1, iff_of_true rfl ?_⟩
  by_contra complete
  have there (setting : Setting) : ∃ value, setting.resolved said environment = some value := by
    rw [← Option.ne_none_iff_exists']
    exact fun missing => complete ⟨setting, missing⟩
  choose value found using there
  refine unresolved (Setting.assemble value) fun setting => ?_
  rw [found, Setting.get_assemble]

variable {s : Settings}
  (resolved : ∀ setting : Setting, setting.resolved said environment = some (setting.get s))
include resolved

theorem only (other : Settings) : (∀ setting : Setting,
    setting.resolved said environment = some (setting.get other)) ↔ s = other := by
  constructor
  · intro also
    exact Setting.ext fun setting => Option.some.inj ((resolved setting).symm.trans (also setting))
  · rintro rfl
    exact resolved

theorem complete : ¬ ∃ setting : Setting, setting.resolved said environment = none := by
  rintro ⟨setting, missing⟩
  rw [resolved setting] at missing
  contradiction

theorem of_valid (valid : s.validate = .ok ()) : Layered said environment (.ok s) := by
  refine ⟨fun other => ?loads, fun e => ?invalid, iff_of_false nofun (complete resolved)⟩
  case loads =>
    rw [only resolved, Except.ok.injEq]
    constructor
    · rintro rfl
      exact ⟨rfl, valid⟩
    · exact And.left
  case invalid =>
    simp only [only resolved, exists_eq_left', valid, reduceCtorEq]

theorem of_invalid {e : ConfigError} (invalid : s.validate = .error e) :
    Layered said environment (.error (.invalid e)) := by
  refine ⟨fun other => ?loads, fun other => ?invalid, iff_of_false nofun (complete resolved)⟩
  case loads =>
    rw [only resolved]
    refine iff_of_false nofun ?_
    rintro ⟨rfl, passes⟩
    rw [invalid] at passes
    contradiction
  case invalid =>
    simp only [only resolved, exists_eq_left', invalid, Except.error.injEq, LoadError.invalid.injEq]

end Layered

/-- Loading goes setting by setting, if the file can be read and has tables for records, and the
variables name settings or go apart from them. -/
theorem load_layered {file : Option SettingsFile} (written : fileLayer? file = some layer)
    (sectioned : Tree.Sectioned (layer.lay (.table []))) (tidy : environment.Tidy) :
    Layered (layer.lay (.table [])) environment (load file environment) := by
  have layers : layered? file environment = some (stacked layer environment) := by
    rw [layered?, written]
    rfl
  have reads (s : Settings) : Reading.loose.settings (stacked layer environment) = some s ↔
      ∀ setting : Setting, setting.resolved (layer.lay (.table [])) environment =
        some (setting.get s) := by
    rw [Reading.settings_eq_some_iff s (sectioned_stacked tidy sectioned)]
    simp only [Setting.Holds, value?_stacked tidy]
  rw [load, layers, Option.bind_some]
  cases read : Reading.loose.settings (stacked layer environment) with
  | none =>
    refine Layered.of_unresolved fun s resolved => ?_
    rw [← reads, read] at resolved
    contradiction
  | some s =>
    have resolved := (reads s).mp read
    dsimp only
    cases checked : s.validate with
    | error e => exact Layered.of_invalid resolved checked
    | ok => exact Layered.of_valid resolved checked

/-- A variable changes the kind of the broker and the file the number of shards, and each leaves the
other fields of the record as they are. -/
theorem load_layered_partly :
    let file : SettingsFile := ⟨.json, some "\x7b\"broker\":\x7b\"shards\":4\x7d\x7d"⟩
    let layer : Layer := [([.name "broker"], .table [("shards", .integer 4)])]
    let environment : Environment := (∅ : Environment).insert "REGIONBUS_BROKER__KIND" "sharded"
    let s : Settings := { Settings.default with broker := ⟨"sharded", "Concurrent", 4, none⟩ }
    fileLayer? (some file) = some layer ∧ Tree.Sectioned (layer.lay (.table [])) ∧
    environment.Tidy ∧ load (some file) environment = .ok s := by
  intro file layer environment s
  have valid : s.validate = .ok () := by
    decide +kernel
  have written : fileLayer? (some file) = some layer := by
    with_unfolding_all rfl
  have sectioned : Tree.Sectioned (layer.lay (.table [])) := by
    rw [Tree.Sectioned]
    decide
  have said : environment.layer =
      [([.name "broker", .name "kind"], .text "sharded")] := by
    with_unfolding_all rfl
  have tidy : environment.Tidy := by
    intro value member setting
    rw [said] at member
    obtain rfl := List.mem_singleton.mp member
    cases setting <;> decide
  have layered := load_layered written sectioned tidy
  refine ⟨written, sectioned, tidy, (layered.loads s).mpr ⟨fun setting => ?_, valid⟩⟩
  rw [Setting.resolved, Setting.fromVariables?, said]
  cases setting <;> rfl

/-- Loading goes setting by setting neither with a variable that names a record, whatever the file is,
nor with a file that has a text for a record, whatever the variables are: the text hides the defaults
of the record's fields, and nothing can be read. -/
theorem not_layered_of_hidden_records :
    (¬ ∀ (file : Option SettingsFile) (layer : Layer) (environment : Environment),
      fileLayer? file = some layer → Tree.Sectioned (layer.lay (.table [])) →
        Layered (layer.lay (.table [])) environment (load file environment)) ∧
    ¬ ∀ (file : Option SettingsFile) (layer : Layer) (environment : Environment),
      fileLayer? file = some layer → environment.Tidy →
        Layered (layer.lay (.table [])) environment (load file environment) := by
  refine ⟨fun layered => ?environment, fun layered => ?file⟩
  case environment =>
    let environment : Environment := (∅ : Environment).insert "REGIONBUS_BROKER" "x"
    have sectioned : Tree.Sectioned (Layer.lay [] (.table [])) := by
      rw [Tree.Sectioned]
      decide
    have said : environment.layer = [([.name "broker"], .text "x")] := by
      with_unfolding_all rfl
    have hidden : load none environment = .error .unreadable := by
      rw [load, layered?, said]
      rfl
    obtain ⟨setting, missing⟩ := (layered none [] environment rfl sectioned).unreadable.mp hidden
    have default : setting.resolved (Layer.lay [] (.table [])) environment =
        some (setting.get .default) := by
      rw [Setting.resolved, Setting.fromVariables?, said]
      cases setting <;> rfl
    exact Option.some_ne_none _ (default.symm.trans missing)
  case file =>
    let file : SettingsFile := ⟨.json, some "\x7b\"broker\":\"x\"\x7d"⟩
    let layer : Layer := [([.name "broker"], .text "x")]
    have written : fileLayer? (some file) = some layer := by
      with_unfolding_all rfl
    have tidy : Environment.Tidy ∅ := nofun
    have hidden : load (some file) ∅ = .error .unreadable := by
      rw [load, layered?, written]
      rfl
    obtain ⟨setting, missing⟩ := (layered (some file) layer ∅ written tidy).unreadable.mp hidden
    have default : setting.resolved (layer.lay (.table [])) ∅ = some (setting.get .default) := by
      cases setting <;> rfl
    exact Option.some_ne_none _ (default.symm.trans missing)

end Settings

end Vicinity
