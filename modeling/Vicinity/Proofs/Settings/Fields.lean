import Vicinity.Proofs.Tree.Overlay
import Vicinity.Settings.Loose

/-! # Single settings

Settings are a record of records. Taken apart they are single settings, each with the names that lead
to it, the type it has and the way it is read. A tree in which every section is a table is read one
setting at a time: each is read from what stands at its place, or is the default if nothing does.
-/

namespace Vicinity

/-- A field of the settings that is no record itself. -/
inductive Setting where
  | brokerKind
  | channelKind
  | shards
  | uri
  | world
  | viewDistance
  | dyconit
  | poolSize
  | level
  | directives
  | directory
  | consoleEnabled
  | consoleFormat
  | withColour
  | withTarget
  | withThreadNames
  | withLineNumbers
  | fileEnabled
  | filename
deriving DecidableEq, Repr, Inhabited

namespace Setting

/-- The names that lead to a setting. -/
def place : Setting → List String
  | brokerKind => ["broker", "kind"]
  | channelKind => ["broker", "channel"]
  | shards => ["broker", "shards"]
  | uri => ["broker", "uri"]
  | world => ["policy", "world"]
  | viewDistance => ["policy", "view_distance"]
  | dyconit => ["policy", "dyconit"]
  | poolSize => ["executor", "pool_size"]
  | level => ["logging", "level"]
  | directives => ["logging", "directives"]
  | directory => ["logging", "log_dir"]
  | consoleEnabled => ["logging", "console", "enabled"]
  | consoleFormat => ["logging", "console", "format"]
  | withColour => ["logging", "console", "with_ansi"]
  | withTarget => ["logging", "console", "with_target"]
  | withThreadNames => ["logging", "console", "with_thread_names"]
  | withLineNumbers => ["logging", "console", "with_line_numbers"]
  | fileEnabled => ["logging", "file", "enabled"]
  | filename => ["logging", "file", "filename"]

def Value : Setting → Type
  | brokerKind | channelKind | level | directory | filename => String
  | uri | dyconit => Option String
  | shards => Nat
  | world => WorldId
  | viewDistance => UInt32
  | poolSize => Option Nat
  | directives => List String
  | consoleFormat => LineFormat
  | consoleEnabled | withColour | withTarget | withThreadNames | withLineNumbers | fileEnabled => Bool

/-- The value that a setting has. -/
def get (s : Settings) : (setting : Setting) → setting.Value
  | brokerKind => s.broker.kind
  | channelKind => s.broker.channel
  | shards => s.broker.shards
  | uri => s.broker.uri
  | world => s.policy.world
  | viewDistance => s.policy.viewDistance
  | dyconit => s.policy.dyconit
  | poolSize => s.executor.poolSize
  | level => s.logging.level
  | directives => s.logging.directives
  | directory => s.logging.directory
  | consoleEnabled => s.logging.console.enabled
  | consoleFormat => s.logging.console.format
  | withColour => s.logging.console.withColour
  | withTarget => s.logging.console.withTarget
  | withThreadNames => s.logging.console.withThreadNames
  | withLineNumbers => s.logging.console.withLineNumbers
  | fileEnabled => s.logging.file.enabled
  | filename => s.logging.file.filename

/-- Settings with given values. -/
def assemble (value : (setting : Setting) → setting.Value) : Settings where
  broker := ⟨value brokerKind, value channelKind, value shards, value uri⟩
  policy := ⟨value world, value viewDistance, value dyconit⟩
  executor := ⟨value poolSize⟩
  logging := ⟨value level, value directives, value directory,
    ⟨value consoleEnabled, value consoleFormat, value withColour, value withTarget,
      value withThreadNames, value withLineNumbers⟩,
    ⟨value fileEnabled, value filename⟩⟩

theorem get_assemble (value : (setting : Setting) → setting.Value) (setting : Setting) :
    setting.get (assemble value) = value setting := by
  cases setting <;> rfl

/-- Settings are told apart by single settings. -/
theorem ext {s other : Settings} (same : ∀ setting : Setting, setting.get s = setting.get other) :
    s = other :=
  congrArg assemble (funext same)

/-- How the value of a setting is read from what stands at its place. -/
def read : (setting : Setting) → Tree → Option setting.Value
  | brokerKind | channelKind | level | directory | filename => Reading.loose.text
  | uri | dyconit => Reading.loose.optional Reading.loose.text
  | shards => Reading.loose.count
  | world => fun value => (Reading.loose.word32 value).map WorldId.mk
  | viewDistance => Reading.loose.word32
  | poolSize => Reading.loose.optional Reading.loose.count
  | directives => Reading.loose.texts
  | consoleFormat => Reading.loose.format
  | consoleEnabled | withColour | withTarget | withThreadNames | withLineNumbers | fileEnabled =>
    Reading.loose.flag

/-- The value of a setting by what stands at its place. -/
def value? (setting : Setting) (found : Option Tree) : Option setting.Value :=
  Reading.orDefault setting.read (setting.get .default) found

/-- A tree holds the value that a setting has. -/
def Holds (t : Tree) (s : Settings) (setting : Setting) : Prop :=
  setting.value? (t.at? setting.place) = some (setting.get s)

end Setting

/-- The places of the records among the settings. -/
def Settings.sections : List (List String) :=
  [[], ["broker"], ["policy"], ["executor"], ["logging"], ["logging", "console"], ["logging", "file"]]

/-- Whatever stands in the place of a record is a table. -/
def Tree.Sectioned (t : Tree) : Prop := ∀ place ∈ Settings.sections, IsSection (t.at? place)

namespace Reading

/-- A record that is missing is read as one without fields. -/
theorem orDefault_eq_of_isSection {B : Type} {read : Tree → Option B} {absent : B}
    (blank : read (.table []) = some absent) {place : Option Tree}
    (isSection : Tree.IsSection place) :
    orDefault read absent place = read (.table (place.getD .null).entries) := by
  cases place with
  | none => exact blank.symm
  | some t =>
    cases t with
    | table entries => rfl
    | _ => contradiction

theorem get?_entries_at? (t : Tree) (names : List String) (name : String) :
    ((t.at? names).getD .null).entries.get? name = t.at? (names ++ [name]) := by
  rw [Tree.at?_append, Tree.bind_at?_cons]
  exact (Option.bind_fun_some _).symm

/-- In a section a record is read from what stands under the names of its fields. -/
theorem orDefault_record {B : Type} {t : Tree} {names place : List String} {absent : B}
    {build : (String → Option Tree) → Option B} (blank : build (fun _ => none) = some absent)
    (isSection : Tree.IsSection (t.at? place)) :
    orDefault (fun value => loose.fields names value >>= build) absent (t.at? place) =
      build fun name => t.at? (place ++ [name]) := by
  rw [orDefault_eq_of_isSection blank isSection]
  change build ((t.at? place).getD .null).entries.get? = _
  exact congrArg build (funext (get?_entries_at? t place))

/-! ## Records -/

variable {t : Tree} (s : Settings)

open Setting

theorem broker_eq_some_iff (isSection : Tree.IsSection (t.at? ["broker"])) :
    orDefault loose.broker .default (t.at? ["broker"]) = some s.broker ↔
      brokerKind.Holds t s ∧ channelKind.Holds t s ∧ shards.Holds t s ∧ uri.Holds t s := by
  have record : orDefault loose.broker .default (t.at? ["broker"]) = _ :=
    orDefault_record rfl isSection
  simp only [record, Option.bind_eq_bind, Option.bind_eq_some_iff]
  obtain ⟨_, _, _, _, _, _, _, _⟩ := s
  constructor
  · rintro ⟨_, kind, _, channel, _, shards, _, uri, ⟨⟩⟩
    exact ⟨kind, channel, shards, uri⟩
  · rintro ⟨kind, channel, shards, uri⟩
    exact ⟨_, kind, _, channel, _, shards, _, uri, rfl⟩

theorem policy_eq_some_iff (isSection : Tree.IsSection (t.at? ["policy"])) :
    orDefault loose.policy .default (t.at? ["policy"]) = some s.policy ↔
      world.Holds t s ∧ viewDistance.Holds t s ∧ dyconit.Holds t s := by
  have record : orDefault loose.policy .default (t.at? ["policy"]) = _ :=
    orDefault_record rfl isSection
  simp only [record, Option.bind_eq_bind, Option.bind_eq_some_iff]
  obtain ⟨_, _, _, _, _, _, _, _⟩ := s
  constructor
  · rintro ⟨_, world, _, distance, _, dyconit, ⟨⟩⟩
    exact ⟨world, distance, dyconit⟩
  · rintro ⟨world, distance, dyconit⟩
    exact ⟨_, world, _, distance, _, dyconit, rfl⟩

theorem executor_eq_some_iff (isSection : Tree.IsSection (t.at? ["executor"])) :
    orDefault loose.executor .default (t.at? ["executor"]) = some s.executor ↔
      poolSize.Holds t s := by
  have record : orDefault loose.executor .default (t.at? ["executor"]) = _ :=
    orDefault_record rfl isSection
  simp only [record, Option.bind_eq_bind, Option.bind_eq_some_iff]
  obtain ⟨_, _, _, _, _, _, _, _⟩ := s
  constructor
  · rintro ⟨_, poolSize, ⟨⟩⟩
    exact poolSize
  · intro poolSize
    exact ⟨_, poolSize, rfl⟩

theorem console_eq_some_iff (isSection : Tree.IsSection (t.at? ["logging", "console"])) :
    orDefault loose.console .default (t.at? ["logging", "console"]) = some s.logging.console ↔
      consoleEnabled.Holds t s ∧ consoleFormat.Holds t s ∧ withColour.Holds t s ∧
      withTarget.Holds t s ∧ withThreadNames.Holds t s ∧ withLineNumbers.Holds t s := by
  have record : orDefault loose.console .default (t.at? ["logging", "console"]) = _ :=
    orDefault_record rfl isSection
  simp only [record, Option.bind_eq_bind, Option.bind_eq_some_iff]
  obtain ⟨_, _, _, _, _, _, _, _⟩ := s
  constructor
  · rintro ⟨_, enabled, _, format, _, colour, _, target, _, threads, _, lines, ⟨⟩⟩
    exact ⟨enabled, format, colour, target, threads, lines⟩
  · rintro ⟨enabled, format, colour, target, threads, lines⟩
    exact ⟨_, enabled, _, format, _, colour, _, target, _, threads, _, lines, rfl⟩

theorem logFile_eq_some_iff (isSection : Tree.IsSection (t.at? ["logging", "file"])) :
    orDefault loose.logFile .default (t.at? ["logging", "file"]) = some s.logging.file ↔
      fileEnabled.Holds t s ∧ filename.Holds t s := by
  have record : orDefault loose.logFile .default (t.at? ["logging", "file"]) = _ :=
    orDefault_record rfl isSection
  simp only [record, Option.bind_eq_bind, Option.bind_eq_some_iff]
  obtain ⟨_, _, _, _, _, _, _, _⟩ := s
  constructor
  · rintro ⟨_, enabled, _, filename, ⟨⟩⟩
    exact ⟨enabled, filename⟩
  · rintro ⟨enabled, filename⟩
    exact ⟨_, enabled, _, filename, rfl⟩

theorem logging_eq_some_iff (isSection : Tree.IsSection (t.at? ["logging"])) :
    orDefault loose.logging .default (t.at? ["logging"]) = some s.logging ↔
      level.Holds t s ∧ directives.Holds t s ∧ directory.Holds t s ∧
      orDefault loose.console .default (t.at? ["logging", "console"]) = some s.logging.console ∧
      orDefault loose.logFile .default (t.at? ["logging", "file"]) = some s.logging.file := by
  have record : orDefault loose.logging .default (t.at? ["logging"]) = _ :=
    orDefault_record rfl isSection
  simp only [record, Option.bind_eq_bind, Option.bind_eq_some_iff]
  obtain ⟨_, _, _, _, _, _, _, _⟩ := s
  constructor
  · rintro ⟨_, level, _, directives, _, directory, _, console, _, file, ⟨⟩⟩
    exact ⟨level, directives, directory, console, file⟩
  · rintro ⟨level, directives, directory, console, file⟩
    exact ⟨_, level, _, directives, _, directory, _, console, _, file, rfl⟩

/-- Where all sections are tables, settings are read if each of them is, from its own place. -/
theorem settings_eq_some_iff (sectioned : t.Sectioned) :
    loose.settings t = some s ↔ ∀ setting : Setting, setting.Holds t s := by
  have record : orDefault loose.settings .default (t.at? []) = _ :=
    orDefault_record rfl (sectioned [] (by decide))
  have records : loose.settings t = some s ↔
      orDefault loose.broker .default (t.at? ["broker"]) = some s.broker ∧
      orDefault loose.policy .default (t.at? ["policy"]) = some s.policy ∧
      orDefault loose.executor .default (t.at? ["executor"]) = some s.executor ∧
      orDefault loose.logging .default (t.at? ["logging"]) = some s.logging := by
    change orDefault loose.settings .default (t.at? []) = some s ↔ _
    simp only [record, Option.bind_eq_bind, Option.bind_eq_some_iff]
    obtain ⟨_, _, _, _⟩ := s
    constructor
    · rintro ⟨_, broker, _, policy, _, executor, _, logging, ⟨⟩⟩
      exact ⟨broker, policy, executor, logging⟩
    · rintro ⟨broker, policy, executor, logging⟩
      exact ⟨_, broker, _, policy, _, executor, _, logging, rfl⟩
  rw [records, broker_eq_some_iff s (sectioned _ (by decide)),
    policy_eq_some_iff s (sectioned _ (by decide)),
    executor_eq_some_iff s (sectioned _ (by decide)),
    logging_eq_some_iff s (sectioned _ (by decide)),
    console_eq_some_iff s (sectioned _ (by decide)),
    logFile_eq_some_iff s (sectioned _ (by decide))]
  constructor
  · rintro ⟨⟨kind, channel, shards, uri⟩, ⟨world, distance, dyconit⟩, poolSize, level, directives,
      directory, ⟨enabled, format, colour, target, threads, lines⟩, fileEnabled, filename⟩ setting
    cases setting <;> assumption
  · intro all
    exact ⟨⟨all _, all _, all _, all _⟩, ⟨all _, all _, all _⟩, all _, all _, all _, all _,
      ⟨all _, all _, all _, all _, all _, all _⟩, all _, all _⟩

end Reading

end Vicinity
