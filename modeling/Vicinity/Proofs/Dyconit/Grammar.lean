import Vicinity.Proofs.Dyconit.Families
import Vicinity.Proofs.Text.Letters
import Vicinity.Proofs.Text.Numeral

/-! # The grammar of descriptors

A descriptor is written as a name and parameters with a semicolon before each. A bound is written in
decimal digits, with perhaps a plus sign before them and blanks around, and is at most the largest
unsigned 32-bit number. A name of the family with given bounds makes a policy if bounds are written
in the first two places, and otherwise the first place where none is written is reported as it
stands. The other families make their policies whatever their parameters are.
-/

namespace Vicinity

variable {M : Type}

namespace Dyconit

/-! ## Bounds in writing -/

/-- A row of decimal digits, one at least, and the bound that is their value. -/
def Denotes (row : List Char) (bound : UInt32) : Prop :=
  ∃ digits : List Nat, digits ≠ [] ∧ (∀ d ∈ digits, d < 10) ∧
    row = digits.map Numeral.digitChar ∧ Numeral.ofDigits digits = bound.toNat

/-- A text writes a bound: digits with perhaps a plus sign before them and blanks around. -/
def WritesBound (raw : String) (bound : UInt32) : Prop :=
  ∃ before sign row after, raw.toList = before ++ (sign ++ row ++ after) ∧
    (∀ c ∈ before ++ after, Text.isBlank c = true) ∧ (sign = [] ∨ sign = ['+']) ∧
    Denotes row bound

/-- Read on, digits only add to a value. -/
theorem le_foldl_digits (value : Nat) (digits : List Nat) :
    value ≤ digits.foldl (fun value digit => value * 10 + digit) value := by
  induction digits generalizing value with
  | nil => exact Nat.le_refl value
  | cons d rest ih =>
    have later := ih (value * 10 + d)
    rw [List.foldl_cons]
    omega

/-- The first of some digits is told by its character. -/
theorem digits_of_cons {d : Nat} {rest : List Char} {digits : List Nat}
    (read : Numeral.digitValue? (Numeral.digitChar d) = some d) (small : ∀ e ∈ digits, e < 10)
    (listed : Numeral.digitChar d :: rest = digits.map Numeral.digitChar) :
    ∃ others, digits = d :: others ∧ rest = others.map Numeral.digitChar := by
  obtain ⟨e, others, rfl, same, later⟩ := List.map_eq_cons_iff.mp listed.symm
  have value := Numeral.digitValue?_digitChar e (small e (List.mem_cons_self ..))
  rw [same, read] at value
  obtain rfl := Option.some.inj value
  exact ⟨others, rfl, later.symm⟩

/-- Digits are read if their value, and so that of every part from their start, fits a word. -/
theorem readDigits_eq_ok_iff {value : Nat} (small : value < UInt32.size) (cs : List Char)
    (total : Nat) :
    readDigits value cs = .ok total ↔ ∃ digits : List Nat, cs = digits.map Numeral.digitChar ∧
      (∀ d ∈ digits, d < 10) ∧ digits.foldl (fun value digit => value * 10 + digit) value = total ∧
      total < UInt32.size := by
  induction cs generalizing value with
  | nil =>
    rw [readDigits]
    constructor
    · rintro ⟨⟩
      exact ⟨[], rfl, nofun, rfl, small⟩
    · rintro ⟨digits, none, -, rfl, -⟩
      obtain rfl := List.map_eq_nil_iff.mp none.symm
      rfl
  | cons c rest ih =>
    rw [readDigits]
    cases read : Numeral.digitValue? c with
    | none =>
      refine iff_of_false nofun ?_
      rintro ⟨digits, listed, digit, -⟩
      obtain ⟨d, others, rfl, rfl, -⟩ := List.map_eq_cons_iff.mp listed.symm
      have value := Numeral.digitValue?_digitChar d (digit d (List.mem_cons_self ..))
      rw [read] at value
      contradiction
    | some d =>
      obtain ⟨digit, rfl⟩ := Numeral.digitValue?_eq_some_iff.mp read
      dsimp only
      split
      case isTrue fits =>
        rw [ih fits]
        constructor
        · rintro ⟨digits, rfl, others, sum, bound⟩
          exact ⟨d :: digits, rfl, List.forall_mem_cons.mpr ⟨digit, others⟩, sum, bound⟩
        · rintro ⟨digits, listed, all, sum, bound⟩
          obtain ⟨others, rfl, rfl⟩ := digits_of_cons read all listed
          exact ⟨others, rfl, (List.forall_mem_cons.mp all).2, sum, bound⟩
      case isFalse large =>
        refine iff_of_false nofun ?_
        rintro ⟨digits, listed, all, sum, bound⟩
        obtain ⟨others, rfl, rfl⟩ := digits_of_cons read all listed
        have least := le_foldl_digits (value * 10 + d) others
        rw [← List.foldl_cons, sum] at least
        omega

theorem readDigits_zero_eq_ok_iff {row : List Char} (written : row ≠ []) (bound : UInt32) :
    (readDigits 0 row).map UInt32.ofNat = .ok bound ↔ Denotes row bound := by
  have spec := readDigits_eq_ok_iff (show 0 < UInt32.size by decide) row
  constructor
  · intro read
    cases valued : readDigits 0 row with
    | error fault =>
      rw [valued] at read
      contradiction
    | ok total =>
      obtain ⟨digits, rfl, all, sum, fits⟩ := (spec total).mp valued
      rw [valued] at read
      obtain rfl := Except.ok.inj read
      refine ⟨digits, fun none => written (congrArg _ none), all, rfl, ?_⟩
      rw [UInt32.toNat_ofNat_of_lt' fits]
      exact sum
  · rintro ⟨digits, -, all, listed, sum⟩
    have read := (spec bound.toNat).mpr ⟨digits, listed, all, sum, bound.toNat_lt⟩
    rw [read]
    exact congrArg Except.ok UInt32.ofNat_toNat

theorem Denotes.ne_nil {row : List Char} {bound : UInt32} (denotes : Denotes row bound) :
    row ≠ [] := by
  obtain ⟨digits, some, -, rfl, -⟩ := denotes
  exact fun none => some (List.map_eq_nil_iff.mp none)

/-- Digits are neither signs nor blanks. -/
theorem Denotes.of_mem {row : List Char} {bound : UInt32} (denotes : Denotes row bound) {c : Char}
    (member : c ∈ row) : c ≠ '+' ∧ Text.isBlank c = false := by
  obtain ⟨digits, -, all, rfl, -⟩ := denotes
  obtain ⟨d, there, rfl⟩ := List.mem_map.mp member
  have plain : ∀ d < 10, Numeral.digitChar d ≠ '+' ∧ Text.isBlank (Numeral.digitChar d) = false := by
    decide
  exact plain d (all d there)

/-- A numeral is read if it is digits with perhaps a plus sign before them. -/
theorem readNumeral_eq_ok_iff (cs : List Char) (bound : UInt32) :
    readNumeral cs = .ok bound ↔
      ∃ sign row, cs = sign ++ row ∧ (sign = [] ∨ sign = ['+']) ∧ Denotes row bound := by
  have unsigned (first : ∀ rest, cs ≠ '+' :: rest) :
      (∃ sign row, cs = sign ++ row ∧ (sign = [] ∨ sign = ['+']) ∧ Denotes row bound) ↔
        Denotes cs bound := by
    constructor
    · rintro ⟨sign, row, rfl, rfl | rfl, denotes⟩
      · exact denotes
      · exact absurd rfl (first row)
    · exact fun denotes => ⟨[], cs, rfl, .inl rfl, denotes⟩
  have signed {rest : List Char} (first : cs = '+' :: rest) :
      (∃ sign row, cs = sign ++ row ∧ (sign = [] ∨ sign = ['+']) ∧ Denotes row bound) ↔
        Denotes rest bound := by
    constructor
    · rintro ⟨sign, row, rfl, rfl | rfl, denotes⟩
      · rw [List.nil_append] at first
        exact absurd rfl (denotes.of_mem (first ▸ List.mem_cons_self ..)).1
      · obtain rfl := (List.cons.inj first).2
        exact denotes
    · exact fun denotes => ⟨['+'], rest, first, .inr rfl, denotes⟩
  rw [readNumeral.eq_def]
  split
  case h_1 =>
    rw [unsigned nofun]
    exact iff_of_false nofun fun denotes => denotes.ne_nil rfl
  case h_2 =>
    rw [signed rfl]
    exact iff_of_false nofun fun denotes => denotes.ne_nil rfl
  case h_3 rest more =>
    rw [signed rfl]
    exact readDigits_zero_eq_ok_iff (fun none => more none) bound
  case h_4 some _ plain =>
    rw [unsigned plain]
    exact readDigits_zero_eq_ok_iff (fun none => some none) bound

/-- What is read after trimming is what a bound is written as. -/
theorem readNumeral_trim_eq_ok_iff (raw : String) (bound : UInt32) :
    readNumeral (Text.trim raw).toList = .ok bound ↔ WritesBound raw bound := by
  rw [Text.trim, String.toList_ofList, readNumeral_eq_ok_iff]
  constructor
  · rintro ⟨sign, row, core, signs, denotes⟩
    obtain ⟨before, after, whole, blank⟩ := Text.trimChars_spec raw.toList
    exact ⟨before, sign, row, after, core ▸ whole, blank, signs, denotes⟩
  · rintro ⟨before, sign, row, after, whole, blank, signs, denotes⟩
    refine ⟨sign, row, ?_, signs, denotes⟩
    rw [whole]
    refine Text.trimChars_around blank fun c member => ?_
    rcases List.mem_append.mp member with first | digit
    · have plus : c = '+' := by
        rcases signs with rfl | rfl
        · contradiction
        · exact List.mem_singleton.mp first
      rw [plus]
      decide
    · exact (denotes.of_mem digit).2

/-! ## Parameters -/

/-- A bound is written in a place among the parameters; places are counted from zero. -/
def BoundAt (parameters : List String) (place : Nat) (bound : UInt32) : Prop :=
  ∃ raw, parameters[place]? = some raw ∧ WritesBound raw bound

namespace Descriptor

theorem boundAt_eq_ok_iff (d : Descriptor) (place : Nat) (name : String) (bound : UInt32) :
    d.boundAt place name = .ok bound ↔ BoundAt d.parameters place bound := by
  rw [boundAt, BoundAt]
  cases d.parameters[place]? with
  | none => exact iff_of_false nofun nofun
  | some raw =>
    simp only [Option.some.injEq, exists_eq_left', ← readNumeral_trim_eq_ok_iff]
    cases readNumeral (Text.trim raw).toList <;> simp

/-- A place where no bound is written is reported with what stands there. -/
theorem boundAt_of_unwritten {d : Descriptor} {place : Nat}
    (unwritten : ∀ bound, ¬ BoundAt d.parameters place bound) (name : String) :
    ∃ reason, d.boundAt place name =
      .error (.invalidParameter name (d.parameters[place]?.getD "") reason) := by
  cases read : d.boundAt place name with
  | ok bound => exact absurd ((boundAt_eq_ok_iff d place name bound).mp read) (unwritten bound)
  | error e =>
    rw [boundAt] at read
    split at read
    case h_1 missing =>
      obtain rfl := Except.error.inj read
      exact ⟨_, by rw [missing]; rfl⟩
    case h_2 raw there =>
      split at read
      case h_1 => contradiction
      case h_2 =>
        obtain rfl := Except.error.inj read
        exact ⟨_, by rw [there]; rfl⟩

/-- A text in parts: a name and parameters, none with a semicolon in it and each parameter after
one. -/
structure Written (s name : String) (parameters : List String) : Prop where
  whole : s.toList = name.toList ++ parameters.flatMap fun parameter => ';' :: parameter.toList
  apart : ∀ part ∈ name :: parameters, ';' ∉ part.toList

theorem ofString_of_written {s name : String} {parameters : List String}
    (written : Written s name parameters) : ofString s = ⟨Text.trim name, parameters⟩ := by
  have parts : Text.splitParts ';' s.toList = (name.toList, parameters.map String.toList) := by
    rw [written.whole, ← List.flatMap_map String.toList (';' :: ·)]
    refine Text.splitParts_joined ?_
    rw [← List.map_cons]
    exact List.forall_mem_map.mpr written.apart
  rw [ofString, Text.split, parts]
  simp only [List.map_map, String.ofList_toList, Function.comp_def, List.map_id']

/-- Every text is a descriptor of some name and parameters. -/
theorem exists_written (s : String) : ∃ name parameters, Written s name parameters := by
  refine ⟨String.ofList (Text.splitParts ';' s.toList).1,
    (Text.splitParts ';' s.toList).2.map String.ofList, ?whole, ?apart⟩
  case whole =>
    rw [List.flatMap_map]
    simp only [String.toList_ofList]
    exact (Text.splitParts_join ';' s.toList).symm
  case apart =>
    rw [← List.map_cons]
    refine List.forall_mem_map.mpr fun part member => ?_
    rw [String.toList_ofList]
    exact Text.notMem_splitParts ';' s.toList part member

/-! ## Names -/

/-- Blanks around it and letter case apart, a name is a part from the start of a family's name. -/
def Shortens (name : String) (family : Family) : Prop :=
  Text.trim name ≠ "" ∧
    (Text.lowercase (Text.trim name)).toList <+: (Text.lowercase family.name).toList

/-- The name of the family with given bounds is shortened in Latin letters only. -/
theorem shortens_single_iff (name : String) :
    Shortens name .single ↔ Text.trim name ≠ "" ∧
      (Text.trim name).toList.map Char.toLower <+: "singledyconitpolicy".toList := by
  have lower : (Text.lowercase Family.single.name).toList = "singledyconitpolicy".toList := by
    decide +kernel
  rw [Shortens, lower, Text.lowercase, String.toList_ofList,
    Text.lowerChars_prefix_iff (by decide +kernel)]

theorem family?_of_shortens {s name : String} {parameters : List String}
    (written : Written s name parameters) {family : Family} (shortens : Shortens name family) :
    (ofString s).family? = some family := by
  rw [family?_eq_familyAmong, familyAmong_eq_some_iff Family.mem_all]
  · rw [Fits, ofString_of_written written]
    exact shortens.2
  · rw [ofString_of_written written]
    exact shortens.1

/-! ## Policies -/

/-- What becomes of a descriptor of the family with given bounds. It makes a policy exactly if bounds
are written in the first two places, and everyone has these in the one dyconit; otherwise the first
of the two places without a bound is reported with what stands there. -/
structure ReadsBounds (parameters : List String)
    (made : Except ConfigError (Option (Policy Viewer M))) : Prop where
  succeeds : (∃ built, made = .ok built) ↔
    (∃ staleness, BoundAt parameters 0 staleness) ∧ ∃ numerical, BoundAt parameters 1 numerical
  builds : ∀ staleness numerical, BoundAt parameters 0 staleness → BoundAt parameters 1 numerical →
    ∃ built, made = .ok (some built) ∧
      ∀ viewer, built.update viewer = [.subscribe "single" ⟨staleness, numerical⟩]
  first : (∀ staleness, ¬ BoundAt parameters 0 staleness) →
    ∃ reason, made =
      .error (.invalidParameter "staleness" (parameters[0]?.getD "") reason)
  second : (∃ staleness, BoundAt parameters 0 staleness) →
    (∀ numerical, ¬ BoundAt parameters 1 numerical) →
    ∃ reason, made = .error (.invalidParameter "numerical" (parameters[1]?.getD "") reason)

theorem readsBounds_bounds (d : Descriptor) :
    ReadsBounds (M := M) d.parameters (d.bounds.map fun bounds => some (singlePolicy bounds)) := by
  have made {staleness numerical : UInt32} (first : BoundAt d.parameters 0 staleness)
      (second : BoundAt d.parameters 1 numerical) : d.bounds = .ok ⟨staleness, numerical⟩ := by
    rw [bounds, (boundAt_eq_ok_iff d 0 _ _).mpr first, (boundAt_eq_ok_iff d 1 _ _).mpr second]
    rfl
  have unmade {staleness : UInt32} (first : BoundAt d.parameters 0 staleness) {e : ConfigError}
      (fails : d.boundAt 1 "numerical" = .error e) : d.bounds = .error e := by
    rw [bounds, (boundAt_eq_ok_iff d 0 _ _).mpr first, fails]
    rfl
  have unbegun {e : ConfigError} (fails : d.boundAt 0 "staleness" = .error e) :
      d.bounds = .error e := by
    rw [bounds, fails]
    rfl
  refine ⟨?succeeds, ?builds, ?first, ?second⟩
  case builds =>
    intro staleness numerical first second
    rw [made first second]
    exact ⟨singlePolicy ⟨staleness, numerical⟩, rfl, fun _ => rfl⟩
  case first =>
    intro unwritten
    obtain ⟨reason, fails⟩ := boundAt_of_unwritten unwritten "staleness"
    exact ⟨reason, by rw [unbegun fails]; rfl⟩
  case second =>
    rintro ⟨staleness, first⟩ unwritten
    obtain ⟨reason, fails⟩ := boundAt_of_unwritten unwritten "numerical"
    exact ⟨reason, by rw [unmade first fails]; rfl⟩
  case succeeds =>
    constructor
    · rintro ⟨built, done⟩
      cases first : d.boundAt 0 "staleness" with
      | error e =>
        rw [unbegun first] at done
        contradiction
      | ok staleness =>
        have early := (boundAt_eq_ok_iff ..).mp first
        cases second : d.boundAt 1 "numerical" with
        | error e =>
          rw [unmade early second] at done
          contradiction
        | ok numerical => exact ⟨⟨_, early⟩, _, (boundAt_eq_ok_iff ..).mp second⟩
    · rintro ⟨⟨staleness, first⟩, numerical, second⟩
      rw [made first second]
      exact ⟨_, rfl⟩

/-- A descriptor whose name shortens that of the family with given bounds, which is to say that it is
a part of it but for the case of Latin letters, is read by the grammar of bounds. One whose name
shortens that of another family makes the same policy of that family whatever parameters there
are. -/
theorem policy_reads_grammar (viewDistance : UInt32) :
    (∀ s name parameters, Written s name parameters → Shortens name .single →
      ReadsBounds (M := M) parameters (policy s viewDistance)) ∧
    (∀ name, Shortens name .single ↔ Text.trim name ≠ "" ∧
      (Text.trim name).toList.map Char.toLower <+: "singledyconitpolicy".toList) ∧
    ∀ family, family ≠ .single → ∀ name, Shortens name family →
      ∃ built : Policy Viewer M, built.name = family.name ∧
        ∀ s parameters, Written s name parameters → policy s viewDistance = .ok (some built) := by
  refine ⟨?single, shortens_single_iff, ?others⟩
  case single =>
    intro s name parameters written shortens
    have parts := readsBounds_bounds (M := M) (ofString s)
    rw [ofString_of_written written] at parts
    dsimp only [policy]
    rw [family?_of_shortens written shortens, ofString_of_written written]
    exact parts
  case others =>
    intro family other name shortens
    have chosen {s : String} {parameters : List String} (written : Written s name parameters) :=
      family?_of_shortens written shortens
    cases family with
    | single => exact absurd rfl other
    | chunk =>
      exact ⟨chunkPolicy viewDistance, rfl, fun s _ written => by rw [policy, chosen written]⟩
    | zero => exact ⟨zeroPolicy, rfl, fun s _ written => by rw [policy, chosen written]⟩
    | infinite => exact ⟨infinitePolicy, rfl, fun s _ written => by rw [policy, chosen written]⟩
    | quadratic =>
      exact ⟨quadraticPolicy viewDistance, rfl, fun s _ written => by rw [policy, chosen written]⟩

/-- Zeros before a bound and blanks around it make no difference, and a third parameter is not
looked at. -/
theorem policy_reads_grammar_padded :
    let s := " sInGle;+0020;5 ;x"
    Written s " sInGle" ["+0020", "5 ", "x"] ∧ Shortens " sInGle" .single ∧
    ∃ built : Policy Viewer String, policy s 8 = .ok (some built) ∧
      ∀ viewer, built.update viewer = [.subscribe "single" ⟨20, 5⟩] := by
  intro s
  have written : Written s " sInGle" ["+0020", "5 ", "x"] :=
    ⟨by decide +kernel, List.forall_mem_cons.mpr ⟨by decide +kernel, by decide +kernel⟩⟩
  have shortens : Shortens " sInGle" .single := by
    rw [Shortens]
    decide +kernel
  have staleness : BoundAt ["+0020", "5 ", "x"] 0 20 :=
    ⟨"+0020", rfl, [], ['+'], ['0', '0', '2', '0'], [], by decide +kernel, nofun, .inr rfl,
      [0, 0, 2, 0], by decide, by decide, by decide, by decide⟩
  have numerical : BoundAt ["+0020", "5 ", "x"] 1 5 :=
    ⟨"5 ", rfl, [], [], ['5'], [' '], by decide +kernel, List.forall_mem_singleton.mpr (by decide),
      .inl rfl, [5], by decide, by decide, by decide, by decide⟩
  have reads : ReadsBounds (M := String) ["+0020", "5 ", "x"] (policy s 8) :=
    (policy_reads_grammar 8).1 s _ _ written shortens
  exact ⟨written, shortens, reads.builds 20 5 staleness numerical⟩

end Descriptor

end Dyconit

end Vicinity
