import Mathlib.Logic.Relation
import Vicinity.Kind
import Vicinity.Proofs.Text.Letters

/-! # Respelling the name of a kind

Hyphens, underscores and the case of Latin letters do not count in the name of a kind, and everything
else does. That no letter of another alphabet is taken for a Latin one comes from the names being in
ASCII without a k.
-/

namespace Vicinity

namespace Kind

/-- Without its hyphens and underscores, a text differs from a name in the case of letters at most. -/
def Respells (s name : String) : Prop :=
  Text.SameLetters (s.toList.filter significant) name.toList

instance (s name : String) : Decidable (Respells s name) :=
  inferInstanceAs (Decidable (Text.SameLetters _ _))

/-- One change to a text that makes no difference to the kind it names. -/
inductive Edit : List Char → List Char → Prop
  | insert (before after : List Char) {mark : Char} (passedOver : mark = '-' ∨ mark = '_') :
      Edit (before ++ after) (before ++ mark :: after)
  | delete (before after : List Char) {mark : Char} (passedOver : mark = '-' ∨ mark = '_') :
      Edit (before ++ mark :: after) (before ++ after)
  | recase (before after : List Char) {old new : Char} (same : old.toLower = new.toLower) :
      Edit (before ++ old :: after) (before ++ new :: after)

theorem significant_eq_false_iff {c : Char} : significant c = false ↔ c = '-' ∨ c = '_' := by
  simp only [significant, Bool.and_eq_false_iff, bne_eq_false_iff_eq]

/-- Hyphens and underscores are the same in either case, and no other character is one in lower
case. -/
theorem significant_toLower (c : Char) : significant c.toLower = significant c := by
  by_cases small : c.toNat < 128
  · exact Text.ascii_cases (P := fun c => significant c.toLower = significant c)
      (by decide +kernel) small
  · rw [Text.toLower_of_large (Nat.le_of_not_lt small)]

theorem filter_passing_over (before after : List Char) {mark : Char}
    (passedOver : mark = '-' ∨ mark = '_') :
    (before ++ mark :: after).filter significant = (before ++ after).filter significant := by
  have skipped : ¬ significant mark = true :=
    Bool.eq_false_iff.mp (significant_eq_false_iff.mpr passedOver)
  rw [List.filter_append, List.filter_append, List.filter_cons_of_neg skipped]

theorem Edit.sameLetters {cs ds : List Char} (edit : Edit cs ds) :
    Text.SameLetters (cs.filter significant) (ds.filter significant) := by
  cases edit with
  | insert before after passedOver =>
    rw [Text.SameLetters, filter_passing_over before after passedOver]
  | delete before after passedOver =>
    rw [Text.SameLetters, filter_passing_over before after passedOver]
  | @recase before after old new same =>
    have alike : significant old = significant new := by
      rw [← significant_toLower old, same, significant_toLower]
    rw [Text.SameLetters, List.filter_append, List.filter_append, List.map_append, List.map_append,
      List.filter_cons, List.filter_cons, alike]
    split
    case isTrue => rw [List.map_cons, List.map_cons, same]
    case isFalse => rfl

theorem sameLetters_of_edits {cs ds : List Char} (edits : Relation.ReflTransGen Edit cs ds) :
    Text.SameLetters (cs.filter significant) (ds.filter significant) := by
  induction edits with
  | refl => rfl
  | tail _ edit ih => exact Eq.trans ih edit.sameLetters

/-- A name that can only be respelled in Latin letters: all of it counts, and its lower case is
plain. -/
def IsLatin (name : String) : Prop :=
  name.toList.all significant = true ∧ Text.AllPlain (name.toList.map Char.toLower)

instance (name : String) : Decidable (IsLatin name) := inferInstanceAs (Decidable (_ ∧ _))

theorem fold_eq_fold_iff {name : String} (latin : IsLatin name) (s : String) :
    fold name = fold s ↔ Respells s name := by
  have counts : name.toList.filter significant = name.toList :=
    List.filter_eq_self.mpr (List.all_eq_true.mp latin.1)
  have own : fold name = name.toList.map Char.toLower := by
    rw [fold, counts, Text.flatMap_lowerChar_eq_iff latin.2]
  rw [own, eq_comm]
  exact Text.flatMap_lowerChar_eq_iff latin.2 _

variable {Kind : Type}

/-- A choice of kinds whose names can be told apart however they are respelled. -/
structure Distinct (candidates : List Kind) (nameOf : Kind → String) : Prop where
  complete (kind : Kind) : kind ∈ candidates
  latin (kind : Kind) : IsLatin (nameOf kind)
  apart (kind other : Kind) : Text.SameLetters (nameOf kind).toList (nameOf other).toList →
    kind = other

namespace Distinct

variable {candidates : List Kind} {nameOf : Kind → String}

theorem eq_of_respells (distinct : Distinct candidates nameOf) {s : String} {kind other : Kind}
    (one : Respells s (nameOf kind)) (also : Respells s (nameOf other)) : kind = other :=
  distinct.apart kind other (one.symm.trans also)

theorem respells_self (distinct : Distinct candidates nameOf) (kind : Kind) :
    Respells (nameOf kind) (nameOf kind) := by
  rw [Respells, List.filter_eq_self.mpr (List.all_eq_true.mp (distinct.latin kind).1)]
  rfl

theorem find?_eq_some_iff (distinct : Distinct candidates nameOf) (s : String) (kind : Kind) :
    find? candidates nameOf s = some kind ↔ Respells s (nameOf kind) := by
  have test (other : Kind) :
      (fold (nameOf other) == fold s) = true ↔ Respells s (nameOf other) := by
    rw [beq_iff_eq, fold_eq_fold_iff (distinct.latin other)]
  constructor
  · intro found
    have passes := List.find?_some found
    exact (test kind).mp passes
  · intro respells
    cases found : find? candidates nameOf s with
    | none =>
      have fails := List.find?_eq_none.mp found kind (distinct.complete kind)
      exact absurd ((test kind).mpr respells) fails
    | some other =>
      have passes := List.find?_some found
      rw [distinct.eq_of_respells respells ((test other).mp passes)]

theorem find?_eq_none_iff (distinct : Distinct candidates nameOf) (s : String) :
    find? candidates nameOf s = none ↔ ∀ kind, ¬ Respells s (nameOf kind) := by
  simp only [Option.eq_none_iff_forall_ne_some, ne_eq, distinct.find?_eq_some_iff]

theorem find?_eq_of_sameLetters (distinct : Distinct candidates nameOf) {s t : String}
    (same : Text.SameLetters (s.toList.filter significant) (t.toList.filter significant)) :
    find? candidates nameOf s = find? candidates nameOf t := by
  refine Option.ext fun kind => ?_
  rw [distinct.find?_eq_some_iff, distinct.find?_eq_some_iff]
  exact ⟨same.symm.trans, same.trans⟩

end Distinct

/-- Names are read leniently: what is read is the one kind whose name the text respells, so changes
that do not count make no difference, a name is read as its own kind, and a text that is rejected is
reported as it was given. -/
structure Lenient (nameOf : Kind → String) (rejection : String → ConfigError)
    (parse : String → Except ConfigError Kind) : Prop where
  parses (s : String) (kind : Kind) : parse s = .ok kind ↔ Respells s (nameOf kind)
  unique (s : String) (kind other : Kind) :
    Respells s (nameOf kind) → Respells s (nameOf other) → kind = other
  stable (s t : String) : Relation.ReflTransGen Edit s.toList t.toList →
    (parse s).toOption = (parse t).toOption
  display (kind : Kind) : parse (nameOf kind) = .ok kind
  rejects (s : String) (error : ConfigError) :
    parse s = .error error ↔ error = rejection s ∧ ∀ kind, ¬ Respells s (nameOf kind)

/-- Looking a name up among kinds that can be told apart is lenient. -/
theorem Distinct.lenient {candidates : List Kind} {nameOf : Kind → String}
    (distinct : Distinct candidates nameOf) {rejection : String → ConfigError}
    {parse : String → Except ConfigError Kind}
    (parse_eq : ∀ s, parse s = match find? candidates nameOf s with
      | some kind => .ok kind
      | none => .error (rejection s)) :
    Lenient nameOf rejection parse := by
  have parses (s : String) (kind : Kind) : parse s = .ok kind ↔ Respells s (nameOf kind) := by
    rw [parse_eq, ← distinct.find?_eq_some_iff]
    cases find? candidates nameOf s <;> simp
  refine ⟨parses, fun s kind other => distinct.eq_of_respells, ?stable,
    fun kind => (parses _ kind).mpr (distinct.respells_self kind), ?rejects⟩
  case stable =>
    intro s t edits
    rw [parse_eq, parse_eq, distinct.find?_eq_of_sameLetters (sameLetters_of_edits edits)]
    cases find? candidates nameOf t <;> rfl
  case rejects =>
    intro s error
    rw [parse_eq, ← distinct.find?_eq_none_iff]
    cases find? candidates nameOf s <;> simp [eq_comm]

end Kind

theorem BrokerKind.distinct : Kind.Distinct all name where
  complete kind := by cases kind <;> decide
  latin kind := by cases kind <;> decide
  apart kind other := by cases kind <;> cases other <;> decide

theorem ChannelKind.distinct : Kind.Distinct all name where
  complete kind := by cases kind <;> decide
  latin kind := by cases kind <;> decide
  apart kind other := by cases kind <;> cases other <;> decide

/-- Kinds of brokers and kinds of channels are both read leniently. -/
theorem Kind.brokers_and_channels_lenient :
    Lenient BrokerKind.name .unknownBrokerKind BrokerKind.parse ∧
      Lenient ChannelKind.name .unknownChannelKind ChannelKind.parse := by
  refine ⟨BrokerKind.distinct.lenient ?_, ChannelKind.distinct.lenient ?_⟩
  · intro s
    rw [BrokerKind.parse]
    cases find? BrokerKind.all BrokerKind.name s <;> rfl
  · intro s
    rw [ChannelKind.parse]
    cases find? ChannelKind.all ChannelKind.name s <;> rfl

end Vicinity
