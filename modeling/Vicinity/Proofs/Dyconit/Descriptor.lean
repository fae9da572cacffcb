import Vicinity.Proofs.Dyconit.Families

/-! # Checked descriptors

A descriptor is checked when the settings are and read again when the policy is built, by code of its
own each time. The two agree on the family and its bounds, and fail alike where bounds are missing or
misread. They part on what builds nothing: a blank name, which the check lets pass, and a name that
fits no family, which it reports.
-/

namespace Vicinity

variable {M : Type}

namespace Dyconit.Descriptor

/-- A blank name belongs to no family. -/
theorem family?_of_blank {d : Descriptor} (blank : d.name = "") : d.family? = none := if_pos blank

theorem name_ne_of_family {d : Descriptor} {family : Family} (found : d.family? = some family) :
    d.name ≠ "" := by
  intro blank
  rw [family?_of_blank blank] at found
  cases found

/-! ## Bounds that are not there -/

theorem boundAt_error {d : Descriptor} {index : Nat} {name : String} {e : ConfigError}
    (fails : d.boundAt index name = .error e) :
    ∃ value reason, e = .invalidParameter name value reason := by
  unfold boundAt at fails
  split at fails
  · cases fails
    exact ⟨_, _, rfl⟩
  · split at fails
    · cases fails
    · cases fails
      exact ⟨_, _, rfl⟩

/-- What is wrong with the bounds is said of one of the two. -/
theorem bounds_error {d : Descriptor} {e : ConfigError} (fails : d.bounds = .error e) :
    ∃ name ∈ ["staleness", "numerical"], ∃ value reason, e = .invalidParameter name value reason := by
  simp only [bounds, bind, Except.bind] at fails
  split at fails
  case h_1 e' first =>
    cases fails
    exact ⟨_, List.mem_cons_self .., boundAt_error first⟩
  case h_2 staleness first =>
    split at fails
    case h_1 e' second =>
      cases fails
      exact ⟨_, List.mem_cons_of_mem _ (List.mem_cons_self ..), boundAt_error second⟩
    case h_2 => cases fails

/-! ## The check and the building side by side -/

/-- What the check of a descriptor and the building from it come to. -/
inductive Outcome (s : String) :
    Except ConfigError Unit → Except ConfigError (Option (Policy Viewer M)) → Prop where
  | blank (unnamed : (ofString s).name = "") : Outcome s (.ok ()) (.ok none)
  | unknown (named : (ofString s).name ≠ "") (unfit : (ofString s).family? = none)
      (reason : String) :
      Outcome s (.error (.invalidParameter "policy.dyconit" s reason)) (.ok none)
  | misread (family : Family) (found : (ofString s).family? = some family) (e : ConfigError)
      (fails : (ofString s).bounds = .error e) : Outcome s (.error e) (.error e)
  | builds (family : Family) (found : (ofString s).family? = some family)
      (built : Policy Viewer M) (same : built.name = family.name) :
      Outcome s (.ok ()) (.ok (some built))

theorem outcome (s : String) (viewDistance : UInt32) :
    Outcome (M := M) s (validate s) (policy s viewDistance) := by
  dsimp only [validate, policy]
  by_cases blank : (ofString s).name = ""
  · rw [if_pos blank, family?_of_blank blank]
    exact .blank blank
  · rw [if_neg blank]
    cases found : (ofString s).family? with
    | none => exact .unknown blank found _
    | some family =>
      cases family with
      | single =>
        cases read : (ofString s).bounds with
        | error e => exact .misread .single found e read
        | ok bounds => exact .builds .single found (singlePolicy bounds) rfl
      | chunk => exact .builds .chunk found _ rfl
      | zero => exact .builds .zero found _ rfl
      | infinite => exact .builds .infinite found _ rfl
      | quadratic => exact .builds .quadratic found _ rfl

/-- What a descriptor builds is the policy of its family. -/
theorem name_of_policy {s : String} {viewDistance : UInt32} {built : Policy Viewer M}
    (builds : policy s viewDistance = .ok (some built)) :
    ∃ family, (ofString s).family? = some family ∧ built.name = family.name := by
  have outcome := outcome (M := M) s viewDistance
  rw [builds] at outcome
  generalize validate s = checked at outcome
  cases outcome with
  | builds family found _ same => exact ⟨family, found, same⟩

theorem policy_of_blank {s : String} (blank : (ofString s).name = "") (viewDistance : UInt32) :
    (policy s viewDistance : Except ConfigError (Option (Policy Viewer M))) = .ok none := by
  dsimp only [policy]
  rw [family?_of_blank blank]

/-- The check lets pass what builds a policy, and blank names, and nothing else. -/
theorem validate_eq_ok_iff (s : String) (viewDistance : UInt32) :
    validate s = .ok () ↔ (ofString s).name = "" ∨
      ∃ built : Policy Viewer M, policy s viewDistance = .ok (some built) := by
  have outcome := outcome (M := M) s viewDistance
  generalize validate s = checked at outcome ⊢
  generalize policy s viewDistance = made at outcome ⊢
  cases outcome with
  | blank unnamed => exact iff_of_true rfl (.inl unnamed)
  | unknown named => simp [named]
  | misread family found => simp [name_ne_of_family found]
  | builds family found built => exact iff_of_true rfl (.inr ⟨built, rfl⟩)

/-- Of a descriptor with a name the check says what building from it comes to. -/
structure Agrees (s : String) (checked : Except ConfigError Unit)
    (made : Except ConfigError (Option (Policy Viewer M))) : Prop where
  passes : checked = .ok () ↔ ∃ built, made = .ok (some built)
  fails : ∀ e, made = .error e → checked = .error e
  unknown : made = .ok none ↔
    ∃ reason, checked = .error (.invalidParameter "policy.dyconit" s reason)

theorem Outcome.agrees {s : String} {checked : Except ConfigError Unit}
    {made : Except ConfigError (Option (Policy Viewer M))} (outcome : Outcome s checked made)
    (named : (ofString s).name ≠ "") : Agrees s checked made := by
  cases outcome with
  | blank unnamed => exact absurd unnamed named
  | unknown _ _ reason =>
    exact ⟨iff_of_false nofun nofun, nofun, iff_of_true rfl ⟨reason, rfl⟩⟩
  | misread family found e fails =>
    refine ⟨iff_of_false nofun nofun, ?same, iff_of_false nofun ?other⟩
    case same =>
      rintro _ ⟨⟩
      rfl
    case other =>
      -- What is wrong is a bound, not the descriptor.
      rintro ⟨reason, same⟩
      obtain ⟨name, bound, value, why, rfl⟩ := bounds_error fails
      cases same
      exact absurd bound (by decide)
  | builds family found built same =>
    exact ⟨iff_of_true rfl ⟨built, rfl⟩, nofun, iff_of_false nofun nofun⟩

/-- A descriptor with a blank name passes the check and builds nothing. Of any other the check says
what comes of building it, and its name fits one family at most, whatever order they are tried in. -/
theorem validate_agrees_policy (s : String) (viewDistance : UInt32) :
    let made : Except ConfigError (Option (Policy Viewer M)) := policy s viewDistance
    (Unnamed s → validate s = .ok () ∧ made = .ok none) ∧
    (¬ Unnamed s → Agrees s (validate s) made ∧
      (∀ family other, (ofString s).Fits family → (ofString s).Fits other → family = other) ∧
      ∀ order, order.Perm Family.all → (ofString s).familyAmong order = (ofString s).family?) := by
  intro made
  rw [← name_ofString_eq_empty_iff]
  refine ⟨fun blank => ⟨?passes, ?nothing⟩, fun named => ⟨?agrees, ?one, ?order⟩⟩
  case passes => exact (validate_eq_ok_iff (M := M) s viewDistance).mpr (.inl blank)
  case nothing => exact policy_of_blank blank viewDistance
  case agrees => exact (outcome s viewDistance).agrees named
  case one => exact fun family other fits also => fits.eq named also
  case order =>
    intro order arranged
    exact familyAmong_eq_family? (fun family => arranged.mem_iff.mpr family.mem_all) (ofString s)

/-- The first bound is read and the second is not a numeral. -/
theorem validate_agrees_policy_misread :
    let s := " sInGle;+20; x"
    let made : Except ConfigError (Option (Policy Viewer String)) := policy s 8
    let fault : ConfigError := .invalidParameter "numerical" " x" "invalid digit found in string"
    ¬ Unnamed s ∧ made = .error fault ∧ validate s = .error fault ∧
      (ofString s).familyAmong Family.all.reverse = some .single := by
  intro s made fault
  have named : ¬ Unnamed s := by decide +kernel
  have family : (ofString s).family? = some .single := by decide +kernel
  have read : (ofString s).bounds = .error fault := by decide +kernel
  have fails : made = .error fault := by
    dsimp only [made, policy]
    rw [family, read]
    rfl
  obtain ⟨agrees, -, order⟩ := (validate_agrees_policy s 8).2 named
  exact ⟨named, fails, agrees.fails fault fails,
    (order _ (List.reverse_perm Family.all)).trans family⟩

end Dyconit.Descriptor

end Vicinity
