import Vicinity.Proofs.Dyconit.Descriptor
import Vicinity.Settings.Basic

/-! # Checked settings

Settings that pass the check pass each of its parts, in whatever order the parts are made. Of these
the descriptor matters at start-up, where a policy is built from it.
-/

namespace Vicinity.Settings

open Dyconit (Descriptor)

variable {M : Type}

private theorem guarded_eq_ok_iff {fault : Prop} [Decidable fault] (e : ConfigError)
    (rest : Except ConfigError Unit) :
    (if fault then .error e else rest) = .ok () ↔ ¬ fault ∧ rest = .ok () := by
  by_cases found : fault <;> simp [found]

theorem validate_eq_ok_iff (settings : Settings) :
    settings.validate = .ok () ↔
      ∃ kind, settings.brokerKind = .ok kind ∧
        (∃ channel, settings.channelKind = .ok channel) ∧
        settings.broker.shards ≠ 0 ∧
        (kind = .middleware → settings.broker.uri ≠ none) ∧
        settings.policy.viewDistance ≠ 0 ∧
        (∀ descriptor, settings.policy.dyconit = some descriptor →
          Descriptor.validate descriptor = .ok ()) ∧
        settings.executor.poolSize ≠ some 0 ∧
        settings.logging.validate = .ok () := by
  unfold validate
  simp only [bind, Except.bind, throw, throwThe, MonadExceptOf.throw]
  cases settings.brokerKind with
  | error e => simp
  | ok kind =>
    cases settings.channelKind with
    | error e => simp
    | ok channel =>
      have unaddressed : (decide (kind = .middleware) && settings.broker.uri.isNone) = true ↔
          ¬ (kind = .middleware → settings.broker.uri ≠ none) := by simp
      simp only [guarded_eq_ok_iff, unaddressed, Classical.not_not, Except.ok.injEq,
        exists_eq_left', exists_eq', true_and]
      cases settings.policy.dyconit with
      | none => simp [guarded_eq_ok_iff]
      | some descriptor =>
        cases checked : Descriptor.validate descriptor <;> simp [guarded_eq_ok_iff, checked]

/-- The same settings with another descriptor. -/
def describe (settings : Settings) (descriptor : String) : Settings :=
  { settings with policy := { settings.policy with dyconit := some descriptor } }

/-- Another descriptor is all there is to check again. -/
theorem validate_describe_iff {settings : Settings} (valid : settings.validate = .ok ())
    (descriptor : String) :
    (settings.describe descriptor).validate = .ok () ↔ Descriptor.validate descriptor = .ok () := by
  constructor
  · intro passes
    obtain ⟨-, -, -, -, -, -, checked, -⟩ := (validate_eq_ok_iff _).mp passes
    exact checked descriptor rfl
  · intro passes
    obtain ⟨kind, broker, channel, shards, addressed, sight, -, rest⟩ :=
      (validate_eq_ok_iff settings).mp valid
    refine (validate_eq_ok_iff _).mpr ⟨kind, broker, channel, shards, addressed, sight, ?_, rest⟩
    rintro _ ⟨⟩
    exact passes

theorem validate_default : default.validate = .ok () := by
  with_unfolding_all rfl

/-- A descriptor that passed with the settings it stands in builds the policy of its family, or if
its name is blank no policy at all; it does not fail. -/
theorem policy_of_validate (settings : Settings) (descriptor : String)
    (valid : settings.validate = .ok ()) (given : settings.policy.dyconit = some descriptor) :
    let built : Except ConfigError (Option (Dyconit.Policy Viewer M)) :=
      Descriptor.policy descriptor settings.policy.viewDistance
    let name := (Descriptor.ofString descriptor).name
    (name ≠ "" → ∃ family policy, (Descriptor.ofString descriptor).family? = some family ∧
      built = .ok (some policy) ∧ policy.name = family.name) ∧
    (name = "" → built = .ok none) := by
  intro built name
  obtain ⟨-, -, -, -, -, -, checked, -, -⟩ := (validate_eq_ok_iff settings).mp valid
  refine ⟨?named, fun blank => Descriptor.policy_of_blank blank _⟩
  case named =>
    intro named
    have passes := checked descriptor given
    rw [Descriptor.validate_eq_ok_iff descriptor settings.policy.viewDistance (M := M),
      or_iff_right named] at passes
    obtain ⟨policy, builds⟩ := passes
    obtain ⟨family, belongs, same⟩ := Descriptor.name_of_policy builds
    exact ⟨family, policy, belongs, builds, same⟩

theorem policy_of_validate_bounded :
    let settings := default.describe " single; 20;+5"
    settings.validate = .ok () ∧ settings.policy.dyconit = some " single; 20;+5" ∧
      ∃ policy : Dyconit.Policy Viewer String,
        Descriptor.policy " single; 20;+5" 8 = .ok (some policy) ∧
          policy.name = "SingleDyconitPolicy" := by
  intro settings
  have named : (Descriptor.ofString " single; 20;+5").name ≠ "" := by decide +kernel
  have family : (Descriptor.ofString " single; 20;+5").family? = some .single := by decide +kernel
  have checked : Descriptor.validate " single; 20;+5" = .ok () := by
    dsimp only [Descriptor.validate]
    rw [if_neg named, family]
    rfl
  have valid : settings.validate = .ok () :=
    (validate_describe_iff validate_default _).mpr checked
  obtain ⟨found, policy, belongs, builds, same⟩ :=
    (policy_of_validate (M := String) settings " single; 20;+5" valid rfl).1 named
  obtain rfl : Dyconit.Family.single = found := Option.some.inj (family.symm.trans belongs)
  exact ⟨valid, rfl, policy, builds, same⟩

/-- The default settings with an empty descriptor pass, and no policy comes of them. -/
theorem no_policy_of_empty_descriptor :
    ¬ ∀ (settings : Settings) (descriptor : String), settings.validate = .ok () →
      settings.policy.dyconit = some descriptor →
        ∃ policy : Dyconit.Policy Viewer String,
          Descriptor.policy descriptor settings.policy.viewDistance = .ok (some policy) := by
  intro usable
  have valid : (default.describe "").validate = .ok () :=
    (validate_describe_iff validate_default "").mpr rfl
  have blank : (Descriptor.ofString "").name = "" := by decide +kernel
  obtain ⟨policy, builds⟩ := usable (default.describe "") "" valid rfl
  rw [Descriptor.policy_of_blank blank] at builds
  cases builds

end Vicinity.Settings
