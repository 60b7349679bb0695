import Iems.Lib.Runs
import Iems.Ml.Serve

/-! The trusted flag over runs: training, cycles and changes of the settings between forecasts. -/
namespace Iems.Ml
open Lib Iems.Core Iems.Carbon

structure TrustState (M : Type) where
  settings : Settings
  store : ModelStore M

inductive TrustAction where
  | train (request : TrainRequest)
  | cycle (inputs : Nat → TrainerInput)
  | predict (request : PredictionRequest)
  | configure (settings : Settings)

section
variable {M : Type} (learner : Learner M) (factors : Dict String EmissionFactors)

def trustStep (s : TrustState M) : TrustAction → TrustState M
  | .train request => { s with store := (trainModel learner s.settings s.store request).1 }
  | .cycle inputs => { s with store := (runOnce learner s.settings s.store inputs).1 }
  | .predict _ => s
  | .configure settings => { s with settings := settings }

/-- Every trusted forecast comes from a registered model that plant data and its holdout error vouch for. -/
def TrustKept (s : TrustState M) : Prop :=
  ∀ request result, predictWithModel learner s.settings factors s.store request = .ok result → result.trusted = true →
    ∃ entry, s.store.registry.get? (request.plantCode, request.model) = some entry ∧
      predictRegistered learner s.settings entry.registered request = .ok result ∧ Vouched s.settings entry

/-- In trusted mode every registered model is vouched for. -/
def RegistryVouched (s : TrustState M) : Prop :=
  s.settings.trustedModeActive = true →
    ∀ key entry, s.store.registry.get? key = some entry → Vouched s.settings entry

/-- A change of the settings that leaves trusted mode on finds only models that are vouched for under them. -/
def SwitchVouched (s : TrustState M) : TrustAction → Prop
  | .configure settings => RegistryVouched { s with settings := settings }
  | _ => True

end

section
variable {M : Type} {learner : Learner M} {factors : Dict String EmissionFactors}

theorem RegistryVouched.kept {s : TrustState M} (vouched : RegistryVouched s) : TrustKept learner factors s := by
  intro request result answered flag
  obtain ⟨trusted, entry, found, made⟩ := predictWithModel_trusted answered flag
  exact ⟨entry, found, made, vouched trusted _ _ found⟩

/-- The condition is needed: in trusted mode a model that is not vouched for answers with the flag set. -/
theorem unvouched_answers {s : TrustState M} {request : PredictionRequest} {result : PredictionResult}
    {entry : Registration M} (trusted : s.settings.trustedModeActive = true)
    (found : s.store.registry.get? (request.plantCode, request.model) = some entry)
    (unvouched : ¬Vouched s.settings entry)
    (made : predictRegistered learner s.settings entry.registered request = .ok result) :
    ¬TrustKept learner factors s := by
  intro kept
  have answered : predictWithModel learner s.settings factors s.store request = .ok result := by
    unfold predictWithModel loadLatest
    rw [found]
    exact made
  obtain ⟨other, again, -, vouched⟩ := kept request result answered (predictRegistered_trusted made ▸ trusted)
  rw [found] at again
  cases again
  exact unvouched vouched

theorem trustStep_vouched (s : TrustState M) (action : TrustAction) (vouched : RegistryVouched s)
    (allowed : SwitchVouched s action) : RegistryVouched (trustStep learner s action) := by
  cases action with
  | train request =>
    intro trusted key entry found
    exact (trainModel_entries trusted found).elim (vouched trusted key entry) id
  | cycle inputs =>
    intro trusted key entry found
    dsimp only [trustStep] at trusted found ⊢
    exact (runOnce_entries trusted found).elim (vouched trusted key entry) id
  | predict request => exact vouched
  | configure settings => exact allowed

end

/-- From an empty registry, in every state of a run whose settings changes find no model that is not vouched
for under the new settings, the trusted flag is kept. -/
theorem trusted_flag_kept {M : Type} (learner : Learner M) (factors : Dict String EmissionFactors) (cfg : Settings)
    (calibration : Option String) (actions : List TrustAction)
    (switches : Meets (trustStep learner) SwitchVouched ⟨cfg, .empty, calibration⟩ actions) :
    ∀ before after, actions = before ++ after →
      TrustKept learner factors (run (trustStep learner) ⟨cfg, .empty, calibration⟩ before) := by
  intro before after split
  rw [split, meets_append] at switches
  have start : RegistryVouched (M := M) ⟨cfg, .empty, calibration⟩ := by
    intro _ key entry found
    cases found
  exact (switches.1.invariant trustStep_vouched start).kept

/-- Trained on plant data in trusted mode, after a change into it from an empty registry. -/
theorem trusted_flag_kept_steady :
    let actions := [.configure { trustedSettings with mlMapeTarget := 10 }, .train shiftedRequest,
      .predict { features := ⟨15, 100, 30, 100, 400⟩ }]
    ∀ before after, actions = before ++ after →
      TrustKept meanLearner .empty (run (trustStep meanLearner) ⟨{}, .empty, none⟩ before) :=
  trusted_flag_kept meanLearner .empty {} none _
    ⟨(fun _ key entry found => by cases found), trivial, trivial, trivial⟩

def demoSettings : Settings := { mlSyntheticSamples := 5, mlVsgSamples := 0 }

/-- Synthetic data in demo mode. -/
def demoRequest : TrainRequest :=
  { kind := .elm
    plantCode := "olefin"
    session := none
    now := 0
    stamp := ⟨"20260701T120000Z", "2026-07-01T12:00:00+00:00"⟩ }

/-- Trained on synthetic data in demo mode, the model is served as trusted once the mode is switched on. -/
theorem synthetic_served_trusted :
    ¬∀ actions, TrustKept meanLearner .empty (run (trustStep meanLearner) ⟨demoSettings, .empty, none⟩ actions) := by
  intro kept
  let actions := [TrustAction.train demoRequest, .configure { mlTrustedMode := true }]
  let request : PredictionRequest := { features := ⟨15, 100, 30, 100, 400⟩ }
  have trust := kept actions
  have synthetic : ((run (trustStep meanLearner) ⟨demoSettings, .empty, none⟩ actions).store.registry.get?
      ("olefin", .elm)).map (·.dataset.source) = some "synthetic" := by
    decide +kernel
  have flagged : (predictWithModel meanLearner
      (run (trustStep meanLearner) ⟨demoSettings, .empty, none⟩ actions).settings .empty
      (run (trustStep meanLearner) ⟨demoSettings, .empty, none⟩ actions).store request).toOption.map (·.trusted) =
        some true := by
    decide +kernel
  generalize run (trustStep meanLearner) ⟨demoSettings, .empty, none⟩ actions = state at trust synthetic flagged
  obtain ⟨result, answered, trusted⟩ := Option.map_eq_some_iff.mp flagged
  obtain ⟨entry, found, -, plant, -⟩ := trust request result (toOption_eq_some.mp answered) trusted
  rw [show state.store.registry.get? ("olefin", .elm) = some entry from found, Option.map_some, plant] at synthetic
  exact absurd (Option.some.inj synthetic) (by decide)

end Iems.Ml
