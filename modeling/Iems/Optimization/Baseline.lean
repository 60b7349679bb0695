import Iems.Optimization.ImpactHistory

/-! The intensity that an apply and a measurement fall back on when the live state cannot be read. -/
namespace Iems.Optimization
open Lib

/-- Where the live read fails, the apply finds the intensity in the stored snapshot, and a measurement without a
baseline finds it there too. -/
def FallsBackOn (db : RecStore) (id : Nat) (intensity : ℚ) : Prop :=
  ∃ rec, getRecommendation db id = some rec ∧
    (∀ ctx : ApplyContext, ctx.loadUnitState rec.plantCode = none → (captureBaseline ctx rec).1 = some intensity) ∧
    (rec.baselineIntensity = none → impactBaseline rec = some intensity)

/-- An applied recommendation that no measurement finds a baseline for. -/
def Unbased (db : RecStore) (id : Nat) : Prop :=
  ∃ rec, getRecommendation db id = some rec ∧ rec.status = .applied ∧ impactBaseline rec = none

theorem currentSetpoints_no_intensity (state : UnitOperatingState) :
    (currentSetpoints state).get? "energy_intensity_kgoe_ton" = none := rfl

theorem impactBaseline_none {rec : OptimizationRecommendation} :
    impactBaseline rec = none ↔ rec.baselineIntensity = none ∧ rec.current.get? "energy_intensity_kgoe_ton" = none :=
  Option.or_eq_none_iff

theorem captureBaseline_lost {ctx : ApplyContext} {rec : OptimizationRecommendation}
    (unread : ctx.loadUnitState rec.plantCode = none) (absent : rec.current.get? "energy_intensity_kgoe_ton" = none) :
    captureBaseline ctx rec = (none, none) := by
  unfold captureBaseline
  rw [unread]
  dsimp only
  rw [absent]
  rfl

theorem advice_no_intensity {states : List UnitOperatingState} {benchmarks : List UnitBenchmark}
    {advice : List SetpointAdvice} {item : SetpointAdvice} (built : buildStructuredAdvice states benchmarks = some advice)
    (member : item ∈ advice) : item.current.get? "energy_intensity_kgoe_ton" = none := by
  obtain ⟨_, best, _, _, listed⟩ := mem_buildStructuredAdvice built
  obtain ⟨state, _, bench, _, advised⟩ := (listed item).mp member
  rw [(adviseUnit_advises advised).2.current]
  exact currentSetpoints_no_intensity state

/-! ### Applied without a baseline -/

theorem unbased_exec {db : RecStore} {id : Nat} (op : RecOp) (unbased : Unbased db id) : Unbased (exec db op) id := by
  obtain ⟨rec, found, applied, missing⟩ := unbased
  obtain ⟨events, _, change⟩ := exec_moves db op id
  rw [found] at change
  generalize after : getRecommendation (exec db op) id = next at change
  cases change with
  | same => exact ⟨rec, after, applied, missing⟩
  | decided body _ open_ => rw [applied] at open_; rcases open_ with pending | accepted <;> contradiction
  | simulated ctx model _ sim => exact ⟨_, after, applied, missing⟩
  | approved body _ accepted => rw [applied] at accepted; contradiction
  | applied ctx body _ result approved => rw [applied] at approved; contradiction
  | failed ctx body _ message approved => rw [applied] at approved; contradiction
  | measured ctx body _ realized => exact ⟨_, after, applied, missing⟩

theorem unbased_run {db : RecStore} {id : Nat} (unbased : Unbased db id) (ops : List RecOp) :
    Unbased (run exec db ops) id :=
  run_invariant (fun s op => @unbased_exec s id op) unbased

theorem measureImpact_unbased {ctx : ImpactContext} {body : ImpactRequest} {db : RecStore} {impact : ImpactOutcome}
    (unbased : Unbased db body.recommendationId) (measured : (measureImpact ctx body db).1 = .ok impact) :
    impact.baselineIntensity = none := by
  obtain ⟨rec, found, _, missing⟩ := unbased
  unfold measureImpact at measured
  split at measured
  · cases measured
  · rename_i row passed
    cases found.symm.trans (impactCheck_ok passed).1
    cases measured
    exact missing

theorem apply_unbased {ctx : ApplyContext} {body : ApplyRequest} {db : RecStore} {rec : OptimizationRecommendation}
    {outcome : ApplyOutcome} (found : getRecommendation db body.recommendationId = some rec)
    (absent : rec.current.get? "energy_intensity_kgoe_ton" = none) (unread : ctx.loadUnitState rec.plantCode = none)
    (done : (applyRecommendation ctx body db).outcome = .ok outcome) :
    outcome.baselineIntensity = none ∧ Unbased (applyRecommendation ctx body db).db body.recommendationId := by
  have lost := captureBaseline_lost unread absent
  unfold applyRecommendation at done ⊢
  cases check : applyCheck ctx.cfg body db with
  | error e =>
    rw [check] at done
    cases done
  | ok row =>
    rw [check] at done
    cases found.symm.trans (applyCheck_ok check).1
    obtain ⟨result, _, rfl, committed⟩ := applyCommit_outcome done
    refine ⟨congrArg Prod.fst lost, appliedEdit ctx body rec result, ?_, rfl, ?_⟩
    · show getRecommendation (applyCommit ctx body rec db).2 body.recommendationId = _
      rw [committed, getRecommendation_appendAudit, getRecommendation_save, if_pos rfl, found, Option.map_some,
        flush_current]
    · exact impactBaseline_none.mpr ⟨congrArg Prod.fst lost, absent⟩

/-- The fallback finds no intensity, whatever the advice and whatever was requested since: an apply without a live
state leaves the recommendation without a baseline for good. -/
theorem fallback_missing {states : List UnitOperatingState} {benchmarks : List UnitBenchmark}
    {advice adviceItems : List SetpointAdvice} {item : SetpointAdvice} {now : Int}
    {simulations : Dict String AdviceSimulation} {db : RecStore} {id : Nat}
    (built : buildStructuredAdvice states benchmarks = some advice) (member : item ∈ advice)
    (persisted : (id, newRecommendation now simulations item) ∈
      (persistRecommendations now adviceItems simulations db).1) (ops : List RecOp) :
    let reached := run exec (persistRecommendations now adviceItems simulations db).2 ops
    (∀ intensity, ¬ FallsBackOn reached id intensity) ∧
      ∀ (ctx : ApplyContext) (body : ApplyRequest) (outcome : ApplyOutcome), body.recommendationId = id →
        ctx.loadUnitState item.plantCode = none → (applyRecommendation ctx body reached).outcome = .ok outcome →
        outcome.baselineIntensity = none ∧
          ∀ (more : List RecOp) (ictx : ImpactContext) (ibody : ImpactRequest) (impact : ImpactOutcome),
            ibody.recommendationId = id →
            (measureImpact ictx ibody (run exec (applyRecommendation ctx body reached).db more)).1 = .ok impact →
            impact.baselineIntensity = none := by
  intro reached
  obtain ⟨rec, found, kept⟩ := advice_run (persisted_found persisted) ops
  rw [rowAdvice_new] at kept
  have absent : rec.current.get? "energy_intensity_kgoe_ton" = none := by
    have same : rec.current = item.current := congrArg SetpointAdvice.current kept
    rw [same]
    exact advice_no_intensity built member
  have plants : rec.plantCode = item.plantCode := congrArg SetpointAdvice.plantCode kept
  constructor
  · rintro intensity ⟨row, there, falls, _⟩
    cases found.symm.trans there
    have lost := falls ⟨{}, .empty, fun _ => none, {}, false⟩ rfl
    rw [captureBaseline_lost rfl absent] at lost
    cases lost
  · intro ctx body outcome own unread done
    subst own
    obtain ⟨outcomeLost, unbased⟩ := apply_unbased found absent (plants ▸ unread) done
    refine ⟨outcomeLost, fun more ictx ibody impact same measured => ?_⟩
    exact measureImpact_unbased (same ▸ unbased_run unbased more) measured

theorem fallback_missing_feed :
    let reached := run exec (persistRecommendations 0 [feedAdvice] .empty .empty).2 feedApproval
    (∀ intensity, ¬ FallsBackOn reached 1 intensity) ∧
      ∀ (ctx : ApplyContext) (body : ApplyRequest) (outcome : ApplyOutcome), body.recommendationId = 1 →
        ctx.loadUnitState feedAdvice.plantCode = none → (applyRecommendation ctx body reached).outcome = .ok outcome →
        outcome.baselineIntensity = none ∧
          ∀ (more : List RecOp) (ictx : ImpactContext) (ibody : ImpactRequest) (impact : ImpactOutcome),
            ibody.recommendationId = 1 →
            (measureImpact ictx ibody (run exec (applyRecommendation ctx body reached).db more)).1 = .ok impact →
            impact.baselineIntensity = none :=
  fallback_missing sampleFleet_advice (List.mem_singleton_self _) (by decide +kernel) feedApproval

/-- A feed rise is applied while the live state cannot be read: the olefin unit ran at 600, and no baseline is kept. -/
theorem applied_without_baseline :
    (∃ outcome, feedAttempt.outcome = .ok outcome ∧ outcome.status = .applied ∧ outcome.baselineIntensity = none) ∧
    ¬ ∀ (states : List UnitOperatingState) (benchmarks : List UnitBenchmark) (advice adviceItems : List SetpointAdvice)
      (item : SetpointAdvice) (now : Int) (simulations : Dict String AdviceSimulation) (db : RecStore) (id : Nat)
      (ops : List RecOp), buildStructuredAdvice states benchmarks = some advice → item ∈ advice →
      (id, newRecommendation now simulations item) ∈ (persistRecommendations now adviceItems simulations db).1 →
      ∃ state ∈ states, state.plantCode = item.plantCode ∧
        FallsBackOn (run exec (persistRecommendations now adviceItems simulations db).2 ops) id
          state.energyIntensityKgoeTon := by
  have applied : feedAttempt.outcome.toOption.map (fun outcome => (outcome.status, outcome.baselineIntensity)) =
      some (.applied, none) := by decide +kernel
  have snapshot : (getRecommendation (run exec (persistRecommendations 0 [feedAdvice] .empty .empty).2 feedApproval) 1).map
      (fun rec => rec.current.get? "energy_intensity_kgoe_ton") = some none := by decide +kernel
  constructor
  · cases attempt : feedAttempt.outcome with
    | error e => simp [attempt, Except.toOption] at applied
    | ok outcome =>
      simp only [attempt, Except.toOption, Option.map_some, Option.some.injEq, Prod.mk.injEq] at applied
      exact ⟨outcome, rfl, applied⟩
  · intro always
    obtain ⟨state, _, _, rec, found, falls, _⟩ := always sampleFleet _ [feedAdvice] [feedAdvice] feedAdvice 0 .empty .empty
      1 feedApproval sampleFleet_advice (List.mem_singleton_self _) (by decide +kernel)
    rw [found, Option.map_some, Option.some.injEq] at snapshot
    have kept := falls feedContext rfl
    rw [captureBaseline_lost rfl snapshot] at kept
    cases kept

end Iems.Optimization
