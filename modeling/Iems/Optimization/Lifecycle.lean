import Iems.Lib.Replay
import Iems.Optimization.Recommendations

/-!
The lifecycle of a recommendation as an automaton over its audit events. Every row is the replay of
its own trail, so what a status says about the trail is a fact about the automaton alone.
-/
namespace Iems.Optimization
open Lib

structure Life where
  status : RecStatus
  approvedBy : Option String
  appliedBy : Option String
  deriving DecidableEq

def life (rec : OptimizationRecommendation) : Life := ⟨rec.status, rec.approvedBy, rec.appliedBy⟩

/-- The documented lifecycle; `none` is a recommendation that does not exist yet. -/
def advance : Option Life → RecommendationAuditEvent → Option (Option Life)
  | none, e => if e.eventType = .created then some (some ⟨.pending, none, none⟩) else none
  | some l, e =>
    match e.eventType, l.status with
    | .accepted, .pending | .accepted, .accepted => some (some { l with status := .accepted })
    | .rejected, .pending | .rejected, .accepted => some (some { l with status := .rejected })
    | .approved, .accepted =>
      some (some { l with status := .approved, approvedBy := some e.actor })
    | .applied, .approved => some (some { l with status := .applied, appliedBy := some e.actor })
    | .applyFailed, .approved => some (some { l with status := .failed })
    | .impact, .accepted | .impact, .approved | .impact, .applied => some (some l)
    | _, _ => none

/-! ### The store follows the lifecycle -/

theorem rowStep_replay {id : Nat} {op : RecOp} {before after : Option OptimizationRecommendation}
    {events : List RecommendationAuditEvent} (change : RowStep id op before after events) :
    replay advance (before.map life) events = some (after.map life) := by
  cases change with
  | same => rfl
  | created => rfl
  | decided body rec open_ =>
    by_cases rejected : body.decision = "rejected" <;> rcases open_ with pending | accepted <;>
      simp_all [replay, advance, life, feedbackEvent, feedbackEdit, decidedEvent, decidedStatus]
  | simulated => rfl
  | approved body rec accepted => simp [replay, advance, life, approveEvent, approveEdit, accepted]
  | applied ctx body rec result approved => simp [replay, advance, life, appliedEvent, appliedEdit, approved]
  | failed ctx body rec message approved => simp [replay, advance, life, failedEvent, failedEdit, approved]
  | measured ctx body rec realized detail tracked =>
    rcases tracked with applied | approved | accepted <;>
      simp_all [replay, advance, life, impactEvent, impactEdit]

def FollowsLifecycle (db : RecStore) : Prop :=
  ∀ id, replay advance none (auditTrail db id) = some ((getRecommendation db id).map life)

theorem followsLifecycle_empty : FollowsLifecycle .empty := fun _ => rfl

theorem followsLifecycle_exec {db : RecStore} (op : RecOp) (follows : FollowsLifecycle db) :
    FollowsLifecycle (exec db op) := by
  intro id
  obtain ⟨events, trail, change⟩ := exec_moves db op id
  rw [trail, replay_append, follows id, Option.bind_some]
  exact rowStep_replay change

theorem followsLifecycle_run (ops : List RecOp) : FollowsLifecycle (run exec .empty ops) :=
  run_invariant (fun _ op follows => followsLifecycle_exec op follows) followsLifecycle_empty

/-! ### What a status says about the trail -/

def Quiet (e : RecommendationAuditEvent) : Prop :=
  e.eventType ∉ [.approved, .applied, .rejected, .applyFailed]

def ApprovedTrail (approvedBy : Option String) (trail : List RecommendationAuditEvent) : Prop :=
  ∃ before approval after, trail = before ++ approval :: after ∧
    (∃ e ∈ before, e.eventType = .accepted) ∧ approval.eventType = .approved ∧
    approvedBy = some approval.actor ∧ ∀ e ∈ before ++ after, Quiet e

/-- Accepted, then approved once, then applied once, never rejected and never failed; the two actors
are the given ones. -/
def AppliedTrail (approvedBy appliedBy : Option String) (trail : List RecommendationAuditEvent) : Prop :=
  ∃ before approval between application after,
    trail = before ++ approval :: between ++ application :: after ∧
    (∃ e ∈ before, e.eventType = .accepted) ∧
    approval.eventType = .approved ∧ application.eventType = .applied ∧
    approvedBy = some approval.actor ∧ appliedBy = some application.actor ∧
    ∀ e ∈ before ++ between ++ after, Quiet e

def TrailShape : Option Life → List RecommendationAuditEvent → Prop
  | none, trail => trail = []
  | some l, trail =>
    match l.status with
    | .pending => ∀ e ∈ trail, Quiet e
    | .accepted => (∀ e ∈ trail, Quiet e) ∧ ∃ e ∈ trail, e.eventType = .accepted
    | .approved => ApprovedTrail l.approvedBy trail
    | .applied => AppliedTrail l.approvedBy l.appliedBy trail
    | .rejected | .failed => ∀ e ∈ trail, e.eventType ≠ .applied

theorem quiet_snoc {trail : List RecommendationAuditEvent} {e : RecommendationAuditEvent}
    (quiet : ∀ f ∈ trail, Quiet f) (last : Quiet e) : ∀ f ∈ trail ++ [e], Quiet f := by
  intro f member
  rcases List.mem_append.mp member with old | new
  · exact quiet f old
  · rw [List.mem_singleton.mp new]
    exact last

theorem quiet_not_applied {e : RecommendationAuditEvent} (quiet : Quiet e) : e.eventType ≠ .applied := by
  intro applied
  apply quiet
  simp [applied]

theorem approvedTrail_not_applied {approvedBy : Option String} {trail : List RecommendationAuditEvent}
    (shape : ApprovedTrail approvedBy trail) : ∀ e ∈ trail, e.eventType ≠ .applied := by
  obtain ⟨before, approval, after, rfl, _, kind, _, quiet⟩ := shape
  intro e member
  rw [List.mem_append, List.mem_cons] at member
  rcases member with early | rfl | late
  · exact quiet_not_applied (quiet e (List.mem_append_left _ early))
  · simp [kind]
  · exact quiet_not_applied (quiet e (List.mem_append_right _ late))

theorem approvedTrail_snoc {approvedBy : Option String} {trail : List RecommendationAuditEvent}
    {e : RecommendationAuditEvent} (shape : ApprovedTrail approvedBy trail) (last : Quiet e) :
    ApprovedTrail approvedBy (trail ++ [e]) := by
  obtain ⟨before, approval, after, rfl, accepted, kind, actor, quiet⟩ := shape
  refine ⟨before, approval, after ++ [e], by simp, accepted, kind, actor, ?_⟩
  rw [← List.append_assoc]
  exact quiet_snoc quiet last

theorem appliedTrail_snoc {approvedBy appliedBy : Option String} {trail : List RecommendationAuditEvent}
    {e : RecommendationAuditEvent} (shape : AppliedTrail approvedBy appliedBy trail) (last : Quiet e) :
    AppliedTrail approvedBy appliedBy (trail ++ [e]) := by
  obtain ⟨before, approval, between, application, after, rfl, accepted, kind, kind', actor, actor', quiet⟩ :=
    shape
  refine ⟨before, approval, between, application, after ++ [e], by simp, accepted, kind, kind', actor,
    actor', ?_⟩
  rw [← List.append_assoc]
  exact quiet_snoc quiet last

theorem appliedTrail_of_approved {approvedBy : Option String} {trail : List RecommendationAuditEvent}
    {e : RecommendationAuditEvent} (shape : ApprovedTrail approvedBy trail) (kind : e.eventType = .applied) :
    AppliedTrail approvedBy (some e.actor) (trail ++ [e]) := by
  obtain ⟨before, approval, after, rfl, accepted, approved, actor, quiet⟩ := shape
  refine ⟨before, approval, after, e, [], by simp, accepted, approved, kind, actor, rfl, ?_⟩
  rw [List.append_nil]
  exact quiet

theorem advance_some {l : Life} {e : RecommendationAuditEvent} {next : Option Life}
    (moved : advance (some l) e = some next) :
    (e.eventType = .accepted ∧ (l.status = .pending ∨ l.status = .accepted) ∧
        next = some { l with status := .accepted }) ∨
      (e.eventType = .rejected ∧ (l.status = .pending ∨ l.status = .accepted) ∧
        next = some { l with status := .rejected }) ∨
      (e.eventType = .approved ∧ l.status = .accepted ∧
        next = some { l with status := .approved, approvedBy := some e.actor }) ∨
      (e.eventType = .applied ∧ l.status = .approved ∧
        next = some { l with status := .applied, appliedBy := some e.actor }) ∨
      (e.eventType = .applyFailed ∧ l.status = .approved ∧
        next = some { l with status := .failed }) ∨
      (e.eventType = .impact ∧ (l.status = .accepted ∨ l.status = .approved ∨ l.status = .applied) ∧
        next = some l) := by
  cases kind : e.eventType <;> cases status : l.status <;>
    simp_all [advance, eq_comm]

/-- While a decision can still be taken, nothing was approved, applied or rejected. -/
theorem trailShape_open {l : Life} {trail : List RecommendationAuditEvent}
    (shape : TrailShape (some l) trail) (open_ : l.status = .pending ∨ l.status = .accepted) :
    ∀ e ∈ trail, Quiet e := by
  rcases open_ with pending | accepted
  · simpa [TrailShape, pending] using shape
  · simp only [TrailShape, accepted] at shape
    exact shape.1

theorem trailShape_advance (s : Option Life) (trail : List RecommendationAuditEvent)
    (e : RecommendationAuditEvent) (next : Option Life) (shape : TrailShape s trail)
    (moved : advance s e = some next) : TrailShape next (trail ++ [e]) := by
  cases s with
  | none =>
    obtain ⟨created, same⟩ : e.eventType = .created ∧ some ⟨.pending, none, none⟩ = next := by
      simpa [advance] using moved
    subst same
    cases shape
    simp [TrailShape, Quiet, created]
  | some l =>
    rcases advance_some moved with ⟨kind, open_, rfl⟩ | ⟨kind, open_, rfl⟩ | ⟨kind, accepted, rfl⟩ |
      ⟨kind, approved, rfl⟩ | ⟨kind, approved, rfl⟩ | ⟨kind, tracked, rfl⟩
    · have quiet := trailShape_open shape open_
      exact ⟨quiet_snoc quiet (by simp [Quiet, kind]), e, by simp, kind⟩
    · have quiet := trailShape_open shape open_
      intro f member
      rcases List.mem_append.mp member with old | new
      · exact quiet_not_applied (quiet f old)
      · rw [List.mem_singleton.mp new, kind]
        decide
    · simp only [TrailShape, accepted] at shape
      obtain ⟨quiet, acceptance⟩ := shape
      refine ⟨trail, e, [], rfl, acceptance, kind, rfl, ?_⟩
      rw [List.append_nil]
      exact quiet
    · simp only [TrailShape, approved] at shape
      exact appliedTrail_of_approved shape kind
    · simp only [TrailShape, approved] at shape
      intro f member
      rcases List.mem_append.mp member with old | new
      · exact approvedTrail_not_applied shape f old
      · rw [List.mem_singleton.mp new, kind]
        decide
    · have last : Quiet e := by simp [Quiet, kind]
      rcases tracked with accepted | approved | applied
      · simp only [TrailShape, accepted] at shape ⊢
        exact ⟨quiet_snoc shape.1 last, shape.2.imp fun f known => ⟨List.mem_append_left _ known.1, known.2⟩⟩
      · simp only [TrailShape, approved] at shape ⊢
        exact approvedTrail_snoc shape last
      · simp only [TrailShape, applied] at shape ⊢
        exact appliedTrail_snoc shape last

theorem trailShape_run (ops : List RecOp) (id : Nat) :
    TrailShape ((getRecommendation (run exec .empty ops) id).map life)
      (auditTrail (run exec .empty ops) id) := by
  have start : TrailShape none [] := rfl
  exact replay_shape start trailShape_advance (followsLifecycle_run ops id)

/-! ### Settled statuses and the simulation gate -/

def RecStatus.Settled (status : RecStatus) : Prop := status ∈ [.rejected, .applied, .failed]

theorem rowStep_settled {id : Nat} {op : RecOp} {rec : OptimizationRecommendation}
    {after : Option OptimizationRecommendation} {events : List RecommendationAuditEvent}
    (settled : rec.status.Settled) (change : RowStep id op (some rec) after events) :
    ∃ later, after = some later ∧ later.status = rec.status := by
  have status : ∀ s : RecStatus, s.Settled → s ≠ .pending ∧ s ≠ .accepted ∧ s ≠ .approved := by
    unfold RecStatus.Settled
    decide
  obtain ⟨notPending, notAccepted, notApproved⟩ := status _ settled
  cases change with
  | same => exact ⟨rec, rfl, rfl⟩
  | decided body _ open_ => exact absurd open_ (by simp [notPending, notAccepted])
  | simulated ctx model _ sim => exact ⟨_, rfl, rfl⟩
  | approved body _ accepted => exact absurd accepted notAccepted
  | applied ctx body _ result approved => exact absurd approved notApproved
  | failed ctx body _ message approved => exact absurd approved notApproved
  | measured ctx body _ realized detail => exact ⟨_, rfl, rfl⟩

theorem settled_run {db : RecStore} {id : Nat} {rec : OptimizationRecommendation}
    (settled : rec.status.Settled) (found : getRecommendation db id = some rec) (ops : List RecOp) :
    ∃ later, getRecommendation (run exec db ops) id = some later ∧ later.status = rec.status := by
  have keep : ∀ s op, (∃ later, getRecommendation s id = some later ∧ later.status = rec.status) →
      ∃ later, getRecommendation (exec s op) id = some later ∧ later.status = rec.status := by
    intro s op ⟨now, present, same⟩
    obtain ⟨events, _, change⟩ := exec_moves s op id
    rw [present] at change
    obtain ⟨later, next, kept⟩ := rowStep_settled (same ▸ settled) change
    exact ⟨later, next, kept.trans same⟩
  exact run_invariant keep ⟨rec, found, rfl⟩

def RequiresSim : RecOp → Prop
  | .apply ctx _ => ctx.cfg.optRequireSimBeforeApply = true
  | _ => True

def SimulatedWhenApplied (db : RecStore) : Prop :=
  ∀ id rec, getRecommendation db id = some rec → rec.status = .applied →
    rec.simulatedIntensityDelta ≠ none

theorem simulatedWhenApplied_exec {db : RecStore} {op : RecOp} (simulated : SimulatedWhenApplied db)
    (gate : RequiresSim op) : SimulatedWhenApplied (exec db op) := by
  intro id rec found status
  obtain ⟨events, _, change⟩ := exec_moves db op id
  rw [found] at change
  generalize earlier : getRecommendation db id = before at change
  cases change with
  | same => exact simulated id rec earlier status
  | created => cases status
  | decided body old open_ =>
    by_cases rejected : body.decision = "rejected" <;>
      simp [feedbackEdit, decidedStatus, rejected] at status
  | simulated => exact fun missing => nomatch missing
  | approved => cases status
  | applied ctx body old result approved required => exact required gate
  | failed => cases status
  | measured ctx body old realized detail => exact simulated id old earlier status

/-! ### The lifecycle of every run -/

/-- In every reachable store an applied recommendation has the full trail, with its actors, and was
simulated when the gate was on throughout; a rejected, applied or failed one stays so. -/
theorem lifecycle_of_run (ops : List RecOp) (id : Nat) (rec : OptimizationRecommendation)
    (found : getRecommendation (run exec .empty ops) id = some rec) :
    (rec.status = .applied →
      AppliedTrail rec.approvedBy rec.appliedBy (auditTrail (run exec .empty ops) id) ∧
        ((∀ op ∈ ops, RequiresSim op) → rec.simulatedIntensityDelta ≠ none)) ∧
    (rec.status.Settled → ∀ more, ∃ later,
      getRecommendation (run exec .empty (ops ++ more)) id = some later ∧
        later.status = rec.status) := by
  refine ⟨fun applied => ⟨?_, fun gate => ?_⟩, fun settled more => ?_⟩
  · have shape := trailShape_run ops id
    rw [found] at shape
    simpa only [Option.map_some, TrailShape, life, applied] using shape
  · have meets : Meets exec (fun _ op => RequiresSim op) .empty ops :=
      meets_of_forall fun _ op member => gate op member
    have start : SimulatedWhenApplied .empty := fun _ _ absent => nomatch absent
    exact meets.invariant (fun _ _ simulated required => simulatedWhenApplied_exec simulated required)
      start id rec found applied
  · rw [run_append]
    exact settled_run settled found more

/-- Advice that cools the reactor and raises the feed of one unit. -/
def sampleAdvice : SetpointAdvice where
  plantCode := "olefin"
  priority := .medium
  title := "Align 'olefin' with high-efficiency 'pta'"
  rationale := "Unit is low-efficiency"
  current := setpoints 410 95 100 30 15
  proposed := setpoints 403 100 98 29 15
  deltas := setpoints (-7) 5 (-2) (-1) 0
  estimatedSecReductionPct := 3
  estimatedEnergySavingKwhPerH := 1200
  estimatedEfficiencyGainPp := 2
  benchmarkPlant := some "pta"
  tags := ["sec", "benchmark"]

def sampleSimulation : AdviceSimulation where
  plantCode := "olefin"
  beforeIntensity := 700
  afterIntensity := 680
  beforeEfficiency := 80
  afterEfficiency := 82
  beforeCarbonIntensity := 0
  afterCarbonIntensity := 0
  intensityDelta := -20
  efficiencyDeltaPp := 2
  carbonDelta := 0
  model := none
  source := none

/-- A plant whose reactor temperature and feed setpoints are writable. -/
def sampleTagMap : Ingestion.TagMap where
  items := [("olefin",
    { code := "olefin"
      name := "Olefin unit"
      tags :=
        { items :=
            [("reactor_temp_c",
                { field := "reactor_temp_c", nodeId := "ns=2;s=TI", unit := "C", description := "",
                  writable := true, writeNodeId := some "ns=2;s=TIC.SP" }),
              ("feed_flow_tonh",
                { field := "feed_flow_tonh", nodeId := "ns=2;s=FIC", unit := "t/h", description := "",
                  scale := 1 / 2, writable := true })]
          distinct := by simp } })]
  distinct := by simp

def sampleContext : ApplyContext where
  cfg := { opcUaEndpoint := "opc.tcp://plant-host:4840", opcWriteEnabled := true }
  tagMap := sampleTagMap
  loadUnitState := fun _ => none

def sampleApproval : List RecOp :=
  [.persist 0 [sampleAdvice] ⟨[("olefin", sampleSimulation)], by simp⟩,
    .feedback { recommendationId := 1, decision := "accepted", operator := "shift", now := 1 },
    .approve { recommendationId := 1, actor := "lead", now := 2 }]

def sampleBody : ApplyRequest where
  recommendationId := 1
  actor := "admin"
  dryRun := some false
  now := 3

theorem lifecycle_of_sample :
    ∃ rec, getRecommendation (run exec .empty (sampleApproval ++ [.apply sampleContext sampleBody])) 1 = some rec ∧
      AppliedTrail rec.approvedBy rec.appliedBy
        (auditTrail (run exec .empty (sampleApproval ++ [.apply sampleContext sampleBody])) 1) ∧
      rec.simulatedIntensityDelta ≠ none := by
  have some_ : (getRecommendation (run exec .empty (sampleApproval ++ [.apply sampleContext sampleBody])) 1).isSome := by
    decide +kernel
  obtain ⟨rec, found⟩ := Option.isSome_iff_exists.mp some_
  have status : (getRecommendation (run exec .empty (sampleApproval ++ [.apply sampleContext sampleBody])) 1).map
      (·.status) = some .applied := by
    decide +kernel
  rw [found] at status
  have story := (lifecycle_of_run _ 1 rec found).1 (Option.some.inj status)
  refine ⟨rec, found, story.1, story.2 ?_⟩
  intro op member
  simp only [sampleApproval, List.cons_append, List.nil_append, List.mem_cons,
    List.not_mem_nil, or_false] at member
  rcases member with rfl | rfl | rfl | rfl <;> trivial

end Iems.Optimization
