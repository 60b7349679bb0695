import Iems.Optimization.Concurrent
import Iems.Optimization.LiveFaults

/-! Concurrent apply requests on one recommendation: which runs write its setpoints once. -/
namespace Iems.Optimization
open Lib Lib.Sessions Iems.Core Ingestion

/-- The apply will write to the plant or record that it applied. -/
def Takes (ctx : ApplyContext) (body : ApplyRequest) (rec : OptimizationRecommendation) : Prop :=
  (effectiveDryRun ctx.cfg body.dryRun = true ∧ ctx.tagMap.get? rec.plantCode ≠ none ∧
      ctx.commitFails = false) ∨
    (effectiveDryRun ctx.cfg body.dryRun = false ∧ FirstWriteLands ctx rec)

def RecRequest.Takes : RecRequest → OptimizationRecommendation → Prop
  | .apply ctx body, rec => Optimization.Takes ctx body rec
  | _, _ => False

def TakesAt (w : RecWorld) (i : Nat) : Prop :=
  ∃ s, w.sessions i = some s ∧ s.request.Takes s.seen

/-- Applies of one recommendation only; one that takes the recommendation passes its check while no
other open one takes it, and when live is not interrupted after its first write. -/
def Exclusive (id : Nat) (w : RecWorld) : Action RecRequest → Prop
  | .read r => ∃ ctx body, r = .apply ctx body ∧ body.recommendationId = id ∧
      ∀ rec, applyCheck ctx.cfg body w.db = .ok rec → Takes ctx body rec →
        (∀ i, ¬ TakesAt w i) ∧
          (effectiveDryRun ctx.cfg body.dryRun = false → NothingRaises ctx rec)
  | _ => True

section
variable {ctx : ApplyContext} {body : ApplyRequest} {rec : OptimizationRecommendation}

theorem takes_of_written (simulated : ctx.cfg.optRequireSimBeforeApply = true → rec.simulatedIntensityDelta ≠ none)
    {write : NodeWrite} (event : PlantEvent.write write ∈ (applyWrites ctx body rec).events) :
    Takes ctx body rec := by
  have written : nodeWrites (applyWrites ctx body rec).events ≠ [] := by
    have member : write ∈ nodeWrites (applyWrites ctx body rec).events :=
      List.mem_filterMap.mpr ⟨_, event, rfl⟩
    exact List.ne_nil_of_mem member
  obtain ⟨live, gates, connects, first⟩ := applyWrites_sent_iff.mp written
  exact Or.inr ⟨live, simulated, gates, connects, first⟩

/-- An apply that takes the recommendation and is not interrupted records that it applied. -/
theorem takes_completes (takes : Takes ctx body rec)
    (quiet : effectiveDryRun ctx.cfg body.dryRun = false → NothingRaises ctx rec) :
    ∃ result, (applyWrites ctx body rec).outcome = .ok result ∧ ctx.commitFails = false := by
  rcases takes with ⟨dry, known, commits⟩ | ⟨live, lands⟩
  · rcases @writeSetpoints_cases ctx.cfg ctx.tagMap ctx.faults rec.plantCode rec.proposed
      (some (effectiveDryRun ctx.cfg body.dryRun)) with
      ⟨plan, _, _, planned⟩ | ⟨message, _, unknown | ⟨live, _⟩⟩ | ⟨plan, _, live, _⟩
    · exact ⟨_, congrArg WriteRun.outcome planned, commits⟩
    · exact absurd unknown known
    · cases dry.symm.trans live
    · cases dry.symm.trans live
  · obtain ⟨plan, completed, _⟩ := @applyWrites_completes ctx body rec live lands (quiet live)
    exact ⟨_, completed, (quiet live).commits⟩

theorem takes_of_completed {result : WriteResult}
    (simulated : ctx.cfg.optRequireSimBeforeApply = true → rec.simulatedIntensityDelta ≠ none)
    (completed : (applyWrites ctx body rec).outcome = .ok result) (commits : ctx.commitFails = false) :
    Takes ctx body rec := by
  unfold applyWrites at completed
  rcases @writeSetpoints_cases ctx.cfg ctx.tagMap ctx.faults rec.plantCode rec.proposed
    (some (effectiveDryRun ctx.cfg body.dryRun)) with
    ⟨plan, planned, dry, _⟩ | ⟨message, refused, _⟩ | ⟨plan, planned, live, gates, attempt⟩
  · obtain ⟨plant, known, _⟩ := planSetpointWrites_ok planned
    exact Or.inl ⟨dry, by simp [known], commits⟩
  · rw [refused] at completed
    cases completed
  · rw [attempt] at completed
    obtain ⟨connects, _, clear, _⟩ := liveWrite_ok completed
    have some_ := (planned_ne_nil_iff planned).mpr gates.writable
    exact Or.inr ⟨live, simulated, gates, connects, clear 0 (List.length_pos_iff.mpr some_)⟩

end

/-! ### The invariant -/

def appliedCount (db : RecStore) (id : Nat) : Nat :=
  (auditTrail db id).countP (·.eventType = .applied)

theorem appliedCount_saved (db : RecStore) (id : Nat) (loaded edited : OptimizationRecommendation)
    {event : RecommendationAuditEvent} (own : event.recommendationId = id) :
    appliedCount (appendAudit (save db id loaded edited) event) id =
      appliedCount db id + if event.eventType = .applied then 1 else 0 := by
  unfold appliedCount
  rw [auditTrail_appendAudit_own own, auditTrail_save, List.countP_append, List.countP_singleton]
  simp

theorem saved_not_approved {db : RecStore} {id : Nat} {loaded edited : OptimizationRecommendation}
    {event : RecommendationAuditEvent} (approved : loaded.status = .approved)
    (moved : edited.status ≠ .approved) :
    statusOf (appendAudit (save db id loaded edited) event) id ≠ some .approved := by
  have changed : edited.status ≠ loaded.status := by rwa [approved]
  rw [statusOf_saved]
  intro status
  obtain ⟨current, _, same⟩ := Option.map_eq_some_iff.mp status
  rw [column_changed changed] at same
  exact moved same

section
variable {ctx : ApplyContext} {body : ApplyRequest} {seen : OptimizationRecommendation} {db : RecStore}

theorem taken_commit (approved : seen.status = .approved) (takes : Takes ctx body seen)
    (quiet : effectiveDryRun ctx.cfg body.dryRun = false → NothingRaises ctx seen) :
    appliedCount (applyCommit ctx body seen db).2 body.recommendationId =
        appliedCount db body.recommendationId + 1 ∧
      statusOf (applyCommit ctx body seen db).2 body.recommendationId ≠ some .approved := by
  obtain ⟨result, completed, commits⟩ := takes_completes takes quiet
  rw [applyCommit_applied completed commits]
  refine ⟨?_, saved_not_approved approved (by simp [appliedEdit])⟩
  have own : (appliedEvent ctx body seen result).recommendationId = body.recommendationId := rfl
  rw [appliedCount_saved _ _ _ _ own]
  simp [appliedEvent]

theorem untaken_commit (approved : seen.status = .approved)
    (simulated : ctx.cfg.optRequireSimBeforeApply = true → seen.simulatedIntensityDelta ≠ none)
    (untaken : ¬ Takes ctx body seen) :
    (applyCommit ctx body seen db).2 = db ∨
      (appliedCount (applyCommit ctx body seen db).2 body.recommendationId =
          appliedCount db body.recommendationId ∧
        statusOf (applyCommit ctx body seen db).2 body.recommendationId ≠ some .approved) := by
  rcases applyCommit_cases ctx body seen db with same | ⟨message, _, next⟩ | ⟨result, completed, commits, _⟩
  · exact Or.inl same
  · rw [next]
    refine Or.inr ⟨?_, saved_not_approved approved (by simp [failedEdit])⟩
    have own : (failedEvent ctx body message).recommendationId = body.recommendationId := rfl
    rw [appliedCount_saved _ _ _ _ own]
    simp [failedEvent]
  · exact absurd (takes_of_completed simulated completed commits) untaken

end

def WritesBy (w : RecWorld) (i : Nat) : Prop :=
  ∀ j write, (j, PlantEvent.write write) ∈ w.log → j = i

def NoWrites (w : RecWorld) : Prop := ∀ j write, (j, PlantEvent.write write) ∉ w.log

/-- One open session has taken the recommendation, and nobody has applied it yet. -/
def Held (id : Nat) (w : RecWorld) : Prop :=
  ∃ i, TakesAt w i ∧ (∀ j, TakesAt w j → j = i) ∧ WritesBy w i ∧ appliedCount w.db id = 0

/-- No open session takes the recommendation; while it is approved it is untouched. -/
def Free (id : Nat) (w : RecWorld) : Prop :=
  (∀ j, ¬ TakesAt w j) ∧ (∃ i, WritesBy w i) ∧ appliedCount w.db id ≤ 1 ∧
    (statusOf w.db id = some .approved → NoWrites w ∧ appliedCount w.db id = 0)

def IsApply (id : Nat) (r : RecRequest) : Prop :=
  ∃ ctx body, r = .apply ctx body ∧ body.recommendationId = id

structure Sound (id : Nat) (w : RecWorld) : Prop where
  opened : Opened recProtocol (IsApply id) w
  numbered : Numbered w
  uninterrupted : ∀ i s ctx body, w.sessions i = some s → s.request = .apply ctx body →
    Takes ctx body s.seen → effectiveDryRun ctx.cfg body.dryRun = false → NothingRaises ctx s.seen
  phase : Held id w ∨ Free id w

theorem takesAt_assign {w next : RecWorld} {i : Nat}
    {s : Option (Session RecRequest OptimizationRecommendation PlantEvent)}
    (sessions : next.sessions = assign w.sessions i s) (j : Nat) : TakesAt next j ↔
      (j = i ∧ ∃ t, s = some t ∧ t.request.Takes t.seen) ∨ (j ≠ i ∧ TakesAt w j) := by
  unfold TakesAt
  rw [sessions]
  by_cases here : j = i
  · subst here
    rw [assign_same]
    simp
  · rw [assign_other _ _ here]
    simp [here]

theorem phase_congr {id : Nat} {w next : RecWorld} (takers : ∀ j, TakesAt next j ↔ TakesAt w j)
    (writes : ∀ j write, (j, PlantEvent.write write) ∈ next.log ↔ (j, PlantEvent.write write) ∈ w.log)
    (db : next.db = w.db) (phase : Held id w ∨ Free id w) : Held id next ∨ Free id next := by
  unfold Held Free WritesBy NoWrites at *
  simp only [takers, writes, db]
  exact phase

section
variable {id : Nat} {w : RecWorld}

theorem Sound.checked (sound : Sound id w) {i : Nat}
    {s : Session RecRequest OptimizationRecommendation PlantEvent} (busy : w.sessions i = some s) :
    ∃ ctx body, s.request = .apply ctx body ∧ body.recommendationId = id ∧ s.seen.status = .approved ∧
      (ctx.cfg.optRequireSimBeforeApply = true → s.seen.simulatedIntensityDelta ≠ none) := by
  obtain ⟨⟨ctx, body, request, own⟩, ⟨loaded, found⟩, _⟩ := sound.opened i s busy
  rw [request] at found
  obtain ⟨_, approved, simulated⟩ := applyCheck_ok (toOption_eq_some.mp found)
  exact ⟨ctx, body, request, own, approved, simulated⟩

/-- Nobody is interrupted between a first write and the commit, whoever moves. -/
theorem uninterrupted_step {action : Action RecRequest} (sound : Sound id w)
    (exclusive : Exclusive id w action) {i : Nat}
    {s : Session RecRequest OptimizationRecommendation PlantEvent} {ctx : ApplyContext} {body : ApplyRequest}
    (busy : (step recProtocol w action).sessions i = some s) (request : s.request = .apply ctx body)
    (takes : Takes ctx body s.seen) (live : effectiveDryRun ctx.cfg body.dryRun = false) :
    NothingRaises ctx s.seen := by
  rcases session_step busy with ⟨read, found, _⟩ | ⟨t, old, kept, seen, _⟩
  · subst read
    obtain ⟨ctx', body', apply, _, alone⟩ := exclusive
    cases apply.symm.trans request
    rw [request] at found
    exact (alone s.seen (toOption_eq_some.mp found) takes).2 live
  · rw [← seen] at takes ⊢
    exact sound.uninterrupted i t ctx body old (kept.trans request) takes live

theorem phase_read {r : RecRequest} (sound : Sound id w) (exclusive : Exclusive id w (.read r)) :
    Held id (step recProtocol w (.read r)) ∨ Free id (step recProtocol w (.read r)) := by
  obtain ⟨ctx, body, rfl, own, alone⟩ := exclusive
  rcases read_cases recProtocol w (.apply ctx body) with ⟨_, same⟩ | ⟨seen, found, next⟩
  · rw [same]; exact sound.phase
  · have passed := toOption_eq_some.mp found
    have takers := takesAt_assign (congrArg World.sessions next)
    by_cases takes : Takes ctx body seen
    · have nobody := (alone seen passed takes).1
      rcases sound.phase with ⟨i, taken, _⟩ | ⟨_, _, _, untouched⟩
      · exact absurd taken (nobody i)
      · have status : statusOf w.db id = some .approved := by
          obtain ⟨present, approved, _⟩ := applyCheck_ok passed
          unfold statusOf
          rw [← own, present, Option.map_some, approved]
        obtain ⟨silent, zero⟩ := untouched status
        refine Or.inl ⟨w.next, (takers w.next).mpr (Or.inl ⟨rfl, _, rfl, takes⟩), ?_, ?_, ?_⟩
        · intro j taken
          rcases (takers j).mp taken with ⟨here, _⟩ | ⟨_, old⟩
          · exact here
          · exact absurd old (nobody j)
        · rw [next]
          intro j write member
          exact absurd member (silent j write)
        · rw [next]
          exact zero
    · have same : ∀ j, TakesAt (step recProtocol w (.read (.apply ctx body))) j ↔ TakesAt w j := by
        intro j
        rw [takers j]
        constructor
        · rintro (⟨_, t, fresh, taken⟩ | ⟨_, old⟩)
          · cases fresh
            exact absurd taken takes
          · exact old
        · intro old
          refine Or.inr ⟨?_, old⟩
          rintro rfl
          obtain ⟨s, busy, _⟩ := old
          rw [sound.numbered _ (Nat.le_refl _)] at busy
          cases busy
      exact phase_congr same (by rw [next]; exact fun _ _ => Iff.rfl) (by rw [next]) sound.phase

theorem writer_takes (sound : Sound id w) {i : Nat} {r : RecRequest} {seen : OptimizationRecommendation}
    {write : NodeWrite} {rest : List PlantEvent}
    (busy : w.sessions i = some ⟨r, seen, .write write :: rest⟩) : TakesAt w i := by
  obtain ⟨ctx, body, request, _, _, simulated⟩ := sound.checked busy
  obtain ⟨_, _, todo⟩ := sound.opened i _ busy
  cases request
  exact ⟨_, busy, takes_of_written simulated (todo List.mem_cons_self)⟩

theorem phase_effect (sound : Sound id w) (i : Nat) :
    Held id (step recProtocol w (.effect i)) ∨ Free id (step recProtocol w (.effect i)) := by
  rcases effect_cases recProtocol w i with same | ⟨r, seen, e, rest, busy, next⟩
  · rw [same]; exact sound.phase
  · have takers : ∀ j, TakesAt (step recProtocol w (.effect i)) j ↔ TakesAt w j := by
      intro j
      rw [takesAt_assign (congrArg World.sessions next) j]
      constructor
      · rintro (⟨rfl, t, same, taken⟩ | ⟨_, old⟩)
        · cases same
          exact ⟨_, busy, taken⟩
        · exact old
      · intro old
        by_cases here : j = i
        · subst here
          obtain ⟨s, found, taken⟩ := old
          cases busy.symm.trans found
          exact Or.inl ⟨rfl, _, rfl, taken⟩
        · exact Or.inr ⟨here, old⟩
    have log : (step recProtocol w (.effect i)).log = w.log ++ [(i, e)] := by rw [next]
    have db : (step recProtocol w (.effect i)).db = w.db := effect_db w i
    rcases sound.phase with ⟨k, taken, only, writes, zero⟩ | free
    · refine Or.inl ⟨k, (takers k).mpr taken, fun j other => only j ((takers j).mp other), ?_, ?_⟩
      · intro j write member
        rw [log, List.mem_append, List.mem_singleton] at member
        rcases member with old | new
        · exact writes j write old
        · cases new
          exact only i (writer_takes sound busy)
      · rw [db]
        exact zero
    · refine phase_congr takers ?_ db (Or.inr free)
      intro j write
      rw [log, List.mem_append, List.mem_singleton]
      constructor
      · rintro (old | new)
        · exact old
        · cases new
          exact absurd (writer_takes sound busy) (free.1 i)
      · exact Or.inl

/-- The commit of the session that holds the recommendation sets it free, applied once. -/
theorem phase_taken_commit {next : RecWorld} {i : Nat} (phase : Held id w ∨ Free id w)
    (taken : TakesAt w i) (takers : ∀ j, TakesAt next j ↔ j ≠ i ∧ TakesAt w j) (log : next.log = w.log)
    (count : appliedCount next.db id = appliedCount w.db id + 1)
    (moved : statusOf next.db id ≠ some .approved) : Free id next := by
  rcases phase with ⟨k, _, only, writes, zero⟩ | ⟨nobody, _⟩
  · refine ⟨?_, ⟨k, ?_⟩, ?_, fun status => absurd status moved⟩
    · intro j other
      obtain ⟨different, old⟩ := (takers j).mp other
      exact different ((only j old).trans (only i taken).symm)
    · unfold WritesBy
      rw [log]
      exact writes
    · omega
  · exact absurd taken (nobody i)

theorem phase_untaken_commit {next : RecWorld} (phase : Held id w ∨ Free id w)
    (takers : ∀ j, TakesAt next j ↔ TakesAt w j) (log : next.log = w.log)
    (count : appliedCount next.db id = appliedCount w.db id)
    (moved : statusOf next.db id ≠ some .approved) : Held id next ∨ Free id next := by
  unfold Held Free WritesBy NoWrites
  simp only [takers, log, count]
  rcases phase with held | ⟨nobody, writes, most, _⟩
  · exact Or.inl held
  · exact Or.inr ⟨nobody, writes, most, fun status => absurd status moved⟩

theorem phase_commit (sound : Sound id w) (i : Nat) :
    Held id (step recProtocol w (.commit i)) ∨ Free id (step recProtocol w (.commit i)) := by
  rcases commit_cases recProtocol w i with same | ⟨r, seen, busy, next⟩
  · rw [same]; exact sound.phase
  · obtain ⟨ctx, body, request, own, approved, simulated⟩ := sound.checked busy
    cases request
    subst own
    have takers : ∀ j, TakesAt (step recProtocol w (.commit i)) j ↔ j ≠ i ∧ TakesAt w j := by
      intro j
      rw [takesAt_assign (congrArg World.sessions next) j]
      simp
    have log : (step recProtocol w (.commit i)).log = w.log := by rw [next]
    have db : (step recProtocol w (.commit i)).db = (applyCommit ctx body seen w.db).2 := by rw [next]; rfl
    by_cases takes : Takes ctx body seen
    · have quiet := sound.uninterrupted i _ ctx body busy rfl takes
      obtain ⟨count, moved⟩ := @taken_commit ctx body seen w.db approved takes quiet
      rw [← db] at count moved
      exact Or.inr (phase_taken_commit sound.phase ⟨_, busy, takes⟩ takers log count moved)
    · have same : ∀ j, TakesAt (step recProtocol w (.commit i)) j ↔ TakesAt w j := by
        intro j
        rw [takers j]
        refine ⟨fun other => other.2, fun old => ⟨?_, old⟩⟩
        rintro rfl
        obtain ⟨s, found, taken⟩ := old
        cases busy.symm.trans found
        exact takes taken
      rcases @untaken_commit ctx body seen w.db approved simulated takes with kept | ⟨count, moved⟩
      · exact phase_congr same (by rw [log]; exact fun _ _ => Iff.rfl) (db.trans kept) sound.phase
      · rw [← db] at count moved
        exact phase_untaken_commit sound.phase same log count moved

theorem sound_step {action : Action RecRequest} (sound : Sound id w) (exclusive : Exclusive id w action) :
    Sound id (step recProtocol w action) where
  opened := by
    apply opened_step sound.opened
    rintro r rfl
    obtain ⟨ctx, body, request, own, _⟩ := exclusive
    exact ⟨ctx, body, request, own⟩
  numbered := numbered_step sound.numbered action
  uninterrupted _ _ _ _ busy request takes live :=
    uninterrupted_step sound exclusive busy request takes live
  phase := by
    cases action with
    | read r => exact phase_read sound exclusive
    | effect i => exact phase_effect sound i
    | commit i => exact phase_commit sound i

end

/-! ### Runs -/

theorem countP_applied_zero {trail : List RecommendationAuditEvent}
    (absent : ∀ e ∈ trail, e.eventType ≠ .applied) : trail.countP (·.eventType = .applied) = 0 := by
  rw [List.countP_eq_zero]
  intro e member
  simpa using absent e member

/-- A trail with the shape of its status records one application when applied, and none before. -/
theorem trailShape_appliedCount {l : Life} {trail : List RecommendationAuditEvent}
    (shape : TrailShape (some l) trail) : trail.countP (·.eventType = .applied) ≤ 1 ∧
      (l.status = .approved → trail.countP (·.eventType = .applied) = 0) := by
  cases status : l.status <;> simp only [TrailShape, status] at shape
  case pending =>
    have zero := countP_applied_zero fun e member => quiet_not_applied (shape e member)
    exact ⟨by omega, fun _ => zero⟩
  case accepted =>
    have zero := countP_applied_zero fun e member => quiet_not_applied (shape.1 e member)
    exact ⟨by omega, fun _ => zero⟩
  case rejected | failed =>
    have zero := countP_applied_zero shape
    exact ⟨by omega, fun _ => zero⟩
  case approved =>
    have zero := countP_applied_zero (approvedTrail_not_applied shape)
    exact ⟨by omega, fun _ => zero⟩
  case applied =>
    obtain ⟨before, approval, between, application, after, rfl, _, kind, kind', _, _, quiet⟩ := shape
    have zero := countP_applied_zero fun e member => quiet_not_applied (quiet e member)
    refine ⟨?_, ?_⟩
    · simp only [List.countP_append, List.countP_cons, kind, kind'] at zero ⊢
      simp
      omega
    · intro approved
      cases approved

theorem sound_start (ops : List RecOp) (id : Nat) : Sound id { db := run exec .empty ops } := by
  refine ⟨opened_start _ _ _, fun _ _ => rfl, fun _ _ _ _ absent => (nomatch absent), Or.inr ?_⟩
  have idle : ∀ j, ¬ TakesAt { db := run exec .empty ops } j := by
    rintro j ⟨s, absent, _⟩
    cases absent
  have silent : NoWrites { db := run exec .empty ops } := fun _ _ absent => nomatch absent
  have shape := trailShape_run ops id
  cases found : getRecommendation (run exec .empty ops) id with
  | none =>
    rw [found] at shape
    have empty : auditTrail (run exec .empty ops) id = [] := shape
    refine ⟨idle, ⟨0, fun j write absent => (nomatch absent)⟩, ?_, fun _ => ⟨silent, ?_⟩⟩ <;>
      simp [appliedCount, empty]
  | some rec =>
    rw [found] at shape
    obtain ⟨most, zero⟩ := trailShape_appliedCount shape
    refine ⟨idle, ⟨0, fun j write absent => (nomatch absent)⟩, most, fun status => ⟨silent, zero ?_⟩⟩
    unfold statusOf at status
    rw [found] at status
    exact Option.some.inj status

/-- Applies that do not overlap and are not interrupted write the setpoints from one request at most,
and record at most one application. -/
theorem exclusive_run_applies_once (ops : List RecOp) (id : Nat) (actions : List (Action RecRequest))
    (exclusive : Meets (step recProtocol) (Exclusive id) { db := run exec .empty ops } actions) :
    let w := run (step recProtocol) { db := run exec .empty ops } actions
    (∀ i j write other, (i, PlantEvent.write write) ∈ w.log → (j, PlantEvent.write other) ∈ w.log →
      i = j) ∧ appliedCount w.db id ≤ 1 := by
  intro w
  have sound : Sound id w :=
    exclusive.invariant (fun _ _ held allowed => sound_step held allowed) (sound_start ops id)
  rcases sound.phase with ⟨k, _, _, writes, zero⟩ | ⟨_, ⟨k, writes⟩, most, _⟩
  · exact ⟨fun i j write other first second => (writes i write first).trans (writes j other second).symm,
      by omega⟩
  · exact ⟨fun i j write other first second => (writes i write first).trans (writes j other second).symm,
      most⟩

def sampleApplyRead : Action RecRequest := .read (.apply sampleContext sampleBody)

/-- A live apply from its check to its commit, and a retry afterwards. -/
def sampleApplies : List (Action RecRequest) :=
  [sampleApplyRead, .effect 0, .effect 0, .effect 0, .effect 0, .commit 0, sampleApplyRead]

theorem exclusive_run_of_sample :
    appliedCount (run (step recProtocol) { db := run exec .empty sampleApproval } sampleApplies).db 1 ≤ 1 := by
  refine (exclusive_run_applies_once sampleApproval 1 sampleApplies ?_).2
  refine ⟨⟨sampleContext, sampleBody, rfl, rfl, ?_⟩, trivial, trivial, trivial, trivial, trivial,
    ⟨sampleContext, sampleBody, rfl, rfl, ?_⟩, trivial⟩
  · intro rec _ _
    refine ⟨?_, fun _ => ⟨fun _ _ _ _ => rfl, rfl, rfl⟩⟩
    rintro i ⟨s, absent, _⟩
    cases absent
  · intro rec passed
    have refused : (applyCheck sampleContext.cfg sampleBody (run (step recProtocol)
        { db := run exec .empty sampleApproval } (sampleApplies.take 6)).db).toOption = none := by
      decide +kernel
    change applyCheck sampleContext.cfg sampleBody (run (step recProtocol)
      { db := run exec .empty sampleApproval } (sampleApplies.take 6)).db = .ok rec at passed
    rw [passed] at refused
    cases refused

/-- Two live applies that both read the approved row before either commits. -/
def overlappingApplies : List (Action RecRequest) :=
  [sampleApplyRead, sampleApplyRead, .effect 0, .effect 0, .effect 0, .effect 0, .effect 1, .effect 1,
    .effect 1, .effect 1, .commit 0, .commit 1]

theorem overlapping_applies_write_twice :
    (0, PlantEvent.write ⟨"ns=2;s=TIC.SP", 403⟩) ∈
        (run (step recProtocol) { db := run exec .empty sampleApproval } overlappingApplies).log ∧
      (1, PlantEvent.write ⟨"ns=2;s=TIC.SP", 403⟩) ∈
        (run (step recProtocol) { db := run exec .empty sampleApproval } overlappingApplies).log ∧
      appliedCount
        (run (step recProtocol) { db := run exec .empty sampleApproval } overlappingApplies).db 1 = 2 := by
  decide +kernel

end Iems.Optimization
