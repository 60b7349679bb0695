import Iems.Api.Recommendations
import Iems.Optimization.Lifecycle

/-! The workflow of a recommendation in memory against the workflow of the same recommendation in the database. -/
namespace Iems.Api
open Lib Iems.Optimization Iems.Services Iems.Demo

def Decides (decision : String) (status : RecStatus) : Prop :=
  (decision = "accepted" ∨ decision = "rejected") ∧ (status = .pending ∨ status = .accepted)

def Tracked (status : RecStatus) : Prop := status = .applied ∨ status = .approved ∨ status = .accepted

def simulated (ctx : SimulateContext) (model : String) (advice : SetpointAdvice) : Option AdviceSimulation :=
  (ctx.loadUnitState advice.plantCode).bind fun state => simulateAdvice ctx.simulateWhatIfMl state advice model

/-- What a request to the database path does to the status, and whether it is accepted. -/
def DbTurn (advice : SetpointAdvice) (before : RecStatus) (request : RouteRequest) (accepted : Prop) (after : RecStatus) :
    Prop :=
  match request with
  | .feedback decision _ _ _ =>
    Decides decision before ∧ accepted ∧ after = decidedStatus decision ∨
      ¬Decides decision before ∧ ¬accepted ∧ after = before
  | .simulate ctx model => (accepted ↔ (simulated ctx model advice).isSome) ∧ after = before
  | .approve _ _ _ => before = .accepted ∧ accepted ∧ after = .approved ∨ before ≠ .accepted ∧ ¬accepted ∧ after = before
  | .apply _ _ _ _ =>
    before = .approved ∧ (accepted ∧ after = .applied ∨ ¬accepted ∧ (after = .approved ∨ after = .failed)) ∨
      before ≠ .approved ∧ ¬accepted ∧ after = before
  | .impact _ _ _ => (accepted ↔ Tracked before) ∧ after = before

/-- The same of the memory path: a change that stamps a time is made and then raises. -/
def MemoryTurn (advice : SetpointAdvice) (before : RecStatus) (request : RouteRequest) (accepted : Prop)
    (after : RecStatus) : Prop :=
  match request with
  | .feedback decision _ _ _ =>
    Decides decision before ∧ (accepted ↔ decision ≠ "rejected") ∧ after = decidedStatus decision ∨
      ¬Decides decision before ∧ ¬accepted ∧ after = before
  | .simulate ctx model => (accepted ↔ (simulated ctx model advice).isSome) ∧ after = before
  | .approve _ _ _ => before = .accepted ∧ ¬accepted ∧ after = .approved ∨ before ≠ .accepted ∧ ¬accepted ∧ after = before
  | .apply _ _ _ _ => before = .approved ∧ ¬accepted ∧ after = .applied ∨ before ≠ .approved ∧ ¬accepted ∧ after = before
  | .impact _ live _ => (accepted ↔ (live advice.plantCode).isSome) ∧ after = before

/-! ### The database path -/

section
variable {db : RecStore} {id : Nat} {row : OptimizationRecommendation}

theorem getRecommendation_saved (found : getRecommendation db id = some row) (edited : OptimizationRecommendation) :
    getRecommendation (save db id row edited) id = some edited := by
  rw [getRecommendation_save, if_pos rfl, found, Option.map_some, flush_current]

theorem decides_iff {decision : String} {status : RecStatus} :
    Decides decision status ↔
      ¬(decision ≠ "accepted" ∧ decision ≠ "rejected") ∧ ¬(status ≠ .pending ∧ status ≠ .accepted) := by
  unfold Decides
  rw [not_and_or, not_and_or, not_not, not_not, not_not, not_not]

/-- A request to the database path has turned the row as `DbTurn` says. -/
def DbTurned (db : RecStore) (id : Nat) (row : OptimizationRecommendation) (request : RouteRequest) : Prop :=
  ∃ next, getRecommendation (handleDb db id request).2 id = some next ∧ rowAdvice next = rowAdvice row ∧
    DbTurn (rowAdvice row) row.status request ((handleDb db id request).1.isOk = true) next.status

theorem handleDb_feedback (found : getRecommendation db id = some row) (decision operator : String)
    (comment : Option String) (now : Int) : DbTurned db id row (.feedback decision operator comment now) := by
  by_cases decides : Decides decision row.status
  · obtain ⟨known, open_⟩ := decides_iff.mp decides
    have passed : feedbackCheck ⟨id, decision, operator, comment, now⟩ db = .ok row := by
      simp only [feedbackCheck, found, if_neg known, if_neg open_]
    refine ⟨feedbackEdit ⟨id, decision, operator, comment, now⟩ row, ?_, rfl, Or.inl ⟨decides, ?_, rfl⟩⟩
    · simp only [handleDb, submitFeedback, passed]
      exact getRecommendation_saved found _
    · simp only [handleDb, submitFeedback, passed]
      rfl
  · have stopped : ∃ raised, feedbackCheck ⟨id, decision, operator, comment, now⟩ db = .error raised := by
      rw [decides_iff, not_and_or, not_not, not_not] at decides
      unfold feedbackCheck
      rw [found]
      dsimp only
      split
      · exact ⟨_, rfl⟩
      · rename_i known
        rw [if_pos (decides.resolve_left known)]
        exact ⟨_, rfl⟩
    obtain ⟨raised, stopped⟩ := stopped
    refine ⟨row, ?_, rfl, Or.inr ⟨decides, ?_, rfl⟩⟩
    · simp only [handleDb, submitFeedback, stopped]
      exact found
    · simp only [handleDb, submitFeedback, stopped]
      exact Bool.false_ne_true

theorem handleDb_simulate (found : getRecommendation db id = some row) (ctx : SimulateContext) (model : String) :
    DbTurned db id row (.simulate ctx model) := by
  unfold DbTurned handleDb simulateRecommendation
  simp only [found]
  cases sim : simulated ctx model (rowAdvice row) with
  | none =>
    have none_ : ((ctx.loadUnitState row.plantCode).bind fun state =>
        simulateAdvice ctx.simulateWhatIfMl state (rowAdvice row) model) = none := sim
    rw [none_]
    exact ⟨row, found, rfl, by simp [sim, answer, Except.isOk, Except.toBool], rfl⟩
  | some out =>
    have some_ : ((ctx.loadUnitState row.plantCode).bind fun state =>
        simulateAdvice ctx.simulateWhatIfMl state (rowAdvice row) model) = some out := sim
    rw [some_]
    exact ⟨simulateEdit row out, getRecommendation_saved found _, rfl, by simp [sim, answer, Except.isOk, Except.toBool],
      rfl⟩

theorem handleDb_approve (found : getRecommendation db id = some row) (actor : String) (comment : Option String)
    (now : Int) : DbTurned db id row (.approve actor comment now) := by
  by_cases ready : row.status = .accepted
  · have passed : approveCheck ⟨id, actor, comment, now⟩ db = .ok row := by
      simp [approveCheck, found, ready]
    have stored : getRecommendation (approveCommit ⟨id, actor, comment, now⟩ row db) id =
        some (approveEdit ⟨id, actor, comment, now⟩ row) := getRecommendation_saved found _
    refine ⟨approveEdit ⟨id, actor, comment, now⟩ row, ?_, rfl, Or.inl ⟨ready, ?_, rfl⟩⟩
    · simp only [handleDb, approveRecommendation, passed, stored]
    · simp only [handleDb, approveRecommendation, passed, stored]
      rfl
  · have stopped : ∃ raised, approveCheck ⟨id, actor, comment, now⟩ db = .error raised := by
      unfold approveCheck
      rw [found]
      exact ⟨_, if_pos ready⟩
    obtain ⟨raised, stopped⟩ := stopped
    refine ⟨row, ?_, rfl, Or.inr ⟨ready, ?_, rfl⟩⟩
    · simp only [handleDb, approveRecommendation, stopped]
      exact found
    · simp only [handleDb, approveRecommendation, stopped]
      exact Bool.false_ne_true

/-- A refused write fails the recommendation, another fault leaves it approved. -/
theorem applyCommit_status (found : getRecommendation db id = some row) (approved : row.status = .approved)
    (ctx : ApplyContext) (body : ApplyRequest) (own : body.recommendationId = id) :
    ∃ next, getRecommendation (applyCommit ctx body row db).2 id = some next ∧ rowAdvice next = rowAdvice row ∧
      ((applyCommit ctx body row db).1.isOk = true ∧ next.status = .applied ∨
        ¬(applyCommit ctx body row db).1.isOk = true ∧ (next.status = .approved ∨ next.status = .failed)) := by
  subst own
  unfold applyCommit
  split
  · split
    · exact ⟨row, found, rfl, Or.inr ⟨Bool.false_ne_true, Or.inl approved⟩⟩
    · exact ⟨failedEdit row, getRecommendation_saved found _, rfl, Or.inr ⟨Bool.false_ne_true, Or.inr rfl⟩⟩
  · exact ⟨row, found, rfl, Or.inr ⟨Bool.false_ne_true, Or.inl approved⟩⟩
  · rename_i result written
    split
    · exact ⟨row, found, rfl, Or.inr ⟨Bool.false_ne_true, Or.inl approved⟩⟩
    · exact ⟨appliedEdit ctx body row result, getRecommendation_saved found _, rfl, Or.inl ⟨rfl, rfl⟩⟩

theorem answer_isOk {α : Type} (out : α → RouteOut) (outcome : Except RecError α) :
    (answer out outcome).isOk = outcome.isOk := by
  cases outcome <;> rfl

theorem handleDb_apply (found : getRecommendation db id = some row) (ctx : ApplyContext) (actor : String)
    (dryRun : Option Bool) (now : Int) : DbTurned db id row (.apply ctx actor dryRun now) := by
  unfold DbTurned handleDb
  dsimp only
  rw [answer_isOk]
  unfold applyRecommendation
  cases checked : applyCheck ctx.cfg ⟨id, actor, dryRun, now⟩ db with
  | error raised =>
    refine ⟨row, found, rfl, ?_⟩
    by_cases approved : row.status = .approved
    · exact Or.inl ⟨approved, Or.inr ⟨Bool.false_ne_true, Or.inl approved⟩⟩
    · exact Or.inr ⟨approved, Bool.false_ne_true, rfl⟩
  | ok loaded =>
    obtain ⟨again, approved, -⟩ := applyCheck_ok checked
    rw [show getRecommendation db id = some loaded from again] at found
    cases found
    obtain ⟨next, stored, same, turned⟩ := applyCommit_status again approved ctx ⟨id, actor, dryRun, now⟩ rfl
    exact ⟨next, stored, same, Or.inl ⟨approved, turned⟩⟩

theorem handleDb_impact (found : getRecommendation db id = some row) (ctx : ImpactContext)
    (live : String → Option (LiveReading ℚ)) (actor : String) : DbTurned db id row (.impact ctx live actor) := by
  unfold DbTurned handleDb
  dsimp only
  rw [answer_isOk]
  unfold measureImpact
  cases checked : impactCheck ⟨id, actor⟩ db with
  | error raised =>
    have untracked : ¬Tracked row.status := by
      intro tracked
      have passed : impactCheck ⟨id, actor⟩ db = .ok row := by
        unfold impactCheck
        rw [found]
        dsimp only
        rw [if_neg]
        rintro ⟨applied, approved, accepted⟩
        exact tracked.elim applied fun rest => rest.elim approved accepted
      rw [passed] at checked
      cases checked
    exact ⟨row, found, rfl, iff_of_false Bool.false_ne_true untracked, rfl⟩
  | ok loaded =>
    obtain ⟨again, tracked⟩ := impactCheck_ok checked
    rw [show getRecommendation db id = some loaded from again] at found
    cases found
    dsimp only
    split
    · exact ⟨row, again, rfl, iff_of_true rfl tracked, rfl⟩
    · exact ⟨impactEdit row _, getRecommendation_saved again _, rfl, iff_of_true rfl tracked, rfl⟩

theorem handleDb_turned (found : getRecommendation db id = some row) (request : RouteRequest) :
    DbTurned db id row request := by
  cases request with
  | feedback decision operator comment now => exact handleDb_feedback found decision operator comment now
  | simulate ctx model => exact handleDb_simulate found ctx model
  | approve actor comment now => exact handleDb_approve found actor comment now
  | apply ctx actor dryRun now => exact handleDb_apply found ctx actor dryRun now
  | impact ctx live actor => exact handleDb_impact found ctx live actor

end

/-! ### The memory path -/

section
variable {memory : MemoryRecStore} {id : Nat} {rec : MemoryRecommendation}

def MemoryTurned (memory : MemoryRecStore) (id : Nat) (rec : MemoryRecommendation) (request : RouteRequest) : Prop :=
  ∃ next, (handleMemory memory id request).2.get id = some next ∧ memoryAdvice next = memoryAdvice rec ∧
    MemoryTurn (memoryAdvice rec) rec.status request ((handleMemory memory id request).1.isOk = true) next.status

theorem setattr_advice (rec : MemoryRecommendation) (extra : Extra) :
    memoryAdvice (extra.setattr rec) = memoryAdvice rec ∧ (extra.setattr rec).status = rec.status := by
  cases extra <;> exact ⟨rfl, rfl⟩

theorem setattrs_advice (rec : MemoryRecommendation) (extra : List Extra) :
    memoryAdvice (extra.foldl Extra.setattr rec) = memoryAdvice rec ∧
      (extra.foldl Extra.setattr rec).status = rec.status := by
  induction extra generalizing rec with
  | nil => exact ⟨rfl, rfl⟩
  | cons first rest ih =>
    obtain ⟨advice, state⟩ := ih (first.setattr rec)
    exact ⟨advice.trans (setattr_advice rec first).1, state.trans (setattr_advice rec first).2⟩

theorem changeStatus_turns (held : memory.get id = some rec) (status : RecStatus) (actor : String)
    (comment : Option String) (extra : List Extra) (out : MemoryRecommendation → RouteOut) :
    (∃ next, (changeStatus memory id status actor comment extra out).2.get id = some next ∧
        memoryAdvice next = memoryAdvice rec ∧ next.status = status) ∧
      (changeStatus memory id status actor comment extra out).1.isOk = !extra.any Extra.isDatetime := by
  have edited := memory.setStatus_get status actor comment extra held
  have outcome := memory.setStatus_outcome status actor comment extra held
  obtain ⟨advice, state⟩ := setattrs_advice { rec with status := status } extra
  unfold changeStatus
  dsimp only
  rw [outcome]
  cases extra.any Extra.isDatetime <;> exact ⟨⟨_, edited, advice, state⟩, rfl⟩

theorem handleMemory_held (held : memory.get id = some rec) (request : RouteRequest) :
    handleMemory memory id request =
      match request with
      | .feedback decision operator comment now => memoryFeedback memory id rec decision operator comment now
      | .simulate ctx model => memorySimulate memory id rec ctx model
      | .approve actor comment now => memoryApprove memory id rec actor comment now
      | .apply _ actor dryRun now => memoryApply memory id rec actor dryRun now
      | .impact _ live actor => memoryImpact memory id rec live actor := by
  cases request <;> simp only [handleMemory, held]

theorem handleMemory_feedback (held : memory.get id = some rec) (decision operator : String) (comment : Option String)
    (now : Int) : MemoryTurned memory id rec (.feedback decision operator comment now) := by
  unfold MemoryTurned
  rw [handleMemory_held held]
  dsimp only
  unfold memoryFeedback
  by_cases decides : Decides decision rec.status
  · obtain ⟨known, open_⟩ := decides_iff.mp decides
    rw [if_neg known, if_neg open_]
    obtain ⟨⟨next, stored, advice, state⟩, outcome⟩ := changeStatus_turns held (decidedStatus decision) operator comment
      [.resolvedAt (if decision = "rejected" then some now else none)] fun _ =>
        .feedback ⟨id, decision, operator, comment, decidedStatus decision, now⟩
    refine ⟨next, stored, advice, Or.inl ⟨decides, ?_, state⟩⟩
    rw [outcome]
    by_cases rejects : decision = "rejected" <;> simp [rejects, Extra.isDatetime]
  · rw [decides_iff, not_and_or, not_not, not_not] at decides
    by_cases known : decision ≠ "accepted" ∧ decision ≠ "rejected"
    · rw [if_pos known]
      exact ⟨rec, held, rfl, Or.inr ⟨fun d => (decides_iff.mp d).1 known, Bool.false_ne_true, rfl⟩⟩
    · have shut := decides.resolve_left known
      rw [if_neg known, if_pos shut]
      exact ⟨rec, held, rfl, Or.inr ⟨fun d => (decides_iff.mp d).2 shut, Bool.false_ne_true, rfl⟩⟩

theorem handleMemory_simulate (held : memory.get id = some rec) (ctx : SimulateContext) (model : String) :
    MemoryTurned memory id rec (.simulate ctx model) := by
  unfold MemoryTurned
  rw [handleMemory_held held]
  dsimp only
  unfold memorySimulate
  cases sim : simulated ctx model (memoryAdvice rec) with
  | none =>
    have none_ : ((ctx.loadUnitState rec.plantCode).bind fun state =>
        simulateAdvice ctx.simulateWhatIfMl state (memoryAdvice rec) model) = none := sim
    rw [none_]
    exact ⟨rec, held, rfl, by simp [sim, Except.isOk, Except.toBool], rfl⟩
  | some out =>
    have some_ : ((ctx.loadUnitState rec.plantCode).bind fun state =>
        simulateAdvice ctx.simulateWhatIfMl state (memoryAdvice rec) model) = some out := sim
    rw [some_]
    exact ⟨_, Dict.get?_set_self _ _ _, rfl, by simp [sim, Except.isOk, Except.toBool], rfl⟩

theorem handleMemory_approve (held : memory.get id = some rec) (actor : String) (comment : Option String) (now : Int) :
    MemoryTurned memory id rec (.approve actor comment now) := by
  unfold MemoryTurned
  rw [handleMemory_held held]
  dsimp only
  unfold memoryApprove
  by_cases ready : rec.status = .accepted
  · rw [if_neg (not_not_intro ready)]
    obtain ⟨⟨next, stored, advice, state⟩, outcome⟩ := changeStatus_turns held .approved actor comment
      [.approvedBy actor, .approvedAt now] fun updated => .advice (memoryRowToAdvice updated)
    refine ⟨next, stored, advice, Or.inl ⟨ready, ?_, state⟩⟩
    rw [outcome]
    exact Bool.false_ne_true
  · rw [if_pos ready]
    exact ⟨rec, held, rfl, Or.inr ⟨ready, Bool.false_ne_true, rfl⟩⟩

theorem handleMemory_apply (held : memory.get id = some rec) (ctx : ApplyContext) (actor : String)
    (dryRun : Option Bool) (now : Int) : MemoryTurned memory id rec (.apply ctx actor dryRun now) := by
  unfold MemoryTurned
  rw [handleMemory_held held]
  dsimp only
  unfold memoryApply
  by_cases ready : rec.status = .approved
  · rw [if_neg (not_not_intro ready)]
    dsimp only
    obtain ⟨⟨next, stored, advice, state⟩, outcome⟩ := changeStatus_turns held .applied actor none
      [.applyMode (if dryRun.getD true then "dry_run" else "write"), .appliedBy actor, .appliedAt now] _
    refine ⟨next, stored, advice, Or.inl ⟨ready, ?_, state⟩⟩
    rw [outcome]
    exact Bool.false_ne_true
  · rw [if_pos ready]
    exact ⟨rec, held, rfl, Or.inr ⟨ready, Bool.false_ne_true, rfl⟩⟩

theorem handleMemory_impact (held : memory.get id = some rec) (ctx : ImpactContext)
    (live : String → Option (LiveReading ℚ)) (actor : String) : MemoryTurned memory id rec (.impact ctx live actor) := by
  unfold MemoryTurned
  rw [handleMemory_held held]
  dsimp only
  unfold memoryImpact
  cases reading : live rec.plantCode with
  | none =>
    have absent : live (memoryAdvice rec).plantCode = none := reading
    exact ⟨rec, held, rfl, by simp [absent, Except.isOk, Except.toBool], rfl⟩
  | some found =>
    have present : live (memoryAdvice rec).plantCode = some found := reading
    dsimp only
    obtain ⟨⟨next, stored, advice, state⟩, outcome⟩ := changeStatus_turns held rec.status actor none
      [.realizedSavingKwhPerH (rec.estimatedEnergySavingKwhPerH * (85 / 100))] _
    refine ⟨next, stored, advice, ?_, state⟩
    rw [outcome, present]
    exact iff_of_true rfl rfl

theorem handleMemory_turned (held : memory.get id = some rec) (request : RouteRequest) :
    MemoryTurned memory id rec request := by
  cases request with
  | feedback decision operator comment now => exact handleMemory_feedback held decision operator comment now
  | simulate ctx model => exact handleMemory_simulate held ctx model
  | approve actor comment now => exact handleMemory_approve held actor comment now
  | apply ctx actor dryRun now => exact handleMemory_apply held ctx actor dryRun now
  | impact ctx live actor => exact handleMemory_impact held ctx live actor

end

/-! ### Both paths -/

section
variable {memoryId dbId : Nat}

/-- The recommendation is the same in memory and in the database: its advice and its status. -/
def Matched (memoryId dbId : Nat) (s t : RecServer) : Prop :=
  ∃ rec row, s.memory.get memoryId = some rec ∧ getRecommendation t.db dbId = some row ∧
    memoryAdvice rec = rowAdvice row ∧ rec.status = row.status

/-- Applied in memory, but not in the database, where it can only fail from here. -/
def Parted (memoryId dbId : Nat) (s t : RecServer) : Prop :=
  ∃ rec row, s.memory.get memoryId = some rec ∧ getRecommendation t.db dbId = some row ∧
    memoryAdvice rec = rowAdvice row ∧ rec.status = .applied ∧ (row.status = .approved ∨ row.status = .failed)

/-- The requests that both paths treat alike: none that rejects an open recommendation, approves an accepted one or
applies an approved one, and a measurement only where the status is tracked just when the plant has a live reading. -/
def HarmlessAt (advice : SetpointAdvice) (status : RecStatus) : RouteRequest → Prop
  | .feedback decision _ _ _ => ¬(decision = "rejected" ∧ (status = .pending ∨ status = .accepted))
  | .simulate _ _ => True
  | .approve _ _ _ => status ≠ .accepted
  | .apply _ _ _ _ => status ≠ .approved
  | .impact _ live _ => Tracked status ↔ (live advice.plantCode).isSome

def Harmless (dbId : Nat) (t : RecServer) (request : RouteRequest) : Prop :=
  ∀ row, getRecommendation t.db dbId = some row → HarmlessAt (rowAdvice row) row.status request

theorem handle_memory (inMemory : isMemoryId memoryId = true) (s : RecServer) (request : RouteRequest) :
    handle s memoryId request =
      ((handleMemory s.memory memoryId request).1, { s with memory := (handleMemory s.memory memoryId request).2 }) := by
  rw [handle, if_pos inMemory]

theorem handle_db (stored : isMemoryId dbId = false) (t : RecServer) (request : RouteRequest) :
    handle t dbId request = ((handleDb t.db dbId request).1, { t with db := (handleDb t.db dbId request).2 }) := by
  rw [handle, stored]
  rfl

theorem both_turned (inMemory : isMemoryId memoryId = true) (stored : isMemoryId dbId = false) {s t : RecServer}
    {rec : MemoryRecommendation} {row : OptimizationRecommendation} (held : s.memory.get memoryId = some rec)
    (found : getRecommendation t.db dbId = some row) (same : memoryAdvice rec = rowAdvice row) (request : RouteRequest) :
    ∃ rec' row', (handle s memoryId request).2.memory.get memoryId = some rec' ∧
      getRecommendation (handle t dbId request).2.db dbId = some row' ∧ memoryAdvice rec' = rowAdvice row' ∧
      MemoryTurn (rowAdvice row) rec.status request (accepts s memoryId request = true) rec'.status ∧
      DbTurn (rowAdvice row) row.status request (accepts t dbId request = true) row'.status := by
  obtain ⟨rec', heldAfter, advice, memoryTurn⟩ := handleMemory_turned held request
  obtain ⟨row', foundAfter, adviceAfter, dbTurn⟩ := handleDb_turned found request
  unfold accepts
  rw [handle_memory inMemory, handle_db stored]
  rw [same] at memoryTurn
  exact ⟨rec', row', heldAfter, foundAfter, by rw [advice, adviceAfter, same], memoryTurn, dbTurn⟩

theorem harmless_iff {t : RecServer} {row : OptimizationRecommendation} (found : getRecommendation t.db dbId = some row)
    {request : RouteRequest} : Harmless dbId t request ↔ HarmlessAt (rowAdvice row) row.status request := by
  simp [Harmless, found]

section
variable {advice : SetpointAdvice} {before memoryAfter dbAfter : RecStatus} {request : RouteRequest}
  {memoryAccepted dbAccepted : Prop}

theorem harmless_keeps (memoryTurn : MemoryTurn advice before request memoryAccepted memoryAfter)
    (dbTurn : DbTurn advice before request dbAccepted dbAfter) (harmless : HarmlessAt advice before request) :
    (memoryAccepted ↔ dbAccepted) ∧ memoryAfter = dbAfter := by
  cases request with
  | feedback decision operator comment now =>
    rcases memoryTurn with ⟨decides, outcome, rfl⟩ | ⟨shut, refused, rfl⟩
    · rcases dbTurn with ⟨-, accepted, rfl⟩ | ⟨shut, -, -⟩
      · exact ⟨iff_of_true (outcome.mpr fun rejects => harmless ⟨rejects, decides.2⟩) accepted, rfl⟩
      · exact absurd decides shut
    · rcases dbTurn with ⟨decides, -, -⟩ | ⟨-, refusedToo, rfl⟩
      · exact absurd decides shut
      · exact ⟨iff_of_false refused refusedToo, rfl⟩
  | simulate ctx model => exact ⟨memoryTurn.1.trans dbTurn.1.symm, memoryTurn.2.trans dbTurn.2.symm⟩
  | approve actor comment now =>
    rcases memoryTurn with ⟨ready, -, -⟩ | ⟨-, refused, rfl⟩
    · exact absurd ready harmless
    · rcases dbTurn with ⟨ready, -, -⟩ | ⟨-, refusedToo, rfl⟩
      · exact absurd ready harmless
      · exact ⟨iff_of_false refused refusedToo, rfl⟩
  | apply ctx actor dryRun now =>
    rcases memoryTurn with ⟨ready, -, -⟩ | ⟨-, refused, rfl⟩
    · exact absurd ready harmless
    · rcases dbTurn with ⟨ready, -⟩ | ⟨-, refusedToo, rfl⟩
      · exact absurd ready harmless
      · exact ⟨iff_of_false refused refusedToo, rfl⟩
  | impact ctx live actor =>
    exact ⟨memoryTurn.1.trans (harmless.symm.trans dbTurn.1.symm), memoryTurn.2.trans dbTurn.2.symm⟩

/-- Of the other requests only an apply can be answered alike, refused by both, and then the record is applied. -/
theorem harmful_parts (memoryTurn : MemoryTurn advice before request memoryAccepted memoryAfter)
    (dbTurn : DbTurn advice before request dbAccepted dbAfter) (harmful : ¬HarmlessAt advice before request)
    (same : memoryAccepted ↔ dbAccepted) :
    memoryAfter = .applied ∧ (dbAfter = .approved ∨ dbAfter = .failed) := by
  cases request with
  | feedback decision operator comment now =>
    obtain ⟨rfl, open_⟩ := not_not.mp harmful
    have decides : Decides "rejected" before := ⟨Or.inr rfl, open_⟩
    rcases dbTurn with ⟨-, accepted, -⟩ | ⟨shut, -, -⟩
    · rcases memoryTurn with ⟨-, outcome, -⟩ | ⟨shut, -, -⟩
      · exact absurd rfl (outcome.mp (same.mpr accepted))
      · exact absurd decides shut
    · exact absurd decides shut
  | simulate ctx model => exact absurd trivial harmful
  | approve actor comment now =>
    have ready : before = .accepted := not_not.mp harmful
    rcases memoryTurn with ⟨-, refused, -⟩ | ⟨early, -, -⟩
    · rcases dbTurn with ⟨-, accepted, -⟩ | ⟨early, -, -⟩
      · exact absurd (same.mpr accepted) refused
      · exact absurd ready early
    · exact absurd ready early
  | apply ctx actor dryRun now =>
    have ready : before = .approved := not_not.mp harmful
    rcases memoryTurn with ⟨-, refused, applied⟩ | ⟨early, -, -⟩
    · rcases dbTurn with ⟨-, ⟨accepted, -⟩ | ⟨-, left⟩⟩ | ⟨early, -, -⟩
      · exact absurd (same.mpr accepted) refused
      · exact ⟨applied, left⟩
      · exact absurd ready early
    · exact absurd ready early
  | impact ctx live actor => exact absurd (dbTurn.1.symm.trans (same.symm.trans memoryTurn.1)) harmful

/-- Once applied in memory the record stays so, and a database that answers alike never applies it. -/
theorem parted_stays {memoryBefore : RecStatus} (memoryTurn : MemoryTurn advice memoryBefore request memoryAccepted memoryAfter)
    (dbTurn : DbTurn advice before request dbAccepted dbAfter) (applied : memoryBefore = .applied)
    (left : before = .approved ∨ before = .failed) (same : memoryAccepted ↔ dbAccepted) :
    memoryAfter = .applied ∧ (dbAfter = .approved ∨ dbAfter = .failed) := by
  subst applied
  have shut : ∀ decision, ¬Decides decision before := by
    rintro decision ⟨-, pending | accepted⟩
    · rcases left with rfl | rfl <;> cases pending
    · rcases left with rfl | rfl <;> cases accepted
  cases request with
  | feedback decision operator comment now =>
    rcases memoryTurn with ⟨⟨-, pending | accepted⟩, -⟩ | ⟨-, -, rfl⟩
    · cases pending
    · cases accepted
    · rcases dbTurn with ⟨decides, -⟩ | ⟨-, -, rfl⟩
      · exact absurd decides (shut decision)
      · exact ⟨rfl, left⟩
  | simulate ctx model => exact ⟨memoryTurn.2, dbTurn.2 ▸ left⟩
  | approve actor comment now =>
    rcases memoryTurn with ⟨accepted, -⟩ | ⟨-, -, rfl⟩
    · cases accepted
    · rcases dbTurn with ⟨rfl, -⟩ | ⟨-, -, rfl⟩
      · rcases left with accepted | accepted <;> cases accepted
      · exact ⟨rfl, left⟩
  | apply ctx actor dryRun now =>
    rcases memoryTurn with ⟨approved, -⟩ | ⟨-, refused, rfl⟩
    · cases approved
    · rcases dbTurn with ⟨-, ⟨accepted, -⟩ | ⟨-, still⟩⟩ | ⟨-, -, rfl⟩
      · exact absurd (same.mpr accepted) refused
      · exact ⟨rfl, still⟩
      · exact ⟨rfl, left⟩
  | impact ctx live actor => exact ⟨memoryTurn.2, dbTurn.2 ▸ left⟩

end

theorem paths_parting (inMemory : isMemoryId memoryId = true) (stored : isMemoryId dbId = false) :
    Parting (fun s request => (handle s memoryId request).2) (fun t request => (handle t dbId request).2)
      (fun s request => accepts s memoryId request) (fun t request => accepts t dbId request)
      (fun s => statusOf s memoryId) (fun t => statusOf t dbId) (Harmless dbId) (Matched memoryId dbId)
      (Parted memoryId dbId) where
  keep := by
    rintro s t request ⟨rec, row, held, found, same, status⟩ harmless
    obtain ⟨rec', row', heldAfter, foundAfter, sameAfter, memoryTurn, dbTurn⟩ :=
      both_turned inMemory stored held found same request
    rw [status] at memoryTurn
    obtain ⟨outcome, state⟩ := harmless_keeps memoryTurn dbTurn ((harmless_iff found).mp harmless)
    exact ⟨Bool.eq_iff_iff.mpr outcome, rec', row', heldAfter, foundAfter, sameAfter, state⟩
  part := by
    rintro s t request ⟨rec, row, held, found, same, status⟩ harmful outcome
    obtain ⟨rec', row', heldAfter, foundAfter, sameAfter, memoryTurn, dbTurn⟩ :=
      both_turned inMemory stored held found same request
    rw [status] at memoryTurn
    obtain ⟨applied, left⟩ := harmful_parts memoryTurn dbTurn ((harmless_iff found).not.mp harmful)
      (Bool.eq_iff_iff.mp outcome)
    exact ⟨rec', row', heldAfter, foundAfter, sameAfter, applied, left⟩
  stay := by
    rintro s t request ⟨rec, row, held, found, same, applied, left⟩ outcome
    obtain ⟨rec', row', heldAfter, foundAfter, sameAfter, memoryTurn, dbTurn⟩ :=
      both_turned inMemory stored held found same request
    obtain ⟨still, leftAfter⟩ := parted_stays memoryTurn dbTurn applied left (Bool.eq_iff_iff.mp outcome)
    exact ⟨rec', row', heldAfter, foundAfter, sameAfter, still, leftAfter⟩
  alike := by
    rintro s t ⟨rec, row, held, found, -, status⟩
    simp [statusOf, inMemory, stored, held, found, status]
  unlike := by
    rintro s t ⟨rec, row, held, found, -, applied, left⟩
    rcases left with approved | failed <;> simp [statusOf, *]

end

/-- Over any sequence of requests the path of a recommendation in memory and that of the same recommendation in the
database accept and refuse alike and end in the same status exactly when every request is harmless. -/
theorem paths_agree_iff (memoryId dbId : Nat) (inMemory : isMemoryId memoryId = true)
    (stored : isMemoryId dbId = false) (s t : RecServer) (start : Matched memoryId dbId s t)
    (requests : List RouteRequest) :
    (answers (fun s request => (handle s memoryId request).2) (fun s request => accepts s memoryId request) s requests =
          answers (fun t request => (handle t dbId request).2) (fun t request => accepts t dbId request) t requests ∧
        statusOf (run (fun s request => (handle s memoryId request).2) s requests) memoryId =
          statusOf (run (fun t request => (handle t dbId request).2) t requests) dbId) ↔
      Meets (fun t request => (handle t dbId request).2) (Harmless dbId) t requests :=
  (paths_parting inMemory stored).agree_iff start

/-! ### A recommendation that is approved -/

def memoryServer : RecServer where
  memory := MemoryRecStore.empty.persist 0 [sampleAdvice] .empty
  db := .empty

def dbServer : RecServer where
  memory := .empty
  db := (persistRecommendations 0 [sampleAdvice] .empty .empty).2

theorem sample_matched : Matched idBase 1 memoryServer dbServer := ⟨_, _, rfl, rfl, rfl, rfl⟩

def acceptAndApprove : List RouteRequest :=
  [.feedback "accepted" "operator" none 0, .approve "operator" none 0]

theorem paths_agree_iff_approval :
    (answers (fun s request => (handle s idBase request).2) (fun s request => accepts s idBase request) memoryServer
            acceptAndApprove =
          answers (fun t request => (handle t 1 request).2) (fun t request => accepts t 1 request) dbServer
            acceptAndApprove ∧
        statusOf (run (fun s request => (handle s idBase request).2) memoryServer acceptAndApprove) idBase =
          statusOf (run (fun t request => (handle t 1 request).2) dbServer acceptAndApprove) 1) ↔
      Meets (fun t request => (handle t 1 request).2) (Harmless 1) dbServer acceptAndApprove :=
  paths_agree_iff idBase 1 (by decide) (by decide) memoryServer dbServer sample_matched acceptAndApprove

/-- The database approves it; in memory it is approved too, but the request fails on the time of approval. -/
theorem approval_fails_in_memory :
    answers (fun s request => (handle s idBase request).2) (fun s request => accepts s idBase request) memoryServer
        acceptAndApprove = [true, false] ∧
      answers (fun t request => (handle t 1 request).2) (fun t request => accepts t 1 request) dbServer
        acceptAndApprove = [true, true] := by
  decide +kernel

end Iems.Api
