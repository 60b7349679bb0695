import Iems.Api.MemoryPath

/-! The status changes that the handlers ask of the records in memory, and whether one that fails leaves a trace. -/
namespace Iems.Api
open Lib Iems.Optimization Iems.Demo

/-- The arguments of a call of `set_status`. -/
structure StatusCall where
  status : RecStatus
  actor : String
  comment : Option String
  extra : List Extra

/-- The call that a handler makes for a record, once its own checks let the request through. -/
def statusCall (rec : MemoryRecommendation) : RouteRequest → Option StatusCall
  | .feedback decision operator comment now =>
    if decision ≠ "accepted" ∧ decision ≠ "rejected" then none
    else if rec.status ≠ .pending ∧ rec.status ≠ .accepted then none
    else some ⟨decidedStatus decision, operator, comment,
      [.resolvedAt (if decision = "rejected" then some now else none)]⟩
  | .simulate _ _ => none
  | .approve actor comment now =>
    if rec.status ≠ .accepted then none
    else some ⟨.approved, actor, comment, [.approvedBy actor, .approvedAt now]⟩
  | .apply _ actor dryRun now =>
    if rec.status ≠ .approved then none
    else some ⟨.applied, actor, none,
      [.applyMode (if dryRun.getD true then "dry_run" else "write"), .appliedBy actor, .appliedAt now]⟩
  | .impact _ live actor =>
    (live rec.plantCode).map fun _ =>
      ⟨rec.status, actor, none, [.realizedSavingKwhPerH (rec.estimatedEnergySavingKwhPerH * (85 / 100))]⟩

def StatusCall.run (call : StatusCall) (memory : MemoryRecStore) (id : Nat) :
    MemoryRecStore × Except MemoryRecError MemoryRecommendation :=
  memory.setStatus id call.status call.actor call.comment call.extra

def StatusCall.edited (call : StatusCall) (rec : MemoryRecommendation) : MemoryRecommendation :=
  call.extra.foldl Extra.setattr { rec with status := call.status }

section
variable {memory : MemoryRecStore} {id : Nat} {rec : MemoryRecommendation} {request : RouteRequest} {call : StatusCall}

theorem statusCall_feedback {decision operator : String} {comment : Option String} {now : Int}
    (called : statusCall rec (.feedback decision operator comment now) = some call) :
    ¬(decision ≠ "accepted" ∧ decision ≠ "rejected") ∧ ¬(rec.status ≠ .pending ∧ rec.status ≠ .accepted) ∧
      call = ⟨decidedStatus decision, operator, comment,
        [.resolvedAt (if decision = "rejected" then some now else none)]⟩ := by
  simp only [statusCall] at called
  split at called
  · cases called
  · rename_i known
    split at called
    · cases called
    · rename_i open_
      exact ⟨known, open_, (Option.some.inj called).symm⟩

theorem statusCall_approve {actor : String} {comment : Option String} {now : Int}
    (called : statusCall rec (.approve actor comment now) = some call) :
    rec.status = .accepted ∧ call = ⟨.approved, actor, comment, [.approvedBy actor, .approvedAt now]⟩ := by
  simp only [statusCall] at called
  split at called
  · cases called
  · rename_i ready
    exact ⟨not_not.mp ready, (Option.some.inj called).symm⟩

theorem statusCall_apply {ctx : ApplyContext} {actor : String} {dryRun : Option Bool} {now : Int}
    (called : statusCall rec (.apply ctx actor dryRun now) = some call) :
    rec.status = .approved ∧ call = ⟨.applied, actor, none,
      [.applyMode (if dryRun.getD true then "dry_run" else "write"), .appliedBy actor, .appliedAt now]⟩ := by
  simp only [statusCall] at called
  split at called
  · cases called
  · rename_i ready
    exact ⟨not_not.mp ready, (Option.some.inj called).symm⟩

theorem changeStatus_run (call : StatusCall) (memory : MemoryRecStore) (id : Nat) (out : MemoryRecommendation → RouteOut) :
    (changeStatus memory id call.status call.actor call.comment call.extra out).2 = (call.run memory id).1 ∧
      (changeStatus memory id call.status call.actor call.comment call.extra out).1.isOk =
        (call.run memory id).2.isOk := by
  unfold changeStatus StatusCall.run
  dsimp only
  split <;> rename_i ended <;> rw [ended] <;> exact ⟨rfl, rfl⟩

/-- The handler asks for the status change: it leaves the store that the change leaves, and answers as it ended. -/
def Asks (memory : MemoryRecStore) (id : Nat) (request : RouteRequest) (call : StatusCall) : Prop :=
  (handleMemory memory id request).2 = (call.run memory id).1 ∧
    (handleMemory memory id request).1.isOk = (call.run memory id).2.isOk

theorem handleMemory_called (held : memory.get id = some rec) (called : statusCall rec request = some call) :
    Asks memory id request call := by
  unfold Asks
  rw [handleMemory_held held]
  cases request with
  | feedback decision operator comment now =>
    obtain ⟨known, open_, rfl⟩ := statusCall_feedback called
    simp only [memoryFeedback, if_neg known, if_neg open_]
    exact changeStatus_run ⟨_, _, _, _⟩ memory id _
  | simulate ctx model => cases called
  | approve actor comment now =>
    obtain ⟨ready, rfl⟩ := statusCall_approve called
    simp only [memoryApprove, if_neg (not_not_intro ready)]
    exact changeStatus_run ⟨_, _, _, _⟩ memory id _
  | apply ctx actor dryRun now =>
    obtain ⟨ready, rfl⟩ := statusCall_apply called
    simp only [memoryApply, if_neg (not_not_intro ready)]
    exact changeStatus_run ⟨_, _, _, _⟩ memory id _
  | impact ctx live actor =>
    obtain ⟨reading, found, rfl⟩ := Option.map_eq_some_iff.mp called
    simp only [memoryImpact, found]
    exact changeStatus_run ⟨_, _, _, _⟩ memory id _

/-- A status change is done, with one event of that status, or raises and changes nothing. -/
def Atomic (memory : MemoryRecStore) (id : Nat) (rec : MemoryRecommendation) (call : StatusCall) : Prop :=
  match call.run memory id with
  | (after, .ok updated) =>
    updated = call.edited rec ∧ after.get id = some updated ∧
      ∃ event, after.audit = memory.audit ++ [event] ∧ event.id = memory.auditId ∧ event.recommendationId = id ∧
        event.eventType = call.status.text ∧ event.actor = call.actor
  | (after, .error _) =>
    after.get id = some rec ∧ after.audit = memory.audit ∧ after.auditId = memory.auditId ∧ after.nextId = memory.nextId

/-- What a call does to the store: the record is edited and an id drawn either way, the event only without a time. -/
theorem run_cases (held : memory.get id = some rec) (call : StatusCall) :
    (call.extra.any Extra.isDatetime = false ∧ (call.run memory id).2 = .ok (call.edited rec) ∧
      (call.run memory id).1.get id = some (call.edited rec) ∧
      (call.run memory id).1.audit = memory.audit ++
        [⟨memory.auditId, id, call.status.text, call.actor,
          ("comment", DetailValue.ofText call.comment) :: call.extra.map Extra.item⟩]) ∨
    (call.extra.any Extra.isDatetime = true ∧ (call.run memory id).2 = .error serializationError ∧
      (call.run memory id).1.auditId = memory.auditId + 1) := by
  have found : memory.recs.get? id = some rec := held
  have edited := memory.setStatus_get call.status call.actor call.comment call.extra held
  have outcome := memory.setStatus_outcome call.status call.actor call.comment call.extra held
  cases dated : call.extra.any Extra.isDatetime with
  | false =>
    rw [dated] at outcome
    refine Or.inl ⟨rfl, outcome, edited, ?_⟩
    simp [StatusCall.run, MemoryRecStore.setStatus, found, MemoryRecStore.appendAuditUnlocked, jsonDumps_extra, dated]
  | true =>
    rw [dated] at outcome
    refine Or.inr ⟨rfl, outcome, ?_⟩
    simp [StatusCall.run, MemoryRecStore.setStatus, found, MemoryRecStore.appendAuditUnlocked, jsonDumps_extra, dated]

theorem atomic_iff_undated (held : memory.get id = some rec) (call : StatusCall) :
    Atomic memory id rec call ↔ call.extra.any Extra.isDatetime = false := by
  unfold Atomic
  rcases run_cases held call with ⟨undated, outcome, edited, recorded⟩ | ⟨dated, outcome, drawn⟩
  · have ended : call.run memory id = ((call.run memory id).1, .ok (call.edited rec)) := Prod.ext rfl outcome
    rw [ended]
    exact iff_of_true ⟨rfl, edited, _, recorded, rfl, rfl, rfl, rfl⟩ undated
  · have ended : call.run memory id = ((call.run memory id).1, .error serializationError) := Prod.ext rfl outcome
    rw [ended]
    refine iff_of_false ?_ (by simp [dated])
    rintro ⟨_, _, counter, _⟩
    omega

/-- A request whose status change carries no time: an acceptance or a measured impact. -/
def StampsNoTime : RouteRequest → Prop
  | .feedback decision _ _ _ => decision ≠ "rejected"
  | .simulate _ _ => True
  | .approve _ _ _ => False
  | .apply _ _ _ _ => False
  | .impact _ _ _ => True

theorem statusCall_dated (called : statusCall rec request = some call) :
    call.extra.any Extra.isDatetime = false ↔ StampsNoTime request := by
  cases request with
  | feedback decision operator comment now =>
    obtain ⟨_, _, rfl⟩ := statusCall_feedback called
    by_cases rejects : decision = "rejected" <;> simp [StampsNoTime, rejects, Extra.isDatetime]
  | simulate ctx model => cases called
  | approve actor comment now =>
    obtain ⟨_, rfl⟩ := statusCall_approve called
    simp [StampsNoTime, Extra.isDatetime]
  | apply ctx actor dryRun now =>
    obtain ⟨_, rfl⟩ := statusCall_apply called
    simp [StampsNoTime, Extra.isDatetime]
  | impact ctx live actor =>
    obtain ⟨reading, _, rfl⟩ := Option.map_eq_some_iff.mp called
    simp [StampsNoTime, Extra.isDatetime]

/-- The record is edited before its event is serialized: a change that stamps a time raises with the edit in place
and an event id used up. -/
theorem statusCall_atomic_iff (held : memory.get id = some rec) (called : statusCall rec request = some call) :
    Asks memory id request call ∧ (Atomic memory id rec call ↔ StampsNoTime request) :=
  ⟨handleMemory_called held called, (atomic_iff_undated held call).trans (statusCall_dated called)⟩

end

def pendingMemory : MemoryRecStore := MemoryRecStore.empty.persist 0 [sampleAdvice] .empty

def acceptedMemory : MemoryRecStore :=
  (handleMemory pendingMemory idBase (.feedback "accepted" "operator" none 1)).2

theorem statusCall_atomic_acceptance : ∃ rec call, pendingMemory.get idBase = some rec ∧
    statusCall rec (.feedback "accepted" "operator" none 1) = some call ∧
      Asks pendingMemory idBase (.feedback "accepted" "operator" none 1) call ∧ Atomic pendingMemory idBase rec call := by
  have held : ∃ rec call, pendingMemory.get idBase = some rec ∧
      statusCall rec (.feedback "accepted" "operator" none 1) = some call := ⟨_, _, rfl, rfl⟩
  obtain ⟨rec, call, held, called⟩ := held
  obtain ⟨asks, atomic⟩ := statusCall_atomic_iff held called
  exact ⟨rec, call, held, called, asks, atomic.mpr (by simp [StampsNoTime])⟩

/-- The approval of an accepted recommendation raises and leaves it approved. -/
theorem approval_not_atomic :
    ¬ ∀ (memory : MemoryRecStore) (id : Nat) (rec : MemoryRecommendation) (request : RouteRequest) (call : StatusCall),
      memory.get id = some rec → statusCall rec request = some call → Atomic memory id rec call := by
  intro atomic
  have held : ∃ rec, acceptedMemory.get idBase = some rec ∧
      statusCall rec (.approve "lead" none 2) = some ⟨.approved, "lead", none, [.approvedBy "lead", .approvedAt 2]⟩ :=
    ⟨_, rfl, rfl⟩
  obtain ⟨rec, held, called⟩ := held
  have undated := (atomic_iff_undated held _).mp (atomic acceptedMemory idBase rec _ _ held called)
  exact absurd undated (by decide)

end Iems.Api
