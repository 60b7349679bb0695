import Iems.Lib.Raising
import Iems.Optimization.Lifecycle

/-! Concurrent decisions on one recommendation: which runs keep to the lifecycle. -/
namespace Iems.Optimization
open Lib Lib.Sessions Ingestion

inductive RecRequest where
  | feedback (body : FeedbackRequest)
  | approve (body : ApproveRequest)
  | apply (ctx : ApplyContext) (body : ApplyRequest)

def RecRequest.recommendationId : RecRequest → Nat
  | .feedback body => body.recommendationId
  | .approve body => body.recommendationId
  | .apply _ body => body.recommendationId

/-- The two steps of each request, with the plant events of an apply between them. -/
def recProtocol : Protocol RecRequest RecStore OptimizationRecommendation PlantEvent where
  read
    | .feedback body, db => (feedbackCheck body db).toOption
    | .approve body, db => (approveCheck body db).toOption
    | .apply ctx body, db => (applyCheck ctx.cfg body db).toOption
  effects
    | .feedback _, _ => []
    | .approve _, _ => []
    | .apply ctx body, rec => (applyWrites ctx body rec).events
  commit
    | .feedback body, rec, db => feedbackCommit body rec db
    | .approve body, rec, db => approveCommit body rec db
    | .apply ctx body, rec, db => (applyCommit ctx body rec db).2

def RecRequest.op : RecRequest → RecOp
  | .feedback body => .feedback body
  | .approve body => .approve body
  | .apply ctx body => .apply ctx body

theorem recProtocol_alone (r : RecRequest) (db : RecStore) : recProtocol.alone r db = exec db r.op := by
  cases r with
  | feedback body =>
    simp only [Protocol.alone, recProtocol, RecRequest.op, exec, submitFeedback]
    cases feedbackCheck body db <;> rfl
  | approve body =>
    simp only [Protocol.alone, recProtocol, RecRequest.op, exec, approveRecommendation]
    cases approveCheck body db <;> rfl
  | apply ctx body =>
    simp only [Protocol.alone, recProtocol, RecRequest.op, exec, applyRecommendation]
    cases applyCheck ctx.cfg body db <;> rfl

/-! ### Statuses -/

def statusOf (db : RecStore) (id : Nat) : Option RecStatus := (getRecommendation db id).map (·.status)

inductive StatusEdge : RecStatus → RecStatus → Prop where
  | accept : StatusEdge .pending .accepted
  | approve : StatusEdge .accepted .approved
  | apply : StatusEdge .approved .applied
  | fail : StatusEdge .approved .failed
  | rejectPending : StatusEdge .pending .rejected
  | rejectAccepted : StatusEdge .accepted .rejected

def StatusStep (before after : Option RecStatus) : Prop :=
  after = before ∨ ∃ a b, before = some a ∧ after = some b ∧ StatusEdge a b

theorem statusOf_saved (db : RecStore) (id : Nat) (loaded edited : OptimizationRecommendation)
    (event : RecommendationAuditEvent) :
    statusOf (appendAudit (save db id loaded edited) event) id =
      (statusOf db id).map (column loaded.status edited.status) := by
  unfold statusOf
  rw [getRecommendation_appendAudit, getRecommendation_save, if_pos rfl, Option.map_map, Option.map_map]
  rfl

theorem feedbackCommit_status {body : FeedbackRequest} {seen cur : OptimizationRecommendation}
    {loaded db : RecStore} (found : feedbackCheck body loaded = .ok seen)
    (admitted : feedbackCheck body db = .ok cur) :
    StatusStep (statusOf db body.recommendationId)
      (statusOf (feedbackCommit body seen db) body.recommendationId) := by
  obtain ⟨_, known, was⟩ := feedbackCheck_ok found
  obtain ⟨present, _, is⟩ := feedbackCheck_ok admitted
  have now : statusOf db body.recommendationId = some cur.status := by
    unfold statusOf
    rw [present]
    rfl
  have next : statusOf (feedbackCommit body seen db) body.recommendationId =
      (statusOf db body.recommendationId).map (column seen.status (feedbackEdit body seen).status) :=
    statusOf_saved db _ _ _ (feedbackEvent body)
  rw [next, now, Option.map_some]
  rcases known with accepted | rejected
  · -- an acceptance of a row loaded as accepted sends no status at all
    have edited : (feedbackEdit body seen).status = .accepted := by
      simp [feedbackEdit, decidedStatus, accepted]
    rw [edited]
    rcases was with pending | already
    · rw [pending, column_changed (by decide)]
      rcases is with pending | already
      · exact Or.inr ⟨_, _, congrArg some pending, rfl, .accept⟩
      · exact Or.inl (congrArg some already.symm)
    · rw [already, column_unchanged]
      exact Or.inl rfl
  · have edited : (feedbackEdit body seen).status = .rejected := by
      simp [feedbackEdit, decidedStatus, rejected]
    have changed : RecStatus.rejected ≠ seen.status := by
      rcases was with same | same <;> simp [same]
    rw [edited, column_changed changed]
    rcases is with pending | already
    · exact Or.inr ⟨_, _, congrArg some pending, rfl, .rejectPending⟩
    · exact Or.inr ⟨_, _, congrArg some already, rfl, .rejectAccepted⟩

theorem approveCommit_status {body : ApproveRequest} {seen cur : OptimizationRecommendation}
    {loaded db : RecStore} (found : approveCheck body loaded = .ok seen)
    (admitted : approveCheck body db = .ok cur) :
    StatusStep (statusOf db body.recommendationId)
      (statusOf (approveCommit body seen db) body.recommendationId) := by
  obtain ⟨_, was⟩ := approveCheck_ok found
  obtain ⟨present, is⟩ := approveCheck_ok admitted
  have now : statusOf db body.recommendationId = some .accepted := by
    unfold statusOf
    rw [present, Option.map_some, is]
  have next : statusOf (approveCommit body seen db) body.recommendationId =
      (statusOf db body.recommendationId).map (column seen.status (approveEdit body seen).status) :=
    statusOf_saved db _ _ _ (approveEvent body)
  have edited : (approveEdit body seen).status = .approved := rfl
  rw [next, now, Option.map_some, was, edited, column_changed (by decide)]
  exact Or.inr ⟨_, _, rfl, rfl, .approve⟩

/-- What the commit of an apply does to the store: nothing, or it records a refused or a finished write. -/
theorem applyCommit_cases (ctx : ApplyContext) (body : ApplyRequest) (rec : OptimizationRecommendation)
    (db : RecStore) :
    (applyCommit ctx body rec db).2 = db ∨
      (∃ message, (applyWrites ctx body rec).outcome = .error (.notAllowed message) ∧
        (applyCommit ctx body rec db).2 =
          appendAudit (save db body.recommendationId rec (failedEdit rec)) (failedEvent ctx body message)) ∨
      ∃ result, (applyWrites ctx body rec).outcome = .ok result ∧ ctx.commitFails = false ∧
        (applyCommit ctx body rec db).2 =
          appendAudit (save db body.recommendationId rec (appliedEdit ctx body rec result))
            (appliedEvent ctx body rec result) := by
  unfold applyCommit
  split
  · rename_i message refused
    split
    · exact Or.inl rfl
    · exact Or.inr (Or.inl ⟨message, refused, rfl⟩)
  · exact Or.inl rfl
  · rename_i result completed
    split
    · exact Or.inl rfl
    · rename_i commits
      exact Or.inr (Or.inr ⟨result, completed, by simpa using commits, rfl⟩)

theorem applyCommit_status {ctx : ApplyContext} {body : ApplyRequest}
    {seen cur : OptimizationRecommendation} {loaded db : RecStore}
    (found : applyCheck ctx.cfg body loaded = .ok seen) (admitted : applyCheck ctx.cfg body db = .ok cur) :
    StatusStep (statusOf db body.recommendationId)
      (statusOf (applyCommit ctx body seen db).2 body.recommendationId) := by
  obtain ⟨_, was, _⟩ := applyCheck_ok found
  obtain ⟨present, is, _⟩ := applyCheck_ok admitted
  have now : statusOf db body.recommendationId = some .approved := by
    unfold statusOf
    rw [present, Option.map_some, is]
  rcases applyCommit_cases ctx body seen db with same | ⟨message, _, next⟩ | ⟨result, _, _, next⟩
  · rw [same]
    exact Or.inl rfl
  · have edited : (failedEdit seen).status = .failed := rfl
    rw [next, statusOf_saved, now, Option.map_some, was, edited, column_changed (by decide)]
    exact Or.inr ⟨_, _, rfl, rfl, .fail⟩
  · have edited : (appliedEdit ctx body seen result).status = .applied := rfl
    rw [next, statusOf_saved, now, Option.map_some, was, edited, column_changed (by decide)]
    exact Or.inr ⟨_, _, rfl, rfl, .apply⟩

/-- A commit whose own check would still pass moves the status along the lifecycle. -/
theorem commit_status {id : Nat} (r : RecRequest) (seen : OptimizationRecommendation)
    (loaded db : RecStore) (own : r.recommendationId = id)
    (found : recProtocol.read r loaded = some seen) (admitted : (recProtocol.read r db).isSome) :
    StatusStep (statusOf db id) (statusOf (recProtocol.commit r seen db) id) := by
  subst own
  obtain ⟨cur, again⟩ := Option.isSome_iff_exists.mp admitted
  cases r with
  | feedback body => exact feedbackCommit_status (toOption_eq_some.mp found) (toOption_eq_some.mp again)
  | approve body => exact approveCommit_status (toOption_eq_some.mp found) (toOption_eq_some.mp again)
  | apply ctx body => exact applyCommit_status (toOption_eq_some.mp found) (toOption_eq_some.mp again)

theorem rejected_stays {before after : Option RecStatus} (rejected : before = some .rejected)
    (moved : StatusStep before after) : after = some .rejected := by
  rcases moved with same | ⟨a, b, was, _, edge⟩
  · exact same.trans rejected
  · cases rejected.symm.trans was
    cases edge

/-! ### Runs -/

abbrev RecWorld := World RecRequest RecStore OptimizationRecommendation PlantEvent

/-- A run in which every commit finds a status that still passes its own request's check. -/
abbrev Revalidated (id : Nat) (w : RecWorld) (actions : List (Action RecRequest)) : Prop :=
  Meets (step recProtocol) (Permitted (·.recommendationId = id) recProtocol.Passes) w actions

/-- In such a run the committed statuses follow the lifecycle, and a rejection is final. -/
theorem revalidated_run_follows_lifecycle (db : RecStore) (id : Nat) (actions : List (Action RecRequest))
    (revalidated : Revalidated id { db := db } actions) :
    ((visited (step recProtocol) { db := db } actions).map fun w => statusOf w.db id).IsChain StatusStep ∧
      ∀ before after, actions = before ++ after →
        statusOf (run (step recProtocol) { db := db } before).db id = some .rejected →
        statusOf (run (step recProtocol) { db := db } actions).db id = some .rejected := by
  constructor
  · have chain := @admitted_chain _ _ _ _ recProtocol (·.recommendationId = id) recProtocol.Passes
      (fun db next => StatusStep (statusOf db id) (statusOf next id)) _ _ (fun _ => Or.inl rfl)
      (fun r seen loaded db own found admitted => commit_status r seen loaded db own found admitted)
      (opened_start _ _ db) revalidated
    rw [List.isChain_map] at chain ⊢
    exact chain
  · rintro before after rfl rejected
    obtain ⟨earlier, later⟩ := meets_append.mp revalidated
    rw [run_append]
    have keep : ∀ (r : RecRequest) (seen : OptimizationRecommendation) (loaded db : RecStore),
        r.recommendationId = id → recProtocol.read r loaded = some seen →
        (recProtocol.read r db).isSome → statusOf db id = some .rejected →
        statusOf (recProtocol.commit r seen db) id = some .rejected := by
      intro r seen loaded db own found admitted was
      exact rejected_stays was (commit_status r seen loaded db own found admitted)
    exact @admitted_run _ _ _ _ recProtocol (·.recommendationId = id) recProtocol.Passes
      (fun db => statusOf db id = some .rejected) _ _ keep (opened_run (opened_start _ _ db) earlier) later
      rejected

def sampleDecisions : List (Action RecRequest) :=
  [.read (.feedback { recommendationId := 1, decision := "accepted", operator := "shift", now := 1 }),
    .commit 0, .read (.approve { recommendationId := 1, actor := "lead", now := 2 }), .commit 1]

theorem revalidated_run_of_sample :
    ((visited (step recProtocol) { db := run exec .empty (sampleApproval.take 1) } sampleDecisions).map
      fun w => statusOf w.db 1).IsChain StatusStep := by
  refine (revalidated_run_follows_lifecycle _ 1 sampleDecisions ?_).1
  refine ⟨⟨?_, trivial⟩, ⟨?_, ?_⟩, ⟨?_, trivial⟩, ⟨?_, ?_⟩, trivial⟩
  · rintro r ⟨⟩
    rfl
  · rintro r ⟨⟩
  · exact admitted_of_check (by decide +kernel)
  · rintro r ⟨⟩
    rfl
  · rintro r ⟨⟩
  · exact admitted_of_check (by decide +kernel)

/-- An approval that read the row before a rejection was committed. -/
def staleApproval : List (Action RecRequest) :=
  [.read (.approve { recommendationId := 1, actor := "lead", now := 2 }),
    .read (.feedback { recommendationId := 1, decision := "rejected", operator := "shift", now := 3 }),
    .commit 1, .commit 0]

theorem stale_approval_revives_rejected :
    statusOf (run (step recProtocol) { db := run exec .empty (sampleApproval.take 2) }
        (staleApproval.take 3)).db 1 = some .rejected ∧
      statusOf (run (step recProtocol) { db := run exec .empty (sampleApproval.take 2) }
        staleApproval).db 1 = some .approved := by
  decide +kernel

end Iems.Optimization
