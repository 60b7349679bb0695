import Iems.Carbon.Requests
import Iems.Lib.Replay

/-!
The assurance workflow as an automaton over its events. The assurance columns of every report are the
replay of its trail, whatever generations happen between two transitions.
-/
namespace Iems.Carbon
open Lib

structure AssuranceLife where
  status : AssuranceStatus := .draft
  submittedBy : Option String := none
  approvedBy : Option String := none
  lockedBy : Option String := none
  deriving DecidableEq

def assuranceLife (report : CarbonReport) : AssuranceLife :=
  ⟨report.status, report.submittedBy, report.approvedBy, report.lockedBy⟩

/-- A report that does not exist yet counts as a fresh draft: creating it records no event. -/
def lifeOf (report : Option CarbonReport) : AssuranceLife := report.elim {} assuranceLife

/-- The documented workflow: draft, in review, approved, locked. -/
def advanceAssurance (l : AssuranceLife) (e : AssuranceEvent) : Option AssuranceLife :=
  match e.eventType, l.status with
  | .submitted, .draft | .submitted, .inReview =>
    some { l with status := .inReview, submittedBy := some e.actor }
  | .approved, .inReview => some { l with status := .approved, approvedBy := some e.actor }
  | .locked, .approved => some { l with status := .locked, lockedBy := some e.actor }
  | _, _ => none

/-! ### The store follows the workflow -/

theorem transition_advances {op : CarbonOp} {t : Transition} {body : AssuranceRequest}
    {report : CarbonReport} (request : op.transition = some (t, body))
    (allowed : report.status ∈ t.allowed) :
    advanceAssurance (assuranceLife report) (transitionEvent t body) =
      some (assuranceLife (transitionEdit t body report)) := by
  cases op <;> cases request
  case submit =>
    have open_ : report.status = .draft ∨ report.status = .inReview := by
      simpa [submitTransition] using allowed
    rcases open_ with status | status <;>
      simp only [advanceAssurance, assuranceLife, transitionEvent, submitTransition, status] <;> rfl
  case approve =>
    have status : report.status = .inReview := by simpa [approveTransition] using allowed
    simp only [advanceAssurance, assuranceLife, transitionEvent, approveTransition, status]
    rfl
  case lock =>
    have status : report.status = .approved := by simpa [lockTransition] using allowed
    simp only [advanceAssurance, assuranceLife, transitionEvent, lockTransition, status]
    rfl

theorem reportStep_replay {db : CarbonDb} {id : Nat} {op : CarbonOp}
    {before after : Option CarbonReport} {events : List AssuranceEvent}
    (change : ReportStep db id op before after events) :
    replay advanceAssurance (lifeOf before) events = some (lifeOf after) := by
  cases change with
  | same => rfl
  | created => rfl
  | regenerated => rfl
  | moved _ t body report request own allowed =>
    have moved := transition_advances request allowed
    simpa [replay, lifeOf] using moved

def FollowsWorkflow (db : CarbonDb) : Prop :=
  ∀ id, replay advanceAssurance {} (assuranceTrail db id) = some (lifeOf (db.reports.find? id))

theorem followsWorkflow_exec {db : CarbonDb} (op : CarbonOp) (follows : FollowsWorkflow db) :
    FollowsWorkflow (exec db op) := by
  intro id
  obtain ⟨events, trail, change⟩ := exec_report db op id
  rw [trail, replay_append, follows id, Option.bind_some]
  exact reportStep_replay change

/-! ### What a status says about the trail -/

/-- Submissions only, the last of them by the given actor. -/
def SubmittedTrail (submittedBy : Option String) (trail : List AssuranceEvent) : Prop :=
  ∃ earlier submission, trail = earlier ++ [submission] ∧
    (∀ e ∈ earlier, e.eventType = .submitted) ∧ submission.eventType = .submitted ∧
    submittedBy = some submission.actor

def ApprovedTrail (submittedBy approvedBy : Option String) (trail : List AssuranceEvent) : Prop :=
  ∃ reviewed approval, trail = reviewed ++ [approval] ∧ SubmittedTrail submittedBy reviewed ∧
    approval.eventType = .approved ∧ approvedBy = some approval.actor

/-- Submissions, then one approval, then one locking, with the given actors. -/
def LockedTrail (submittedBy approvedBy lockedBy : Option String) (trail : List AssuranceEvent) : Prop :=
  ∃ earlier submission approval locking, trail = earlier ++ [submission, approval, locking] ∧
    (∀ e ∈ earlier, e.eventType = .submitted) ∧ submission.eventType = .submitted ∧
    approval.eventType = .approved ∧ locking.eventType = .locked ∧
    submittedBy = some submission.actor ∧ approvedBy = some approval.actor ∧
    lockedBy = some locking.actor

def AssuranceShape (l : AssuranceLife) (trail : List AssuranceEvent) : Prop :=
  match l.status with
  | .draft => trail = []
  | .inReview => SubmittedTrail l.submittedBy trail
  | .approved => ApprovedTrail l.submittedBy l.approvedBy trail
  | .locked => LockedTrail l.submittedBy l.approvedBy l.lockedBy trail

theorem submittedTrail_snoc {trail : List AssuranceEvent} {e : AssuranceEvent}
    (submissions : ∀ f ∈ trail, f.eventType = .submitted) (kind : e.eventType = .submitted) :
    SubmittedTrail (some e.actor) (trail ++ [e]) :=
  ⟨trail, e, rfl, submissions, kind, rfl⟩

theorem submittedTrail_submissions {submittedBy : Option String} {trail : List AssuranceEvent}
    (shape : SubmittedTrail submittedBy trail) : ∀ e ∈ trail, e.eventType = .submitted := by
  obtain ⟨earlier, submission, rfl, submissions, kind, _⟩ := shape
  intro e member
  rcases List.mem_append.mp member with old | new
  · exact submissions e old
  · rw [List.mem_singleton.mp new, kind]

theorem lockedTrail_of_approved {submittedBy approvedBy : Option String}
    {trail : List AssuranceEvent} {e : AssuranceEvent}
    (shape : ApprovedTrail submittedBy approvedBy trail) (kind : e.eventType = .locked) :
    LockedTrail submittedBy approvedBy (some e.actor) (trail ++ [e]) := by
  obtain ⟨reviewed, approval, rfl, ⟨earlier, submission, rfl, submissions, submitted, actor⟩,
    approved, actor'⟩ := shape
  exact ⟨earlier, submission, approval, e, by simp, submissions, submitted, approved, kind, actor,
    actor', rfl⟩

theorem advanceAssurance_some {l next : AssuranceLife} {e : AssuranceEvent}
    (moved : advanceAssurance l e = some next) :
    (e.eventType = .submitted ∧ (l.status = .draft ∨ l.status = .inReview) ∧
        next = { l with status := .inReview, submittedBy := some e.actor }) ∨
      (e.eventType = .approved ∧ l.status = .inReview ∧
        next = { l with status := .approved, approvedBy := some e.actor }) ∨
      (e.eventType = .locked ∧ l.status = .approved ∧
        next = { l with status := .locked, lockedBy := some e.actor }) := by
  cases kind : e.eventType <;> cases status : l.status <;>
    simp_all [advanceAssurance, eq_comm]

theorem assuranceShape_advance (l : AssuranceLife) (trail : List AssuranceEvent) (e : AssuranceEvent)
    (next : AssuranceLife) (shape : AssuranceShape l trail) (moved : advanceAssurance l e = some next) :
    AssuranceShape next (trail ++ [e]) := by
  unfold AssuranceShape at shape
  rcases advanceAssurance_some moved with ⟨kind, draft | inReview, rfl⟩ | ⟨kind, inReview, rfl⟩ |
    ⟨kind, approved, rfl⟩
  · rw [draft] at shape
    subst shape
    exact submittedTrail_snoc (by simp) kind
  · rw [inReview] at shape
    exact submittedTrail_snoc (submittedTrail_submissions shape) kind
  · rw [inReview] at shape
    exact ⟨trail, e, rfl, shape, kind, rfl⟩
  · rw [approved] at shape
    exact lockedTrail_of_approved shape kind

/-! ### Locked reports and the unique key -/

theorem locked_exec {db : CarbonDb} {id : Nat} {report : CarbonReport}
    (found : db.reports.find? id = some report) (locked : report.status = .locked) (op : CarbonOp) :
    (exec db op).reports.find? id = some report := by
  obtain ⟨events, _, change⟩ := exec_report db op id
  generalize (exec db op).reports.find? id = after at change ⊢
  rw [found] at change
  cases change with
  | same => rfl
  | regenerated ctx body p _ prepared own unlocked => exact absurd locked unlocked
  | moved _ t body _ request own allowed =>
    cases op <;> cases request <;>
      simp [submitTransition, approveTransition, lockTransition, locked] at allowed

theorem locked_run {db : CarbonDb} {id : Nat} {report : CarbonReport}
    (found : db.reports.find? id = some report) (locked : report.status = .locked)
    (ops : List CarbonOp) : (run exec db ops).reports.find? id = some report := by
  have keep : ∀ s op, s.reports.find? id = some report → (exec s op).reports.find? id = some report :=
    fun s op present => locked_exec present locked op
  exact run_invariant keep found

def UniqueKeys (db : CarbonDb) : Prop :=
  ∀ id other report twin, db.reports.find? id = some report → db.reports.find? other = some twin →
    report.key = twin.key → id = other

theorem uniqueKeys_saveReport {db : CarbonDb} {id : Nat} {loaded edited : CarbonReport}
    (unique : UniqueKeys db) (found : db.reports.find? id = some loaded)
    (key : edited.key = loaded.key) : UniqueKeys (saveReport db id loaded edited) := by
  have earlier : ∀ i report, (saveReport db id loaded edited).reports.find? i = some report →
      ∃ old, db.reports.find? i = some old ∧ old.key = report.key := by
    intro i report present
    rw [find?_saveReport_loaded found] at present
    split at present
    · rename_i here
      cases present
      exact ⟨loaded, here ▸ found, key.symm⟩
    · exact ⟨report, present, rfl⟩
  intro i j report twin first second same
  obtain ⟨old, present, kept⟩ := earlier i report first
  obtain ⟨old', present', kept'⟩ := earlier j twin second
  exact unique i j old old' present present' (by rw [kept, kept', same])

theorem uniqueKeys_insert {db : CarbonDb} {report : CarbonReport} (unique : UniqueKeys db)
    (absent : findReport db report.key = none) :
    UniqueKeys { db with reports := db.reports.insert report } := by
  intro i j first second found found' same
  change (db.reports.insert report).find? i = some first at found
  change (db.reports.insert report).find? j = some second at found'
  rw [Table.find?_insert] at found found'
  split at found <;> split at found' <;> rename_i here there
  · exact here.trans there.symm
  · cases found
    exact absurd same.symm (findReport_none absent found')
  · cases found'
    exact absurd same (findReport_none absent found)
  · exact unique i j first second found found' same

theorem uniqueKeys_exec {db : CarbonDb} (op : CarbonOp) (unique : UniqueKeys db) :
    UniqueKeys (exec db op) := by
  have change := exec_step db op
  generalize exec db op = next at change ⊢
  cases change with
  | quiet _ _ plants reports events =>
    unfold UniqueKeys
    rw [reports]
    exact unique
  | created ctx body p prepared absent =>
    obtain ⟨_, _, lookup⟩ := prepareReport_ok prepared
    exact uniqueKeys_insert unique (lookup.symm.trans absent)
  | regenerated ctx body p id report prepared existing =>
    exact uniqueKeys_saveReport unique (prepareReport_existing prepared existing).1 rfl
  | moved _ t body report request passed =>
    have key : (transitionEdit t body report).key = report.key := by
      cases op <;> cases request <;> rfl
    exact uniqueKeys_saveReport unique (transitionCheck_ok passed).1 key

/-! ### The assurance of every run -/

/-- No report has entered the workflow yet; one from before the assurance columns has no status. -/
structure Pristine (db : CarbonDb) : Prop where
  unassured : ∀ id, lifeOf (db.reports.find? id) = {}
  silent : ∀ id, assuranceTrail db id = []
  unique : UniqueKeys db

theorem pristine_start (plants : Dict String Nat) (readings : List SensorReading) :
    Pristine (.start plants readings) :=
  ⟨fun _ => rfl, fun _ => rfl, fun _ _ _ _ absent => nomatch absent⟩

section
variable {db : CarbonDb} (pristine : Pristine db) (ops : List CarbonOp)
include pristine

theorem followsWorkflow_run : FollowsWorkflow (run exec db ops) := by
  have start : FollowsWorkflow db := by
    intro id
    rw [pristine.silent, pristine.unassured]
    rfl
  exact run_invariant (fun _ op follows => followsWorkflow_exec op follows) start

theorem uniqueKeys_run : UniqueKeys (run exec db ops) :=
  run_invariant (fun _ op unique => uniqueKeys_exec op unique) pristine.unique

/-- In every reachable store a locked report has the full trail with its actors and never changes
again, and no other report has its key. -/
theorem assurance_of_run (id : Nat) (report : CarbonReport)
    (found : (run exec db ops).reports.find? id = some report) :
    (report.assuranceStatus = some .locked →
      LockedTrail report.submittedBy report.approvedBy report.lockedBy
          (assuranceTrail (run exec db ops) id) ∧
        ∀ more, (run exec db (ops ++ more)).reports.find? id = some report) ∧
    ∀ other twin, (run exec db ops).reports.find? other = some twin →
      twin.key = report.key → other = id := by
  refine ⟨fun status => ⟨?_, fun more => ?_⟩, fun other twin present same => ?_⟩
  · have start : AssuranceShape {} [] := rfl
    have shape := replay_shape start assuranceShape_advance (followsWorkflow_run pristine ops id)
    have locked := status_of_some status
    rw [found] at shape
    simpa only [AssuranceShape, lifeOf, Option.elim_some, assuranceLife, locked] using shape
  · rw [run_append]
    exact locked_run found (status_of_some status) more
  · exact uniqueKeys_run pristine ops other id twin report present found same

end

def sampleDay : Datetime := ⟨2026, 1, 1, 0, by decide⟩

def sampleGenerate : GenerateRequest where
  plantCode := "olefin"
  periodType := .daily
  now := ⟨2026, 1, 2, 0, by decide⟩

def sampleFactors : GenerateContext where
  cfg := {}
  factors := ⟨[], by simp⟩
  scope3Factors := ⟨[], by simp⟩

/-- A day's report from its first generation to its approval. -/
def sampleReview : List CarbonOp :=
  [.readings [olefinSample sampleDay.instant 10], .generate sampleFactors sampleGenerate,
    .submit { reportId := 1, actor := "analyst", now := 1 },
    .approve { reportId := 1, actor := "lead", now := 2 }]

def sampleLock : AssuranceRequest where
  reportId := 1
  actor := "controller"
  now := 3

theorem assurance_of_sample :
    ∃ report, (run exec (.start olefinPlants []) (sampleReview ++ [.lock sampleLock])).reports.find? 1 =
        some report ∧
      LockedTrail report.submittedBy report.approvedBy report.lockedBy
        (assuranceTrail (run exec (.start olefinPlants []) (sampleReview ++ [.lock sampleLock])) 1) := by
  have status : ((run exec (.start olefinPlants []) (sampleReview ++ [.lock sampleLock])).reports.find? 1).map
      (·.assuranceStatus) = some (some .locked) := by
    decide +kernel
  obtain ⟨report, found, locked⟩ := Option.map_eq_some_iff.mp status
  exact ⟨report, found, ((assurance_of_run (pristine_start olefinPlants []) _ 1 report found).1 locked).1⟩

end Iems.Carbon
