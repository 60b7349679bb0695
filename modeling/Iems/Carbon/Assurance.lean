import Iems.Carbon.Store

/-! The assurance workflow: submit, approve and lock a report. -/
namespace Iems.Carbon
open Lib

structure AssuranceRequest where
  reportId : Nat
  actor : String
  comment : Option String := none
  now : Int

/-- One guarded transition of the workflow; `stamp` sets its actor and time columns. -/
structure Transition where
  eventType : AssuranceEventType
  target : AssuranceStatus
  allowed : List AssuranceStatus
  refusal : Option AssuranceStatus → String
  stamp : String → Int → CarbonReport → CarbonReport

def statusText (status : Option AssuranceStatus) : String := (status.map (·.text)).getD "None"

def submitTransition : Transition where
  eventType := .submitted
  target := .inReview
  allowed := [.draft, .inReview]
  refusal status :=
    "Submit requires draft/in_review (current=" ++ (status.getD .draft).text ++ ")"
  stamp actor now report := { report with submittedBy := some actor, submittedAt := some now }

def approveTransition : Transition where
  eventType := .approved
  target := .approved
  allowed := [.inReview]
  refusal status := "Approve requires in_review (current=" ++ statusText status ++ ")"
  stamp actor now report := { report with approvedBy := some actor, approvedAt := some now }

def lockTransition : Transition where
  eventType := .locked
  target := .locked
  allowed := [.approved]
  refusal status := "Lock requires approved (current=" ++ statusText status ++ ")"
  stamp actor now report := { report with lockedBy := some actor, lockedAt := some now }

def getReport (db : CarbonDb) (reportId : Nat) : Option (CarbonReport × String) :=
  (db.reports.find? reportId).bind fun report =>
    (db.plants.items.find? fun plant => plant.2 = report.plantId).map fun plant => (report, plant.1)

def transitionCheck (t : Transition) (body : AssuranceRequest) (db : CarbonDb) :
    Except CarbonError CarbonReport :=
  match getReport db body.reportId with
  | none => .error (.keyError ("Report " ++ toString body.reportId ++ " not found"))
  | some (report, _) =>
    if report.status ∈ t.allowed then .ok report
    else .error (.assurance (t.refusal report.assuranceStatus))

def transitionEdit (t : Transition) (body : AssuranceRequest) (report : CarbonReport) : CarbonReport :=
  t.stamp body.actor body.now { report with assuranceStatus := some t.target }

def transitionEvent (t : Transition) (body : AssuranceRequest) : AssuranceEvent where
  reportId := body.reportId
  eventType := t.eventType
  actor := body.actor
  comment := body.comment

def transitionCommit (t : Transition) (body : AssuranceRequest) (report : CarbonReport)
    (db : CarbonDb) : CarbonDb :=
  appendAssuranceEvent (saveReport db body.reportId report (transitionEdit t body report))
    (transitionEvent t body)

/-- The report comes back refreshed. -/
def runTransition (t : Transition) (body : AssuranceRequest) (db : CarbonDb) :
    Except CarbonError (Option CarbonReport) × CarbonDb :=
  match transitionCheck t body db with
  | .error e => (.error e, db)
  | .ok report =>
    let committed := transitionCommit t body report db
    (.ok (committed.reports.find? body.reportId), committed)

def submitReport (body : AssuranceRequest) (db : CarbonDb) :
    Except CarbonError (Option CarbonReport) × CarbonDb :=
  runTransition submitTransition body db

def approveReport (body : AssuranceRequest) (db : CarbonDb) :
    Except CarbonError (Option CarbonReport) × CarbonDb :=
  runTransition approveTransition body db

def lockReport (body : AssuranceRequest) (db : CarbonDb) :
    Except CarbonError (Option CarbonReport) × CarbonDb :=
  runTransition lockTransition body db

theorem transitionCheck_ok {t : Transition} {body : AssuranceRequest} {db : CarbonDb}
    {report : CarbonReport} (passed : transitionCheck t body db = .ok report) :
    db.reports.find? body.reportId = some report ∧ report.status ∈ t.allowed := by
  unfold transitionCheck at passed
  split at passed
  · cases passed
  · rename_i row code joined
    split at passed
    · rename_i allowed
      cases passed
      obtain ⟨found, present, plant⟩ := Option.bind_eq_some_iff.mp joined
      obtain ⟨_, _, same⟩ := Option.map_eq_some_iff.mp plant
      cases same
      exact ⟨present, allowed⟩
    · cases passed

end Iems.Carbon
