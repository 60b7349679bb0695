import Iems.Carbon.AssuranceTrail

/-!
Which figures a locked report carries. A generation recomputes every report that is not locked, so an
approval fixes the figures only until the next generation for the same period.
-/
namespace Iems.Carbon
open Lib

/-- The figures are those of the approved report, or those a later generation computed for it. -/
def FiguresSince (db : CarbonDb) (between : List CarbonOp) (approved report : CarbonReport) : Prop :=
  report.figures = approved.figures ∨
    ∃ earlier ctx body later p, between = earlier ++ .generate ctx body :: later ∧
      Recomputes db.plants body report ∧
      prepareReport ctx body (run exec db earlier) = .ok (some p) ∧ report.figures = p.figures

/-- The approval recorded in the report's columns, and what the figures are since then. -/
structure ApprovedSince (start : CarbonDb) (id : Nat) (before : List CarbonOp)
    (approval : AssuranceRequest) (between : List CarbonOp) (approved report : CarbonReport) : Prop where
  own : approval.reportId = id
  found : (run exec start (before ++ [.approve approval])).reports.find? id = some approved
  status : approved.assuranceStatus = some .approved
  approvedBy : report.approvedBy = some approval.actor ∧ approved.approvedBy = some approval.actor
  approvedAt : report.approvedAt = some approval.now ∧ approved.approvedAt = some approval.now
  figures : FiguresSince (run exec start (before ++ [.approve approval])) between approved report

theorem figuresSince_snoc {db : CarbonDb} {between : List CarbonOp} {approved report : CarbonReport}
    (since : FiguresSince db between approved report) (op : CarbonOp) :
    FiguresSince db (between ++ [op]) approved report := by
  rcases since with same | ⟨earlier, ctx, body, later, p, rfl, own, prepared, computed⟩
  · exact Or.inl same
  · exact Or.inr ⟨earlier, ctx, body, later ++ [op], p, by simp, own, prepared, computed⟩

/-! ### One request -/

section
variable {start : CarbonDb} {id : Nat} {before between : List CarbonOp} {approval : AssuranceRequest}
variable {approved report : CarbonReport}

theorem run_since (start : CarbonDb) (before : List CarbonOp) (op : CarbonOp) (between : List CarbonOp) :
    run exec (run exec start (before ++ [op])) between = run exec start (before ++ op :: between) := by
  rw [← run_append, List.append_assoc, List.singleton_append]

theorem ApprovedSince.snoc (since : ApprovedSince start id before approval between approved report)
    (op : CarbonOp) : ApprovedSince start id before approval (between ++ [op]) approved report :=
  { since with figures := figuresSince_snoc since.figures op }

/-- A generation after the approval replaces the figures and nothing else of the record. -/
theorem ApprovedSince.regenerate (since : ApprovedSince start id before approval between approved report)
    {ctx : GenerateContext} {body : GenerateRequest} {p : Prepared}
    (prepared : prepareReport ctx body (run exec start (before ++ .approve approval :: between)) =
      .ok (some p))
    (own : Recomputes start.plants body report) :
    ApprovedSince start id before approval (between ++ [.generate ctx body]) approved
      (regenerateEdit p.figures report) := by
  refine { since with figures := Or.inr ⟨between, ctx, body, [], p, rfl, ?_, ?_, rfl⟩ }
  · rw [run_plants]
    exact own
  · rw [run_since]
    exact prepared

theorem ApprovedSince.lock (since : ApprovedSince start id before approval between approved report)
    (locking : AssuranceRequest) : ApprovedSince start id before approval between approved
      (transitionEdit lockTransition locking report) :=
  { since with }

theorem approvedSince_approve (start : CarbonDb) (before : List CarbonOp) (report : CarbonReport)
    {approval : AssuranceRequest}
    (found : (run exec start (before ++ [.approve approval])).reports.find? approval.reportId =
      some (transitionEdit approveTransition approval report)) :
    ApprovedSince start approval.reportId before approval []
      (transitionEdit approveTransition approval report)
      (transitionEdit approveTransition approval report) where
  own := rfl
  found := found
  status := rfl
  approvedBy := ⟨rfl, rfl⟩
  approvedAt := ⟨rfl, rfl⟩
  figures := Or.inl rfl

/-- The requests so far account for the figures of the report: an approved one has them since its
approval, a locked one has kept them since it was locked. -/
structure Accounted (start : CarbonDb) (id : Nat) (ops : List CarbonOp) (report : CarbonReport) : Prop where
  approved : report.status = .approved → ∃ before approval between approved,
    ops = before ++ .approve approval :: between ∧
      ApprovedSince start id before approval between approved report
  locked : report.status = .locked → ∃ before approval between locking after approved,
    ops = before ++ .approve approval :: between ++ .lock locking :: after ∧ locking.reportId = id ∧
      ApprovedSince start id before approval between approved report ∧
      (run exec start (before ++ .approve approval :: between ++ [.lock locking])).reports.find? id =
        some report

theorem Accounted.snoc {ops : List CarbonOp} (accounted : Accounted start id ops report) (op : CarbonOp) :
    Accounted start id (ops ++ [op]) report where
  approved := by
    intro status
    obtain ⟨before, approval, between, approved, rfl, since⟩ := accounted.approved status
    exact ⟨before, approval, between ++ [op], approved, by simp, since.snoc op⟩
  locked := by
    intro status
    obtain ⟨before, approval, between, locking, after, approved, rfl, own, since, kept⟩ :=
      accounted.locked status
    exact ⟨before, approval, between, locking, after ++ [op], approved, by simp, own, since, kept⟩

theorem accounted_of_open {ops : List CarbonOp} (status : report.status = .draft ∨ report.status = .inReview) :
    Accounted start id ops report where
  approved := by
    intro approved
    rw [approved] at status
    simp at status
  locked := by
    intro locked
    rw [locked] at status
    simp at status

theorem accounted_exec {ops : List CarbonOp} {op : CarbonOp} {after : CarbonReport}
    (accounted : ∀ report, (run exec start ops).reports.find? id = some report →
      Accounted start id ops report)
    (found : (exec (run exec start ops) op).reports.find? id = some after) :
    Accounted start id (ops ++ [op]) after := by
  obtain ⟨events, _, change⟩ := exec_report (run exec start ops) op id
  generalize earlier : (run exec start ops).reports.find? id = before at change
  rw [found] at change
  cases change with
  | same => exact (accounted after earlier).snoc op
  | created => exact accounted_of_open (Or.inl rfl)
  | regenerated ctx body p report prepared own unlocked =>
    refine ⟨fun status => ?_, fun status => absurd status unlocked⟩
    obtain ⟨before, approval, between, approved, rfl, since⟩ := (accounted report earlier).approved status
    rw [run_plants] at own
    exact ⟨before, approval, between ++ [.generate ctx body], approved, by simp,
      since.regenerate prepared own⟩
  | moved _ t body report request own allowed =>
    cases op <;> cases request
    case submit.refl => exact accounted_of_open (Or.inr rfl)
    case approve.refl =>
      subst own
      rw [← @run_snoc _ _ exec] at found
      refine ⟨fun _ => ⟨ops, body, [], _, rfl, approvedSince_approve start ops report found⟩, ?_⟩
      intro status
      cases status
    case lock.refl =>
      have status : report.status = .approved := by simpa [lockTransition] using allowed
      obtain ⟨before, approval, between, approved, rfl, since⟩ := (accounted report earlier).approved status
      refine ⟨?_, fun _ => ?_⟩
      · intro open_
        cases open_
      rw [← @run_snoc _ _ exec] at found
      exact ⟨before, approval, between, body, [], approved, rfl, own, since.lock body, found⟩

end

/-! ### Runs -/

/-- Whenever a report is locked, its figures are those of the approval recorded in it, or those of a
generation for the same period between that approval and the lock; since the lock they are fixed. -/
theorem locked_figures_of_run {start : CarbonDb} (pristine : Pristine start) (ops : List CarbonOp)
    (id : Nat) (report : CarbonReport) (found : (run exec start ops).reports.find? id = some report)
    (locked : report.assuranceStatus = some .locked) :
    ∃ before approval between locking after approved,
      ops = before ++ .approve approval :: between ++ .lock locking :: after ∧ locking.reportId = id ∧
        ApprovedSince start id before approval between approved report ∧
        (run exec start (before ++ .approve approval :: between ++ [.lock locking])).reports.find? id =
          some report := by
  have keep : ∀ before op,
      (∀ report, (run exec start before).reports.find? id = some report →
        Accounted start id before report) →
      ∀ report, (exec (run exec start before) op).reports.find? id = some report →
        Accounted start id (before ++ [op]) report :=
    fun before op accounted report present => accounted_exec accounted present
  have fresh : ∀ report, start.reports.find? id = some report → Accounted start id [] report := by
    intro report present
    have life := pristine.unassured id
    rw [present] at life
    exact accounted_of_open (Or.inl (congrArg AssuranceLife.status life))
  have accounted := @run_history CarbonDb CarbonOp exec (fun taken db => ∀ report,
    db.reports.find? id = some report → Accounted start id taken report) start keep fresh ops
  exact (accounted report found).locked (status_of_some locked)

theorem locked_figures_of_sample :
    ∃ report before approval between approved,
      (run exec (.start olefinPlants []) (sampleReview ++ [.lock sampleLock])).reports.find? 1 = some report ∧
        ApprovedSince (.start olefinPlants []) 1 before approval between approved report := by
  have status : ((run exec (.start olefinPlants []) (sampleReview ++ [.lock sampleLock])).reports.find? 1).map
      (·.assuranceStatus) = some (some .locked) := by
    decide +kernel
  obtain ⟨report, found, locked⟩ := Option.map_eq_some_iff.mp status
  obtain ⟨before, approval, between, _, _, approved, _, _, since, _⟩ :=
    locked_figures_of_run (pristine_start olefinPlants []) _ 1 report found locked
  exact ⟨report, before, approval, between, approved, found, since⟩

/-- New samples and a scheduler pass between the approval and the lock. -/
def lateRegeneration : List CarbonOp :=
  .readings [olefinSample sampleDay.instant 20] ::
    runOnce sampleFactors ⟨2026, 1, 1, 43200000000, by decide⟩ ++ [.lock sampleLock]

theorem locked_figures_not_approved :
    let approved := (run exec (.start olefinPlants []) sampleReview).reports.find? 1
    let locked := (run exec (.start olefinPlants []) (sampleReview ++ lateRegeneration)).reports.find? 1
    approved.map (fun r => (r.assuranceStatus, r.approvedBy, r.approvedAt)) =
        some (some .approved, some "lead", some 2) ∧
      locked.map (fun r => (r.assuranceStatus, r.approvedBy, r.approvedAt)) =
        some (some .locked, some "lead", some 2) ∧
      approved.map (·.scope1Kgco2) = some 480216 ∧ locked.map (·.scope1Kgco2) = some 960216 := by
  decide +kernel

end Iems.Carbon
