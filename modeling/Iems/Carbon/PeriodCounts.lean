import Iems.Carbon.Scheduler

/-! How many readings a report counts, and what requests and cycles do to that. -/
namespace Iems.Carbon
open Lib

def windowCount (readings : List SensorReading) (plantId : ℕ) (w : PeriodWindow) : ℕ :=
  (readingsIn readings plantId w.start.instant w.end_.instant).length

/-- Every open report of the plant and window has the sample count. -/
def Counted (plantId : ℕ) (w : PeriodWindow) (count : ℕ) (db : CarbonDb) : Prop :=
  ∀ id report, db.reports.find? id = some report → report.key = (plantId, w.start, w.periodType) →
    report.status ≠ .locked → report.sampleCount = some count

/-- A report is stored only for a window with readings. -/
def Sourced (plantId : ℕ) (w : PeriodWindow) (db : CarbonDb) : Prop :=
  ∀ id report, db.reports.find? id = some report → report.key = (plantId, w.start, w.periodType) →
    0 < windowCount db.readings plantId w

/-- A report of the plant and window is stored, open or locked. -/
def Stored (plantId : ℕ) (w : PeriodWindow) (db : CarbonDb) : Prop :=
  ∃ id report, db.reports.find? id = some report ∧ report.key = (plantId, w.start, w.periodType)

/-! ### The readings of a window -/

theorem windowCount_storeReading (readings : List SensorReading) (reading : SensorReading) (plantId : ℕ)
    (w : PeriodWindow) : windowCount readings plantId w ≤ windowCount (storeReading readings reading) plantId w ∧
      ((reading.plantId = plantId → reading.time ∉ w.span) →
        windowCount (storeReading readings reading) plantId w = windowCount readings plantId w) := by
  unfold windowCount readingsIn storeReading
  split
  · have same : ((readings.map fun r => if r.time = reading.time ∧ r.plantId = reading.plantId then reading else r).filter
        fun r => r.plantId = plantId ∧ w.start.instant ≤ r.time ∧ r.time < w.end_.instant).length =
        (readings.filter fun r => r.plantId = plantId ∧ w.start.instant ≤ r.time ∧ r.time < w.end_.instant).length := by
      rw [List.filter_map, List.length_map]
      congr 1
      apply List.filter_congr
      intro r _
      simp only [Function.comp]
      split
      · rename_i replaced
        rw [replaced.1, replaced.2]
      · rfl
    exact ⟨same.ge, fun _ => same⟩
  · rw [List.filter_append, List.length_append]
    refine ⟨Nat.le_add_right _ _, ?_⟩
    intro outside
    have dropped : ¬(reading.plantId = plantId ∧ w.start.instant ≤ reading.time ∧ reading.time < w.end_.instant) :=
      fun inside => outside inside.1 inside.2
    simp [dropped]

theorem exec_keeps_readings {op : CarbonOp} (keeps : ∀ readings, op ≠ .readings readings) (db : CarbonDb) :
    (exec db op).readings = db.readings := by
  have transition : ∀ t body, (runTransition t body db).2.readings = db.readings := by
    intro t body
    unfold runTransition
    split <;> rfl
  cases op with
  | readings stored => exact absurd rfl (keeps stored)
  | generate ctx body =>
    have committed : ∀ p, (generateCommit body p db).2.readings = db.readings := by
      intro p
      unfold generateCommit
      split
      · split <;> rfl
      · split <;> rfl
    show (generateAndPersistReport ctx body db).2.readings = db.readings
    unfold generateAndPersistReport
    split
    · rfl
    · rfl
    · rename_i p _
      have kept := committed p
      split <;> rename_i commit <;> rw [commit] at kept <;> exact kept
  | submit body => exact transition _ body
  | approve body => exact transition _ body
  | lock body => exact transition _ body
  | list plantCode periodType limit => rfl
  | sync ctx plantCode forceUnlocked => rfl

theorem advance_windowCount (db : CarbonDb) (event : StoreEvent) (plantId : ℕ) (w : PeriodWindow) :
    windowCount db.readings plantId w ≤ windowCount (advance db event).readings plantId w ∧
      ((∀ reading, event = .stored reading → reading.plantId = plantId → reading.time ∉ w.span) →
        windowCount (advance db event).readings plantId w = windowCount db.readings plantId w) := by
  cases event with
  | stored reading =>
    obtain ⟨grows, outside⟩ := windowCount_storeReading db.readings reading plantId w
    exact ⟨grows, fun elsewhere => outside (elsewhere reading rfl)⟩
  | request op keeps =>
    have same : (advance db (.request op keeps)).readings = db.readings := exec_keeps_readings keeps db
    rw [same]
    exact ⟨le_rfl, fun _ => rfl⟩

/-! ### What a generation counts -/

theorem aggregate_count {plants : Dict String Nat} {readings : List SensorReading} {plantCode : String}
    {start end_ : Int} {plantId : ℕ} {totals : AggregateTotals} (known : plants.get? plantCode = some plantId)
    (aggregated : aggregateSensorPeriod plants readings plantCode start end_ = .ok (some totals)) :
    totals.sampleCount = (readingsIn readings plantId start end_).length ∧
      0 < (readingsIn readings plantId start end_).length := by
  unfold aggregateSensorPeriod at aggregated
  rw [known] at aggregated
  dsimp only at aggregated
  split at aggregated
  · cases aggregated
  · rename_i some_
    cases aggregated
    exact ⟨rfl, Nat.pos_of_ne_zero some_⟩

theorem prepareReport_counts {ctx : GenerateContext} {body : GenerateRequest} {db : CarbonDb} {p : Prepared}
    (prepared : prepareReport ctx body db = .ok (some p)) :
    p.figures.sampleCount = some (windowCount db.readings p.plantId p.window) ∧
      0 < windowCount db.readings p.plantId p.window := by
  unfold prepareReport at prepared
  split at prepared
  · cases prepared
  · split at prepared
    · cases prepared
    · rename_i plantId known
      split at prepared
      · cases prepared
      · cases prepared
      · rename_i aggregates aggregated
        cases prepared
        obtain ⟨count, positive⟩ := aggregate_count known aggregated
        exact ⟨congrArg some count, positive⟩

theorem prepareReport_of_window {ctx : GenerateContext} {body : GenerateRequest} {db : CarbonDb} {plantId : ℕ}
    {w : PeriodWindow} (known : db.plants.get? body.plantCode = some plantId) (bounds : body.window = some w) :
    (windowCount db.readings plantId w = 0 ∧ prepareReport ctx body db = .ok none) ∨
      ∃ p, prepareReport ctx body db = .ok (some p) := by
  unfold prepareReport
  rw [bounds, known]
  dsimp only
  unfold aggregateSensorPeriod
  rw [known]
  by_cases empty : windowCount db.readings plantId w = 0
  · left
    have none_ : (readingsIn db.readings plantId w.start.instant w.end_.instant).length = 0 := empty
    exact ⟨empty, by simp only [none_, if_pos]⟩
  · right
    have some_ : (readingsIn db.readings plantId w.start.instant w.end_.instant).length ≠ 0 := empty
    simp only [some_, if_false]
    exact ⟨_, rfl⟩

theorem exec_generate_none {ctx : GenerateContext} {body : GenerateRequest} {db : CarbonDb}
    (prepared : prepareReport ctx body db = .ok none) : exec db (.generate ctx body) = db := by
  show (generateAndPersistReport ctx body db).2 = db
  unfold generateAndPersistReport
  rw [prepared]

theorem exec_generate_some {ctx : GenerateContext} {body : GenerateRequest} {db : CarbonDb} {p : Prepared}
    (prepared : prepareReport ctx body db = .ok (some p)) :
    exec db (.generate ctx body) = (generateCommit body p db).2 := by
  show (generateAndPersistReport ctx body db).2 = _
  unfold generateAndPersistReport
  rw [prepared]
  dsimp only
  split <;> rename_i commit <;> rw [commit]

theorem exec_traced {db : CarbonDb} {op : CarbonOp} {id : ℕ} {after : CarbonReport}
    (found : (exec db op).reports.find? id = some after) :
    (∃ before, db.reports.find? id = some before ∧ before.key = after.key ∧
        before.sampleCount = after.sampleCount ∧ (before.status = .locked → after.status = .locked)) ∨
      ∃ ctx body p, op = .generate ctx body ∧ prepareReport ctx body db = .ok (some p) ∧
        after.key = (p.plantId, p.window.start, body.periodType) ∧ after.sampleCount = p.figures.sampleCount := by
  have change := exec_step db op
  generalize exec db op = next at change found
  cases change with
  | quiet _ _ plants reports events =>
    rw [reports] at found
    exact Or.inl ⟨after, found, rfl, rfl, fun locked => locked⟩
  | created ctx body p prepared absent =>
    have row : (db.reports.insert (newReport body p)).find? id = some after := found
    rw [Table.find?_insert] at row
    split at row
    · cases row
      exact Or.inr ⟨ctx, body, p, rfl, prepared, rfl, rfl⟩
    · exact Or.inl ⟨after, row, rfl, rfl, fun locked => locked⟩
  | regenerated ctx body p target report prepared existing unlocked =>
    obtain ⟨present, key⟩ := prepareReport_existing prepared existing
    rw [find?_saveReport_loaded present] at found
    split at found
    · cases found
      exact Or.inr ⟨ctx, body, p, rfl, prepared, key, rfl⟩
    · exact Or.inl ⟨after, found, rfl, rfl, fun locked => locked⟩
  | moved _ t body report request passed =>
    obtain ⟨present, allowed⟩ := transitionCheck_ok passed
    rw [transitionCommit_find? present] at found
    split at found
    · rename_i here
      cases found
      refine Or.inl ⟨report, here ▸ present, ?_, ?_, ?_⟩
      · cases op <;> cases request <;> rfl
      · cases op <;> cases request <;> rfl
      · intro locked
        cases op <;> cases request <;> simp [submitTransition, approveTransition, lockTransition, locked] at allowed
    · exact Or.inl ⟨after, found, rfl, rfl, fun locked => locked⟩

theorem window_of_start {body : GenerateRequest} {v w : PeriodWindow} {n : ℕ} (bounds : body.window = some v)
    (placed : WindowAt w.periodType n w) (start : v.start = w.start) (kind : body.periodType = w.periodType) :
    v = w := by
  obtain ⟨m, here, _⟩ := periodWindow_at bounds
  rw [kind] at here
  have same : m = n := by
    apply (boundary_strictMono w.periodType).injective
    rw [← here.start, start, placed.start]
  rw [same] at here
  exact windowAt_unique here placed

/-! ### One report through the requests -/

section
variable {plantId : ℕ} {w : PeriodWindow} {n : ℕ} (placed : WindowAt w.periodType n w) {db : CarbonDb}
include placed

theorem prepared_for {ctx : GenerateContext} {body : GenerateRequest} {p : Prepared}
    (prepared : prepareReport ctx body db = .ok (some p))
    (key : (p.plantId, p.window.start, body.periodType) = (plantId, w.start, w.periodType)) :
    db.plants.get? body.plantCode = some plantId ∧ body.window = some w ∧
      p.figures.sampleCount = some (windowCount db.readings plantId w) ∧ 0 < windowCount db.readings plantId w := by
  obtain ⟨bounds, known, _⟩ := prepareReport_ok prepared
  obtain ⟨total, positive⟩ := prepareReport_counts prepared
  simp only [Prod.mk.injEq] at key
  obtain ⟨plant, start, kind⟩ := key
  have window := window_of_start bounds placed start kind
  rw [plant, window] at total positive
  rw [plant] at known
  rw [window] at bounds
  exact ⟨known, bounds, total, positive⟩

theorem counted_exec {count : ℕ} (counted : Counted plantId w count db) {op : CarbonOp}
    (agrees : ∀ ctx body, op = .generate ctx body → db.plants.get? body.plantCode = some plantId →
      body.window = some w → windowCount db.readings plantId w = count) :
    Counted plantId w count (exec db op) := by
  intro id after found key open_
  rcases exec_traced found with ⟨before, present, kept, samples, locked⟩ | ⟨ctx, body, p, rfl, prepared, computed, samples⟩
  · rw [← samples]
    exact counted id before present (kept.trans key) (fun closed => open_ (locked closed))
  · obtain ⟨known, bounds, total, _⟩ := prepared_for placed prepared (computed.symm.trans key)
    rw [samples, total, agrees ctx body rfl known bounds]

theorem sourced_exec (sourced : Sourced plantId w db) {op : CarbonOp}
    (grows : windowCount db.readings plantId w ≤ windowCount (exec db op).readings plantId w) :
    Sourced plantId w (exec db op) := by
  intro id after found key
  refine lt_of_lt_of_le ?_ grows
  rcases exec_traced found with ⟨before, present, kept, _, _⟩ | ⟨ctx, body, p, rfl, prepared, computed, _⟩
  · exact sourced id before present (kept.trans key)
  · obtain ⟨_, _, _, positive⟩ := prepared_for placed prepared (computed.symm.trans key)
    exact positive

end

section
variable {plantId : ℕ} {w : PeriodWindow} {db : CarbonDb}

theorem generateCommit_counted {body : GenerateRequest} {p : Prepared} {count : ℕ} (unique : UniqueKeys db)
    (lookup : p.existing = findReport db (p.plantId, p.window.start, body.periodType))
    (total : p.figures.sampleCount = some count)
    (key : (p.plantId, p.window.start, body.periodType) = (plantId, w.start, w.periodType)) :
    Counted plantId w count (generateCommit body p db).2 ∧ Stored plantId w (generateCommit body p db).2 := by
  unfold generateCommit
  rw [key] at lookup ⊢
  cases existing : p.existing with
  | some row =>
    obtain ⟨id, report⟩ := row
    obtain ⟨present, own⟩ := findReport_some (lookup.symm.trans existing)
    have only : ∀ other twin, db.reports.find? other = some twin → twin.key = (plantId, w.start, w.periodType) →
        other = id := fun other twin found same => unique other id twin report found present (same.trans own.symm)
    by_cases locked : report.status = .locked
    · simp only [if_pos locked]
      refine ⟨?_, id, report, present, own⟩
      intro other twin found same open_
      rw [only other twin found same, present] at found
      cases found
      exact absurd locked open_
    · simp only [if_neg locked]
      have rows := find?_saveReport_loaded present (regenerateEdit p.figures report)
      refine ⟨?_, id, regenerateEdit p.figures report, ?_, own⟩
      · intro other twin found same open_
        rw [rows] at found
        split at found
        · cases found
          exact total
        · rename_i elsewhere
          exact absurd (only other twin found same) elsewhere
      · rw [rows, if_pos rfl]
  | none =>
    have absent := lookup.symm.trans existing
    rw [absent]
    have rows := Table.find?_insert db.reports (newReport body p)
    refine ⟨?_, db.reports.nextId, newReport body p, ?_, key⟩
    · intro other twin found same open_
      have row : (db.reports.insert (newReport body p)).find? other = some twin := found
      rw [rows] at row
      split at row
      · cases row
        exact total
      · exact absurd same (findReport_none absent row)
    · show (db.reports.insert (newReport body p)).find? db.reports.nextId = _
      rw [rows, if_pos rfl]

theorem generate_counted {ctx : GenerateContext} {body : GenerateRequest} (unique : UniqueKeys db)
    (sourced : Sourced plantId w db) (known : db.plants.get? body.plantCode = some plantId)
    (bounds : body.window = some w) :
    Counted plantId w (windowCount db.readings plantId w) (exec db (.generate ctx body)) ∧
      (0 < windowCount db.readings plantId w → Stored plantId w (exec db (.generate ctx body))) := by
  rcases @prepareReport_of_window ctx body db plantId w known bounds with ⟨empty, none_⟩ | ⟨p, prepared⟩
  · rw [exec_generate_none none_]
    refine ⟨?_, fun positive => absurd empty (by omega)⟩
    intro id report found key
    have positive := sourced id report found key
    omega
  · obtain ⟨bounds', known', lookup⟩ := prepareReport_ok prepared
    obtain ⟨total, _⟩ := prepareReport_counts prepared
    obtain rfl : p.window = w := Option.some.inj (bounds'.symm.trans bounds)
    obtain rfl : p.plantId = plantId := Option.some.inj (known'.symm.trans known)
    have kind : body.periodType = p.window.periodType := by
      obtain ⟨m, here, _⟩ := periodWindow_at bounds
      exact here.kind.symm
    rw [exec_generate_some prepared]
    obtain ⟨counted, stored⟩ := generateCommit_counted unique lookup total (by rw [kind])
    exact ⟨counted, fun _ => stored⟩

end

theorem stored_exec {plantId : ℕ} {w : PeriodWindow} {db : CarbonDb} (stored : Stored plantId w db) (op : CarbonOp) :
    Stored plantId w (exec db op) := by
  obtain ⟨id, report, found, key⟩ := stored
  obtain ⟨events, _, change⟩ := exec_report db op id
  refine ⟨id, ?_⟩
  generalize (exec db op).reports.find? id = after at change ⊢
  rw [found] at change
  cases change with
  | same => exact ⟨report, rfl, key⟩
  | regenerated ctx body p => exact ⟨_, rfl, key⟩
  | moved _ t body _ request =>
    refine ⟨_, rfl, ?_⟩
    cases op <;> cases request <;> exact key

/-! ### Runs -/

/-- What every run from an empty report table keeps. -/
structure Orderly (plants : Dict String ℕ) (plantId : ℕ) (w : PeriodWindow) (db : CarbonDb) : Prop where
  plants : db.plants = plants
  unique : UniqueKeys db
  sourced : Sourced plantId w db

section
variable {plants : Dict String ℕ} {plantId : ℕ} {w : PeriodWindow} {n : ℕ} (placed : WindowAt w.periodType n w)
include placed

theorem orderly_run (readings : List SensorReading) (events : List StoreEvent) :
    Orderly plants plantId w (run advance (.start plants readings) events) := by
  have keep : ∀ db event, Orderly plants plantId w db → Orderly plants plantId w (advance db event) := by
    rintro db event ⟨same, unique, sourced⟩
    have grows := (advance_windowCount db event plantId w).1
    exact ⟨(exec_plants db _).trans same, uniqueKeys_exec _ unique, sourced_exec placed sourced grows⟩
  exact run_invariant keep ⟨rfl, (pristine_start plants readings).unique, fun _ _ absent => nomatch absent⟩

/-- While no reading of the window arrives, its open report stays complete. -/
theorem complete_run {db : CarbonDb} {events : List StoreEvent}
    (complete : Counted plantId w (windowCount db.readings plantId w) db)
    (noLate : ∀ reading, .stored reading ∈ events → reading.plantId = plantId → reading.time ∉ w.span) :
    Counted plantId w (windowCount (run advance db events).readings plantId w) (run advance db events) ∧
      windowCount (run advance db events).readings plantId w = windowCount db.readings plantId w := by
  have permitted : Meets advance (fun _ event => ∀ reading, event = .stored reading → reading.plantId = plantId →
      reading.time ∉ w.span) db events := by
    apply meets_of_forall
    rintro _ event member reading rfl
    exact noLate reading member
  have keep : ∀ s event, (Counted plantId w (windowCount db.readings plantId w) s ∧
      windowCount s.readings plantId w = windowCount db.readings plantId w) →
      (∀ reading, event = .stored reading → reading.plantId = plantId → reading.time ∉ w.span) →
      Counted plantId w (windowCount db.readings plantId w) (advance s event) ∧
        windowCount (advance s event).readings plantId w = windowCount db.readings plantId w := by
    rintro s event ⟨counted, same⟩ elsewhere
    have kept := (advance_windowCount s event plantId w).2 elsewhere
    exact ⟨counted_exec placed counted fun _ _ _ _ _ => same, kept.trans same⟩
  obtain ⟨counted, same⟩ := permitted.invariant keep ⟨complete, rfl⟩
  rw [same]
  exact ⟨counted, rfl⟩

/-- While nothing is generated for the window, its open report keeps its count. -/
theorem counted_run {db : CarbonDb} {events : List StoreEvent} {count : ℕ} (counted : Counted plantId w count db)
    (others : ∀ ctx body keeps, .request (.generate ctx body) keeps ∈ events →
      db.plants.get? body.plantCode = some plantId → body.window ≠ some w) :
    Counted plantId w count (run advance db events) := by
  have permitted : Meets advance (fun _ event => ∀ ctx body keeps, event = .request (.generate ctx body) keeps →
      db.plants.get? body.plantCode = some plantId → body.window ≠ some w) db events := by
    apply meets_of_forall
    rintro _ event member ctx body keeps rfl
    exact others ctx body keeps member
  have keep : ∀ s event, (s.plants = db.plants ∧ Counted plantId w count s) →
      (∀ ctx body keeps, event = .request (.generate ctx body) keeps →
        db.plants.get? body.plantCode = some plantId → body.window ≠ some w) →
      (advance s event).plants = db.plants ∧ Counted plantId w count (advance s event) := by
    rintro s event ⟨same, held⟩ other
    refine ⟨(exec_plants s _).trans same, counted_exec placed held ?_⟩
    intro ctx body asked known window
    cases event with
    | stored reading => cases asked
    | request op keeps =>
      have generated : op = .generate ctx body := asked
      subst generated
      rw [same] at known
      exact absurd window (other ctx body keeps rfl known)
  exact (permitted.invariant keep ⟨rfl, counted⟩).2

omit placed in
theorem stored_run {db : CarbonDb} (stored : Stored plantId w db) (events : List StoreEvent) :
    Stored plantId w (run advance db events) :=
  run_invariant (fun _ _ held => stored_exec held _) stored

omit placed in
theorem windowCount_run (db : CarbonDb) (events : List StoreEvent) :
    windowCount db.readings plantId w ≤ windowCount (run advance db events).readings plantId w := by
  have keep : ∀ s event, windowCount db.readings plantId w ≤ windowCount s.readings plantId w →
      windowCount db.readings plantId w ≤ windowCount (advance s event).readings plantId w :=
    fun s event held => held.trans (advance_windowCount s event plantId w).1
  exact run_invariant keep le_rfl

end

end Iems.Carbon
