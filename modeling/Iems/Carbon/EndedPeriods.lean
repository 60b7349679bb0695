import Iems.Carbon.PeriodCounts

/-! The report of a period after its end: complete, or as the last cycle inside the period left it. -/
namespace Iems.Carbon
open Lib

section
variable {plants : Dict String ℕ} (readings : List SensorReading) {ctx : GenerateContext} {plantCode : String}
  {plantId : ℕ} {w v : PeriodWindow} {n : ℕ} (known : plants.get? plantCode = some plantId)
  (placed : WindowAt w.periodType n w)
include known placed

/-- A scheduled request for a window counts its readings, in every run. -/
theorem scheduled_counted (before : List StoreEvent) {now : Datetime}
    (window : (scheduledBody ctx.cfg plantCode w.periodType now).window = some w) :
    let db := run advance (.start plants readings) before
    let next := advance db (scheduled ctx plantCode w.periodType now)
    next.plants = plants ∧ windowCount next.readings plantId w = windowCount db.readings plantId w ∧
      Counted plantId w (windowCount db.readings plantId w) next ∧
      (0 < windowCount db.readings plantId w → Stored plantId w next) := by
  intro db next
  have orderly := @orderly_run plants plantId w n placed readings before
  have here : db.plants.get? plantCode = some plantId := by rw [orderly.plants, known]
  have same : windowCount next.readings plantId w = windowCount db.readings plantId w := by
    apply (advance_windowCount db (scheduled ctx plantCode w.periodType now) plantId w).2
    intro reading stored
    cases stored
  exact ⟨(exec_plants db _).trans orderly.plants, same,
    generate_counted orderly.unique orderly.sourced here window⟩

theorem completedCycle_counted (mode : ctx.cfg.carbonReportCompletedOnly = true)
    (listed : plantCode ∈ ctx.cfg.unitCodeList) (following : WindowAt w.periodType (n + 1) v)
    (before : List StoreEvent) {cycle : Cycle} {after : List StoreEvent}
    (during : ∀ i, (cycle.clock i).instant ∈ v.span)
    (noLate : ∀ reading, .stored reading ∈ cycle.events ctx ++ after → reading.plantId = plantId → reading.time ∉ w.span) :
    let db := run advance (.start plants readings) (before ++ (cycle.events ctx ++ after))
    Counted plantId w (windowCount db.readings plantId w) db ∧
      (0 < windowCount db.readings plantId w → Stored plantId w db) := by
  intro db
  obtain ⟨i, member⟩ := mem_cycle ctx cycle w.periodType listed
  obtain ⟨earlier, rest, split⟩ := List.append_of_mem member
  have window := @scheduled_completed ctx.cfg plantCode _ _ _ _ _ mode placed following (during i)
  obtain ⟨_, kept, counted, stored⟩ := scheduled_counted readings known placed (before ++ earlier) window
  rw [← kept] at counted stored
  -- the request splits the run: nothing that comes after it reaches the window
  have quiet : ∀ reading, .stored reading ∈ rest ++ after → reading.plantId = plantId → reading.time ∉ w.span := by
    intro reading late
    apply noLate reading
    rw [split]
    rcases List.mem_append.mp late with inside | outside
    · simp [inside]
    · simp [outside]
  obtain ⟨final, same⟩ := complete_run placed counted quiet
  have whole : db = run advance (advance (run advance (.start plants readings) (before ++ earlier))
      (scheduled ctx plantCode w.periodType (cycle.clock i))) (rest ++ after) := by
    rw [← run_cons, ← run_append]
    show run advance _ (before ++ (cycle.events ctx ++ after)) = _
    rw [split]
    simp
  rw [whole]
  refine ⟨final, ?_⟩
  rw [same]
  exact fun positive => stored_run (stored positive) (rest ++ after)

theorem runningCycle_counted (mode : ctx.cfg.carbonReportCompletedOnly = false) (before : List StoreEvent)
    {now : Datetime} {after : List StoreEvent} (inside : now.instant ∈ w.span)
    (later : ∀ other body keeps, .request (.generate other body) keeps ∈ after →
      ∃ code kind later, body = scheduledBody ctx.cfg code kind later ∧
        (plants.get? code = some plantId → kind = w.periodType → w.end_.instant ≤ later.instant)) :
    let seen := windowCount (run advance (.start plants readings) before).readings plantId w
    let db := run advance (.start plants readings) (before ++ scheduled ctx plantCode w.periodType now :: after)
    Counted plantId w seen db ∧ (0 < seen → Stored plantId w db) ∧ seen ≤ windowCount db.readings plantId w := by
  intro seen db
  have window := @scheduled_running ctx.cfg plantCode _ _ _ _ mode placed inside
  obtain ⟨same, _, counted, stored⟩ := scheduled_counted readings known placed before window
  have whole : db = run advance (advance (run advance (.start plants readings) before)
      (scheduled ctx plantCode w.periodType now)) after := by
    rw [← run_cons, ← run_append]
  refine ⟨?_, ?_, ?_⟩
  · rw [whole]
    apply counted_run placed counted
    intro other body keeps member own asked
    rw [same] at own
    obtain ⟨code, kind, clock, rfl, ended⟩ := later other body keeps member
    obtain ⟨m, period, _⟩ := periodWindow_at asked
    exact scheduled_later mode (ended own period.kind.symm) asked
  · rw [whole]
    exact fun positive => stored_run (stored positive) after
  · show seen ≤ windowCount (run advance _ (before ++ _)).readings plantId w
    rw [run_append]
    exact windowCount_run _ _

end

/-- Once a cycle has run in the following period the report of the ended one is complete, if cycles report
completed periods; otherwise it keeps what the last cycle inside the period counted. -/
theorem endedPeriod_counted (plants : Dict String ℕ) (readings : List SensorReading) (ctx : GenerateContext)
    (plantCode : String) (plantId : ℕ) (periodType : PeriodType) (w v : PeriodWindow)
    (known : plants.get? plantCode = some plantId) (listed : plantCode ∈ ctx.cfg.unitCodeList)
    (period : Reported periodType ctx.cfg.carbonReportCompletedOnly w)
    (next : Reported periodType ctx.cfg.carbonReportCompletedOnly v) (adjacent : w.end_ = v.start) :
    (ctx.cfg.carbonReportCompletedOnly = true → ∀ (before : List StoreEvent) (cycle : Cycle) (after : List StoreEvent),
      (∀ i, (cycle.clock i).instant ∈ v.span) →
      (∀ reading, .stored reading ∈ cycle.events ctx ++ after → reading.plantId = plantId → reading.time ∉ w.span) →
      let db := run advance (.start plants readings) (before ++ (cycle.events ctx ++ after))
      Counted plantId w (windowCount db.readings plantId w) db ∧
        (0 < windowCount db.readings plantId w → Stored plantId w db)) ∧
    (ctx.cfg.carbonReportCompletedOnly = false → ∀ before now after, now.instant ∈ w.span →
      (∀ other body keeps, .request (.generate other body) keeps ∈ after →
        ∃ code kind later, body = scheduledBody ctx.cfg code kind later ∧
          (plants.get? code = some plantId → kind = periodType → w.end_.instant ≤ later.instant)) →
      let seen := windowCount (run advance (.start plants readings) before).readings plantId w
      let db := run advance (.start plants readings) (before ++ scheduled ctx plantCode periodType now :: after)
      Counted plantId w seen db ∧ (0 < seen → Stored plantId w db) ∧ seen ≤ windowCount db.readings plantId w) := by
  obtain ⟨n, placed, _⟩ := reported_iff.mp period
  obtain ⟨m, following, _⟩ := reported_iff.mp next
  obtain rfl : m = n + 1 := by
    apply (boundary_strictMono periodType).injective
    rw [← following.start, ← adjacent, placed.end_]
  obtain rfl : w.periodType = periodType := placed.kind
  refine ⟨?_, ?_⟩
  · intro mode before cycle after during noLate
    exact completedCycle_counted readings known placed mode listed following before during noLate
  · intro mode before now after inside later
    exact runningCycle_counted readings known placed mode before inside later

/-- One minute before midnight. -/
def evening : Datetime := ⟨2026, 1, 1, 86340000000, by decide⟩

/-- Half a minute after midnight. -/
def pastMidnight : Datetime := ⟨2026, 1, 2, 30000000, by decide⟩

def newYear : PeriodWindow := ⟨.daily, sampleDay, sampleGenerate.now⟩

def secondJanuary : PeriodWindow := ⟨.daily, sampleGenerate.now, ⟨2026, 1, 3, 0, by decide⟩⟩

/-- The cycle before midnight, after a sample at noon. -/
def eveningCycle : Cycle where
  clock _ := evening
  meanwhile i := if i = 0 then [.stored (olefinSample (sampleDay.instant + 43200000000) 10)] else []

/-- Half a minute before midnight, after the last cycle of the day. -/
def lastSample : SensorReading := olefinSample (sampleDay.instant + 86370000000) 20

def midnightCycle (meanwhile : List StoreEvent) : Cycle where
  clock _ := pastMidnight
  meanwhile i := if i = 0 then meanwhile else []

def completedFactors : GenerateContext := { sampleFactors with cfg := { carbonReportCompletedOnly := true } }

theorem endedPeriod_counted_newYear :
    (let db := run advance (.start olefinPlants []) ([.stored (olefinSample sampleDay.instant 10), .stored lastSample] ++
        ((midnightCycle []).events completedFactors ++ [.stored (olefinSample (sampleDay.instant - 1) 10)]));
      Counted 1 newYear (windowCount db.readings 1 newYear) db ∧
        (0 < windowCount db.readings 1 newYear → Stored 1 newYear db)) ∧
    (let seen := windowCount (run advance (.start olefinPlants []) [.stored lastSample]).readings 1 newYear;
      let db := run advance (.start olefinPlants []) ([.stored lastSample] ++
        scheduled sampleFactors "olefin" .daily evening ::
          [scheduled sampleFactors "olefin" .monthly evening, .stored (olefinSample sampleDay.instant 10),
            scheduled sampleFactors "olefin" .daily pastMidnight]);
      Counted 1 newYear seen db ∧ (0 < seen → Stored 1 newYear db) ∧ seen ≤ windowCount db.readings 1 newYear) := by
  have day : Reported .daily true newYear := ⟨⟨2026, 1, 2, 0, by decide⟩, by decide +kernel⟩
  have next : Reported .daily true secondJanuary := ⟨⟨2026, 1, 3, 0, by decide⟩, by decide +kernel⟩
  have today : Reported .daily false newYear := ⟨sampleDay, by decide +kernel⟩
  have tomorrow : Reported .daily false secondJanuary := ⟨⟨2026, 1, 2, 0, by decide⟩, by decide +kernel⟩
  refine ⟨?_, ?_⟩
  · apply (endedPeriod_counted olefinPlants [] completedFactors "olefin" 1 .daily newYear secondJanuary rfl
      (by decide +kernel) day next rfl).1 rfl
    · intro i
      have inside : pastMidnight.instant ∈ secondJanuary.span := ⟨by decide +kernel, by decide +kernel⟩
      exact inside
    · intro reading late _
      have earlier : reading = olefinSample (sampleDay.instant - 1) 10 := by
        simpa [Cycle.events, midnightCycle, scheduled] using late
      rw [earlier]
      exact fun inside => absurd inside.1 (by decide +kernel)
  · apply (endedPeriod_counted olefinPlants [] sampleFactors "olefin" 1 .daily newYear secondJanuary rfl
      (by decide +kernel) today tomorrow rfl).2 rfl
    · exact ⟨by decide +kernel, by decide +kernel⟩
    · intro other body keeps member
      simp [scheduled] at member
      rcases member with ⟨rfl, rfl⟩ | ⟨rfl, rfl⟩
      · exact ⟨"olefin", .monthly, evening, rfl, fun _ same => nomatch same⟩
      · exact ⟨"olefin", .daily, pastMidnight, rfl, fun _ _ => by decide +kernel⟩

def demoStore : CarbonDb :=
  run advance (.start olefinPlants [])
    (eveningCycle.events sampleFactors ++ (midnightCycle [.stored lastSample]).events sampleFactors)

def lateStore : CarbonDb :=
  run advance (.start olefinPlants [])
    (eveningCycle.events completedFactors ++ ((midnightCycle []).events completedFactors ++ [.stored lastSample]))

theorem eveningCycle_paced (meanwhile : List StoreEvent) : Paced {} eveningCycle (midnightCycle meanwhile) := by
  intro i
  have fixed : (eveningCycle.clock 0).instant ≤ ((midnightCycle []).clock 0).instant ∧
      ((midnightCycle []).clock 0).instant - (eveningCycle.clock 0).instant ≤ cycleInterval {} := by
    decide +kernel
  exact fixed

/-- In the in-progress mode the sample before midnight is lost, in the completed mode one that comes late. -/
theorem lastSample_uncounted :
    Paced sampleFactors.cfg eveningCycle (midnightCycle [.stored lastSample]) ∧
      (demoStore.reports.find? 1).map (fun report => (report.key, report.status, report.sampleCount)) =
        some ((1, newYear.start, .daily), .draft, some 1) ∧
      windowCount demoStore.readings 1 newYear = 2 ∧
    Paced completedFactors.cfg eveningCycle (midnightCycle []) ∧
      (lateStore.reports.find? 1).map (fun report => (report.key, report.status, report.sampleCount)) =
        some ((1, newYear.start, .daily), .draft, some 1) ∧
      windowCount lateStore.readings 1 newYear = 2 := by
  refine ⟨eveningCycle_paced _, ?_, ?_, eveningCycle_paced _, ?_, ?_⟩
  all_goals decide +kernel

end Iems.Carbon
