import Iems.Carbon.AssuranceTrail
import Iems.Carbon.Tiling

/-! The report scheduler: its cycles among the readings and the other requests. -/
namespace Iems.Carbon
open Lib Iems.Core

/-- The upsert of ingestion, one row for each time and plant. -/
def storeReading (readings : List SensorReading) (reading : SensorReading) : List SensorReading :=
  if ∃ r ∈ readings, r.time = reading.time ∧ r.plantId = reading.plantId then
    readings.map fun r => if r.time = reading.time ∧ r.plantId = reading.plantId then reading else r
  else readings ++ [reading]

/-- Ingestion stores a reading, or a request runs alone. -/
inductive StoreEvent where
  | stored (reading : SensorReading)
  | request (op : CarbonOp) (keeps : ∀ readings, op ≠ .readings readings)

def StoreEvent.op (db : CarbonDb) : StoreEvent → CarbonOp
  | .stored reading => .readings (storeReading db.readings reading)
  | .request op _ => op

def advance (db : CarbonDb) (event : StoreEvent) : CarbonDb := exec db (event.op db)

/-- The plants and periods of a cycle, in order. -/
def schedule (cfg : Settings) : List (String × PeriodType) :=
  cfg.unitCodeList.flatMap fun plantCode =>
    [PeriodType.daily, .monthly, .yearly].map fun periodType => (plantCode, periodType)

def scheduledBody (cfg : Settings) (plantCode : String) (periodType : PeriodType) (now : Datetime) : GenerateRequest where
  plantCode := plantCode
  periodType := periodType
  completedOnly := cfg.carbonReportCompletedOnly
  now := now

def scheduled (ctx : GenerateContext) (plantCode : String) (periodType : PeriodType) (now : Datetime) : StoreEvent :=
  .request (.generate ctx (scheduledBody ctx.cfg plantCode periodType now)) (fun _ => nofun)

/-- Each request reads the clock anew; `meanwhile` is what happens before it and after the previous one. -/
structure Cycle where
  clock : ℕ → Datetime
  meanwhile : ℕ → List StoreEvent

def Cycle.events (ctx : GenerateContext) (cycle : Cycle) : List StoreEvent :=
  (schedule ctx.cfg).zipIdx.flatMap fun slot =>
    cycle.meanwhile slot.2 ++ [scheduled ctx slot.1.1 slot.1.2 (cycle.clock slot.2)]

/-- `max(self.settings.carbon_report_interval_seconds, 30)`, in microseconds. -/
def cycleInterval (cfg : Settings) : ℤ := max cfg.carbonReportIntervalSeconds 30 * 1000000

/-- No request of the later cycle comes more than the interval after its predecessor. -/
def Paced (cfg : Settings) (earlier later : Cycle) : Prop :=
  ∀ i, (earlier.clock i).instant ≤ (later.clock i).instant ∧
    (later.clock i).instant - (earlier.clock i).instant ≤ cycleInterval cfg

/-! ### Cycles -/

theorem mem_cycle (ctx : GenerateContext) (cycle : Cycle) {plantCode : String} (periodType : PeriodType)
    (listed : plantCode ∈ ctx.cfg.unitCodeList) :
    ∃ i, scheduled ctx plantCode periodType (cycle.clock i) ∈ cycle.events ctx := by
  have slot : (plantCode, periodType) ∈ schedule ctx.cfg := by
    unfold schedule
    rw [List.mem_flatMap]
    refine ⟨plantCode, listed, ?_⟩
    cases periodType <;> simp
  obtain ⟨i, here⟩ := List.mem_iff_getElem?.mp slot
  refine ⟨i, List.mem_flatMap.mpr ⟨((plantCode, periodType), i), ?_, ?_⟩⟩
  · exact List.mem_zipIdx_iff_getElem?.mpr here
  · exact List.mem_append_right _ (List.mem_singleton.mpr rfl)

/-- A cycle that nothing interrupts, at one instant, is one pass of the scheduler. -/
theorem run_quietCycle (ctx : GenerateContext) (now : Datetime) (db : CarbonDb) :
    run advance db (Cycle.events ctx ⟨fun _ => now, fun _ => []⟩) = run exec db (runOnce ctx now) := by
  have slots : Cycle.events ctx ⟨fun _ => now, fun _ => []⟩ =
      (schedule ctx.cfg).map fun slot => scheduled ctx slot.1 slot.2 now := by
    conv_rhs => rw [← List.zipIdx_map_fst 0 (schedule ctx.cfg), List.map_map, List.map_eq_flatMap]
    rfl
  have requests : runOnce ctx now =
      (schedule ctx.cfg).map fun slot => .generate ctx (scheduledBody ctx.cfg slot.1 slot.2 now) := by
    unfold schedule
    rw [List.map_flatMap]
    rfl
  rw [slots, requests]
  unfold run
  rw [List.foldl_map, List.foldl_map]
  rfl

section
variable {cfg : Settings} {plantCode : String} {periodType : PeriodType} {now : Datetime} {w v : PeriodWindow} {n : ℕ}

/-- In the following period a cycle asks for the ended one. -/
theorem scheduled_completed (mode : cfg.carbonReportCompletedOnly = true) (placed : WindowAt periodType n w)
    (following : WindowAt periodType (n + 1) v) (inside : now.instant ∈ v.span) :
    (scheduledBody cfg plantCode periodType now).window = some w := by
  rw [windowAt_span following] at inside
  have index := periodIndex_of_cell inside
  obtain ⟨u, found⟩ := @completedWindow_isSome periodType now (by omega)
  show periodWindow periodType now cfg.carbonReportCompletedOnly = some w
  rw [mode, found, windowAt_unique placed (periodWindow_of_index found index)]

/-- Inside the period a cycle asks for the period itself. -/
theorem scheduled_running (mode : cfg.carbonReportCompletedOnly = false) (placed : WindowAt periodType n w)
    (inside : now.instant ∈ w.span) : (scheduledBody cfg plantCode periodType now).window = some w := by
  have bounded : boundary periodType (n + 1) < horizon := by
    rw [← placed.end_]
    exact instant_lt_horizon w.end_
  rw [windowAt_span placed] at inside
  have index := periodIndex_of_cell inside
  obtain ⟨u, found⟩ := @runningWindow_isSome periodType now (by rwa [index])
  show periodWindow periodType now cfg.carbonReportCompletedOnly = some w
  rw [mode, found, windowAt_unique placed (periodWindow_of_index found index)]

/-- After the period no cycle asks for it again. -/
theorem scheduled_later (mode : cfg.carbonReportCompletedOnly = false) (later : w.end_.instant ≤ now.instant) :
    (scheduledBody cfg plantCode periodType now).window ≠ some w := by
  intro found
  change periodWindow periodType now cfg.carbonReportCompletedOnly = some w at found
  rw [mode] at found
  obtain ⟨m, placed, here⟩ := periodWindow_at found
  have index : periodIndex periodType now = m := here
  have inside := instant_cell periodType now
  rw [index, ← windowAt_span placed] at inside
  exact absurd inside.2 (not_lt.mpr later)

end

end Iems.Carbon
