import Iems.Ingestion.Alerts
import Iems.Ingestion.Producer
import Iems.Lib.Delivery
import Iems.Repositories.History

/-! The stream from the producer over the partitioned topic to the consumer and its table. -/
namespace Iems.Ingestion
open Lib Iems.Core Iems.Carbon Iems.Repositories

/-- The message that a published reading is decoded to. -/
def readingMessage (payload : PlantReading) : SensorMessage where
  plantCode := some payload.plantCode
  time := some payload.time
  electricityPowerMw := (payload.values.get? "electricity_power_mw").join
  fuelGasFlowKm3h := (payload.values.get? "fuel_gas_flow_km3h").join
  steamFlowTonh := (payload.values.get? "steam_flow_tonh").join
  feedFlowTonh := (payload.values.get? "feed_flow_tonh").join
  reactorTempC := (payload.values.get? "reactor_temp_c").join
  pressureBar := (payload.values.get? "pressure_bar").join
  energyIntensityKgoeTon := payload.derived.map (·.energyIntensityKgoeTon)
  carbonEmissionKgco2Ton := payload.derived.map (·.carbonEmissionKgco2Ton)
  energyEfficiencyPercent := payload.derived.map (·.energyEfficiencyPercent)
  source := some payload.source
  quality := some payload.quality.quality
  qualityDetail := some (.object payload.quality.qualityDetail)

/-- A partition of the topic: the records whose key it takes. -/
def topicLog (partitionOf : String → ℕ) (records : List TopicRecord) (p : ℕ) : List SensorMessage :=
  (records.filter fun record => partitionOf record.key = p).map fun record => readingMessage record.value

/-- The topic that a run of the producer fills. -/
def topicOf (cfg : Settings) (tagMap : TagMap) (sine : ℚ → ℚ) (partitionOf : String → ℕ) (cycles : List (ℕ → PlantTurn)) :
    ℕ → List SensorMessage := topicLog partitionOf (runForever cfg tagMap sine cycles)

structure SensorConsumer where
  table : SensorTable := .empty
  alerts : AlertTable := .empty
  position : ℕ → ℕ := fun _ => 0

/-- What a message meets in its session after the upsert. -/
structure HandleMoment where
  queryFails : Bool
  now : Int
  asked : Int
  created : Int

inductive ConsumerAction where
  | message (partition : ℕ) (moment : HandleMoment)
  | outage (partition : ℕ)
  | restart (partition : ℕ) (offset : ℕ)

section
variable (cfg : Settings) (plants : Dict String Nat) (instantOf : String → Option Int) (dumps : Dict String String → String)
  (logs : ℕ → List SensorMessage)

/-- `handle_message`: what was committed before a step that raises stays. -/
def handleMessage (moment : HandleMoment) (table : SensorTable) (alerts : AlertTable) (payload : SensorMessage) :
    SensorTable × AlertTable :=
  match upsertReading plants instantOf dumps table payload with
  | (table, .error _) => (table, alerts)
  | (table, .ok _) =>
    match payload.plantCode with
    | none => (table, alerts)
    | some plantCode =>
      match checkFreshness cfg plants table plantCode moment.now moment.queryFails with
      | none => (table, alerts)
      | some status => (table, (raiseAlertIfNeeded cfg status moment.asked moment.created alerts).2)

/-- One message of the loop, one that a database outage costs, or a restart from a committed offset. -/
def consumerStep (c : SensorConsumer) : ConsumerAction → SensorConsumer
  | .message p moment =>
    match (logs p)[c.position p]? with
    | none => c
    | some payload =>
      let (table, alerts) := handleMessage cfg plants instantOf dumps moment c.table c.alerts payload
      ⟨table, alerts, Delivery.moveTo c.position p (c.position p + 1)⟩
  | .outage p =>
    match (logs p)[c.position p]? with
    | none => c
    | some _ => { c with position := Delivery.moveTo c.position p (c.position p + 1) }
  | .restart p offset => { c with position := Delivery.moveTo c.position p offset }

def runConsumer (actions : List ConsumerAction) : SensorConsumer := run (consumerStep cfg plants instantOf dumps logs) {} actions

/-- A restart resumes no later than at the first message not yet handled, and an outage hits no message with a row. -/
def Recoverable (c : SensorConsumer) : ConsumerAction → Prop
  | .message _ _ => True
  | .outage p => ∀ payload, (logs p)[c.position p]? = some payload → rowKey plants instantOf dumps payload = none
  | .restart p offset => offset ≤ c.position p

end

/-! ### The consumer delivers at least once -/

def ConsumerAction.delivery : ConsumerAction → Delivery.Action ℕ
  | .message p _ => .handle p
  | .outage p => .lose p
  | .restart p offset => .resume p offset

def SensorConsumer.delivered (c : SensorConsumer) : Delivery.Consumer (Int × Nat) SensorRow ℕ := ⟨c.table, c.position⟩

section
variable {cfg : Settings} {plants : Dict String Nat} {instantOf : String → Option Int} {dumps : Dict String String → String}
  {logs : ℕ → List SensorMessage}

theorem handleMessage_table (moment : HandleMoment) (table : SensorTable) (alerts : AlertTable) (payload : SensorMessage) :
    (handleMessage cfg plants instantOf dumps moment table alerts payload).1 =
      writeRow (rowKey plants instantOf dumps) (applyFields dumps {}) table payload := by
  rw [← upsertReading_writeRow]
  unfold handleMessage
  rcases upsertReading plants instantOf dumps table payload with ⟨next, outcome⟩
  cases outcome with
  | error _ => rfl
  | ok row =>
    cases payload.plantCode with
    | none => rfl
    | some plantCode =>
      dsimp only
      cases checkFreshness cfg plants next plantCode moment.now moment.queryFails <;> rfl

theorem delivered_step (c : SensorConsumer) (action : ConsumerAction) :
    (consumerStep cfg plants instantOf dumps logs c action).delivered =
      Delivery.step logs (rowKey plants instantOf dumps) (applyFields dumps {}) c.delivered action.delivery := by
  cases action with
  | message p moment =>
    unfold consumerStep Delivery.step ConsumerAction.delivery SensorConsumer.delivered
    dsimp only
    cases (logs p)[c.position p]? with
    | none => rfl
    | some payload =>
      dsimp only
      rw [← handleMessage_table moment c.table c.alerts payload]
  | outage p =>
    unfold consumerStep Delivery.step ConsumerAction.delivery SensorConsumer.delivered
    dsimp only
    cases (logs p)[c.position p]? <;> rfl
  | restart p offset => rfl

theorem delivered_run (c : SensorConsumer) (actions : List ConsumerAction) :
    (run (consumerStep cfg plants instantOf dumps logs) c actions).delivered =
      run (Delivery.step logs (rowKey plants instantOf dumps) (applyFields dumps {})) c.delivered
        (actions.map ConsumerAction.delivery) := by
  induction actions generalizing c with
  | nil => rfl
  | cons action rest ih => rw [run_cons, ih, delivered_step, List.map_cons, run_cons]

theorem delivered_meets {c : SensorConsumer} {actions : List ConsumerAction}
    (safe : Meets (consumerStep cfg plants instantOf dumps logs) (Recoverable plants instantOf dumps logs) c actions) :
    Meets (Delivery.step logs (rowKey plants instantOf dumps) (applyFields dumps {}))
      (Delivery.Safe logs (rowKey plants instantOf dumps)) c.delivered (actions.map ConsumerAction.delivery) := by
  induction actions generalizing c with
  | nil => trivial
  | cons action rest ih =>
    obtain ⟨first, later⟩ := safe
    refine ⟨?_, ?_⟩
    · cases action with
      | message p moment => trivial
      | outage p => exact first
      | restart p offset => exact first
    · rw [← delivered_step]
      exact ih later

/-! ### The topic -/

/-- The plant that a row belongs to names its partition. -/
def rowPartition (plants : Dict String Nat) (partitionOf : String → ℕ) (key : Int × Nat) : ℕ :=
  ((plants.items.find? fun item => item.2 = key.2).map fun item => partitionOf item.1).getD 0

theorem rowKey_plant {payload : SensorMessage} {key : Int × Nat} (stored : rowKey plants instantOf dumps payload = some key) :
    ∃ plantCode, payload.plantCode = some plantCode ∧ plants.get? plantCode = some key.2 := by
  unfold rowKey at stored
  obtain ⟨plantCode, named, stored⟩ := Option.bind_eq_some_iff.mp stored
  obtain ⟨plantId, known, stored⟩ := Option.bind_eq_some_iff.mp stored
  obtain ⟨time, _, stored⟩ := Option.bind_eq_some_iff.mp stored
  obtain ⟨ts, _, stored⟩ := Option.bind_eq_some_iff.mp stored
  split at stored
  · cases stored
    exact ⟨plantCode, named, known⟩
  · exact nomatch stored

theorem rowPartition_known {partitionOf : String → ℕ} {plantCode : String} {key : Int × Nat}
    (unique : ∀ a b plantId, plants.get? a = some plantId → plants.get? b = some plantId → a = b)
    (known : plants.get? plantCode = some key.2) : rowPartition plants partitionOf key = partitionOf plantCode := by
  unfold rowPartition
  cases found : plants.items.find? fun item => item.2 = key.2 with
  | none =>
    have missing := List.find?_eq_none.mp found _ ((Dict.get?_iff_mem _).mp known)
    exact absurd (decide_eq_true rfl) missing
  | some item =>
    have same : item.2 = key.2 := by simpa using List.find?_some found
    have listed : plants.get? item.1 = some key.2 := by
      rw [Dict.get?_iff_mem, ← same]
      exact List.mem_of_find?_eq_some found
    rw [Option.map_some, Option.getD_some, unique _ _ _ listed known]

/-- The producer keys each record by its plant. -/
def KeyedByPlant (records : List TopicRecord) : Prop := ∀ record ∈ records, record.key = record.value.plantCode

theorem keyed_tickLoop {cfg : Settings} {tagMap : TagMap} {sine : ℚ → ℚ} (slots : List (String × PlantTurn)) :
    KeyedByPlant (tickLoop cfg tagMap sine slots).1 := by
  rw [tickLoop_records]
  intro record member
  obtain ⟨slot, _, made⟩ := mem_untilNone member
  unfold ownRecord at made
  split at made
  · exact nomatch made
  · split at made
    · cases made
      rfl
    · exact nomatch made

theorem keyed_runForever {cfg : Settings} {tagMap : TagMap} {sine : ℚ → ℚ} (cycles : List (ℕ → PlantTurn)) :
    KeyedByPlant (runForever cfg tagMap sine cycles) := by
  intro record member
  obtain ⟨turns, _, inner⟩ := List.mem_flatMap.mp member
  exact keyed_tickLoop _ record inner

variable {partitionOf : String → ℕ} {records : List TopicRecord}

theorem owned_topicLog (unique : ∀ a b plantId, plants.get? a = some plantId → plants.get? b = some plantId → a = b)
    (keyed : KeyedByPlant records) :
    Delivery.Owned (topicLog partitionOf records) (rowKey plants instantOf dumps) (rowPartition plants partitionOf) := by
  intro p message member key stored
  obtain ⟨record, kept, rfl⟩ := List.mem_map.mp member
  obtain ⟨listed, place⟩ := List.mem_filter.mp kept
  obtain ⟨plantCode, named, known⟩ := rowKey_plant stored
  cases named
  rw [rowPartition_known unique known, ← keyed record listed]
  exact of_decide_eq_true place

/-- The last message of a row in its partition is the last one on the topic. -/
theorem lastFor_topicLog (unique : ∀ a b plantId, plants.get? a = some plantId → plants.get? b = some plantId → a = b)
    (keyed : KeyedByPlant records) (key : Int × Nat) :
    lastFor (rowKey plants instantOf dumps) key (topicLog partitionOf records (rowPartition plants partitionOf key)) =
      lastFor (rowKey plants instantOf dumps) key (records.map fun record => readingMessage record.value) := by
  unfold lastFor topicLog
  rw [List.filter_map, List.filter_map, List.filter_filter]
  congr 2
  refine List.filter_congr fun record listed => ?_
  by_cases stored : rowKey plants instantOf dumps (readingMessage record.value) = some key
  · obtain ⟨plantCode, named, known⟩ := rowKey_plant stored
    cases named
    have place := @rowPartition_known plants partitionOf _ key unique known
    rw [← keyed record listed] at place
    simp [stored, place]
  · simp [stored]

/-! ### Tables with the same rows -/

section
variable {R : Type} {table other : Dict (Int × Nat) R} {plantCode : String}

theorem mem_plantReadings_congr (same : ∀ key, table.get? key = other.get? key) {row : Timed R} :
    row ∈ plantReadings plants table plantCode ↔ row ∈ plantReadings plants other plantCode := by
  unfold plantReadings
  cases plants.get? plantCode with
  | none => rfl
  | some plantId => rw [mem_orderedRows, mem_orderedRows, same]

theorem getHistory_congr (same : ∀ key, table.get? key = other.get? key) (now minutes : Int) (limit : ℕ) :
    getHistory plants table now plantCode minutes limit = getHistory plants other now plantCode minutes limit := by
  have whole : windowReadings plants table now plantCode minutes = windowReadings plants other now plantCode minutes := by
    refine windowReadings_ascending.eq_of_mem_iff windowReadings_ascending fun row => ?_
    rw [mem_windowReadings, mem_windowReadings, mem_plantReadings_congr same]
  unfold getHistory
  rw [whole]

theorem latestReading_congr (same : ∀ key, table.get? key = other.get? key) :
    latestReading plants table plantCode = latestReading plants other plantCode := by
  have agree : ∀ {first second : Dict (Int × Nat) R}, (∀ key, first.get? key = second.get? key) → ∀ row,
      latestReading plants first plantCode = some row → latestReading plants second plantCode = some row := by
    intro first second same row found
    obtain ⟨listed, greatest⟩ := latestReading_some found
    obtain ⟨latest, foundToo⟩ := latestReading_exists ((mem_plantReadings_congr same).mp listed)
    obtain ⟨listedToo, greatestToo⟩ := latestReading_some foundToo
    have above := greatestToo row ((mem_plantReadings_congr same).mp listed)
    have below := greatest latest ((mem_plantReadings_congr same).mpr listedToo)
    rw [foundToo, plantReadings_unique listedToo ((mem_plantReadings_congr same).mp listed) (le_antisymm below above)]
  cases found : latestReading plants table plantCode with
  | some row => exact (agree same row found).symm
  | none =>
    cases foundToo : latestReading plants other plantCode with
    | none => rfl
    | some row => exact nomatch found.symm.trans (agree (fun key => (same key).symm) row foundToo)

end

end

/-- However the partitions are interleaved and wherever the consumer was restarted, once it has handled the topic to its
end the table reads as if the published readings had been stored one after another. -/
theorem pipeline_sequential (cfg : Settings) (tagMap : TagMap) (sine : ℚ → ℚ) (cycles : List (ℕ → PlantTurn))
    (plants : Dict String Nat) (instantOf : String → Option Int) (dumps : Dict String String → String)
    (partitionOf : String → ℕ) (actions : List ConsumerAction)
    (unique : ∀ a b plantId, plants.get? a = some plantId → plants.get? b = some plantId → a = b)
    (recoverable : Meets (consumerStep cfg plants instantOf dumps (topicOf cfg tagMap sine partitionOf cycles))
      (Recoverable plants instantOf dumps (topicOf cfg tagMap sine partitionOf cycles)) {} actions)
    (handled : ∀ p, (topicOf cfg tagMap sine partitionOf cycles p).length ≤
      (runConsumer cfg plants instantOf dumps (topicOf cfg tagMap sine partitionOf cycles) actions).position p) :
    let stored := (runConsumer cfg plants instantOf dumps (topicOf cfg tagMap sine partitionOf cycles) actions).table
    let sequential := consume plants instantOf dumps .empty
      ((runForever cfg tagMap sine cycles).map fun record => readingMessage record.value)
    (∀ key, stored.get? key = sequential.get? key) ∧
      ∀ plantCode, latestReading plants stored plantCode = latestReading plants sequential plantCode ∧
        ∀ now minutes limit, getHistory plants stored now plantCode minutes limit =
          getHistory plants sequential now plantCode minutes limit := by
  intro stored sequential
  have keyed : KeyedByPlant (runForever cfg tagMap sine cycles) := keyed_runForever cycles
  have projected : (runConsumer cfg plants instantOf dumps (topicOf cfg tagMap sine partitionOf cycles) actions).delivered =
      run (Delivery.step (topicOf cfg tagMap sine partitionOf cycles) (rowKey plants instantOf dumps) (applyFields dumps {}))
        ⟨.empty, fun _ => 0⟩ (actions.map ConsumerAction.delivery) := delivered_run {} actions
  have same : ∀ key, stored.get? key = sequential.get? key := by
    intro key
    have converged := Delivery.converged (owned_topicLog unique keyed) (delivered_meets recoverable)
      (projected ▸ handled) key
    have last : lastFor (rowKey plants instantOf dumps) key
        (topicOf cfg tagMap sine partitionOf cycles (rowPartition plants partitionOf key)) = _ :=
      lastFor_topicLog unique keyed key
    show _ = (consume plants instantOf dumps .empty _).get? key
    rw [consume_writeLog, get?_writeLog, ← last]
    exact (congrArg (fun c => c.table.get? key) projected).trans converged
  exact ⟨same, fun plantCode => ⟨latestReading_congr same, fun now minutes limit => getHistory_congr same now minutes limit⟩⟩

theorem onePlant_unique : ∀ a b plantId, onePlant.get? a = some plantId → onePlant.get? b = some plantId → a = b := by
  intro a b plantId first second
  unfold onePlant at first second
  rw [Dict.get?_set] at first second
  split at first
  · split at second
    · rename_i here there
      rw [here, there]
    · cases second
  · cases first

/-- Two passes over the olefin unit; the consumer is restarted after the first of the two records. -/
theorem pipeline_sequential_restarted :
    let instantOf : String → Option Int := fun text =>
      if text = (Timestamp.utc julyNoon).isoformat then some julyNoon.instant else none
    let logs := topicOf {} olefinTags (fun _ => 0) (fun _ => 0) [openTurn, openTurn]
    let moment : HandleMoment := ⟨false, julyNoon.instant, julyNoon.instant, julyNoon.instant⟩
    let stored := (runConsumer {} onePlant instantOf (fun _ => "detail") logs
      [.message 0 moment, .restart 0 0, .message 0 moment, .message 0 moment]).table
    let sequential := consume onePlant instantOf (fun _ => "detail") .empty
      ((runForever {} olefinTags (fun _ => 0) [openTurn, openTurn]).map fun record => readingMessage record.value)
    stored.keys = [(julyNoon.instant, 1)] ∧
      (∀ key, stored.get? key = sequential.get? key) ∧
      ∀ plantCode, latestReading onePlant stored plantCode = latestReading onePlant sequential plantCode ∧
        ∀ now minutes limit, getHistory onePlant stored now plantCode minutes limit =
          getHistory onePlant sequential now plantCode minutes limit := by
  intro instantOf logs moment stored sequential
  refine ⟨by decide +kernel, pipeline_sequential {} olefinTags (fun _ => 0) [openTurn, openTurn] onePlant instantOf
    (fun _ => "detail") (fun _ => 0) _ ?_ ⟨trivial, Nat.zero_le _, trivial, trivial, trivial⟩ fun p => ?_⟩
  · exact onePlant_unique
  · by_cases first : p = 0
    · rw [first]
      decide +kernel
    · have empty : topicOf {} olefinTags (fun _ => 0) (fun _ => 0) [openTurn, openTurn] p = [] := by
        unfold topicOf topicLog
        rw [List.map_eq_nil_iff, List.filter_eq_nil_iff]
        intro record _
        simpa using Ne.symm first
      rw [empty]
      exact Nat.zero_le _

/-! ### The alerts of the consumer -/

section
variable {cfg : Settings} {plants : Dict String Nat} {instantOf : String → Option Int} {dumps : Dict String String → String}
  {logs : ℕ → List SensorMessage}

theorem alertType_missing {status : StreamStatus} : alertType status = .streamMissing ↔ status = .missing := by
  cases status <;> decide

/-- A plant with a row is not reported as missing. -/
theorem checkFreshness_present {table : SensorTable} {plantCode : String} {plantId : Nat} {ts now : Int} {row : SensorRow}
    {queryFails : Bool} {status : FreshnessStatus} (known : plants.get? plantCode = some plantId)
    (stored : table.get? (ts, plantId) = some row)
    (checked : checkFreshness cfg plants table plantCode now queryFails = some status) : status.status ≠ .missing := by
  have listed : (ts, row) ∈ plantReadings plants table plantCode := by
    unfold plantReadings
    rw [known]
    exact mem_orderedRows.mpr ⟨stored, rfl⟩
  obtain ⟨latest, found⟩ := latestReading_exists listed
  rw [latestReading_sensors] at found
  unfold checkFreshness readingAgeSeconds at checked
  rw [found, Option.map_some] at checked
  dsimp only at checked
  split at checked
  · cases checked
    exact nofun
  · split at checked
    · exact nomatch checked
    · cases checked
      exact nofun
    · cases checked
      exact nofun

/-- An alert that a message raises is about its own plant, which has a row by then. -/
theorem handleMessage_alerts {moment : HandleMoment} {table : SensorTable} {alerts : AlertTable} {payload : SensorMessage}
    {id : ℕ} {alert : StreamAlert}
    (found : (handleMessage cfg plants instantOf dumps moment table alerts payload).2.find? id = some alert) :
    alerts.find? id = some alert ∨ alert.alertType ≠ .streamMissing ∧ payload.plantCode = some alert.plantCode ∧
      (rowKey plants instantOf dumps payload).isSome := by
  have accepted := @upsertReading_ok_iff plants table instantOf dumps payload
  have written := @upsertReading_writeRow plants instantOf dumps table payload
  unfold handleMessage at found
  rcases upserted : upsertReading plants instantOf dumps table payload with ⟨next, outcome⟩
  rw [upserted] at found accepted written
  cases outcome with
  | error _ => exact .inl found
  | ok row =>
    have keyed := accepted.mp ⟨row, rfl⟩
    obtain ⟨key, stored⟩ := Option.isSome_iff_exists.mp keyed
    obtain ⟨plantCode, named, known⟩ := rowKey_plant stored
    rw [named] at found
    dsimp only at found
    split at found
    · exact .inl found
    · rename_i status checked
      have held : next.get? (key.1, key.2) = some (applyFields dumps {} payload) := by
        have row := @get?_writeRow _ _ _ _ (rowKey plants instantOf dumps) (applyFields dumps {}) table payload key
        rw [if_pos stored, ← written] at row
        exact row
      by_cases healthy : status.status = .ok
      · unfold raiseAlertIfNeeded at found
        rw [if_pos healthy] at found
        exact .inl found
      · rcases @raise_cases cfg status healthy moment.asked moment.created alerts with
          ⟨_, _, _, unchanged⟩ | ⟨raised, ⟨plant, type, _⟩, _, inserted, _⟩
        · rw [unchanged] at found
          exact .inl found
        · rw [inserted, Table.find?_insert] at found
          split at found
          · cases found
            refine .inr ⟨?_, ?_, keyed⟩
            · rw [type]
              exact mt alertType_missing.mp (checkFreshness_present known held checked)
            · rw [named, plant, checkFreshness_plantCode checked]
          · exact .inl found

/-- Each alert is about a storable message of its plant, and none about a missing stream. -/
def Grounded (plants : Dict String Nat) (instantOf : String → Option Int) (dumps : Dict String String → String)
    (logs : ℕ → List SensorMessage) (alerts : AlertTable) : Prop :=
  ∀ id alert, alerts.find? id = some alert → alert.alertType ≠ .streamMissing ∧
    ∃ p, ∃ payload ∈ logs p, payload.plantCode = some alert.plantCode ∧ (rowKey plants instantOf dumps payload).isSome

theorem grounded_step {c : SensorConsumer} (action : ConsumerAction) (grounded : Grounded plants instantOf dumps logs c.alerts) :
    Grounded plants instantOf dumps logs (consumerStep cfg plants instantOf dumps logs c action).alerts := by
  unfold consumerStep
  cases action with
  | message p moment =>
    dsimp only
    split
    · exact grounded
    · rename_i payload here
      intro id alert found
      rcases handleMessage_alerts found with old | ⟨type, plant, stored⟩
      · exact grounded id alert old
      · exact ⟨type, p, payload, List.mem_of_getElem? here, plant, stored⟩
  | outage p =>
    dsimp only
    split <;> exact grounded
  | restart p offset => exact grounded

end

/-- Whatever the consumer meets, with restarts and outages anywhere, it never reports a stream as missing, and it alerts
only about plants of which it was sent a storable reading. -/
theorem consumer_alerts (cfg : Settings) (plants : Dict String Nat) (instantOf : String → Option Int)
    (dumps : Dict String String → String) (logs : ℕ → List SensorMessage) (actions : List ConsumerAction) :
    Grounded plants instantOf dumps logs (runConsumer cfg plants instantOf dumps logs actions).alerts := by
  have keep : ∀ (c : SensorConsumer) action, Grounded plants instantOf dumps logs c.alerts →
      Grounded plants instantOf dumps logs (consumerStep cfg plants instantOf dumps logs c action).alerts :=
    fun _ action grounded => grounded_step action grounded
  have start : Grounded plants instantOf dumps logs ({} : SensorConsumer).alerts := fun _ _ found => nomatch found
  exact @run_invariant _ _ _ (fun c : SensorConsumer => Grounded plants instantOf dumps logs c.alerts) {} actions keep start

end Iems.Ingestion
