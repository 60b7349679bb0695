import Iems.Ingestion.Pipeline
import Iems.Lib.Bounded
import Iems.Services.LiveReading
import Mathlib.Data.List.TakeWhile

/-! The demo feeder: each reading goes into the memory, and into the database until a first write fails. -/
namespace Iems.Demo
open Lib Iems.Core Carbon Services Repositories Ingestion

/-- What a plant meets when its turn comes; `outage` is a database that fails under the write. -/
structure FeedTurn where
  t : ℚ
  now : Datetime
  samples : Except SessionError (Dict String TagSample)
  outage : Bool

/-- `persisting` says whether the feeder still has its session factory. -/
structure Feeder where
  memory : MemoryStore
  table : SensorTable
  persisting : Bool

/-- A payload that reached the memory, with the instant it is kept under. -/
structure Fed where
  payload : PlantReading
  instant : Int
  outage : Bool

/-- The reading that `append` makes of a payload. -/
def memoryReading (fed : Fed) : ReadingPayload := { snapPayload fed.payload with time := some (.instant fed.instant) }

section
variable (cfg : Settings) (tagMap : TagMap) (sine : ℚ → ℚ) (utcInstant : String → Option Int)
  (plants : Dict String Nat) (instantOf : String → Option Int) (dumps : Dict String String → String)

/-- `utcInstant` reads an ISO text, taking one without an offset as UTC, and `instantOf` is what the database takes
from it; `none` where they raise. -/
def feedOf (plantCode : String) (turn : FeedTurn) : Option Fed :=
  match readOpcuaPlant cfg tagMap sine turn.t turn.now turn.samples plantCode with
  | .error _ => none
  | .ok snap =>
    let payload := { snap with source := "demo-feeder" }
    (utcInstant payload.time).map fun ts => ⟨payload, ts, turn.outage⟩

/-- `_persist_db`: a write that raises gives up the database for good. -/
def persistDb (s : Feeder) (fed : Fed) : Feeder :=
  if s.persisting then
    if fed.outage then { s with persisting := false }
    else
      match upsertReading plants instantOf dumps s.table (readingMessage fed.payload) with
      | (table, .ok _) => { s with table := table }
      | (table, .error _) => { s with table := table, persisting := false }
  else s

def feed (s : Feeder) (fed : Fed) : Feeder :=
  persistDb plants instantOf dumps { s with memory := s.memory.append fed.payload.plantCode (memoryReading fed) } fed

/-- The published payloads, `none` where the pass raises. -/
def tickLoop (s : Feeder) : List (String × FeedTurn) → Option (List PlantReading) × Feeder
  | [] => (some [], s)
  | (plantCode, turn) :: rest =>
    match feedOf cfg tagMap sine utcInstant plantCode turn with
    | none => (none, s)
    | some fed =>
      let (published, next) := tickLoop (feed plants instantOf dumps s fed) rest
      (published.map (fed.payload :: ·), next)

/-- `producer_plant_code_list or ["olefin", "pta"]`. -/
def feederPlants : List String :=
  if cfg.producerPlantCodeList = [] then ["olefin", "pta"] else cfg.producerPlantCodeList

def slots (turns : ℕ → FeedTurn) : List (String × FeedTurn) :=
  (feederPlants cfg).zipIdx.map fun slot => (slot.1, turns slot.2)

def tick (s : Feeder) (turns : ℕ → FeedTurn) : Option (List PlantReading) × Feeder :=
  tickLoop cfg tagMap sine utcInstant plants instantOf dumps s (slots cfg turns)

def startFeeder : Feeder := ⟨.empty, .empty, !cfg.demoMemoryOnly⟩

/-- `run_forever`: a pass that raises is logged, and the next one begins. -/
def runFeeder (cycles : List (ℕ → FeedTurn)) : Feeder :=
  cycles.foldl (fun s turns => (tick cfg tagMap sine utcInstant plants instantOf dumps s turns).2) (startFeeder cfg)

/-- The payloads of a run in order: those of each pass up to the first plant that raises. -/
def fedLog (cycles : List (ℕ → FeedTurn)) : List Fed :=
  cycles.flatMap fun turns => untilNone (fun slot => feedOf cfg tagMap sine utcInstant slot.1 slot.2) (slots cfg turns)

/-- The write of the payload does not raise. -/
def stores (fed : Fed) : Bool := !fed.outage && (rowKey plants instantOf dumps (readingMessage fed.payload)).isSome

/-- `history`, over a series. -/
def memoryHistory (series : List ReadingPayload) (now : Int) (minutes : Nat) : List ReadingPayload :=
  series.filter fun reading =>
    match reading.time with
    | some (.instant ts) => now - minutes * 60000000 ≤ ts
    | _ => false

end

/-! ### Passes -/

section
variable {cfg : Settings} {tagMap : TagMap} {sine : ℚ → ℚ} {utcInstant : String → Option Int}
  {plants : Dict String Nat} {instantOf : String → Option Int} {dumps : Dict String String → String}

theorem tickLoop_state (s : Feeder) (turns : List (String × FeedTurn)) :
    (tickLoop cfg tagMap sine utcInstant plants instantOf dumps s turns).2 =
      (untilNone (fun slot => feedOf cfg tagMap sine utcInstant slot.1 slot.2) turns).foldl
        (feed plants instantOf dumps) s := by
  induction turns generalizing s with
  | nil => rfl
  | cons slot rest ih =>
    obtain ⟨plantCode, turn⟩ := slot
    unfold tickLoop untilNone
    dsimp only
    cases feedOf cfg tagMap sine utcInstant plantCode turn with
    | none => rfl
    | some fed => exact ih _

theorem runFeeder_log (cycles : List (ℕ → FeedTurn)) :
    runFeeder cfg tagMap sine utcInstant plants instantOf dumps cycles =
      (fedLog cfg tagMap sine utcInstant cycles).foldl (feed plants instantOf dumps) (startFeeder cfg) := by
  unfold runFeeder fedLog
  rw [List.foldl_flatMap]
  congr 1
  funext s turns
  exact tickLoop_state s _

/-! ### The memory -/

theorem persistDb_memory (s : Feeder) (fed : Fed) : (persistDb plants instantOf dumps s fed).memory = s.memory := by
  unfold persistDb
  split
  · split
    · rfl
    · split <;> rfl
  · rfl

theorem feed_memory (s : Feeder) (log : List Fed) :
    (log.foldl (feed plants instantOf dumps) s).memory =
      log.foldl (pushSeries memoryMaxlen (·.payload.plantCode) memoryReading) s.memory := by
  induction log generalizing s with
  | nil => rfl
  | cons fed rest ih =>
    rw [List.foldl_cons, List.foldl_cons, ih]
    congr 1
    exact persistDb_memory _ fed

/-! ### The database -/

/-- A refused upsert leaves the table as it is. -/
theorem upsert_refused {table : SensorTable} {payload : SensorMessage}
    (refused : (rowKey plants instantOf dumps payload).isSome = false) :
    (upsertReading plants instantOf dumps table payload).1 = table := by
  rw [upsertReading_writeRow]
  unfold writeRow
  rw [Option.isSome_eq_false_iff, Option.isNone_iff_eq_none] at refused
  rw [refused]

theorem persistDb_eq (s : Feeder) (fed : Fed) :
    persistDb plants instantOf dumps s fed =
      { s with
        table :=
          if s.persisting && stores plants instantOf dumps fed then
            (upsertReading plants instantOf dumps s.table (readingMessage fed.payload)).1
          else s.table
        persisting := s.persisting && stores plants instantOf dumps fed } := by
  obtain ⟨memory, table, persisting⟩ := s
  cases persisting with
  | false => rfl
  | true =>
    unfold persistDb stores
    dsimp only
    rw [if_pos rfl]
    cases fed.outage with
    | true => rfl
    | false =>
      have accepted := @upsertReading_ok_iff plants table instantOf dumps (readingMessage fed.payload)
      have kept := @upsert_refused plants instantOf dumps table (readingMessage fed.payload)
      rcases upserted : upsertReading plants instantOf dumps table (readingMessage fed.payload) with ⟨next, outcome⟩
      rw [upserted] at accepted kept
      cases stored : (rowKey plants instantOf dumps (readingMessage fed.payload)).isSome with
      | true =>
        obtain ⟨row, rfl⟩ : ∃ row, outcome = .ok row := accepted.mpr stored
        rfl
      | false =>
        obtain rfl : next = table := kept stored
        cases outcome with
        | ok row => exact nomatch stored.symm.trans (accepted.mp ⟨row, rfl⟩)
        | error _ => rfl

theorem feed_database (s : Feeder) (log : List Fed) :
    (log.foldl (feed plants instantOf dumps) s).persisting = (s.persisting && log.all (stores plants instantOf dumps)) ∧
      (log.foldl (feed plants instantOf dumps) s).table =
        if s.persisting then
          consume plants instantOf dumps s.table
            ((log.takeWhile (stores plants instantOf dumps)).map fun fed => readingMessage fed.payload)
        else s.table := by
  induction log generalizing s with
  | nil => simp [consume]
  | cons fed rest ih =>
    have next : feed plants instantOf dumps s fed = persistDb plants instantOf dumps
      { s with memory := s.memory.append fed.payload.plantCode (memoryReading fed) } fed := rfl
    rw [List.foldl_cons]
    obtain ⟨flag, table⟩ := ih (feed plants instantOf dumps s fed)
    rw [flag, table, next, persistDb_eq]
    dsimp only
    refine ⟨by rw [List.all_cons, Bool.and_assoc], ?_⟩
    cases s.persisting with
    | false => rfl
    | true =>
      cases stored : stores plants instantOf dumps fed with
      | false => simp [stored, consume]
      | true => simp [stored, consume]

end

/-- After any run the memory keeps the last readings of each plant, and the database those before the first write that
failed. -/
theorem feeder_run (cfg : Settings) (tagMap : TagMap) (sine : ℚ → ℚ) (utcInstant : String → Option Int)
    (plants : Dict String Nat) (instantOf : String → Option Int) (dumps : Dict String String → String)
    (cycles : List (ℕ → FeedTurn)) :
    let s := runFeeder cfg tagMap sine utcInstant plants instantOf dumps cycles
    let log := fedLog cfg tagMap sine utcInstant cycles
    (∀ plantCode, (s.memory.get? plantCode).getD [] =
      keepLast 3600 ((log.filter fun fed => fed.payload.plantCode = plantCode).map memoryReading)) ∧
      s.persisting = (!cfg.demoMemoryOnly && log.all (stores plants instantOf dumps)) ∧
      s.table = consume plants instantOf dumps .empty (if cfg.demoMemoryOnly then [] else
        (log.takeWhile (stores plants instantOf dumps)).map fun fed => readingMessage fed.payload) := by
  intro s log
  have final : s = log.foldl (feed plants instantOf dumps) (startFeeder cfg) := runFeeder_log cycles
  obtain ⟨flag, table⟩ := @feed_database plants instantOf dumps (startFeeder cfg) log
  refine ⟨fun plantCode => ?_, by rw [final, flag]; rfl, ?_⟩
  · rw [final, feed_memory]
    exact getD_pushSeries memoryMaxlen _ memoryReading log plantCode
  · rw [final, table]
    unfold startFeeder
    cases cfg.demoMemoryOnly <;> rfl

/-! ### Histories of the memory -/

section
variable (cfg : Settings) (tagMap : TagMap) (sine : ℚ → ℚ) (utcInstant : String → Option Int)
  (plants : Dict String Nat) (instantOf : String → Option Int) (dumps : Dict String String → String)

def plantLog (plantCode : String) (log : List Fed) : List Fed := log.filter fun fed => fed.payload.plantCode = plantCode

theorem runFeeder_series (cycles : List (ℕ → FeedTurn)) (plantCode : String) :
    ((runFeeder cfg tagMap sine utcInstant plants instantOf dumps cycles).memory.get? plantCode).getD [] =
      keepLast 3600 ((plantLog plantCode (fedLog cfg tagMap sine utcInstant cycles)).map memoryReading) := by
  rw [runFeeder_log, feed_memory]
  exact getD_pushSeries memoryMaxlen _ memoryReading _ plantCode

theorem runFeeder_latest (cycles : List (ℕ → FeedTurn)) (plantCode : String) :
    (runFeeder cfg tagMap sine utcInstant plants instantOf dumps cycles).memory.latest plantCode =
      (plantLog plantCode (fedLog cfg tagMap sine utcInstant cycles)).getLast?.map memoryReading := by
  have series := runFeeder_series cfg tagMap sine utcInstant plants instantOf dumps cycles plantCode
  have last := congrArg List.getLast? series
  rw [getLast?_keepLast (by decide), List.getLast?_map] at last
  rw [← last]
  unfold MemoryStore.latest
  cases (runFeeder cfg tagMap sine utcInstant plants instantOf dumps cycles).memory.get? plantCode <;> rfl

end

/-- A history of the memory is complete exactly where nothing that was pushed out lies in its window, and it is where
the readings of the plant come a second apart and less than an hour is asked for. -/
theorem memory_history_complete (cfg : Settings) (tagMap : TagMap) (sine : ℚ → ℚ) (utcInstant : String → Option Int)
    (plants : Dict String Nat) (instantOf : String → Option Int) (dumps : Dict String String → String)
    (cycles : List (ℕ → FeedTurn)) (plantCode : String) (now : Int) (minutes : Nat) :
    let series := ((runFeeder cfg tagMap sine utcInstant plants instantOf dumps cycles).memory.get? plantCode).getD []
    let log := plantLog plantCode (fedLog cfg tagMap sine utcInstant cycles)
    (memoryHistory series now minutes = memoryHistory (log.map memoryReading) now minutes ↔
        ∀ fed ∈ forgotten 3600 log, fed.instant < now - minutes * 60000000) ∧
      ((log.map Fed.instant).Pairwise (fun a b => a + 1000000 ≤ b) → (∀ fed ∈ log, fed.instant ≤ now) → minutes < 60 →
        memoryHistory series now minutes = memoryHistory (log.map memoryReading) now minutes) := by
  intro series log
  have kept : series = keepLast 3600 (log.map memoryReading) :=
    runFeeder_series cfg tagMap sine utcInstant plants instantOf dumps cycles plantCode
  have exact_ : memoryHistory series now minutes = memoryHistory (log.map memoryReading) now minutes ↔
      ∀ fed ∈ forgotten 3600 log, fed.instant < now - minutes * 60000000 := by
    unfold memoryHistory
    rw [kept, filter_keepLast_iff, ← map_forgotten]
    constructor
    · intro outside fed out
      have missed := outside _ (List.mem_map.mpr ⟨fed, out, rfl⟩)
      exact not_le.mp (of_decide_eq_false missed)
    · intro outside reading out
      obtain ⟨fed, member, rfl⟩ := List.mem_map.mp out
      exact decide_eq_false (not_le.mpr (outside fed member))
  refine ⟨exact_, fun spaced past short => exact_.mpr fun fed out => ?_⟩
  have member : fed ∈ log := List.mem_of_mem_take out
  obtain ⟨last, end_⟩ : ∃ last, log.getLast? = some last :=
    ⟨_, List.getLast?_eq_some_getLast (List.ne_nil_of_mem member)⟩
  have before := @forgotten_spaced 3600 1000000 fed.instant last.instant _ (by decide) spaced
    (by rw [← map_forgotten]; exact List.mem_map.mpr ⟨fed, out, rfl⟩) (by rw [List.getLast?_map, end_]; rfl)
  have present := past last (List.mem_of_getLast? end_)
  omega

/-! ### The memory against the database -/

section
variable {cfg : Settings} {tagMap : TagMap} {sine : ℚ → ℚ} {utcInstant : String → Option Int}
  {plants : Dict String Nat} {instantOf : String → Option Int} {dumps : Dict String String → String}

theorem fedLog_made {cycles : List (ℕ → FeedTurn)} {fed : Fed} (member : fed ∈ fedLog cfg tagMap sine utcInstant cycles) :
    utcInstant fed.payload.time = some fed.instant ∧ fed.payload.source = "demo-feeder" := by
  obtain ⟨turns, _, inner⟩ := List.mem_flatMap.mp member
  obtain ⟨⟨plantCode, turn⟩, _, made⟩ := mem_untilNone inner
  unfold feedOf at made
  dsimp only at made
  split at made
  · exact nomatch made
  · obtain ⟨ts, parsed, rfl⟩ := Option.map_eq_some_iff.mp made
    exact ⟨parsed, rfl⟩

/-- The dictionary that is built from a stored row of the feeder is the reading of the memory. -/
theorem rowPayload_fed {fed : Fed} (own : fed.payload.source = "demo-feeder") :
    rowPayload fed.instant (applyFields dumps {} (readingMessage fed.payload)) = memoryReading fed := by
  unfold rowPayload memoryReading readingMessage applyFields snapPayload
  simp only [own]
  rfl

/-- A stored payload, with the key of its row. -/
theorem rowKey_fed {fed : Fed} (agree : ∀ text ts, instantOf text = some ts → utcInstant text = some ts)
    (made : utcInstant fed.payload.time = some fed.instant) {key : Int × Nat}
    (stored : rowKey plants instantOf dumps (readingMessage fed.payload) = some key) :
    key.1 = fed.instant ∧ plants.get? fed.payload.plantCode = some key.2 := by
  unfold rowKey readingMessage at stored
  simp only [Option.bind_eq_bind, Option.bind_some] at stored
  obtain ⟨plantId, known, stored⟩ := Option.bind_eq_some_iff.mp stored
  obtain ⟨ts, read, stored⟩ := Option.bind_eq_some_iff.mp stored
  split at stored
  · cases stored
    exact ⟨Option.some.inj ((agree _ _ read).symm.trans made), known⟩
  · cases stored

/-- Where the times of the plant increase and every write succeeded, the latest row is that of the last payload. -/
theorem latestReading_fed {log : List Fed} {plantCode : String} {last : Fed}
    (unique : ∀ a b plantId, plants.get? a = some plantId → plants.get? b = some plantId → a = b)
    (agree : ∀ text ts, instantOf text = some ts → utcInstant text = some ts)
    (made : ∀ fed ∈ log, utcInstant fed.payload.time = some fed.instant)
    (stored : ∀ fed ∈ log, stores plants instantOf dumps fed = true)
    (increasing : Ascending Fed.instant (plantLog plantCode log)) (end_ : (plantLog plantCode log).getLast? = some last) :
    getLatestReading plants (consume plants instantOf dumps .empty (log.map fun fed => readingMessage fed.payload)) plantCode =
      some (last.instant, applyFields dumps {} (readingMessage last.payload)) := by
  have own : last ∈ plantLog plantCode log := List.mem_of_getLast? end_
  have keyOf : ∀ fed ∈ log, ∃ plantId, plants.get? fed.payload.plantCode = some plantId ∧
      rowKey plants instantOf dumps (readingMessage fed.payload) = some (fed.instant, plantId) := by
    intro fed member
    have accepted := stored fed member
    unfold stores at accepted
    rw [Bool.and_eq_true] at accepted
    obtain ⟨⟨ts, plantId⟩, key⟩ := Option.isSome_iff_exists.mp accepted.2
    obtain ⟨same, known⟩ := rowKey_fed agree (made fed member) key
    exact ⟨plantId, known, by rw [key, ← same]⟩
  obtain ⟨listed, named⟩ := List.mem_filter.mp own
  obtain ⟨plantId, known, key⟩ := keyOf last listed
  rw [of_decide_eq_true named] at known
  have ofPlant : ∀ fed ∈ log, ∀ ts, rowKey plants instantOf dumps (readingMessage fed.payload) = some (ts, plantId) →
      fed ∈ plantLog plantCode log ∧ fed.instant = ts := by
    intro fed member ts same
    obtain ⟨other, knownToo, keyToo⟩ := keyOf fed member
    rw [keyToo] at same
    cases same
    exact ⟨List.mem_filter.mpr ⟨member, decide_eq_true (unique _ _ _ knownToo known)⟩, rfl⟩
  have row : (consume plants instantOf dumps .empty (log.map fun fed => readingMessage fed.payload)).get?
      (last.instant, plantId) = some (applyFields dumps {} (readingMessage last.payload)) := by
    rw [consume_writeLog, get?_writeLog]
    obtain ⟨message, found⟩ : ∃ message, lastFor (rowKey plants instantOf dumps) (last.instant, plantId)
        (log.map fun fed => readingMessage fed.payload) = some message := by
      unfold lastFor
      refine ⟨_, List.getLast?_eq_some_getLast (List.ne_nil_of_mem (a := readingMessage last.payload) ?_)⟩
      exact List.mem_filter.mpr ⟨List.mem_map.mpr ⟨last, listed, rfl⟩, decide_eq_true key⟩
    rw [found]
    unfold lastFor at found
    obtain ⟨written, keyed⟩ := List.mem_filter.mp (List.mem_of_getLast? found)
    obtain ⟨fed, member, rfl⟩ := List.mem_map.mp written
    obtain ⟨inPlant, instant⟩ := ofPlant fed member last.instant (of_decide_eq_true keyed)
    -- the times increase, so no other payload of the plant has this one
    have distinct : ((plantLog plantCode log).map Fed.instant).Nodup :=
      List.pairwise_map.mpr (increasing.imp fun before => before.ne)
    rw [List.inj_on_of_nodup_map distinct inPlant own instant]
    rfl
  have reading : (last.instant, applyFields dumps {} (readingMessage last.payload)) ∈
      plantReadings plants (consume plants instantOf dumps .empty (log.map fun fed => readingMessage fed.payload)) plantCode := by
    unfold plantReadings
    rw [known]
    exact mem_orderedRows.mpr ⟨row, rfl⟩
  obtain ⟨⟨ts, latest⟩, found⟩ := latestReading_exists reading
  rw [latestReading_sensors] at found
  obtain ⟨held, greatest⟩ := getLatestReading_some known found
  obtain ⟨⟨message, written, keyed⟩, _⟩ := getLatestReading_consumed known found
  obtain ⟨fed, member, rfl⟩ := List.mem_map.mp written
  obtain ⟨inPlant, instant⟩ := ofPlant fed member ts keyed
  have above : last.instant ≤ ts := greatest _ (List.mem_map.mpr ⟨_, (Dict.get?_iff_mem _).mp row, rfl⟩)
  have below : fed.instant ≤ last.instant := increasing.le_last end_ inPlant
  obtain rfl : ts = last.instant := by omega
  rw [found, Option.some.inj (held.symm.trans row)]

end

/-- While no write failed and the times of a plant increase, its live reading is the same whether it is taken from the
memory or from the database. -/
theorem live_reading_agrees (cfg : Settings) (tagMap : TagMap) (sine : ℚ → ℚ) (utcInstant : String → Option Int)
    (plants : Dict String Nat) (instantOf : String → Option Int) (dumps : Dict String String → String)
    (cycles : List (ℕ → FeedTurn)) (plantCode : String)
    (unique : ∀ a b plantId, plants.get? a = some plantId → plants.get? b = some plantId → a = b)
    (agree : ∀ text ts, instantOf text = some ts → utcInstant text = some ts)
    (persisting : (runFeeder cfg tagMap sine utcInstant plants instantOf dumps cycles).persisting = true)
    (increasing : Ascending Fed.instant (plantLog plantCode (fedLog cfg tagMap sine utcInstant cycles)))
    (fed : plantLog plantCode (fedLog cfg tagMap sine utcInstant cycles) ≠ [])
    (remembering asking : Settings) (allowed : remembering.allowDemoMemory = true) (refused : asking.allowDemoMemory = false)
    (now : Int) (later : MemoryStore) (reader : Except ReaderError PlantReading) :
    let s := runFeeder cfg tagMap sine utcInstant plants instantOf dumps cycles
    let session := some (.ok (getLatestReading plants s.table plantCode))
    (resolveLiveReading remembering instantOf now s.memory later session reader plantCode).2 =
      (resolveLiveReading asking instantOf now s.memory later session reader plantCode).2 := by
  intro s session
  obtain ⟨last, end_⟩ : ∃ last, (plantLog plantCode (fedLog cfg tagMap sine utcInstant cycles)).getLast? = some last :=
    ⟨_, List.getLast?_eq_some_getLast fed⟩
  obtain ⟨flag, table⟩ := @feed_database plants instantOf dumps (startFeeder cfg) (fedLog cfg tagMap sine utcInstant cycles)
  rw [← runFeeder_log] at flag table
  rw [persisting, eq_comm, Bool.and_eq_true, List.all_eq_true] at flag
  obtain ⟨factory, stored⟩ := flag
  rw [if_pos factory, List.takeWhile_eq_self_iff.mpr stored] at table
  have made := fun fed member => @fedLog_made cfg tagMap sine utcInstant cycles fed member
  have latest : getLatestReading plants s.table plantCode =
      some (last.instant, applyFields dumps {} (readingMessage last.payload)) := by
    show getLatestReading plants (runFeeder cfg tagMap sine utcInstant plants instantOf dumps cycles).table plantCode = _
    rw [table]
    exact latestReading_fed unique agree (fun fed member => (made fed member).1) stored increasing end_
  have remembered : s.memory.latest plantCode = some (memoryReading last) := by
    have found := runFeeder_latest cfg tagMap sine utcInstant plants instantOf dumps cycles plantCode
    rwa [end_] at found
  have own := (made last (List.mem_filter.mp (List.mem_of_getLast? end_)).1).2
  have fromMemory : storedPayload remembering s.memory later session plantCode =
      some (memoryReading last, orText (memoryReading last).source "memory") := by
    unfold storedPayload
    simp only [allowed, if_true, remembered, Option.map_some]
  have fromTable : storedPayload asking s.memory later session plantCode = some (memoryReading last, "db") := by
    rw [← @rowPayload_fed dumps last own]
    have loaded : sessionRow session = some (last.instant, applyFields dumps {} (readingMessage last.payload)) := latest
    unfold storedPayload
    simp only [refused, Bool.false_eq_true, if_false, loaded]
  unfold resolveLiveReading
  rw [fromMemory, fromTable]
  unfold fromPayload memoryReading snapPayload
  simp only [own]
  rfl

/-- One pass at noon: the olefin unit is read, and the other one is not in the tag map. -/
theorem live_reading_agrees_noon :
    let instantOf : String → Option Int := fun text =>
      if text = (Timestamp.utc julyNoon).isoformat then some julyNoon.instant else none
    let s := runFeeder {} olefinTags (fun _ => 0) instantOf onePlant instantOf (fun _ => "detail")
      [fun _ => ⟨0, julyNoon, .ok .empty, false⟩]
    let session := some (.ok (getLatestReading onePlant s.table "olefin"))
    (resolveLiveReading { demoFeeder := true } instantOf 0 s.memory s.memory session (.error .typeError) "olefin").2 =
      (resolveLiveReading { plantConnect := true } instantOf 0 s.memory s.memory session (.error .typeError) "olefin").2 := by
  intro instantOf s session
  refine live_reading_agrees {} olefinTags (fun _ => 0) instantOf onePlant instantOf (fun _ => "detail") _ "olefin"
    onePlant_unique (fun _ _ read => read) ?_ ?_ ?_ _ _ ?_ ?_ 0 _ _
  · decide +kernel
  · unfold Ascending
    decide +kernel
  · rw [← List.length_pos_iff]
    decide +kernel
  · decide
  · decide

end Iems.Demo
