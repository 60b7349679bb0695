import Iems.Lib.Raising
import Iems.Ingestion.PublishedQuality
import Iems.Repositories.LatestReading

/-! The live reading of a plant: demo memory, then the database, then OPC or the simulator. -/
namespace Iems.Services
open Lib Iems.Core Iems.Carbon Iems.Ingestion Iems.Repositories

inductive PayloadTime where
  | text (iso : String)
  | instant (micros : Int)
  deriving DecidableEq

/-- What `_from_payload` reads of a row, a memory reading or a published reading. -/
structure ReadingPayload where
  time : Option PayloadTime
  electricityPowerMw : Option ExtRat := none
  fuelGasFlowKm3h : Option ExtRat := none
  steamFlowTonh : Option ExtRat := none
  feedFlowTonh : Option ExtRat := none
  reactorTempC : Option ExtRat := none
  pressureBar : Option ExtRat := none
  energyIntensityKgoeTon : Option ExtRat := none
  carbonEmissionKgco2Ton : Option ExtRat := none
  energyEfficiencyPercent : Option ExtRat := none
  source : Option String := none
  quality : Option String := none
  deriving DecidableEq

/-- A live reading over the numbers `num`: rationals, or rationals with the special values. -/
structure LiveReading (num : Type) where
  time : Int
  plantCode : String
  electricityPowerMw : num
  fuelGasFlowKm3h : num
  steamFlowTonh : num
  feedFlowTonh : num
  reactorTempC : num
  pressureBar : Option num
  energyIntensityKgoeTon : num
  carbonEmissionKgco2Ton : Option num
  energyEfficiencyPercent : num
  source : String
  quality : Option String
  deriving DecidableEq

inductive LiveError where
  | reader (error : ReaderError)
  | valueError (text : String)
  deriving DecidableEq

/-- `value or default` on numbers: zero is falsy, NaN is not. -/
def orDefault (value : Option ExtRat) (default : ExtRat) : ExtRat :=
  match value with
  | none => default
  | some held => if held = .finite 0 then default else held

/-- `value or default` on texts. -/
def orText (value : Option String) (default : String) : String :=
  match value with
  | none => default
  | some held => if held = "" then default else held

/-- `instantOf` reads an ISO text, taking one without an offset as UTC; `none` where it raises. -/
def payloadInstant (instantOf : String → Option Int) (now : Int) (time : Option PayloadTime) : Except LiveError Int :=
  match time with
  | none => .ok now
  | some (.instant micros) => .ok micros
  | some (.text iso) =>
    if iso = "" then .ok now
    else
      match instantOf iso with
      | none => .error (.valueError iso)
      | some micros => .ok micros

/-- The five base values, with the defaults of the missing ones. -/
structure BaseValues where
  electricityPowerMw : ExtRat
  fuelGasFlowKm3h : ExtRat
  steamFlowTonh : ExtRat
  feedFlowTonh : ExtRat
  reactorTempC : ExtRat
  deriving DecidableEq

def ReadingPayload.base (payload : ReadingPayload) : BaseValues :=
  { electricityPowerMw := orDefault payload.electricityPowerMw (.finite 15)
    fuelGasFlowKm3h := orDefault payload.fuelGasFlowKm3h (.finite 100)
    steamFlowTonh := orDefault payload.steamFlowTonh (.finite 30)
    feedFlowTonh := orDefault payload.feedFlowTonh (.finite 100)
    reactorTempC := orDefault payload.reactorTempC (.finite 400) }

def fromPayload (instantOf : String → Option Int) (now : Int) (plantCode : String) (payload : ReadingPayload)
    (source : String) : Except LiveError (LiveReading ExtRat) :=
  let base := payload.base
  let derived := extEnrichReading base.electricityPowerMw base.fuelGasFlowKm3h base.steamFlowTonh base.feedFlowTonh
    base.reactorTempC
  (payloadInstant instantOf now payload.time).map fun ts =>
    { time := ts
      plantCode := plantCode
      electricityPowerMw := base.electricityPowerMw
      fuelGasFlowKm3h := base.fuelGasFlowKm3h
      steamFlowTonh := base.steamFlowTonh
      feedFlowTonh := base.feedFlowTonh
      reactorTempC := base.reactorTempC
      pressureBar := payload.pressureBar
      energyIntensityKgoeTon := orDefault payload.energyIntensityKgoeTon derived.energyIntensityKgoeTon
      carbonEmissionKgco2Ton := some (payload.carbonEmissionKgco2Ton.getD derived.carbonEmissionKgco2Ton)
      energyEfficiencyPercent := orDefault payload.energyEfficiencyPercent derived.energyEfficiencyPercent
      source := orText payload.source source
      quality := payload.quality }

/-- The dictionary that the database branch builds from a row. -/
def rowPayload (ts : Int) (row : SensorRow) : ReadingPayload :=
  { time := some (.instant ts)
    electricityPowerMw := row.electricityPowerMw
    fuelGasFlowKm3h := row.fuelGasFlowKm3h
    steamFlowTonh := row.steamFlowTonh
    feedFlowTonh := row.feedFlowTonh
    reactorTempC := row.reactorTempC
    pressureBar := row.pressureBar
    energyIntensityKgoeTon := row.energyIntensityKgoeTon
    carbonEmissionKgco2Ton := row.carbonEmissionKgco2Ton
    energyEfficiencyPercent := row.energyEfficiencyPercent
    source := some (orText row.source "db")
    quality := row.quality }

/-- The published reading as a dictionary; its values are flat keys. -/
def snapPayload (snap : PlantReading) : ReadingPayload :=
  { time := some (.text snap.time)
    electricityPowerMw := (snap.values.get? "electricity_power_mw").join
    fuelGasFlowKm3h := (snap.values.get? "fuel_gas_flow_km3h").join
    steamFlowTonh := (snap.values.get? "steam_flow_tonh").join
    feedFlowTonh := (snap.values.get? "feed_flow_tonh").join
    reactorTempC := (snap.values.get? "reactor_temp_c").join
    pressureBar := (snap.values.get? "pressure_bar").join
    energyIntensityKgoeTon := snap.derived.map (·.energyIntensityKgoeTon)
    carbonEmissionKgco2Ton := snap.derived.map (·.carbonEmissionKgco2Ton)
    energyEfficiencyPercent := snap.derived.map (·.energyEfficiencyPercent)
    source := some snap.source
    quality := some snap.quality.quality }

/-- The series of the demo memory, by plant; a payload of the store is kept as it is. -/
abbrev MemoryStore := Dict String (List ReadingPayload)

def MemoryStore.latest (memory : MemoryStore) (plantCode : String) : Option ReadingPayload :=
  (memory.get? plantCode).bind List.getLast?

def memoryMaxlen : Nat := 3600

def MemoryStore.append (memory : MemoryStore) (plantCode : String) (payload : ReadingPayload) : MemoryStore :=
  let series := (memory.get? plantCode).getD [] ++ [payload]
  memory.set plantCode (series.drop (series.length - memoryMaxlen))

/-- The latest row; a query that raises finds none. -/
def sessionRow (session : Option (Except Unit (Option (Int × SensorRow)))) : Option (Int × SensorRow) :=
  match session with
  | some (.ok latest) => latest
  | _ => none

/-- The branches that need no reader: the demo memory where it is allowed, then the latest row of the session, then
the memory as it stands after the query. -/
def storedPayload (cfg : Settings) (memory later : MemoryStore)
    (session : Option (Except Unit (Option (Int × SensorRow)))) (plantCode : String) : Option (ReadingPayload × String) :=
  let remembered (store : MemoryStore) : Option (ReadingPayload × String) :=
    if cfg.allowDemoMemory then (store.latest plantCode).map fun reading => (reading, orText reading.source "memory")
    else none
  match remembered memory with
  | some found => some found
  | none =>
    match sessionRow session with
    | some (ts, row) => some (rowPayload ts row, "db")
    | none => remembered later

/-- The last branch: the reader, whose reading the demo memory keeps where it is allowed. -/
def readLive (cfg : Settings) (instantOf : String → Option Int) (now : Int) (memory : MemoryStore)
    (reader : Except ReaderError PlantReading) (plantCode : String) : MemoryStore × Except LiveError (LiveReading ExtRat) :=
  match reader with
  | .error error => (memory, .error (.reader error))
  | .ok snap =>
    match fromPayload instantOf now plantCode (snapPayload snap) (orText (some snap.source) "simulator") with
    | .error error => (memory, .error error)
    | .ok live =>
      let remembered := { snapPayload snap with source := some live.source }
      (if cfg.allowDemoMemory then memory.append plantCode remembered else memory, .ok live)

/-- `session` is what the query for the latest row returned or raised, `reader` what `read_opcua_plant` did. -/
def resolveLiveReading (cfg : Settings) (instantOf : String → Option Int) (now : Int) (memory : MemoryStore)
    (later : MemoryStore) (session : Option (Except Unit (Option (Int × SensorRow))))
    (reader : Except ReaderError PlantReading) (plantCode : String) : MemoryStore × Except LiveError (LiveReading ExtRat) :=
  match storedPayload cfg memory later session plantCode with
  | some (payload, source) => (later, fromPayload instantOf now plantCode payload source)
  | none => readLive cfg instantOf now later reader plantCode

/-- How the request reaches the database. -/
inductive Access where
  | noSession
  | failing
  | connected
  deriving DecidableEq

def Access.latest (plants : Dict String Nat) (table : SensorTable) (plantCode : String) :
    Access → Option (Except Unit (Option (Int × SensorRow)))
  | .noSession => none
  | .failing => some (.error ())
  | .connected => some (.ok (getLatestReading plants table plantCode))

/-! ### What a live reading is made of -/

/-- The payload has the five base values of the reading. -/
def ReadingPayload.carries (payload : ReadingPayload) (live : LiveReading ExtRat) : Prop :=
  payload.electricityPowerMw = some live.electricityPowerMw ∧ payload.fuelGasFlowKm3h = some live.fuelGasFlowKm3h ∧
    payload.steamFlowTonh = some live.steamFlowTonh ∧ payload.feedFlowTonh = some live.feedFlowTonh ∧
    payload.reactorTempC = some live.reactorTempC

/-- A number that no default replaces. -/
def isProper (value : Option ExtRat) : Prop := value ≠ none ∧ value ≠ some (.finite 0)

def ReadingPayload.proper (payload : ReadingPayload) : Prop :=
  isProper payload.electricityPowerMw ∧ isProper payload.fuelGasFlowKm3h ∧ isProper payload.steamFlowTonh ∧
    isProper payload.feedFlowTonh ∧ isProper payload.reactorTempC

theorem orDefault_kept {value : Option ExtRat} {default : ℚ} (nonzero : default ≠ 0) :
    value = some (orDefault value (.finite default)) ↔ isProper value := by
  unfold orDefault isProper
  cases value with
  | none => simp
  | some held =>
    by_cases zero : held = .finite 0
    · subst zero
      simp [Ne.symm nonzero]
    · simp [zero]

section
variable {cfg : Settings} {instantOf : String → Option Int} {now : Int} {memory later : MemoryStore}
  {session : Option (Except Unit (Option (Int × SensorRow)))} {reader : Except ReaderError PlantReading}
  {plantCode source : String} {payload : ReadingPayload} {live : LiveReading ExtRat}

/-- A reading keeps the base values of its payload exactly where none of them is missing or zero. -/
theorem fromPayload_carries (made : fromPayload instantOf now plantCode payload source = .ok live) :
    payload.carries live ↔ payload.proper := by
  unfold fromPayload at made
  obtain ⟨ts, _, rfl⟩ : ∃ ts, payloadInstant instantOf now payload.time = .ok ts ∧ _ := by
    cases read : payloadInstant instantOf now payload.time with
    | error _ =>
      rw [read] at made
      cases made
    | ok ts =>
      rw [read] at made
      exact ⟨ts, rfl, (Except.ok.inj made).symm⟩
  unfold ReadingPayload.carries ReadingPayload.proper ReadingPayload.base
  dsimp only
  rw [orDefault_kept (by decide), orDefault_kept (by decide), orDefault_kept (by decide), orDefault_kept (by decide),
    orDefault_kept (by decide)]

theorem storedPayload_connected (connected : cfg.plantConnect = true) :
    storedPayload cfg memory later session plantCode =
      (sessionRow session).map fun latest => (rowPayload latest.1 latest.2, "db") := by
  have refused : cfg.allowDemoMemory = false := by
    unfold Settings.allowDemoMemory
    rw [if_pos connected]
  simp only [storedPayload, refused, Bool.false_eq_true, if_false]
  cases sessionRow session <;> rfl

theorem readLive_value : (readLive cfg instantOf now memory reader plantCode).2.toOption =
    reader.toOption.bind fun snap =>
      (fromPayload instantOf now plantCode (snapPayload snap) (orText (some snap.source) "simulator")).toOption := by
  unfold readLive
  cases reader with
  | error _ => rfl
  | ok snap =>
    simp only [Except.toOption, Option.bind_some]
    cases fromPayload instantOf now plantCode (snapPayload snap) (orText (some snap.source) "simulator") <;> rfl

/-- A number that is neither infinite nor NaN. -/
def FiniteNumber (value : ExtRat) : Prop := ∃ number, value = .finite number

/-- No number of the payload has a special value. -/
def ReadingPayload.FiniteNumbers (payload : ReadingPayload) : Prop :=
  ∀ value ∈ [payload.electricityPowerMw, payload.fuelGasFlowKm3h, payload.steamFlowTonh, payload.feedFlowTonh,
    payload.reactorTempC, payload.pressureBar, payload.energyIntensityKgoeTon, payload.carbonEmissionKgco2Ton,
    payload.energyEfficiencyPercent], ∀ number, value = some number → FiniteNumber number

def LiveReading.map {num other : Type} (f : num → other) (live : LiveReading num) : LiveReading other where
  time := live.time
  plantCode := live.plantCode
  electricityPowerMw := f live.electricityPowerMw
  fuelGasFlowKm3h := f live.fuelGasFlowKm3h
  steamFlowTonh := f live.steamFlowTonh
  feedFlowTonh := f live.feedFlowTonh
  reactorTempC := f live.reactorTempC
  pressureBar := live.pressureBar.map f
  energyIntensityKgoeTon := f live.energyIntensityKgoeTon
  carbonEmissionKgco2Ton := live.carbonEmissionKgco2Ton.map f
  energyEfficiencyPercent := f live.energyEfficiencyPercent
  source := live.source
  quality := live.quality

theorem orDefault_finite {value : Option ExtRat} (held : ∀ number, value = some number → FiniteNumber number)
    (default : ℚ) : FiniteNumber (orDefault value (.finite default)) := by
  cases value with
  | none => exact ⟨default, rfl⟩
  | some number =>
    show FiniteNumber (if number = .finite 0 then .finite default else number)
    split
    · exact ⟨default, rfl⟩
    · exact held number rfl

theorem fromPayload_finite (finite : payload.FiniteNumbers)
    (made : fromPayload instantOf now plantCode payload source = .ok live) :
    ∃ reading : LiveReading ℚ, reading.map .finite = live := by
  simp only [ReadingPayload.FiniteNumbers, List.forall_mem_cons] at finite
  obtain ⟨power, fuel, steam, feed, temp, pressure, intensity, carbon, efficiency, _⟩ := finite
  obtain ⟨power, powerEq⟩ := orDefault_finite power 15
  obtain ⟨fuel, fuelEq⟩ := orDefault_finite fuel 100
  obtain ⟨steam, steamEq⟩ := orDefault_finite steam 30
  obtain ⟨feed, feedEq⟩ := orDefault_finite feed 100
  obtain ⟨temp, tempEq⟩ := orDefault_finite temp 400
  have derived := extEnrichReading_finite power fuel steam feed temp
  obtain ⟨intensity, intensityEq⟩ := orDefault_finite intensity (enrichReading power fuel steam feed temp).energyIntensityKgoeTon
  obtain ⟨efficiency, efficiencyEq⟩ :=
    orDefault_finite efficiency (enrichReading power fuel steam feed temp).energyEfficiencyPercent
  obtain ⟨emission, emissionEq⟩ : FiniteNumber (payload.carbonEmissionKgco2Ton.getD
      (.finite (enrichReading power fuel steam feed temp).carbonEmissionKgco2Ton)) := by
    cases sent : payload.carbonEmissionKgco2Ton with
    | none => exact ⟨_, rfl⟩
    | some number => exact carbon number sent
  obtain ⟨bar, barEq⟩ : ∃ bar : Option ℚ, bar.map .finite = payload.pressureBar := by
    cases sent : payload.pressureBar with
    | none => exact ⟨none, rfl⟩
    | some number =>
      obtain ⟨bar, rfl⟩ := pressure number sent
      exact ⟨some bar, rfl⟩
  unfold fromPayload ReadingPayload.base at made
  rw [powerEq, fuelEq, steamEq, feedEq, tempEq] at made
  dsimp only at made
  rw [derived] at made
  dsimp only at made
  rw [intensityEq, efficiencyEq, emissionEq, ← barEq] at made
  cases read : payloadInstant instantOf now payload.time with
  | error raised =>
    rw [read] at made
    cases made
  | ok ts =>
    rw [read] at made
    cases made
    exact ⟨⟨ts, plantCode, power, fuel, steam, feed, temp, bar, intensity, some emission, efficiency,
      orText payload.source source, payload.quality⟩, rfl⟩

/-- Where no source has a special value a live reading is one over the rationals, as the optimizer takes it. -/
theorem resolveLiveReading_finite (remembered : ∀ store ∈ [memory, later], ∀ payload, store.latest plantCode = some payload →
      payload.FiniteNumbers)
    (stored : ∀ ts row, sessionRow session = some (ts, row) → (rowPayload ts row).FiniteNumbers)
    (published : ∀ snap, reader = .ok snap → (snapPayload snap).FiniteNumbers)
    (resolved : (resolveLiveReading cfg instantOf now memory later session reader plantCode).2 = .ok live) :
    ∃ reading : LiveReading ℚ, reading.map .finite = live := by
  have held : ∀ payload source, storedPayload cfg memory later session plantCode = some (payload, source) →
      payload.FiniteNumbers := by
    intro payload source found
    have recalled : ∀ store ∈ [memory, later], (if cfg.allowDemoMemory then
        (store.latest plantCode).map fun reading => (reading, orText reading.source "memory") else none) =
          some (payload, source) → payload.FiniteNumbers := by
      intro store among own
      split at own
      · obtain ⟨reading, latest, same⟩ := Option.map_eq_some_iff.mp own
        cases same
        exact remembered store among payload latest
      · cases own
    unfold storedPayload at found
    dsimp only at found
    split at found
    · rename_i kept
      rw [found] at kept
      exact recalled memory (by simp) kept
    · split at found
      · rename_i ts row latest
        cases found
        exact stored ts row latest
      · exact recalled later (by simp) found
  unfold resolveLiveReading at resolved
  split at resolved
  · rename_i payload source found
    exact fromPayload_finite (held payload source found) resolved
  · have read := @readLive_value cfg instantOf now later reader plantCode
    rw [resolved] at read
    cases answered : reader with
    | error raised =>
      rw [answered] at read
      cases read
    | ok snap =>
      rw [answered] at read
      cases made : fromPayload instantOf now plantCode (snapPayload snap) (orText (some snap.source) "simulator") with
      | error raised =>
        simp [Except.toOption, made] at read
      | ok own =>
        simp only [Except.toOption, Option.bind_some, made, Option.some.injEq] at read
        rw [read]
        exact fromPayload_finite (published snap answered) made

/-- What OPC published for the plant: no reading without an endpoint, a mapped plant and samples. -/
def opcReading (cfg : Settings) (tagMap : TagMap) (clock : Datetime)
    (samples : Except SessionError (Dict String TagSample)) (plantCode : String) : Option PlantReading :=
  if cfg.opcUaEndpoint = "" then none
  else
    match tagMap.get? plantCode, samples with
    | some plant, .ok sampled => (publishGathered cfg clock plantCode (gather plant sampled)).toOption
    | _, _ => none

theorem readOpcuaPlant_connected (connected : cfg.plantConnect = true) (tagMap : TagMap) (sine : ℚ → ℚ) (t : ℚ)
    (clock : Datetime) (samples : Except SessionError (Dict String TagSample)) :
    (readOpcuaPlant cfg tagMap sine t clock samples plantCode).toOption = opcReading cfg tagMap clock samples plantCode := by
  unfold readOpcuaPlant opcReading
  cases tagMap.get? plantCode with
  | none => simp [Except.toOption]
  | some plant =>
    by_cases endpoint : cfg.opcUaEndpoint = ""
    · simp [connected, endpoint, Except.toOption]
    · cases samples with
      | error _ => simp [connected, endpoint, Except.toOption]
      | ok sampled => simp [connected, endpoint]

end

section
variable (cfg : Settings) (instantOf : String → Option Int) (now : Int) (plants : Dict String Nat) (table : SensorTable)
  (access : Access) (tagMap : TagMap) (clock : Datetime) (samples : Except SessionError (Dict String TagSample))
  (plantCode : String)

/-- The payload that the plant itself gave: its latest stored row, or else what OPC published. -/
def plantPayload : Option ReadingPayload :=
  match sessionRow (access.latest plants table plantCode) with
  | some (ts, row) => some (rowPayload ts row)
  | none => (opcReading cfg tagMap clock samples plantCode).map snapPayload

end

section
variable {cfg : Settings} {instantOf : String → Option Int} {now : Int} {memory later : MemoryStore}
  {plants : Dict String Nat} {table : SensorTable} {access : Access} {tagMap : TagMap} {sine : ℚ → ℚ} {t : ℚ}
  {clock : Datetime} {samples : Except SessionError (Dict String TagSample)} {plantCode : String}

/-- In Plant Connect mode a live reading is built from the plant's own payload, and without one there is none. -/
theorem resolveLiveReading_connected (connected : cfg.plantConnect = true) :
    ∃ source, (resolveLiveReading cfg instantOf now memory later (access.latest plants table plantCode)
        (readOpcuaPlant cfg tagMap sine t clock samples plantCode) plantCode).2.toOption =
      (plantPayload cfg plants table access tagMap clock samples plantCode).bind fun payload =>
        (fromPayload instantOf now plantCode payload source).toOption := by
  have published := @readOpcuaPlant_connected _ plantCode connected tagMap sine t clock samples
  unfold resolveLiveReading plantPayload
  rw [storedPayload_connected connected, ← published]
  cases sessionRow (access.latest plants table plantCode) with
  | some latest => exact ⟨"db", rfl⟩
  | none =>
    cases readOpcuaPlant cfg tagMap sine t clock samples plantCode with
    | error _ => exact ⟨"", readLive_value⟩
    | ok snap => exact ⟨orText (some snap.source) "simulator", readLive_value⟩

end

/-- Whether the time of a payload can be read. -/
def ReadingPayload.dated (instantOf : String → Option Int) (payload : ReadingPayload) : Prop :=
  ∀ iso, payload.time = some (.text iso) → iso = "" ∨ (instantOf iso).isSome

theorem fromPayload_dated {instantOf : String → Option Int} {now : Int} {plantCode source : String}
    {payload : ReadingPayload} :
    (∃ live, fromPayload instantOf now plantCode payload source = .ok live) ↔ payload.dated instantOf := by
  unfold fromPayload payloadInstant ReadingPayload.dated
  cases payload.time with
  | none => simp [Except.map]
  | some time =>
    cases time with
    | instant micros => simp [Except.map]
    | text iso =>
      by_cases empty : iso = ""
      · simp [empty, Except.map]
      · cases parsed : instantOf iso <;> simp [empty, parsed, Except.map]

/-- In Plant Connect mode a live reading has the base values of the plant's latest row, or else of its OPC payload,
exactly where that payload has each of them and none of them is zero. -/
theorem live_values_iff (cfg : Settings) (connected : cfg.plantConnect = true) (instantOf : String → Option Int)
    (now : Int) (memory later : MemoryStore) (plants : Dict String Nat) (table : SensorTable) (access : Access)
    (tagMap : TagMap) (sine : ℚ → ℚ) (t : ℚ) (clock : Datetime)
    (samples : Except SessionError (Dict String TagSample)) (plantCode : String) :
    (∀ live, (resolveLiveReading cfg instantOf now memory later (access.latest plants table plantCode)
          (readOpcuaPlant cfg tagMap sine t clock samples plantCode) plantCode).2 = .ok live →
        ∃ payload, plantPayload cfg plants table access tagMap clock samples plantCode = some payload ∧
          payload.carries live) ↔
      ∀ payload, plantPayload cfg plants table access tagMap clock samples plantCode = some payload →
        payload.dated instantOf → payload.proper := by
  obtain ⟨source, resolved⟩ := @resolveLiveReading_connected cfg instantOf now memory later plants table access tagMap
    sine t clock samples plantCode connected
  generalize (resolveLiveReading cfg instantOf now memory later (access.latest plants table plantCode)
    (readOpcuaPlant cfg tagMap sine t clock samples plantCode) plantCode).2 = outcome at resolved ⊢
  constructor
  · intro faithful payload held dated
    obtain ⟨live, made⟩ := (@fromPayload_dated _ now plantCode source _).mpr dated
    rw [held, Option.bind_some, made] at resolved
    obtain ⟨other, same, carried⟩ := faithful live (toOption_eq_some.mp resolved)
    rw [held] at same
    obtain rfl := Option.some.inj same
    exact (fromPayload_carries made).mp carried
  · intro proper live ok
    subst ok
    obtain ⟨payload, held, made⟩ := Option.bind_eq_some_iff.mp resolved.symm
    have read := toOption_eq_some.mp made
    exact ⟨payload, held, (fromPayload_carries read).mpr (proper payload held (fromPayload_dated.mp ⟨live, read⟩))⟩

/-- A stored row whose feed flow was bad. -/
def feedlessTable : SensorTable :=
  Dict.empty.set (0, 1)
    { electricityPowerMw := some (.finite 15), fuelGasFlowKm3h := some (.finite 100), steamFlowTonh := some (.finite 30),
      reactorTempC := some (.finite 400), quality := some "bad" }

theorem live_values_iff_feedless :
    (∀ live, (resolveLiveReading connectedCfg (fun _ => none) 0 .empty .empty
          (Access.connected.latest onePlant feedlessTable "olefin")
          (readOpcuaPlant connectedCfg .empty (fun _ => 0) 0 julyNoon (.ok .empty) "olefin") "olefin").2 = .ok live →
        ∃ payload, plantPayload connectedCfg onePlant feedlessTable .connected .empty julyNoon (.ok .empty) "olefin" =
            some payload ∧ payload.carries live) ↔
      ∀ payload, plantPayload connectedCfg onePlant feedlessTable .connected .empty julyNoon (.ok .empty) "olefin" =
          some payload → payload.dated (fun _ => none) → payload.proper :=
  live_values_iff connectedCfg rfl (fun _ => none) 0 .empty .empty onePlant feedlessTable .connected .empty
    (fun _ => 0) 0 julyNoon (.ok .empty) "olefin"

theorem feed_invented :
    ¬ ∀ (cfg : Settings), cfg.plantConnect = true → ∀ (instantOf : String → Option Int) (now : Int)
        (memory later : MemoryStore) (plants : Dict String Nat) (table : SensorTable) (access : Access)
        (tagMap : TagMap) (sine : ℚ → ℚ) (t : ℚ) (clock : Datetime)
        (samples : Except SessionError (Dict String TagSample)) (plantCode : String) (live : LiveReading ExtRat),
      (resolveLiveReading cfg instantOf now memory later (access.latest plants table plantCode)
          (readOpcuaPlant cfg tagMap sine t clock samples plantCode) plantCode).2 = .ok live →
        ∃ payload, plantPayload cfg plants table access tagMap clock samples plantCode = some payload ∧
          payload.carries live := by
  intro faithful
  have shown : (resolveLiveReading connectedCfg (fun _ => none) 0 .empty .empty
      (Access.connected.latest onePlant feedlessTable "olefin")
      (readOpcuaPlant connectedCfg .empty (fun _ => 0) 0 julyNoon (.ok .empty) "olefin")
      "olefin").2.toOption.isSome = true := by decide +kernel
  have feed : ((plantPayload connectedCfg onePlant feedlessTable .connected .empty julyNoon (.ok .empty) "olefin").map
      (·.feedFlowTonh)) = some none := by decide +kernel
  cases resolved : (resolveLiveReading connectedCfg (fun _ => none) 0 .empty .empty
      (Access.connected.latest onePlant feedlessTable "olefin")
      (readOpcuaPlant connectedCfg .empty (fun _ => 0) 0 julyNoon (.ok .empty) "olefin") "olefin").2 with
  | error _ =>
    rw [resolved] at shown
    cases shown
  | ok live =>
    obtain ⟨payload, held, carried⟩ := faithful connectedCfg rfl _ _ _ _ onePlant feedlessTable .connected .empty _ _
      julyNoon (.ok .empty) "olefin" live resolved
    rw [held, Option.map_some, Option.some.injEq, carried.2.2.2.1] at feed
    cases feed

end Iems.Services
