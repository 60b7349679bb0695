import Iems.Core.Timestamp
import Iems.Repositories.Sensors
import Iems.Services.Physics

/-! `POST /readings`: defaults, enrichment, publication and the upsert of one posted reading. -/
namespace Iems.Api
open Lib Iems.Core Iems.Carbon Iems.Repositories Iems.Services

inductive ReadingField where
  | electricityPowerMw | fuelGasFlowKm3h | steamFlowTonh | feedFlowTonh | reactorTempC | pressureBar
  deriving DecidableEq

structure SensorReadingIn where
  time : Option Timestamp := none
  plantCode : String
  electricityPowerMw : Option ExtRat := none
  fuelGasFlowKm3h : Option ExtRat := none
  steamFlowTonh : Option ExtRat := none
  feedFlowTonh : Option ExtRat := none
  reactorTempC : Option ExtRat := none
  pressureBar : Option ExtRat := none

structure SensorReadingOut where
  time : Timestamp
  plantCode : String
  electricityPowerMw : Option ExtRat := none
  fuelGasFlowKm3h : Option ExtRat := none
  steamFlowTonh : Option ExtRat := none
  feedFlowTonh : Option ExtRat := none
  reactorTempC : Option ExtRat := none
  pressureBar : Option ExtRat := none
  energyIntensityKgoeTon : Option ExtRat := none
  carbonEmissionKgco2Ton : Option ExtRat := none
  energyEfficiencyPercent : Option ExtRat := none
  source : Option String := none
  quality : Option String := none

structure BaseValues where
  electricityPowerMw : ExtRat
  fuelGasFlowKm3h : ExtRat
  steamFlowTonh : ExtRat
  feedFlowTonh : ExtRat
  reactorTempC : ExtRat

/-- `value or default`: a zero counts as missing. -/
def orDefault (value : Option ExtRat) (default : ℚ) : ExtRat :=
  match value with
  | none => .finite default
  | some x => if x = .finite 0 then .finite default else x

def baseValues (payload : SensorReadingIn) : BaseValues where
  electricityPowerMw := orDefault payload.electricityPowerMw 15
  fuelGasFlowKm3h := orDefault payload.fuelGasFlowKm3h 100
  steamFlowTonh := orDefault payload.steamFlowTonh 30
  feedFlowTonh := orDefault payload.feedFlowTonh 100
  reactorTempC := orDefault payload.reactorTempC 400

def BaseValues.enrich (base : BaseValues) : ExtEnrichedReading :=
  extEnrichReading base.electricityPowerMw base.fuelGasFlowKm3h base.steamFlowTonh base.feedFlowTonh base.reactorTempC

def sensorEvent (payload : SensorReadingIn) (ts : Timestamp) : SensorMessage :=
  let base := baseValues payload
  let derived := base.enrich
  { plantCode := some payload.plantCode
    time := some ts.isoformat
    electricityPowerMw := some base.electricityPowerMw
    fuelGasFlowKm3h := some base.fuelGasFlowKm3h
    steamFlowTonh := some base.steamFlowTonh
    feedFlowTonh := some base.feedFlowTonh
    reactorTempC := some base.reactorTempC
    pressureBar := payload.pressureBar
    energyIntensityKgoeTon := some derived.energyIntensityKgoeTon
    carbonEmissionKgco2Ton := some derived.carbonEmissionKgco2Ton
    energyEfficiencyPercent := some derived.energyEfficiencyPercent
    source := some "api" }

def readingOut (payload : SensorReadingIn) (ts : Timestamp) : SensorReadingOut :=
  let base := baseValues payload
  let derived := base.enrich
  { time := ts
    plantCode := payload.plantCode
    electricityPowerMw := some base.electricityPowerMw
    fuelGasFlowKm3h := some base.fuelGasFlowKm3h
    steamFlowTonh := some base.steamFlowTonh
    feedFlowTonh := some base.feedFlowTonh
    reactorTempC := some base.reactorTempC
    pressureBar := payload.pressureBar
    energyIntensityKgoeTon := some derived.energyIntensityKgoeTon
    carbonEmissionKgco2Ton := some derived.carbonEmissionKgco2Ton
    energyEfficiencyPercent := some derived.energyEfficiencyPercent }

/-- `published` is what the broker took; a publication that fails is only logged. -/
structure Ingested where
  published : List SensorMessage
  table : SensorTable
  result : Except UpsertError SensorReadingOut

section
variable (plants : Dict String Nat) (instantOf : String → Option Int) (dumps : Dict String String → String)

def ingestReading (brokerUp : Bool) (now : Datetime) (table : SensorTable) (payload : SensorReadingIn) : Ingested :=
  let ts := payload.time.getD (Timestamp.utc now)
  let event := sensorEvent payload ts
  let published := if brokerUp then [event] else []
  match upsertReading plants instantOf dumps table event with
  | (stored, .error e) => ⟨published, stored, .error e⟩
  | (stored, .ok _) => ⟨published, stored, .ok (readingOut payload ts)⟩

end

/-! ### What is kept of the posted values -/

/-- The numbers of a message, a row or an answer. -/
structure Figures where
  get : ReadingField → Option ExtRat
  energyIntensityKgoeTon : Option ExtRat
  carbonEmissionKgco2Ton : Option ExtRat
  energyEfficiencyPercent : Option ExtRat

def SensorReadingIn.get (payload : SensorReadingIn) : ReadingField → Option ExtRat
  | .electricityPowerMw => payload.electricityPowerMw
  | .fuelGasFlowKm3h => payload.fuelGasFlowKm3h
  | .steamFlowTonh => payload.steamFlowTonh
  | .feedFlowTonh => payload.feedFlowTonh
  | .reactorTempC => payload.reactorTempC
  | .pressureBar => payload.pressureBar

def messageFigures (event : SensorMessage) : Figures where
  get
    | .electricityPowerMw => event.electricityPowerMw
    | .fuelGasFlowKm3h => event.fuelGasFlowKm3h
    | .steamFlowTonh => event.steamFlowTonh
    | .feedFlowTonh => event.feedFlowTonh
    | .reactorTempC => event.reactorTempC
    | .pressureBar => event.pressureBar
  energyIntensityKgoeTon := event.energyIntensityKgoeTon
  carbonEmissionKgco2Ton := event.carbonEmissionKgco2Ton
  energyEfficiencyPercent := event.energyEfficiencyPercent

def rowFigures (row : SensorRow) : Figures where
  get
    | .electricityPowerMw => row.electricityPowerMw
    | .fuelGasFlowKm3h => row.fuelGasFlowKm3h
    | .steamFlowTonh => row.steamFlowTonh
    | .feedFlowTonh => row.feedFlowTonh
    | .reactorTempC => row.reactorTempC
    | .pressureBar => row.pressureBar
  energyIntensityKgoeTon := row.energyIntensityKgoeTon
  carbonEmissionKgco2Ton := row.carbonEmissionKgco2Ton
  energyEfficiencyPercent := row.energyEfficiencyPercent

def SensorReadingOut.figures (out : SensorReadingOut) : Figures where
  get
    | .electricityPowerMw => out.electricityPowerMw
    | .fuelGasFlowKm3h => out.fuelGasFlowKm3h
    | .steamFlowTonh => out.steamFlowTonh
    | .feedFlowTonh => out.feedFlowTonh
    | .reactorTempC => out.reactorTempC
    | .pressureBar => out.pressureBar
  energyIntensityKgoeTon := out.energyIntensityKgoeTon
  carbonEmissionKgco2Ton := out.carbonEmissionKgco2Ton
  energyEfficiencyPercent := out.energyEfficiencyPercent

/-- The derived figures are those of the base values beside them. -/
def Figures.Enriched (figures : Figures) : Prop :=
  ∃ power fuel steam feed temp, figures.get .electricityPowerMw = some power ∧
    figures.get .fuelGasFlowKm3h = some fuel ∧ figures.get .steamFlowTonh = some steam ∧
    figures.get .feedFlowTonh = some feed ∧ figures.get .reactorTempC = some temp ∧
    let derived := extEnrichReading power fuel steam feed temp
    figures.energyIntensityKgoeTon = some derived.energyIntensityKgoeTon ∧
      figures.carbonEmissionKgco2Ton = some derived.carbonEmissionKgco2Ton ∧
      figures.energyEfficiencyPercent = some derived.energyEfficiencyPercent

def KeepsSupplied (payload : SensorReadingIn) (figures : Figures) : Prop :=
  ∀ field value, payload.get field = some value → figures.get field = some value

section
variable (plants : Dict String Nat) (instantOf : String → Option Int) (dumps : Dict String String → String)

/-- The row of the reading: `none` for an unknown plant or a time that the database refuses. -/
def readingKey (now : Datetime) (payload : SensorReadingIn) : Option (Int × Nat) := do
  let plantId ← plants.get? payload.plantCode
  let ts ← instantOf (payload.time.getD (Timestamp.utc now)).isoformat
  some (ts, plantId)

/-- What is published, stored and returned has every supplied value and the figures derived from what it has. -/
structure Ingested.Keeps (now : Datetime) (payload : SensorReadingIn) (done : Ingested) : Prop where
  published : ∀ event ∈ done.published, event.plantCode = some payload.plantCode ∧
    (∀ ts, payload.time = some ts → event.time = some ts.isoformat) ∧
    KeepsSupplied payload (messageFigures event) ∧ (messageFigures event).Enriched
  stored : ∀ key, readingKey plants instantOf now payload = some key →
    ∃ row, done.table.get? key = some row ∧ KeepsSupplied payload (rowFigures row) ∧ (rowFigures row).Enriched
  answered : ∀ key, readingKey plants instantOf now payload = some key → ∃ out, done.result = .ok out
  returned : ∀ out, done.result = .ok out → out.plantCode = payload.plantCode ∧
    (∀ ts, payload.time = some ts → out.time = ts) ∧
    KeepsSupplied payload out.figures ∧ out.figures.Enriched

variable {plants instantOf dumps}

theorem orDefault_supplied {default : ℚ} (nonzero : default ≠ 0) (value : ExtRat) :
    orDefault (some value) default = value ↔ value ≠ .finite 0 := by
  unfold orDefault
  dsimp only
  split
  · rename_i zero
    subst zero
    constructor
    · intro same
      exact absurd (ExtRat.finite.inj same) nonzero
    · intro apart
      exact absurd rfl apart
  · rename_i apart
    exact ⟨fun _ => apart, fun _ => rfl⟩

theorem sensorEvent_enriched (payload : SensorReadingIn) (ts : Timestamp) :
    (messageFigures (sensorEvent payload ts)).Enriched :=
  ⟨_, _, _, _, _, rfl, rfl, rfl, rfl, rfl, rfl, rfl, rfl⟩

/-- Only a supplied zero is replaced, and the pressure has no default. -/
theorem sensorEvent_keeps_iff (payload : SensorReadingIn) (ts : Timestamp) :
    KeepsSupplied payload (messageFigures (sensorEvent payload ts)) ↔
      ∀ field, payload.get field = some (.finite 0) → field = .pressureBar := by
  have substituted : ∀ {supplied : Option ExtRat} {default : ℚ} {value : ExtRat}, default ≠ 0 → supplied = some value →
      (some (orDefault supplied default) = some value ↔ value ≠ .finite 0) := by
    intro supplied default value nonzero given
    rw [given, Option.some_inj]
    exact orDefault_supplied nonzero value
  have entry : ∀ field value, payload.get field = some value →
      ((messageFigures (sensorEvent payload ts)).get field = some value ↔ (value = .finite 0 → field = .pressureBar)) := by
    intro field value given
    cases field with
    | pressureBar => exact ⟨fun _ _ => rfl, fun _ => given⟩
    | electricityPowerMw | fuelGasFlowKm3h | steamFlowTonh | feedFlowTonh | reactorTempC =>
      refine (substituted (by norm_num) given).trans ⟨fun apart zero => absurd zero apart, fun only zero => ?_⟩
      exact nomatch only zero
  constructor
  · intro keeps field given
    exact (entry field _ given).mp (keeps field _ given) rfl
  · intro only field value given
    refine (entry field value given).mpr fun zero => only field ?_
    rw [given, zero]

/-- The event fits the columns, so the upsert stores it unless the plant or the time is refused. -/
theorem upsert_event (table : SensorTable) (payload : SensorReadingIn) (ts : Timestamp) :
    upsertReading plants instantOf dumps table (sensorEvent payload ts) =
      match plants.get? payload.plantCode with
      | none => (table, .error (.valueError ("Unknown plant_code: " ++ payload.plantCode)))
      | some plantId =>
        match instantOf ts.isoformat with
        | none => (table, .error (.valueError ts.isoformat))
        | some instant =>
          let row := applyFields dumps {} (sensorEvent payload ts)
          (table.set (instant, plantId) row, .ok row) := by
  have fits : fitsColumns (applyFields dumps {} (sensorEvent payload ts)) = true := rfl
  unfold upsertReading
  rw [show (sensorEvent payload ts).plantCode = some payload.plantCode from rfl,
    show (sensorEvent payload ts).time = some ts.isoformat from rfl]
  dsimp only
  cases plants.get? payload.plantCode with
  | none => rfl
  | some plantId =>
    dsimp only
    cases instantOf ts.isoformat with
    | none => rfl
    | some instant =>
      dsimp only
      unfold insertReading updateReading
      rw [fits]
      cases present : table.get? (instant, plantId) with
      | none => rfl
      | some existing =>
        dsimp only [Option.isNone_some, Bool.and_false]
        rw [applyFields_overwrites existing {} (sensorEvent payload ts), fits]
        rfl

theorem ingest_accepted {now : Datetime} {payload : SensorReadingIn} {key : Int × Nat} (brokerUp : Bool)
    (table : SensorTable) (accepted : readingKey plants instantOf now payload = some key) :
    let ts := payload.time.getD (Timestamp.utc now)
    ingestReading plants instantOf dumps brokerUp now table payload =
      ⟨if brokerUp then [sensorEvent payload ts] else [],
        table.set key (applyFields dumps {} (sensorEvent payload ts)), .ok (readingOut payload ts)⟩ := by
  unfold readingKey at accepted
  obtain ⟨plantId, known, accepted⟩ := Option.bind_eq_some_iff.mp accepted
  obtain ⟨instant, placed, accepted⟩ := Option.bind_eq_some_iff.mp accepted
  cases accepted
  unfold ingestReading
  dsimp only
  rw [upsert_event, known]
  dsimp only
  rw [placed]

/-- A refused reading stores and returns nothing; it was published before. -/
theorem ingest_refused {now : Datetime} {payload : SensorReadingIn} (brokerUp : Bool) (table : SensorTable)
    (refused : readingKey plants instantOf now payload = none) :
    ∃ e, ingestReading plants instantOf dumps brokerUp now table payload =
      ⟨if brokerUp then [sensorEvent payload (payload.time.getD (Timestamp.utc now))] else [], table, .error e⟩ := by
  unfold readingKey at refused
  unfold ingestReading
  dsimp only
  rw [upsert_event]
  cases known : plants.get? payload.plantCode with
  | none => exact ⟨_, rfl⟩
  | some plantId =>
    dsimp only
    cases placed : instantOf (payload.time.getD (Timestamp.utc now)).isoformat with
    | none => exact ⟨_, rfl⟩
    | some instant =>
      rw [known, Option.bind_eq_bind, Option.bind_some, placed] at refused
      exact nomatch refused

theorem supplied_time (now : Datetime) {payload : SensorReadingIn} {ts : Timestamp} (given : payload.time = some ts) :
    payload.time.getD (Timestamp.utc now) = ts := by
  rw [given, Option.getD_some]

/-- An event that is published or stored shows which values it kept. -/
theorem supplied_of_keeps {brokerUp : Bool} {now : Datetime} {table : SensorTable} {payload : SensorReadingIn}
    (kept : (ingestReading plants instantOf dumps brokerUp now table payload).Keeps plants instantOf now payload)
    (reached : brokerUp = true ∨ readingKey plants instantOf now payload ≠ none) :
    KeepsSupplied payload (messageFigures (sensorEvent payload (payload.time.getD (Timestamp.utc now)))) := by
  cases found : readingKey plants instantOf now payload with
  | some key =>
    obtain ⟨row, present, supplied, _⟩ := kept.stored key found
    rw [ingest_accepted brokerUp table found, Dict.get?_set_self] at present
    cases present
    exact supplied
  | none =>
    obtain ⟨e, refused⟩ := @ingest_refused plants instantOf dumps now payload brokerUp table found
    have up := reached.resolve_right fun stored => stored found
    subst up
    rw [refused] at kept
    exact (kept.published _ (List.mem_singleton.mpr rfl)).2.2.1

theorem ingest_keeps {now : Datetime} {payload : SensorReadingIn} (brokerUp : Bool) (table : SensorTable)
    (supplied : KeepsSupplied payload (messageFigures (sensorEvent payload (payload.time.getD (Timestamp.utc now))))) :
    (ingestReading plants instantOf dumps brokerUp now table payload).Keeps plants instantOf now payload := by
  have enriched := sensorEvent_enriched payload (payload.time.getD (Timestamp.utc now))
  have sent : ∀ event ∈ if brokerUp then [sensorEvent payload (payload.time.getD (Timestamp.utc now))] else [],
      event.plantCode = some payload.plantCode ∧ (∀ ts, payload.time = some ts → event.time = some ts.isoformat) ∧
        KeepsSupplied payload (messageFigures event) ∧ (messageFigures event).Enriched := by
    intro event member
    cases brokerUp with
    | false => exact nomatch member
    | true =>
      cases List.mem_singleton.mp member
      exact ⟨rfl, fun ts given => by rw [← supplied_time now given]; rfl, supplied, enriched⟩
  cases found : readingKey plants instantOf now payload with
  | some key =>
    rw [ingest_accepted brokerUp table found]
    refine ⟨sent, ?_, fun _ _ => ⟨_, rfl⟩, ?_⟩
    · intro other same
      cases found.symm.trans same
      exact ⟨_, Dict.get?_set_self .., supplied, enriched⟩
    · intro out answered
      cases answered
      exact ⟨rfl, fun ts => supplied_time now, supplied, enriched⟩
  | none =>
    obtain ⟨e, refused⟩ := @ingest_refused plants instantOf dumps now payload brokerUp table found
    rw [refused]
    refine ⟨sent, ?_, ?_, ?_⟩
    · intro key same
      exact nomatch found.symm.trans same
    · intro key same
      exact nomatch found.symm.trans same
    · intro out answered
      exact nomatch answered

/-- With the broker down, a refused reading leaves nothing to compare. -/
theorem ingest_keeps_silent {now : Datetime} {payload : SensorReadingIn} (table : SensorTable)
    (found : readingKey plants instantOf now payload = none) :
    (ingestReading plants instantOf dumps false now table payload).Keeps plants instantOf now payload := by
  obtain ⟨e, refused⟩ := @ingest_refused plants instantOf dumps now payload false table found
  rw [refused]
  refine ⟨?_, ?_, ?_, ?_⟩
  · intro event member
    exact nomatch member
  · intro key same
    exact nomatch found.symm.trans same
  · intro key same
    exact nomatch found.symm.trans same
  · intro out answered
    exact nomatch answered

end

/-- Every supplied value is kept exactly where no base value is zero, or where nothing is published and nothing stored. -/
theorem ingest_keeps_iff (plants : Dict String Nat) (instantOf : String → Option Int)
    (dumps : Dict String String → String) (brokerUp : Bool) (now : Datetime) (table : SensorTable)
    (payload : SensorReadingIn) :
    (ingestReading plants instantOf dumps brokerUp now table payload).Keeps plants instantOf now payload ↔
      (∀ field, payload.get field = some (.finite 0) → field = .pressureBar) ∨
        brokerUp = false ∧ readingKey plants instantOf now payload = none := by
  have keeps := sensorEvent_keeps_iff payload (payload.time.getD (Timestamp.utc now))
  constructor
  · intro kept
    by_cases reached : brokerUp = true ∨ readingKey plants instantOf now payload ≠ none
    · exact .inl (keeps.mp (supplied_of_keeps kept reached))
    · rw [not_or, Bool.not_eq_true, not_not] at reached
      exact .inr reached
  · rintro (only | ⟨rfl, refused⟩)
    · exact ingest_keeps brokerUp table (keeps.mpr only)
    · exact ingest_keeps_silent table refused

/-- A unit that is shut down: no feed. -/
def shutdownReading : SensorReadingIn := { plantCode := "olefin", feedFlowTonh := some (.finite 0) }

def shutdownDay : Datetime := ⟨2026, 8, 17, 0, by decide⟩

theorem shutdown_replaced : ¬ ∀ (plants : Dict String Nat) (instantOf : String → Option Int)
    (dumps : Dict String String → String) (brokerUp : Bool) (now : Datetime) (table : SensorTable)
    (payload : SensorReadingIn),
    (ingestReading plants instantOf dumps brokerUp now table payload).Keeps plants instantOf now payload := by
  intro always
  have kept := always onePlant (fun _ => some 0) (fun _ => "") true shutdownDay .empty shutdownReading
  have supplied := (kept.published _ (List.mem_singleton.mpr rfl)).2.2.1 .feedFlowTonh _ rfl
  exact absurd supplied (by decide)

end Iems.Api
