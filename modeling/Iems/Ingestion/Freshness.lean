import Iems.Core.Config
import Iems.Ingestion.Quality
import Iems.Repositories.LatestReading
import Mathlib.Data.Rat.Floor
import Mathlib.Tactic.Linarith

/-! Stream freshness, and the arrivals that it vouches for. -/
namespace Iems.Ingestion
open Lib Iems.Core Iems.Repositories

inductive StreamStatus where
  | ok | stale | missing | badQuality
  deriving DecidableEq

structure FreshnessStatus where
  plantCode : String
  status : StreamStatus
  ageSeconds : Option ℚ
  thresholdSeconds : ℚ
  message : String
  quality : Option String := none
  source : Option String := none
  deriving DecidableEq

/-- `QualityCode(quality)`: `none` where it raises. -/
def QualityCode.ofValue? (text : String) : Option QualityCode :=
  [QualityCode.good, .uncertain, .bad, .unknown].find? fun code => code.value == text

/-- `none` where the text is no quality code; a missing or empty quality counts as healthy. -/
def reportsHealthy (cfg : Settings) (quality : Option String) : Option Bool :=
  match quality.filter (· ≠ "") with
  | none => some true
  | some text => (QualityCode.ofValue? text).map fun code => qualityIsHealthy code cfg.opcUaAllowUncertain

section
variable (cfg : Settings) (plants : Dict String Nat) (table : SensorTable)

/-- The quality and the source that the second query finds; a query that fails finds nothing. -/
def latestQuality (plantCode : String) (queryFails : Bool) : Option String × Option String :=
  match getLatestReading plants table plantCode with
  | some (_, reading) => if queryFails then (none, none) else (reading.quality, reading.source)
  | none => (none, none)

/-- `none` where it raises. -/
def checkFreshness (plantCode : String) (now : Int) (queryFails : Bool) : Option FreshnessStatus :=
  let age := readingAgeSeconds plants table plantCode now
  let threshold := cfg.staleDataSeconds
  let (quality, source) := latestQuality plants table plantCode queryFails
  match age with
  | none =>
    some
      { plantCode := plantCode
        status := .missing
        ageSeconds := none
        thresholdSeconds := threshold
        message := "No sensor readings stored for '" ++ plantCode ++ "'"
        quality := quality
        source := source }
  | some age =>
    if threshold < age then
      some
        { plantCode := plantCode
          status := .stale
          ageSeconds := some (roundTo 3 age)
          thresholdSeconds := threshold
          message := "Stream stale for '" ++ plantCode ++ "': last sample " ++ formatFixed 1 age ++
            "s ago (threshold " ++ formatFixed 1 threshold ++ "s)"
          quality := quality
          source := source }
    else
      match reportsHealthy cfg quality with
      | none => none
      | some false =>
        some
          { plantCode := plantCode
            status := .badQuality
            ageSeconds := some (roundTo 3 age)
            thresholdSeconds := threshold
            message := "OPC data quality '" ++ quality.getD "" ++ "' for '" ++ plantCode ++ "'"
            quality := quality
            source := source }
      | some true =>
        some
          { plantCode := plantCode
            status := .ok
            ageSeconds := some (roundTo 3 age)
            thresholdSeconds := threshold
            message := "Stream healthy"
            quality := quality
            source := source }

def reportsOk (plantCode : String) (now : Int) (queryFails : Bool) : Prop :=
  (checkFreshness cfg plants table plantCode now queryFails).map FreshnessStatus.status = some .ok

variable {cfg plants table}

theorem checkFreshness_plantCode {plantCode : String} {now : Int} {queryFails : Bool} {status : FreshnessStatus}
    (checked : checkFreshness cfg plants table plantCode now queryFails = some status) : status.plantCode = plantCode := by
  unfold checkFreshness at checked
  dsimp only at checked
  split at checked
  · cases checked
    rfl
  · split at checked
    · cases checked
      rfl
    · split at checked
      · exact nomatch checked
      · cases checked
        rfl
      · cases checked
        rfl

theorem latestQuality_healthy {plantCode : String} {queryFails : Bool} {ts : Int} {row : SensorRow}
    (latest : getLatestReading plants table plantCode = some (ts, row)) :
    reportsHealthy cfg (latestQuality plants table plantCode queryFails).1 = some true ↔
      queryFails = true ∨ reportsHealthy cfg row.quality = some true := by
  unfold latestQuality
  rw [latest]
  cases queryFails with
  | false => simp
  | true => simp [reportsHealthy]

theorem reportsOk_iff {plantCode : String} {now : Int} {queryFails : Bool} :
    reportsOk cfg plants table plantCode now queryFails ↔
      ∃ ts row, getLatestReading plants table plantCode = some (ts, row) ∧
        ((now - ts : Int) : ℚ) / 1000000 ≤ cfg.staleDataSeconds ∧
        (queryFails = true ∨ reportsHealthy cfg row.quality = some true) := by
  unfold reportsOk checkFreshness readingAgeSeconds
  cases latest : getLatestReading plants table plantCode with
  | none => simp
  | some found =>
    obtain ⟨ts, row⟩ := found
    have healthy := @latestQuality_healthy cfg _ _ _ queryFails _ _ latest
    simp only [Option.map_some, Option.some.injEq, Prod.mk.injEq]
    constructor
    · intro ok
      split at ok
      · simp at ok
      · rename_i fresh
        cases reported : reportsHealthy cfg (latestQuality plants table plantCode queryFails).1 with
        | none => simp [reported] at ok
        | some verdict =>
          cases verdict with
          | false => simp [reported] at ok
          | true => exact ⟨ts, row, ⟨rfl, rfl⟩, not_lt.mp fresh, healthy.mp reported⟩
    · rintro ⟨_, _, ⟨rfl, rfl⟩, fresh, verdict⟩
      rw [if_neg (not_lt.mpr fresh), healthy.mpr verdict]
      rfl

end

/-! ### What an ok vouches for -/

/-- A message and the instant at which the system received it. -/
structure Arrival where
  receivedAt : Int
  payload : SensorMessage
  deriving DecidableEq

section
variable (plants : Dict String Nat) (instantOf : String → Option Int) (dumps : Dict String String → String)

/-- The table after the arrivals. -/
def tableAfter (arrivals : List Arrival) : SensorTable :=
  consume plants instantOf dumps .empty (arrivals.map Arrival.payload)

/-- A reading of the plant that the upsert stores. -/
def isAccepted (plantCode : String) (payload : SensorMessage) : Prop :=
  payload.plantCode = some plantCode ∧ ∃ row, (upsertReading plants instantOf dumps .empty payload).2 = .ok row

end

section
variable {cfg : Settings} {plants : Dict String Nat} {instantOf : String → Option Int}
  {dumps : Dict String String → String} {arrivals : List Arrival} {plantCode : String} {queryFails : Bool}

/-- Some accepted reading arrived no earlier than the instant, up to the threshold after it. -/
def Covered (cfg : Settings) (plants : Dict String Nat) (instantOf : String → Option Int)
    (dumps : Dict String String → String) (arrivals : List Arrival) (plantCode : String) (ts : Int) : Prop :=
  ∃ arrival ∈ arrivals, isAccepted plants instantOf dumps plantCode arrival.payload ∧
    (ts ≤ arrival.receivedAt ∨ (ts : ℚ) + cfg.staleDataSeconds * 1000000 < arrival.receivedAt)

theorem ok_of_covered {now ts : Int} (covered : Covered cfg plants instantOf dumps arrivals plantCode ts)
    (after : ∀ arrival ∈ arrivals, isAccepted plants instantOf dumps plantCode arrival.payload →
      arrival.receivedAt ≤ now)
    (fresh : ((now - ts : Int) : ℚ) / 1000000 ≤ cfg.staleDataSeconds) :
    ∃ arrival ∈ arrivals, isAccepted plants instantOf dumps plantCode arrival.payload ∧
      (now : ℚ) - cfg.staleDataSeconds * 1000000 ≤ arrival.receivedAt := by
  obtain ⟨arrival, member, accepted, onTime⟩ := covered
  refine ⟨arrival, member, accepted, ?_⟩
  rw [div_le_iff₀ (by norm_num)] at fresh
  push_cast at fresh
  rcases onTime with earlier | past
  · have : (ts : ℚ) ≤ arrival.receivedAt := by exact_mod_cast earlier
    linarith
  · have : (arrival.receivedAt : ℚ) ≤ now := by exact_mod_cast after arrival member accepted
    linarith

/-- A time that nothing covers counts as fresh until its age is the threshold, when no arrival is that recent. -/
theorem masked_of_uncovered {ts : Int} (uncovered : ¬ Covered cfg plants instantOf dumps arrivals plantCode ts) :
    ∃ now : Int,
      (∀ arrival ∈ arrivals, isAccepted plants instantOf dumps plantCode arrival.payload → arrival.receivedAt ≤ now) ∧
      ((now - ts : Int) : ℚ) / 1000000 ≤ cfg.staleDataSeconds ∧
      ∀ arrival ∈ arrivals, isAccepted plants instantOf dumps plantCode arrival.payload →
        (arrival.receivedAt : ℚ) < now - cfg.staleDataSeconds * 1000000 := by
  unfold Covered at uncovered
  push Not at uncovered
  have floor := Int.floor_le (cfg.staleDataSeconds * 1000000)
  have next := Int.lt_floor_add_one (cfg.staleDataSeconds * 1000000)
  refine ⟨ts + ⌊cfg.staleDataSeconds * 1000000⌋, ?_, ?_, ?_⟩
  · intro arrival member accepted
    have within : ((arrival.receivedAt - ts : Int) : ℚ) ≤ cfg.staleDataSeconds * 1000000 := by
      push_cast
      linarith [(uncovered arrival member accepted).2]
    have := Int.le_floor.mpr within
    omega
  · push_cast
    rw [div_le_iff₀ (by norm_num)]
    simpa using floor
  · intro arrival member accepted
    have early : ((arrival.receivedAt + 1 : Int) : ℚ) ≤ ts := by
      exact_mod_cast (uncovered arrival member accepted).1
    push_cast at early ⊢
    linarith

end

/-- An ok at any instant from the last arrival on is vouched for by an arrival within the threshold, exactly where
the latest payload time is covered or its row cannot be reported ok. -/
theorem ok_received_iff (cfg : Settings) (plants : Dict String Nat) (instantOf : String → Option Int)
    (dumps : Dict String String → String) (arrivals : List Arrival) (plantCode : String) (queryFails : Bool) :
    (∀ now : Int,
      (∀ arrival ∈ arrivals, isAccepted plants instantOf dumps plantCode arrival.payload → arrival.receivedAt ≤ now) →
      reportsOk cfg plants (tableAfter plants instantOf dumps arrivals) plantCode now queryFails →
      ∃ arrival ∈ arrivals, isAccepted plants instantOf dumps plantCode arrival.payload ∧
        (now : ℚ) - cfg.staleDataSeconds * 1000000 ≤ arrival.receivedAt) ↔
    ∀ ts row, getLatestReading plants (tableAfter plants instantOf dumps arrivals) plantCode = some (ts, row) →
      (queryFails = true ∨ reportsHealthy cfg row.quality = some true) →
      Covered cfg plants instantOf dumps arrivals plantCode ts := by
  constructor
  · intro vouched ts row latest healthy
    by_contra uncovered
    obtain ⟨now, after, fresh, older⟩ := masked_of_uncovered uncovered
    obtain ⟨arrival, member, accepted, recent⟩ := vouched now after (reportsOk_iff.mpr ⟨ts, row, latest, fresh, healthy⟩)
    exact absurd (older arrival member accepted) (not_lt.mpr recent)
  · intro covered now after ok
    obtain ⟨ts, row, latest, fresh, healthy⟩ := reportsOk_iff.mp ok
    exact ok_of_covered (covered ts row latest healthy) after fresh

theorem timely_covered {cfg : Settings} {plants : Dict String Nat} {instantOf : String → Option Int}
    {dumps : Dict String String → String} {arrivals : List Arrival} {plantCode : String} {plantId : Nat}
    (known : plants.get? plantCode = some plantId)
    (own : ∀ code, plants.get? code = some plantId → code = plantCode)
    (timely : ∀ arrival ∈ arrivals, ∀ ts, rowKey plants instantOf dumps arrival.payload = some (ts, plantId) →
      ts ≤ arrival.receivedAt) {ts : Int} {row : SensorRow}
    (latest : getLatestReading plants (tableAfter plants instantOf dumps arrivals) plantCode = some (ts, row)) :
    Covered cfg plants instantOf dumps arrivals plantCode ts := by
  obtain ⟨⟨payload, member, key⟩, _⟩ := getLatestReading_consumed known latest
  obtain ⟨arrival, arrived, rfl⟩ := List.mem_map.mp member
  refine ⟨arrival, arrived, ⟨?_, ?_⟩, Or.inl (timely arrival arrived ts key)⟩
  · have held := key
    unfold rowKey at held
    obtain ⟨code, named, held⟩ := Option.bind_eq_some_iff.mp held
    obtain ⟨found, mapped, held⟩ := Option.bind_eq_some_iff.mp held
    obtain ⟨time, _, held⟩ := Option.bind_eq_some_iff.mp held
    obtain ⟨instant, _, held⟩ := Option.bind_eq_some_iff.mp held
    split at held
    · obtain ⟨_, rfl⟩ := Prod.mk.inj (Option.some.inj held)
      rw [named, own code mapped]
    · cases held
  · exact upsertReading_ok_iff.mpr (by rw [key]; rfl)

/-! ### A reading from the future -/

def noonInstant (time : String) : Option Int := if time = "2026-07-01T12:00:00+00:00" then some 3600000000 else none

/-- One reading, received an hour before its own time. -/
def futureDated : List Arrival := [⟨0, olefinMessage 10⟩]

theorem outage_reported_ok :
    ¬ ∀ (cfg : Settings) (plants : Dict String Nat) (instantOf : String → Option Int)
        (dumps : Dict String String → String) (arrivals : List Arrival) (plantCode : String) (now : Int),
      (∀ arrival ∈ arrivals, isAccepted plants instantOf dumps plantCode arrival.payload → arrival.receivedAt ≤ now) →
      reportsOk cfg plants (tableAfter plants instantOf dumps arrivals) plantCode now false →
      ∃ arrival ∈ arrivals, isAccepted plants instantOf dumps plantCode arrival.payload ∧
        (now : ℚ) - cfg.staleDataSeconds * 1000000 ≤ arrival.receivedAt := by
  intro vouched
  have ok : reportsOk {} onePlant (tableAfter onePlant noonInstant (fun _ => "") futureDated) "olefin" 3600000000
      false := by
    unfold reportsOk
    decide +kernel
  obtain ⟨arrival, member, _, recent⟩ := vouched {} onePlant noonInstant (fun _ => "") futureDated "olefin" 3600000000
    (by simp [futureDated]) ok
  obtain rfl := List.mem_singleton.mp member
  exact absurd recent (by decide +kernel)

end Iems.Ingestion
