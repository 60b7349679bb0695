import Iems.Ingestion.PublishedQuality
import Iems.Ingestion.SessionSetup

/-! The timezones of cached samples, and the published time that is chosen among them. -/
namespace Iems.Ingestion
open Lib Iems.Core Iems.Carbon Relation

variable {Node : Type} {cfg : Settings} {ids : NodeIds Node} {tagMap : TagMap} {server : Server}

def AwareSample (sample : TagSample) : Prop :=
  (∀ stamp ∈ sample.serverTimestamp, stamp.isAware = true) ∧ ∀ stamp ∈ sample.sourceTimestamp, stamp.isAware = true

def AwareCache (s : Session Node) : Prop :=
  ∀ plantCode field sample, s.cached plantCode field = some sample → AwareSample sample

/-- The read path puts UTC on naive timestamps. -/
theorem readDatavalue_aware (dv : Option DataValue) : AwareSample (readDatavalue dv) := by
  have assumed : ∀ (held : Option Timestamp), ∀ stamp ∈ held.map Timestamp.assumeUtc, stamp.isAware = true := by
    intro held stamp member
    obtain ⟨raw, _, rfl⟩ := Option.map_eq_some_iff.mp member
    exact Timestamp.assumeUtc_isAware raw
  cases dv with
  | none => exact ⟨fun _ member => (nomatch member), fun _ member => (nomatch member)⟩
  | some dv => exact ⟨assumed dv.serverTimestamp, assumed dv.sourceTimestamp⟩

theorem readNode_aware {plantCode field : String} {sample : TagSample}
    (read : readNode server plantCode field = .ok sample) : AwareSample sample := by
  unfold readNode at read
  split at read
  · cases read
    exact readDatavalue_aware _
  · cases read
    exact readDatavalue_aware _
  · cases read

theorem awareCache_store {s : Session Node} {plantCode field : String} {sample : TagSample}
    (held : AwareCache s) (aware : AwareSample sample) : AwareCache (s.store plantCode field sample) := by
  intro code other stored found
  rw [cached_store] at found
  split at found
  · rw [← Option.some.inj found]
    exact aware
  · exact held code other stored found

theorem awareCache_move {s t : Session Node} (move : SetupMove ids tagMap server s t) (held : AwareCache s) :
    AwareCache t := by
  cases move with
  | openPlant code =>
    intro plantCode field sample found
    rw [cached_openPlant] at found
    exact held plantCode field sample found
  | request | subscribe => exact held
  | seed _ _ read => exact awareCache_store held (readNode_aware read)

theorem awareCache_connect {s : Session Node} (held : AwareCache s) :
    AwareCache (connect cfg ids tagMap server s).1 :=
  connect_invariant (fun _ _ => awareCache_move) held held held

theorem readOpen_aware {plant : PlantTagMap} {s : Session Node} (held : AwareCache s) :
    AwareCache (readOpen cfg ids server plant s).1 ∧
      ∀ samples, (readOpen cfg ids server plant s).2.samples = .ok samples →
        ∀ field sample, samples.get? field = some sample → AwareSample sample := by
  rcases @readOpen_cases _ cfg ids server plant s with ⟨same, notPolled⟩ | ⟨out, polled, same⟩
  · refine ⟨by rw [same]; exact held, fun samples answered field sample found => ?_⟩
    cases answer : (readOpen cfg ids server plant s).2 with
    | cached stored =>
      rw [answer] at answered
      cases answered
      obtain ⟨_, _, _, fromCache⟩ := readOpen_cached answer
      exact held plant.code field sample (fromCache field sample found)
    | polled out => exact absurd answer (notPolled out)
    | failed error =>
      rw [answer] at answered
      cases answered
  · have fresh : ∀ field sample, out.get? field = some sample → AwareSample sample := by
      intro field sample found
      rcases pollFields_sample polled found with before | ⟨_, _, _, _, _, read⟩
      · cases before
      · exact readNode_aware read
    rw [same]
    refine ⟨fun plantCode field sample found => ?_, fun samples answered field sample found => ?_⟩
    · rw [cached_polled] at found
      split at found
      · exact fresh field sample found
      · exact held plantCode field sample found
    · cases answered
      exact fresh field sample found

theorem readPlant_aware {plant : PlantTagMap} {s : Session Node} (held : AwareCache s) :
    AwareCache (readPlant cfg ids tagMap server plant s).1 ∧
      ∀ samples, (readPlant cfg ids tagMap server plant s).2.samples = .ok samples →
        ∀ field sample, samples.get? field = some sample → AwareSample sample := by
  have connected := @awareCache_connect _ cfg ids tagMap server s held
  unfold readPlant
  rw [ensure_eq]
  split
  · rename_i next error ran
    rw [ran] at connected
    exact ⟨connected, fun samples answered => by cases answered⟩
  · rename_i next ran
    rw [ran] at connected
    exact readOpen_aware connected

/-! ### The published time -/

theorem fieldTime_aware {plant : PlantTagMap} {samples : Dict String TagSample}
    (aware : ∀ field sample, samples.get? field = some sample → AwareSample sample) {stamp : Timestamp}
    (member : stamp ∈ sensorFields.filterMap (fieldTime plant samples)) : stamp.isAware = true := by
  obtain ⟨field, _, timed⟩ := List.mem_filterMap.mp member
  unfold fieldTime at timed
  obtain ⟨tag, _, timed⟩ := Option.bind_eq_some_iff.mp timed
  obtain ⟨sample, sampled, timed⟩ := Option.bind_eq_some_iff.mp timed
  obtain ⟨value, _, held⟩ := Option.bind_eq_some_iff.mp timed
  exact (aware field sample sampled).1 stamp held

theorem asOf_aware {times : List Timestamp} {now : Datetime} (aware : ∀ stamp ∈ times, stamp.isAware = true)
    {stamp : Timestamp} (found : asOf times now = some stamp) : stamp.isAware = true := by
  cases times with
  | nil =>
    cases found
    rfl
  | cons first rest => exact aware stamp (Timestamp.latest?_mem found)

theorem publish_aware {plant : PlantTagMap} {samples : Dict String TagSample}
    (aware : ∀ field sample, samples.get? field = some sample → AwareSample sample) (now : Datetime)
    (plantCode : String) (perTag : Dict String QualityCode) :
    ∃ reading, publish cfg now plantCode (gather plant samples) perTag = .ok reading ∧
      ∃ stamp : Timestamp, stamp.isAware = true ∧ reading.time = stamp.isoformat := by
  rcases publish_cases now plantCode perTag with ⟨⟨a, memberA, b, memberB, apart⟩, _⟩ | ⟨reading, published, _, _, stamp, found, time⟩
  · rw [fieldTime_aware aware memberA, fieldTime_aware aware memberB] at apart
    exact absurd rfl apart
  · rw [gather_eq] at found
    exact ⟨reading, published, stamp, asOf_aware (fun _ => fieldTime_aware aware) found, time⟩

/-- No timestamp comparison raises, and the published time is that of an aware timestamp. -/
def OffsetTime (result : Except ReaderError PlantReading) : Prop :=
  result ≠ .error .typeError ∧ ∀ reading, result = .ok reading →
    ∃ stamp : Timestamp, stamp.isAware = true ∧ reading.time = stamp.isoformat

theorem offsetTime_ok {reading : PlantReading} {stamp : Timestamp} (aware : stamp.isAware = true)
    (timed : reading.time = stamp.isoformat) : OffsetTime (.ok reading) := by
  refine ⟨fun wrong => (nomatch wrong), fun other same => ?_⟩
  rw [← Except.ok.inj same]
  exact ⟨stamp, aware, timed⟩

theorem offsetTime_error {error : ReaderError} (other : error ≠ .typeError) : OffsetTime (.error error) :=
  ⟨fun same => other (Except.error.inj same), fun _ wrong => (nomatch wrong)⟩

theorem publishGathered_offset {plant : PlantTagMap} {samples : Dict String TagSample}
    (aware : ∀ field sample, samples.get? field = some sample → AwareSample sample) (now : Datetime)
    (plantCode : String) : OffsetTime (publishGathered cfg now plantCode (gather plant samples)) := by
  have published : ∀ perTag, OffsetTime (publish cfg now plantCode (gather plant samples) perTag) := by
    intro perTag
    obtain ⟨reading, done, stamp, isAware, timed⟩ := @publish_aware cfg plant samples aware now plantCode perTag
    rw [done]
    exact offsetTime_ok isAware timed
  unfold publishGathered
  dsimp only
  split
  · exact published _
  · split
    · exact offsetTime_error (fun wrong => (nomatch wrong))
    · exact published _

theorem readOpcuaPlant_offset {samples : Except SessionError (Dict String TagSample)}
    (aware : ∀ held, samples = .ok held → ∀ field sample, held.get? field = some sample → AwareSample sample)
    (sine : ℚ → ℚ) (t : ℚ) (now : Datetime) (plantCode : String) :
    OffsetTime (readOpcuaPlant cfg tagMap sine t now samples plantCode) := by
  unfold readOpcuaPlant
  split
  · exact offsetTime_error (fun wrong => (nomatch wrong))
  · dsimp only
    split
    · split
      · exact offsetTime_error (fun wrong => (nomatch wrong))
      · exact @offsetTime_ok (simulatePlantReading sine now plantCode t) (.utc now) rfl rfl
    · split
      · exact offsetTime_error (fun wrong => (nomatch wrong))
      · rename_i held
        exact publishGathered_offset (aware held rfl) now plantCode

/-! ### Runs -/

/-- What `read_plant` gives the reader in a state of the session. -/
def sessionSamples (cfg : Settings) (ids : NodeIds Node) (tagMap : TagMap) (server : Server) (plantCode : String)
    (s : Session Node) : Except SessionError (Dict String TagSample) :=
  match tagMap.get? plantCode with
  | none => .ok .empty
  | some plant => (readPlant cfg ids tagMap server plant s).2.samples

/-- A notification that `update_cache` stores carries no naive timestamp. -/
def StoredAware (ids : NodeIds Node) (tagMap : TagMap) (s : Session Node) : SessionEvent Node → Prop
  | .notify n => n.node ∈ s.requested → (locate tagMap (ids.print n.node)).isSome = true → AwareSample n.sample
  | _ => True

theorem awareCache_step [DecidableEq Node] {s : Session Node} {event : SessionEvent Node} (held : AwareCache s)
    (stored : StoredAware ids tagMap s event) : AwareCache (sessionStep cfg ids tagMap s event) := by
  cases event with
  | connect server => exact awareCache_connect held
  | readPlant plantCode server =>
    rw [sessionStep]
    split
    · exact held
    · exact (readPlant_aware held).1
  | disconnect => exact held
  | notify n =>
    rw [sessionStep]
    split
    · rename_i requested
      unfold updateCache
      split
      · exact held
      · rename_i located
        exact awareCache_store held (stored requested (by rw [located]; rfl))
    · exact held

/-- An aware cache after a notification shows that what was stored was aware. -/
theorem storedAware_of_after [DecidableEq Node] {s : Session Node} {event : SessionEvent Node}
    (after : AwareCache (sessionStep cfg ids tagMap s event)) : StoredAware ids tagMap s event := by
  cases event with
  | connect | readPlant | disconnect => trivial
  | notify n =>
    intro requested located
    obtain ⟨⟨plantCode, field⟩, found⟩ := Option.isSome_iff_exists.mp located
    rw [sessionStep, if_pos requested] at after
    unfold updateCache at after
    rw [found] at after
    exact after plantCode field n.sample (by rw [cached_store, if_pos ⟨rfl, rfl⟩])

/-- Notifications reach the cache with the timestamps they carry; only reads put UTC on naive ones. -/
theorem cacheTimes_aware [DecidableEq Node] (cfg : Settings) (ids : NodeIds Node) (tagMap : TagMap)
    (events : List (SessionEvent Node)) :
    (∀ before after, events = before ++ after →
      let s := run (sessionStep cfg ids tagMap) {} before
      AwareCache s ∧ ∀ server sine t now plantCode, OffsetTime
        (readOpcuaPlant cfg tagMap sine t now (sessionSamples cfg ids tagMap server plantCode s) plantCode)) ↔
      Meets (sessionStep cfg ids tagMap) (StoredAware ids tagMap) {} events := by
  constructor
  · intro each
    rw [meets_iff_prefixes]
    intro before event after split
    obtain ⟨aware, _⟩ := each (before ++ [event]) after (by rw [split, List.append_assoc]; rfl)
    rw [run_snoc] at aware
    exact storedAware_of_after aware
  · intro meets before after split
    rw [split, meets_append] at meets
    have start : AwareCache ({} : Session Node) := by
      intro plantCode field sample found
      cases found
    have aware := meets.1.invariant (fun s event held stored => awareCache_step held stored) start
    refine ⟨aware, fun server sine t now plantCode => readOpcuaPlant_offset ?_ sine t now plantCode⟩
    intro held answered
    unfold sessionSamples at answered
    split at answered
    · rw [← Except.ok.inj answered]
      intro field sample found
      cases found
    · exact (readPlant_aware aware).2 held answered

def timedServer : Server where
  read := fun _ _ => .value ⟨.number (.finite 10), some 0, some (.utc julyNoon), none⟩

def naiveNoon : Timestamp := ⟨julyNoon, none, fun _ member => (nomatch member)⟩

def naivePower : Notification String :=
  ⟨"ns=2;s=Olefin.electricity_power_mw", .number (.finite 12),
    some ⟨.number (.finite 12), some 0, some naiveNoon, none⟩⟩

/-- One naive notification among seeded samples makes the choice of the latest time raise. -/
theorem naiveNotification_raises :
    ¬ ∀ (cfg : Settings) (ids : NodeIds String), (∀ node, ids.parse (ids.print node) = some node) →
      ∀ (tagMap : TagMap) (events : List (SessionEvent String)),
      let s := run (sessionStep cfg ids tagMap) {} events
      AwareCache s ∧ ∀ server sine t now plantCode, OffsetTime
        (readOpcuaPlant cfg tagMap sine t now (sessionSamples cfg ids tagMap server plantCode s) plantCode) := by
  intro claim
  obtain ⟨_, timed⟩ := claim connectedCfg textIds (fun _ => rfl) olefinTags [.connect timedServer, .notify naivePower]
  exact (timed timedServer (fun _ => 0) 0 julyNoon "olefin").1 (by decide +kernel)

end Iems.Ingestion
