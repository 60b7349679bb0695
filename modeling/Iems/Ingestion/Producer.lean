import Iems.Ingestion.PublishedQuality
import Iems.Lib.FirstFailure

/-! The producer: one pass over the configured plants each second, its handler outside the loop. -/
namespace Iems.Ingestion
open Lib Iems.Core Iems.Carbon

/-- What a plant meets when its turn comes: the clocks, its samples and whether the broker takes the message. -/
structure PlantTurn where
  t : ℚ
  now : Datetime
  samples : Except SessionError (Dict String TagSample)
  brokerTakes : Bool

inductive TickError where
  | read (error : ReaderError)
  | publish

/-- A record of the sensor topic. -/
structure TopicRecord where
  key : String
  value : PlantReading

section
variable (cfg : Settings) (tagMap : TagMap) (sine : ℚ → ℚ)

def readTurn (plantCode : String) (turn : PlantTurn) : Except ReaderError PlantReading :=
  readOpcuaPlant cfg tagMap sine turn.t turn.now turn.samples plantCode

/-- The records on the topic, and the first error, which ends the pass. -/
def tickLoop : List (String × PlantTurn) → List TopicRecord × Option TickError
  | [] => ([], none)
  | (plantCode, turn) :: rest =>
    match readTurn cfg tagMap sine plantCode turn with
    | .error e => ([], some (.read e))
    | .ok payload =>
      if turn.brokerTakes then
        let (later, error) := tickLoop rest
        (⟨payload.plantCode, payload⟩ :: later, error)
      else ([], some .publish)

def plantTurns (turns : ℕ → PlantTurn) : List (String × PlantTurn) :=
  cfg.producerPlantCodeList.zipIdx.map fun slot => (slot.1, turns slot.2)

def tick (turns : ℕ → PlantTurn) : List TopicRecord × Option TickError :=
  tickLoop cfg tagMap sine (plantTurns cfg turns)

/-- `run_forever`: an error of a pass is logged, and the next pass begins. -/
def runForever (cycles : List (ℕ → PlantTurn)) : List TopicRecord :=
  cycles.flatMap fun turns => (tick cfg tagMap sine turns).1

/-- The record of a plant whose read and publication succeed, whatever happens to the other plants. -/
def ownRecord (slot : String × PlantTurn) : Option TopicRecord :=
  match readTurn cfg tagMap sine slot.1 slot.2 with
  | .error _ => none
  | .ok payload => if slot.2.brokerTakes then some ⟨payload.plantCode, payload⟩ else none

variable {cfg tagMap sine}

theorem tickLoop_records (slots : List (String × PlantTurn)) :
    (tickLoop cfg tagMap sine slots).1 = untilNone (ownRecord cfg tagMap sine) slots := by
  induction slots with
  | nil => rfl
  | cons slot rest ih =>
    obtain ⟨plantCode, turn⟩ := slot
    have own : ownRecord cfg tagMap sine (plantCode, turn) = match readTurn cfg tagMap sine plantCode turn with
        | .error _ => none
        | .ok payload => if turn.brokerTakes then some ⟨payload.plantCode, payload⟩ else none := rfl
    unfold tickLoop untilNone
    rw [own]
    cases readTurn cfg tagMap sine plantCode turn with
    | error e => rfl
    | ok payload =>
      cases turn.brokerTakes with
      | false => rfl
      | true =>
        dsimp only
        rw [← ih]
        rfl

/-- A unit whose turn fails in every pass keeps all later units of the list off the topic. -/
theorem outage_silences_later {cycles : List (ℕ → PlantTurn)} {before after : List String} {plantCode : String}
    (listed : cfg.producerPlantCodeList = before ++ plantCode :: after)
    (down : ∀ turns ∈ cycles, ownRecord cfg tagMap sine (plantCode, turns before.length) = none) :
    runForever cfg tagMap sine cycles = cycles.flatMap fun turns =>
      untilNone (ownRecord cfg tagMap sine) (before.zipIdx.map fun slot => (slot.1, turns slot.2)) := by
  unfold runForever
  rw [List.flatMap_def, List.flatMap_def]
  congr 1
  apply List.map_congr_left
  intro turns member
  unfold tick plantTurns
  rw [tickLoop_records, listed, List.zipIdx_append, List.zipIdx_cons, List.map_append, List.map_cons]
  apply untilNone_append
  rw [Nat.zero_add]
  exact down turns member

end

/-- Each other plant gets its record, in configuration order, exactly where no plant fails before another succeeds. -/
theorem tick_publishes_iff (cfg : Settings) (tagMap : TagMap) (sine : ℚ → ℚ) (turns : ℕ → PlantTurn) :
    (tick cfg tagMap sine turns).1 = (plantTurns cfg turns).filterMap (ownRecord cfg tagMap sine) ↔
      (plantTurns cfg turns).Pairwise fun failed later =>
        ownRecord cfg tagMap sine failed = none → ownRecord cfg tagMap sine later = none := by
  unfold tick
  rw [tickLoop_records]
  exact untilNone_eq_filterMap _

/-- A plant that the tag map lacks, listed before one that it has. -/
def ghostFirst : Settings := { producerPlantCodes := "ghost,olefin" }

def openTurn (_ : ℕ) : PlantTurn := ⟨0, julyNoon, .ok .empty, true⟩

theorem ghost_interrupts_olefin : ¬ ∀ (cfg : Settings) (tagMap : TagMap) (sine : ℚ → ℚ) (turns : ℕ → PlantTurn),
    (tick cfg tagMap sine turns).1 = (plantTurns cfg turns).filterMap (ownRecord cfg tagMap sine) := by
  intro always
  have published := always ghostFirst olefinTags (fun _ => 0) openTurn
  unfold tick at published
  rw [tickLoop_records, untilNone_eq_filterMap] at published
  have later := List.pairwise_iff_getElem.mp published 0 1 (by decide +kernel) (by decide +kernel) Nat.zero_lt_one rfl
  exact nomatch later

end Iems.Ingestion
