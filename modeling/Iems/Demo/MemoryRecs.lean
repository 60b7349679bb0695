import Iems.Lib.Newest
import Iems.Lib.Numbering
import Iems.Optimization.Store

/-! Recommendations in memory, for demos without a database. -/
namespace Iems.Demo
open Lib Iems.Optimization

def idBase : Nat := 900000

structure MemoryRecommendation where
  id : Nat
  plantCode : String
  priority : Priority
  title : String
  rationale : String
  current : Dict String ℚ
  proposed : Dict String ℚ
  deltas : Dict String ℚ
  tags : List String
  benchmarkPlant : Option String
  estimatedSecReductionPct : ℚ
  estimatedEnergySavingKwhPerH : ℚ
  estimatedEfficiencyGainPp : ℚ
  simulatedIntensityDelta : Option ℚ := none
  simulatedEfficiencyDeltaPp : Option ℚ := none
  status : RecStatus := .pending
  applyMode : Option String := none
  realizedSavingKwhPerH : Option ℚ := none
  approvedBy : Option String := none
  appliedBy : Option String := none
  approvedAt : Option Int := none
  appliedAt : Option Int := none
  baselineIntensity : Option ℚ := none
  baselineEfficiency : Option ℚ := none
  resolvedAt : Option Int := none
  createdAt : Int

/-- A value in the detail of an audit event. -/
inductive DetailValue where
  | null
  | text (value : String)
  | number (value : ℚ)
  | datetime (value : Int)
  deriving DecidableEq

def DetailValue.ofText : Option String → DetailValue
  | none => .null
  | some value => .text value

/-- `json.dumps`, as the items of the object it writes; a datetime raises. -/
def jsonDumps (detail : List (String × DetailValue)) : Option (List (String × DetailValue)) :=
  if detail.any fun item => item.2 matches .datetime _ then none else some detail

structure MemoryAuditEvent where
  id : Nat
  recommendationId : Nat
  eventType : String
  actor : String
  detail : List (String × DetailValue)
  deriving DecidableEq

structure MemoryRecStore where
  nextId : Nat
  recs : Dict Nat MemoryRecommendation
  audit : List MemoryAuditEvent
  auditId : Nat

def MemoryRecStore.empty : MemoryRecStore := ⟨idBase, .empty, [], 1⟩

def isMemoryId (recommendationId : Nat) : Bool := idBase ≤ recommendationId

inductive MemoryRecError where
  | keyError (recommendationId : Nat)
  | typeError (message : String)
  deriving DecidableEq

def serializationError : MemoryRecError := .typeError "Object of type datetime is not JSON serializable"

namespace MemoryRecStore

/-- The id is drawn before the detail is written, so a detail that raises uses it up. -/
def appendAuditUnlocked (store : MemoryRecStore) (recommendationId : Nat) (eventType actor : String)
    (detail : List (String × DetailValue)) : MemoryRecStore × Except MemoryRecError Unit :=
  let eid := store.auditId
  let drawn := { store with auditId := eid + 1 }
  match jsonDumps detail with
  | none => (drawn, .error serializationError)
  | some written =>
    let event :=
      { id := eid, recommendationId := recommendationId, eventType := eventType, actor := actor, detail := written }
    ({ drawn with audit := drawn.audit ++ [event] }, .ok ())

def newRecommendation (now : Int) (rid : Nat) (simulations : Dict String AdviceSimulation) (advice : SetpointAdvice) :
    MemoryRecommendation :=
  let sim := simulations.get? advice.plantCode
  { id := rid
    plantCode := advice.plantCode
    priority := advice.priority
    title := advice.title
    rationale := advice.rationale
    current := advice.current
    proposed := advice.proposed
    deltas := advice.deltas
    tags := advice.tags
    benchmarkPlant := advice.benchmarkPlant
    estimatedSecReductionPct := advice.estimatedSecReductionPct
    estimatedEnergySavingKwhPerH := advice.estimatedEnergySavingKwhPerH
    estimatedEfficiencyGainPp := advice.estimatedEfficiencyGainPp
    simulatedIntensityDelta := sim.map (·.intensityDelta)
    simulatedEfficiencyDeltaPp := sim.map (·.efficiencyDeltaPp)
    createdAt := now }

def persistOne (now : Int) (simulations : Dict String AdviceSimulation) (store : MemoryRecStore)
    (advice : SetpointAdvice) : MemoryRecStore :=
  let rid := store.nextId
  let row := newRecommendation now rid simulations advice
  ({ store with nextId := rid + 1, recs := store.recs.set rid row }.appendAuditUnlocked rid "created" "system"
    [("plant_code", .text advice.plantCode), ("title", .text advice.title)]).1

def persist (now : Int) (adviceItems : List SetpointAdvice) (simulations : Dict String AdviceSimulation)
    (store : MemoryRecStore) : MemoryRecStore :=
  adviceItems.foldl (persistOne now simulations) store

/-- Newest first, those made together in the order of the store, and of these the first that pass the filters. -/
def list (store : MemoryRecStore) (plantCode status : Option String) (limit : Nat) : List MemoryRecommendation :=
  let rows := orderBy (fun rec => -rec.createdAt) store.recs.values
  let rows := rows.filter fun rec => plantCode.getD "" = "" ∨ plantCode = some rec.plantCode
  (rows.filter fun rec => status.getD "" = "" ∨ status = some rec.status.text).take limit

def get (store : MemoryRecStore) (recommendationId : Nat) : Option MemoryRecommendation :=
  store.recs.get? recommendationId

end MemoryRecStore

/-- A keyword of `set_status` beside the status. -/
inductive Extra where
  | resolvedAt (value : Option Int)
  | approvedBy (value : String)
  | approvedAt (value : Int)
  | applyMode (value : String)
  | appliedBy (value : String)
  | appliedAt (value : Int)
  | realizedSavingKwhPerH (value : ℚ)

def Extra.setattr (rec : MemoryRecommendation) : Extra → MemoryRecommendation
  | .resolvedAt value => { rec with resolvedAt := value }
  | .approvedBy value => { rec with approvedBy := some value }
  | .approvedAt value => { rec with approvedAt := some value }
  | .applyMode value => { rec with applyMode := some value }
  | .appliedBy value => { rec with appliedBy := some value }
  | .appliedAt value => { rec with appliedAt := some value }
  | .realizedSavingKwhPerH value => { rec with realizedSavingKwhPerH := some value }

def Extra.item : Extra → String × DetailValue
  | .resolvedAt none => ("resolved_at", .null)
  | .resolvedAt (some value) => ("resolved_at", .datetime value)
  | .approvedBy value => ("approved_by", .text value)
  | .approvedAt value => ("approved_at", .datetime value)
  | .applyMode value => ("apply_mode", .text value)
  | .appliedBy value => ("applied_by", .text value)
  | .appliedAt value => ("applied_at", .datetime value)
  | .realizedSavingKwhPerH value => ("realized_saving_kwh_per_h", .number value)

/-- The record is edited in place before its event is written. -/
def MemoryRecStore.setStatus (store : MemoryRecStore) (recommendationId : Nat) (status : RecStatus) (actor : String)
    (comment : Option String) (extra : List Extra) : MemoryRecStore × Except MemoryRecError MemoryRecommendation :=
  match store.recs.get? recommendationId with
  | none => (store, .error (.keyError recommendationId))
  | some rec =>
    let edited := extra.foldl Extra.setattr { rec with status := status }
    let (recorded, appended) := { store with recs := store.recs.set recommendationId edited }.appendAuditUnlocked
      recommendationId status.text actor (("comment", DetailValue.ofText comment) :: extra.map Extra.item)
    match appended with
    | .error raised => (recorded, .error raised)
    | .ok () => (recorded, .ok edited)

/-! ### What a status change does -/

/-- An extra that the detail cannot carry. -/
def Extra.isDatetime : Extra → Bool
  | .resolvedAt (some _) | .approvedAt _ | .appliedAt _ => true
  | _ => false

theorem jsonDumps_extra (comment : Option String) (extra : List Extra) :
    jsonDumps (("comment", DetailValue.ofText comment) :: extra.map Extra.item) =
      if extra.any Extra.isDatetime then none
      else some (("comment", DetailValue.ofText comment) :: extra.map Extra.item) := by
  have plain : (DetailValue.ofText comment matches .datetime _) = false := by cases comment <;> rfl
  have each : ∀ e : Extra, (e.item.2 matches .datetime _) = e.isDatetime := by
    intro e
    cases e with
    | resolvedAt value => cases value <;> rfl
    | _ => rfl
  have dated : ((extra.map Extra.item).any fun item => item.2 matches .datetime _) = extra.any Extra.isDatetime := by
    rw [List.any_map]
    exact congrArg extra.any (funext each)
  unfold jsonDumps
  rw [List.any_cons, dated, plain, Bool.false_or]

namespace MemoryRecStore
variable (store : MemoryRecStore) {recommendationId : Nat} {rec : MemoryRecommendation} (status : RecStatus)
  (actor : String) (comment : Option String) (extra : List Extra)

theorem appendAuditUnlocked_recs (recommendationId : Nat) (eventType : String) (detail : List (String × DetailValue)) :
    (store.appendAuditUnlocked recommendationId eventType actor detail).1.recs = store.recs := by
  unfold appendAuditUnlocked
  dsimp only
  split <;> rfl

theorem appendAuditUnlocked_nextId (recommendationId : Nat) (eventType : String) (detail : List (String × DetailValue)) :
    (store.appendAuditUnlocked recommendationId eventType actor detail).1.nextId = store.nextId := by
  unfold appendAuditUnlocked
  dsimp only
  split <;> rfl

theorem appendAuditUnlocked_outcome (recommendationId : Nat) (eventType : String) :
    (store.appendAuditUnlocked recommendationId eventType actor
        (("comment", DetailValue.ofText comment) :: extra.map Extra.item)).2 =
      if extra.any Extra.isDatetime then .error serializationError else .ok () := by
  unfold appendAuditUnlocked
  rw [jsonDumps_extra]
  cases extra.any Extra.isDatetime <;> rfl

theorem setStatus_get (held : store.get recommendationId = some rec) :
    (store.setStatus recommendationId status actor comment extra).1.get recommendationId =
      some (extra.foldl Extra.setattr { rec with status := status }) := by
  have found : store.recs.get? recommendationId = some rec := held
  unfold setStatus get
  rw [found]
  dsimp only
  split <;> simp [appendAuditUnlocked_recs]

/-- A status change that carries a datetime raises. -/
theorem setStatus_outcome (held : store.get recommendationId = some rec) :
    (store.setStatus recommendationId status actor comment extra).2 =
      if extra.any Extra.isDatetime then .error serializationError
      else .ok (extra.foldl Extra.setattr { rec with status := status }) := by
  have found : store.recs.get? recommendationId = some rec := held
  unfold setStatus
  rw [found]
  dsimp only
  rw [appendAuditUnlocked_outcome]
  cases extra.any Extra.isDatetime <;> rfl

end MemoryRecStore

/-! ### The ids of the records -/

namespace MemoryRecStore

def Holds (store : MemoryRecStore) (recommendationId : Nat) : Prop := store.get recommendationId ≠ none

/-- A change that numbers its new records by the store's counter. -/
def Extends (store next : MemoryRecStore) : Prop := NumbersUp store.nextId next.nextId store.Holds next.Holds

/-- Ids are handed out once: every record is below the next id. -/
def Fresh (store : MemoryRecStore) : Prop := ∀ recommendationId, store.Holds recommendationId → recommendationId < store.nextId

variable {store : MemoryRecStore}

theorem empty_fresh : empty.Fresh := fun id held => absurd (Dict.get?_empty id) held

theorem edited_extends {recommendationId : Nat} {rec : MemoryRecommendation}
    (found : store.recs.get? recommendationId = some rec) (edited : MemoryRecommendation) (eventType actor : String)
    (detail : List (String × DetailValue)) :
    store.Extends ({ store with recs := store.recs.set recommendationId edited }.appendAuditUnlocked recommendationId
      eventType actor detail).1 := by
  refine ⟨by rw [appendAuditUnlocked_nextId], fun id held => Or.inl ?_⟩
  unfold Holds get at held
  rw [appendAuditUnlocked_recs] at held
  rcases Dict.present_set held with rfl | old
  · simp [Holds, get, found]
  · exact old

theorem setStatus_extends (store : MemoryRecStore) (recommendationId : Nat) (status : RecStatus) (actor : String)
    (comment : Option String) (extra : List Extra) :
    store.Extends (store.setStatus recommendationId status actor comment extra).1 := by
  unfold setStatus
  split
  · exact .refl _ _
  · rename_i rec found
    dsimp only
    split <;> exact edited_extends found _ _ _ _

theorem persistOne_extends (now : Int) (simulations : Dict String AdviceSimulation) (store : MemoryRecStore)
    (advice : SetpointAdvice) : store.Extends (store.persistOne now simulations advice) := by
  have next : (store.persistOne now simulations advice).nextId = store.nextId + 1 :=
    appendAuditUnlocked_nextId _ _ _ _ _
  refine ⟨by omega, fun id held => ?_⟩
  unfold persistOne Holds get at held
  rw [appendAuditUnlocked_recs] at held
  rcases Dict.present_set held with rfl | old
  · exact Or.inr ⟨le_rfl, by omega⟩
  · exact Or.inl old

theorem persist_extends (now : Int) (adviceItems : List SetpointAdvice) (simulations : Dict String AdviceSimulation)
    (store : MemoryRecStore) : store.Extends (store.persist now adviceItems simulations) := by
  unfold persist
  induction adviceItems generalizing store with
  | nil => exact .refl _ _
  | cons advice rest ih => exact (persistOne_extends now simulations store advice).trans (ih _)

theorem persistOne_values (fresh : store.Fresh) (now : Int) (simulations : Dict String AdviceSimulation)
    (advice : SetpointAdvice) : (store.persistOne now simulations advice).recs.values =
      store.recs.values ++ [newRecommendation now store.nextId simulations advice] := by
  have unused : store.recs.get? store.nextId = none := by
    by_contra present
    exact absurd (fresh store.nextId present) (Nat.lt_irrefl _)
  unfold persistOne
  rw [appendAuditUnlocked_recs]
  exact Dict.values_set_fresh unused _

end MemoryRecStore
end Iems.Demo
