import Iems.Api.Listings
import Iems.Optimization.AdviceText
import Iems.Rto.Cadence

/-! The analysis route: the advice of the units that are asked for, queued and answered with the ids of its rows. -/
namespace Iems.Api
open Lib Iems.Core Iems.Optimization Iems.Demo Iems.Rto

structure AnalyzeRequest where
  plantCodes : List String := ["olefin", "pta"]
  simulate : Bool := true
  persist : Bool := true
  model : String := "elm"

/-- What an analysis runs on; `fault` is where the persist raises. -/
structure AnalyzeContext where
  cfg : Settings
  reads : CycleReads
  simulateWhatIfMl : WhatIfInput → Option WhatIfResult
  fault : Option PersistFault
  now : Int

structure AdviceOut where
  id : Option Nat
  advice : SetpointAdvice
  simulatedIntensityDelta : Option ℚ
  simulatedEfficiencyDeltaPp : Option ℚ
  status : RecStatus

structure OptimizationResponse where
  units : List UnitBenchmark
  recommendations : List String
  advice : List AdviceOut
  simulations : List AdviceSimulation
  totalEstimatedSavingKwhPerH : ℚ

def adviceOut (advice : SetpointAdvice) (rowId : Option Nat) (sim : Option AdviceSimulation) : AdviceOut where
  id := rowId
  advice := advice
  simulatedIntensityDelta := sim.map (·.intensityDelta)
  simulatedEfficiencyDeltaPp := sim.map (·.efficiencyDeltaPp)
  status := .pending

/-- The states of the units, read again without the session where they all look alike. -/
def unitStates (reads : CycleReads) (plantCodes : List String) : List UnitOperatingState :=
  let loaded := loadUnitStates reads.live plantCodes
  let distinct := (loaded.map fun s => (s.energyEfficiencyPercent, s.energyIntensityKgoeTon)).dedup
  if distinct.length = 1 ∧ 1 < loaded.length then loadUnitStates reads.reload plantCodes else loaded

/-- One simulation for each advice, of the state of its unit; `none` where one raises. -/
def simulations (ctx : AnalyzeContext) (model : String) (states : List UnitOperatingState) (items : List SetpointAdvice) :
    Option (List AdviceSimulation) :=
  items.mapM fun item => (byCode states item.plantCode).bind fun state => simulateAdvice ctx.simulateWhatIfMl state item model

/-- `none` is an error that the route does not catch. -/
def analyze (ctx : AnalyzeContext) (body : AnalyzeRequest) (server : RecServer) : Option OptimizationResponse × RecServer :=
  let states := unitStates ctx.reads body.plantCodes
  let benchmarks := classifyUnits states
  match buildStructuredAdvice states benchmarks with
  | none => (none, server)
  | some items =>
    match if body.simulate then simulations ctx body.model states items else some [] with
    | none => (none, server)
    | some sims =>
      let simOf := Dict.ofPairs ((items.map SetpointAdvice.plantCode).zip sims)
      let (rows, next) := analyzeQueue ctx.cfg ctx.fault ctx.now body.persist items simOf server
      let idByPlant := Dict.ofPairs (rows.map fun row => (row.2, row.1))
      let advice := items.map fun item =>
        adviceOut item (idByPlant.get? item.plantCode) (simOf.get? item.plantCode)
      (some
        { units := benchmarks
          recommendations := adviceToText items
          advice := advice
          simulations := sims
          totalEstimatedSavingKwhPerH := roundTo 2 (items.map (·.estimatedEnergySavingKwhPerH)).sum }, next)

/-- The advice as a listing shows it, under the id of its row. -/
def AdviceOut.row (out : AdviceOut) (id : Nat) : SetpointAdviceOut where
  id := id
  advice := out.advice
  simulatedIntensityDelta := out.simulatedIntensityDelta
  simulatedEfficiencyDeltaPp := out.simulatedEfficiencyDeltaPp
  status := out.status
  applyMode := none
  realizedSavingKwhPerH := none
  approvedBy := none
  appliedBy := none

/-! ### One advice for a plant -/

section
variable {states : List UnitOperatingState} {benchmarks : List UnitBenchmark} {advice : List SetpointAdvice}

theorem unitStates_codes (reads : CycleReads) (plantCodes : List String) :
    (unitStates reads plantCodes).map (·.plantCode) = plantCodes := by
  have loaded : ∀ live, (loadUnitStates live plantCodes).map (·.plantCode) = plantCodes := by
    intro live
    unfold loadUnitStates
    rw [List.map_map]
    have own : (fun state : UnitOperatingState => state.plantCode) ∘ (fun slot : String × Nat =>
        let state := loadUnitState live slot.1
        if 0 < slot.2 then nudge slot.2 state else state) = Prod.fst := by
      funext slot
      simp only [Function.comp_apply]
      split <;> rfl
    exact (congrArg (fun f => plantCodes.zipIdx.map f) own).trans (List.zipIdx_map_fst 0 plantCodes)
  unfold unitStates
  dsimp only
  split <;> exact loaded _

/-- The advice comes in the order of the states, at most one for each. -/
theorem advice_codes (built : buildStructuredAdvice states benchmarks = some advice) :
    (advice.map (·.plantCode)).Sublist (states.map (·.plantCode)) := by
  simp only [buildStructuredAdvice, bind, Option.bind_eq_some_iff] at built
  obtain ⟨top, found, best, read, each, mapped, kept⟩ := built
  cases kept
  have rows := mapM_eq_some.mp mapped
  clear mapped found read
  induction states generalizing each with
  | nil =>
    cases each with
    | nil => exact .slnil
    | cons _ _ => cases rows
  | cons state rest ih =>
    cases each with
    | nil => cases rows
    | cons first later =>
      rw [List.map_cons, List.map_cons, List.cons.injEq] at rows
      have tail := ih later rows.2
      cases first with
      | none => exact tail.cons _
      | some item =>
        obtain ⟨bench, _, advised⟩ := Option.bind_eq_some_iff.mp rows.1
        have own : item.plantCode = state.plantCode := (adviseUnit_advises (Option.some.inj advised)).2.plantCode
        show (item.plantCode :: _).Sublist (state.plantCode :: _)
        rw [own]
        exact tail.cons_cons _

theorem advice_distinct {reads : CycleReads} {plantCodes : List String} (distinct : plantCodes.Nodup)
    (built : buildStructuredAdvice (unitStates reads plantCodes) benchmarks = some advice) :
    (advice.map (·.plantCode)).Nodup := by
  have part := advice_codes built
  rw [unitStates_codes] at part
  exact part.nodup distinct

end

/-! ### The rows of a batch -/

section
variable {ctx : AnalyzeContext} {now : Int} {items : List SetpointAdvice} {sims : Dict String AdviceSimulation}
  {server : RecServer}

/-- The row that a batch makes of an advice, as it is shown. -/
def queuedOut (sims : Dict String AdviceSimulation) (id : Nat) (item : SetpointAdvice) : SetpointAdviceOut :=
  (adviceOut item (some id) (sims.get? item.plantCode)).row id

theorem shown_persisted {i : Nat} {item : SetpointAdvice} (at_ : items[i]? = some item)
    (room : server.db.recommendations.nextId + items.length ≤ idBase) {db : RecStore}
    (stored : db.recommendations = (persistRecommendations now items sims server.db).2.recommendations)
    (memory : MemoryRecStore) :
    shownRec (server.db.recommendations.nextId + i) ⟨memory, db⟩ =
      some (queuedOut sims (server.db.recommendations.nextId + i) item) := by
  have inside : i < items.length := (List.getElem?_eq_some_iff.mp at_).1
  have listed : (server.db.recommendations.nextId + i, newRecommendation now sims item) ∈
      (persistRecommendations now items sims server.db).1 := by
    show _ ∈ (server.db.recommendations.insertAll (items.map (newRecommendation now sims))).1
    rw [Table.zipIdx_insertAll, List.zipIdx_map, List.map_map]
    exact List.mem_map.mpr ⟨(item, i), List.mk_mem_zipIdx_iff_getElem?.mpr at_, rfl⟩
  have found : getRecommendation db (server.db.recommendations.nextId + i) = some (newRecommendation now sims item) := by
    unfold getRecommendation
    rw [stored]
    exact persisted_found listed
  rw [shownRec_db (by omega) found]
  rfl

theorem persistOne_get (memory : MemoryRecStore) (item : SetpointAdvice) (id : Nat) :
    (memory.persistOne now sims item).get id = if id = memory.nextId then
      some (MemoryRecStore.newRecommendation now memory.nextId sims item) else memory.get id := by
  unfold MemoryRecStore.persistOne MemoryRecStore.get
  rw [MemoryRecStore.appendAuditUnlocked_recs, Dict.get?_set]

theorem persistOne_nextId (memory : MemoryRecStore) (item : SetpointAdvice) :
    (memory.persistOne now sims item).nextId = memory.nextId + 1 := MemoryRecStore.appendAuditUnlocked_nextId _ _ _ _ _

/-- A batch leaves the rows as they are whose ids are given out. -/
theorem persist_kept (memory : MemoryRecStore) {id : Nat} (below : id < memory.nextId) :
    (memory.persist now items sims).get id = memory.get id := by
  induction items generalizing memory with
  | nil => rfl
  | cons item rest ih =>
    have next : id < (memory.persistOne now sims item).nextId := by
      rw [persistOne_nextId]
      omega
    exact (ih _ next).trans ((persistOne_get memory item id).trans (if_neg (by omega)))

theorem persist_at (memory : MemoryRecStore) {i : Nat} {item : SetpointAdvice} (at_ : items[i]? = some item) :
    (memory.persist now items sims).get (memory.nextId + i) =
      some (MemoryRecStore.newRecommendation now (memory.nextId + i) sims item) := by
  induction items generalizing memory i with
  | nil => cases at_
  | cons first rest ih =>
    cases i with
    | zero =>
      cases at_
      have next : memory.nextId < (memory.persistOne now sims item).nextId := by
        rw [persistOne_nextId]
        omega
      exact (persist_kept _ next).trans ((persistOne_get memory item _).trans (if_pos rfl))
    | succ i =>
      have later := ih (memory.persistOne now sims first) at_
      rw [persistOne_nextId, Nat.add_assoc, Nat.add_comm 1] at later
      exact later

theorem queueAdvice_kept (cfg : Settings) (fault : Option PersistFault) (fresh : server.memory.Fresh) {id : Nat}
    {out : SetpointAdviceOut} (shown : shownRec id server = some out) :
    shownRec id (queueAdvice cfg fault now items sims server).2 = some out := by
  have database : ∀ {row}, getRecommendation server.db id = some row →
      getRecommendation (queueAdvice cfg fault now items sims server).2.db id = some row := by
    intro row found
    have stored : getRecommendation (persistUnder fault now items sims server.db).2 id = some row := by
      by_cases early : EarlyFault fault
      · rw [persistUnder_early now items sims server.db early]
        exact found
      · unfold getRecommendation at found ⊢
        rw [(persistUnder_committed now items sims server.db early).1]
        show (server.db.recommendations.insertAll _).2.find? id = _
        rw [Table.find?_insertAll, found, Option.some_or]
    unfold queueAdvice
    dsimp only
    split <;> exact stored
  have memory : ∀ {rec}, server.memory.get id = some rec →
      (queueAdvice cfg fault now items sims server).2.memory.get id = some rec := by
    intro rec found
    have below : id < server.memory.nextId := fresh id (by simp [MemoryRecStore.Holds, found])
    unfold queueAdvice
    dsimp only
    split
    · exact (persist_kept _ below).trans found
    · exact found
  unfold shownRec at shown ⊢
  split at shown
  · rename_i high
    obtain ⟨rec, found, rfl⟩ := Option.map_eq_some_iff.mp shown
    rw [if_pos high, memory found, Option.map_some]
  · rename_i low
    obtain ⟨row, found, rfl⟩ := Option.map_eq_some_iff.mp shown
    rw [if_neg low, database found, Option.map_some]

/-- The rows of a batch carry ids from a first one on; each id is new, and names the advice it was made of. -/
structure NamesAdvice (server next : RecServer) (sims : Dict String AdviceSimulation) (items : List SetpointAdvice)
    (first : Nat) : Prop where
  unused : ∀ i < items.length, shownRec (first + i) server = none
  shown : ∀ i item, items[i]? = some item → shownRec (first + i) next = some (queuedOut sims (first + i) item)

/-- The rows that carry the ids from a first one on. -/
def rowsFrom (first : Nat) (items : List SetpointAdvice) : List QueuedRow :=
  items.zipIdx.map fun slot => (first + slot.2, slot.1.plantCode)

theorem names_memory (db : RecStore) (fresh : server.memory.Fresh) (above : idBase ≤ server.memory.nextId) :
    NamesAdvice server ⟨server.memory.persist now items sims, db⟩ sims items server.memory.nextId := by
  have high : ∀ i, idBase ≤ server.memory.nextId + i := fun i => Nat.le_add_right_of_le above
  refine ⟨fun i _ => ?_, fun i item at_ => ?_⟩
  · have free : server.memory.get (server.memory.nextId + i) = none := by
      by_contra held
      have below := fresh _ held
      omega
    unfold shownRec
    rw [if_pos (by simpa [isMemoryId] using high i), free, Option.map_none]
  · have found := @persist_at now items sims server.memory i item at_
    exact (@shownRec_memory ⟨server.memory.persist now items sims, db⟩ _ _ (high i) found).trans rfl

theorem names_db {db : RecStore} (room : server.db.recommendations.nextId + items.length ≤ idBase)
    (stored : db.recommendations = (persistRecommendations now items sims server.db).2.recommendations) :
    NamesAdvice server ⟨server.memory, db⟩ sims items server.db.recommendations.nextId := by
  refine ⟨fun i inside => ?_, fun i item at_ => shown_persisted at_ room stored _⟩
  have free : getRecommendation server.db (server.db.recommendations.nextId + i) = none := by
    cases held : getRecommendation server.db (server.db.recommendations.nextId + i) with
    | none => rfl
    | some row =>
      have below := Table.find?_lt held
      omega
  unfold shownRec
  rw [if_neg (by simp only [isMemoryId, decide_eq_true_eq]; omega), free, Option.map_none]

theorem queueAdvice_names (cfg : Settings) (fault : Option PersistFault) (fresh : server.memory.Fresh)
    (above : idBase ≤ server.memory.nextId) (room : server.db.recommendations.nextId + items.length ≤ idBase) :
    (queueAdvice cfg fault now items sims server).1 = [] ∧ fault ≠ none ∧ cfg.allowDemoMemory = false ∨
      ∃ first, (queueAdvice cfg fault now items sims server).1 = rowsFrom first items ∧
        NamesAdvice server (queueAdvice cfg fault now items sims server).2 sims items first := by
  by_cases queuesNone : (persistUnder fault now items sims server.db).1 = none
  · have raised : fault ≠ none := by
      rintro rfl
      rw [persistUnder_none] at queuesNone
      cases queuesNone
    unfold queueAdvice
    dsimp only
    rw [queuesNone]
    cases demo : cfg.allowDemoMemory with
    | true => exact .inr ⟨server.memory.nextId, rfl, names_memory _ fresh above⟩
    | false => exact .inl ⟨rfl, raised, rfl⟩
  · have past : ¬EarlyFault fault := by
      intro early
      rw [persistUnder_early now items sims server.db early] at queuesNone
      exact queuesNone rfl
    obtain ⟨stored, outcome⟩ := persistUnder_committed now items sims server.db past
    have returned := (outcome.resolve_left fun late => queuesNone late.2).2
    have rows : ((persistRecommendations now items sims server.db).1.map fun row => (row.1, row.2.plantCode)) =
        rowsFrom server.db.recommendations.nextId items := by
      show ((server.db.recommendations.insertAll (items.map (newRecommendation now sims))).1.map _) = _
      rw [Table.zipIdx_insertAll, List.zipIdx_map, List.map_map, List.map_map]
      rfl
    unfold queueAdvice
    dsimp only
    rw [returned, Option.getD_some, rows]
    split
    · exact .inr ⟨server.memory.nextId, rfl, names_memory _ fresh above⟩
    · exact .inr ⟨server.db.recommendations.nextId, rfl, names_db room stored⟩

theorem idByPlant_rowsFrom (distinct : (items.map (·.plantCode)).Nodup) (first : Nat) {i : Nat} {item : SetpointAdvice}
    (at_ : items[i]? = some item) :
    (Dict.ofPairs ((rowsFrom first items).map fun row => (row.2, row.1))).get? item.plantCode = some (first + i) := by
  have pairs : ((rowsFrom first items).map fun row => (row.2, row.1)) =
      items.zipIdx.map fun slot => (slot.1.plantCode, first + slot.2) := by
    unfold rowsFrom
    rw [List.map_map]
    rfl
  rw [pairs]
  refine (Dict.get?_ofPairs_iff ?_).mpr (List.mem_map.mpr ⟨(item, i), List.mk_mem_zipIdx_iff_getElem?.mpr at_, rfl⟩)
  rw [List.map_map]
  have codes : items.zipIdx.map (Prod.fst ∘ fun slot : SetpointAdvice × Nat => (slot.1.plantCode, first + slot.2)) =
      items.map (·.plantCode) := by
    calc items.zipIdx.map (Prod.fst ∘ fun slot : SetpointAdvice × Nat => (slot.1.plantCode, first + slot.2))
        = (items.zipIdx.map Prod.fst).map (·.plantCode) := by rw [List.map_map]; rfl
      _ = items.map (·.plantCode) := by rw [List.zipIdx_map_fst]
  rwa [codes]

end

/-! ### The ids of an answer -/

/-- What an answer says of the rows that its advice is queued in: each id is new and shows the advice it stands at; either
all advice carries ids or none does; what was shown before is shown as it was. -/
structure Identifies (server next : RecServer) (advice : List AdviceOut) : Prop where
  shown : ∀ out ∈ advice, ∀ id, out.id = some id → shownRec id server = none ∧ shownRec id next = some (out.row id)
  distinct : (advice.filterMap (·.id)).Nodup
  whole : (∀ out ∈ advice, out.id = none) ∨ ∀ out ∈ advice, out.id ≠ none
  kept : ∀ id out, shownRec id server = some out → shownRec id next = some out

section
variable {server next : RecServer} {items : List SetpointAdvice} {sims : Dict String AdviceSimulation}

theorem identifies_none (kept : ∀ id out, shownRec id server = some out → shownRec id next = some out) :
    Identifies server next (items.map fun item => adviceOut item none (sims.get? item.plantCode)) := by
  have none_ : ∀ out ∈ items.map fun item => adviceOut item none (sims.get? item.plantCode), out.id = none := by
    intro out member
    obtain ⟨item, _, rfl⟩ := List.mem_map.mp member
    rfl
  refine ⟨fun out member id found => ?_, ?_, .inl none_, kept⟩
  · rw [none_ out member] at found
    cases found
  · rw [List.filterMap_eq_nil_iff.mpr none_]
    exact List.nodup_nil

theorem identifies_rows {first : Nat} (distinct : (items.map (·.plantCode)).Nodup)
    (kept : ∀ id out, shownRec id server = some out → shownRec id next = some out)
    (names : NamesAdvice server next sims items first) :
    Identifies server next (items.map fun item => adviceOut item
      ((Dict.ofPairs ((rowsFrom first items).map fun row => (row.2, row.1))).get? item.plantCode)
      (sims.get? item.plantCode)) := by
  have named : ∀ i item, items[i]? = some item → (Dict.ofPairs ((rowsFrom first items).map fun row => (row.2, row.1))).get?
      item.plantCode = some (first + i) := fun i item at_ => idByPlant_rowsFrom distinct first at_
  refine ⟨fun out member id found => ?_, ?_, .inr fun out member => ?_, kept⟩
  · obtain ⟨item, listed, rfl⟩ := List.mem_map.mp member
    obtain ⟨i, at_⟩ := List.mem_iff_getElem?.mp listed
    have own := (named i item at_).symm.trans found
    cases own
    have inside : i < items.length := (List.getElem?_eq_some_iff.mp at_).1
    rw [named i item at_]
    exact ⟨names.unused i inside, names.shown i item at_⟩
  · have ids : (items.map fun item => (Dict.ofPairs ((rowsFrom first items).map fun row => (row.2, row.1))).get?
        item.plantCode) = (List.range' first items.length).map some := by
      refine List.ext_getElem (by simp) fun i inside _ => ?_
      rw [List.length_map] at inside
      rw [List.getElem_map, List.getElem_map, List.getElem_range', one_mul]
      exact named i items[i] (List.getElem?_eq_getElem inside)
    have own : (items.map fun item => adviceOut item ((Dict.ofPairs ((rowsFrom first items).map fun row =>
        (row.2, row.1))).get? item.plantCode) (sims.get? item.plantCode)).filterMap (·.id) =
          List.range' first items.length := by
      calc _ = (items.map fun item => (Dict.ofPairs ((rowsFrom first items).map fun row => (row.2, row.1))).get?
            item.plantCode).filterMap id := by rw [List.filterMap_map, List.filterMap_map]; rfl
        _ = List.range' first items.length := by rw [ids, List.filterMap_map]; exact List.filterMap_some
    rw [own]
    exact List.nodup_range'
  · obtain ⟨item, listed, rfl⟩ := List.mem_map.mp member
    obtain ⟨i, at_⟩ := List.mem_iff_getElem?.mp listed
    show (Dict.get? _ _) ≠ none
    rw [named i item at_]
    exact Option.some_ne_none _

end

/-- An analysis in a state: what it answers says of its rows, and that an error leaves the rows alone. -/
structure AnalyzesIn (ctx : AnalyzeContext) (body : AnalyzeRequest) (server : RecServer) : Prop where
  identifies : ∀ res, (analyze ctx body server).1 = some res → Identifies server (analyze ctx body server).2 res.advice
  named : body.persist = true → ctx.fault = none ∨ ctx.cfg.allowDemoMemory = true →
    ∀ res, (analyze ctx body server).1 = some res → ∀ out ∈ res.advice, out.id ≠ none
  failed : (analyze ctx body server).1 = none → (analyze ctx body server).2 = server

theorem analyze_answer {ctx : AnalyzeContext} {body : AnalyzeRequest} {server : RecServer} {res : OptimizationResponse}
    (answered : (analyze ctx body server).1 = some res) :
    ∃ items sims, buildStructuredAdvice (unitStates ctx.reads body.plantCodes)
        (classifyUnits (unitStates ctx.reads body.plantCodes)) = some items ∧
      (analyze ctx body server).2 = (analyzeQueue ctx.cfg ctx.fault ctx.now body.persist items sims server).2 ∧
      res.advice = (items.map fun item => adviceOut item
        ((Dict.ofPairs ((analyzeQueue ctx.cfg ctx.fault ctx.now body.persist items sims server).1.map
          fun row => (row.2, row.1))).get? item.plantCode) (sims.get? item.plantCode)) ∧
      res.units = classifyUnits (unitStates ctx.reads body.plantCodes) ∧
      res.totalEstimatedSavingKwhPerH = roundTo 2 (items.map (·.estimatedEnergySavingKwhPerH)).sum := by
  unfold analyze at answered ⊢
  dsimp only at answered ⊢
  split at answered
  · cases answered
  · rename_i items built
    split at answered
    · cases answered
    · rename_i made _
      cases answered
      exact ⟨items, _, built, rfl, rfl, rfl, rfl⟩

theorem analyzesIn {ctx : AnalyzeContext} {body : AnalyzeRequest} {server : RecServer} (distinct : body.plantCodes.Nodup)
    (fresh : server.memory.Fresh) (above : idBase ≤ server.memory.nextId)
    (room : server.db.recommendations.nextId + body.plantCodes.length ≤ idBase) : AnalyzesIn ctx body server := by
  have queues : ∀ res, (analyze ctx body server).1 = some res →
      Identifies server (analyze ctx body server).2 res.advice ∧
        (body.persist = true → ctx.fault = none ∨ ctx.cfg.allowDemoMemory = true → ∀ out ∈ res.advice, out.id ≠ none) := by
    intro res answered
    obtain ⟨items, sims, built, after, advice, _⟩ := analyze_answer answered
    have apart := advice_distinct distinct built
    have fits : server.db.recommendations.nextId + items.length ≤ idBase := by
      have fewer := (advice_codes built).length_le
      rw [unitStates_codes, List.length_map] at fewer
      omega
    rw [after, advice]
    unfold analyzeQueue
    split
    · have kept := fun id out => @queueAdvice_kept ctx.now items sims server ctx.cfg ctx.fault fresh id out
      rcases queueAdvice_names ctx.cfg ctx.fault fresh above fits with ⟨none_, raised, memoryless⟩ | ⟨first, rows, names⟩
      · rw [none_]
        refine ⟨identifies_none kept, fun _ covered => ?_⟩
        rw [memoryless] at covered
        exact absurd (covered.resolve_right Bool.false_ne_true) raised
      · rw [rows]
        refine ⟨identifies_rows apart kept names, fun _ _ out member => ?_⟩
        obtain ⟨item, listed, rfl⟩ := List.mem_map.mp member
        obtain ⟨i, at_⟩ := List.mem_iff_getElem?.mp listed
        show (Dict.get? _ _) ≠ none
        rw [idByPlant_rowsFrom apart first at_]
        exact Option.some_ne_none _
    · rename_i unqueued
      refine ⟨identifies_none fun _ _ shown => shown, fun asked _ out member => ?_⟩
      obtain ⟨item, listed, rfl⟩ := List.mem_map.mp member
      exact absurd ⟨asked, List.ne_nil_of_mem listed⟩ unqueued
  refine ⟨fun res answered => (queues res answered).1, fun asked covered res answered => (queues res answered).2 asked covered,
    fun failed => ?_⟩
  unfold analyze at failed ⊢
  dsimp only at failed ⊢
  split
  · rfl
  · split
    · rfl
    · rename_i items built _ sims simulated
      rw [built] at failed
      dsimp only at failed
      rw [simulated] at failed
      cases failed

theorem recsFresh_run (plants : Dict String Nat) (readings : List Carbon.SensorReading) (actions : List IdAction) :
    (run IdServer.step (.start plants readings) actions).recs.memory.Fresh := by
  have keep : ∀ (w : IdServer) action, w.recs.memory.Fresh → (w.step action).recs.memory.Fresh :=
    fun w action fresh => (stepIds w action).recMemory.below fresh
  exact run_invariant keep MemoryRecStore.empty_fresh

/-- In every reachable state, for distinct plants and while the ids of the database stay below those of the memory, an
answer names the rows that its advice is queued in, wherever the persist has raised. -/
theorem analyze_ids (plants : Dict String Nat) (readings : List Carbon.SensorReading) (actions : List IdAction)
    (ctx : AnalyzeContext) (body : AnalyzeRequest) (distinct : body.plantCodes.Nodup)
    (room : (run IdServer.step (.start plants readings) actions).recs.db.recommendations.nextId + body.plantCodes.length ≤
      idBase) : AnalyzesIn ctx body (run IdServer.step (.start plants readings) actions).recs :=
  analyzesIn distinct (recsFresh_run plants readings actions) (aboveBases_run plants readings actions).recs.1 room

/-- Two plants of which one has advice, with a database that does not take the rows. -/
def hotContext : AnalyzeContext where
  cfg := {}
  reads := ⟨hotReading, hotReading⟩
  simulateWhatIfMl _ := none
  fault := some .commit
  now := 0

theorem hot_states : unitStates hotContext.reads ["olefin", "pta"] = hotUnits := by
  unfold unitStates
  dsimp only
  split <;> rfl

theorem analyze_ids_hot :
    AnalyzesIn hotContext ⟨["olefin", "pta"], false, true, "elm"⟩ (run IdServer.step (.start .empty []) []).recs ∧
      ∃ res, (analyze hotContext ⟨["olefin", "pta"], false, true, "elm"⟩
        (run IdServer.step (.start .empty []) []).recs).1 = some res ∧ res.advice ≠ [] := by
  refine ⟨analyze_ids .empty [] [] hotContext ⟨["olefin", "pta"], false, true, "elm"⟩ (by decide) (by decide), ?_⟩
  obtain ⟨advice, built, some_⟩ := hotUnits_advised
  unfold analyze
  rw [hot_states]
  dsimp only
  rw [built]
  exact ⟨_, rfl, fun none_ => some_ (List.map_eq_nil_iff.mp none_)⟩

end Iems.Api
