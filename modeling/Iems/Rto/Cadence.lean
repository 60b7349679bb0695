import Iems.Optimization.Snapshots
import Iems.Rto.Scheduler

/-! The cadence of the real-time optimizer: how far apart its batches are, and what each of them queues. -/
namespace Iems.Rto
open Lib Iems.Core Iems.Optimization Iems.Services Iems.Demo Iems.Api

def tagRto (item : SetpointAdvice) : SetpointAdvice :=
  if "rto" ∈ item.tags then item else { item with tags := item.tags ++ ["rto"] }

/-- What a cycle reads of the plants, and what it reloads without the session where all units look alike. -/
structure CycleReads where
  live : String → LiveReading ℚ
  reload : String → LiveReading ℚ

def computeRtoCycle (computedAt : Int) (plantCodes : List String) (reads : CycleReads) : Option RtoCycleResult :=
  let loaded := loadUnitStates reads.live plantCodes
  let distinct := (loaded.map fun s => (s.energyEfficiencyPercent, s.energyIntensityKgoeTon)).dedup
  let states := if distinct.length = 1 ∧ 1 < loaded.length then loadUnitStates reads.reload plantCodes else loaded
  let benchmarks := classifyUnits states
  (buildStructuredAdvice states benchmarks).map fun advice => ⟨computedAt, benchmarks, advice.map tagRto⟩

/-- One cycle: `session` is what its first session block reads, if that does not raise, and `fault` is where the
persist of the second block raises. -/
structure RtoTick where
  computedAt : Int
  session : Option CycleReads
  unpinned : CycleReads
  fault : Option PersistFault := none

def RtoTick.result (plantCodes : List String) (tick : RtoTick) : Option RtoCycleResult :=
  (tick.session.bind (computeRtoCycle tick.computedAt plantCodes)).or
    (computeRtoCycle tick.computedAt plantCodes tick.unpinned)

/-- The cycles of the scheduler, and what others do to the queue between them. -/
inductive RtoEvent where
  | cycle (tick : RtoTick)
  | request (id : Nat) (request : RouteRequest)
  | analyze (cfg : Settings) (fault : Option PersistFault) (now : Int) (persist : Bool)
      (adviceItems : List SetpointAdvice) (simulations : Dict String AdviceSimulation)

def RtoEvent.result (cfg : Settings) : RtoEvent → Option RtoCycleResult
  | .cycle tick => tick.result cfg.unitCodeList
  | _ => none

/-- A cycle without a result raises out of `run_once` and changes nothing. -/
def QueueWorld.advance (cfg : Settings) (w : QueueWorld) : RtoEvent → QueueWorld
  | .cycle tick =>
    match tick.result cfg.unitCodeList with
    | none => w
    | some result => w.step (.cycle cfg tick.fault result)
  | .request id request => w.step (.request id request)
  | .analyze other fault now persist adviceItems simulations =>
    w.step (.analyze other fault now persist adviceItems simulations)

/-- The result of a cycle that goes on to queue its advice. -/
def QueueWorld.attempt (cfg : Settings) (w : QueueWorld) (event : RtoEvent) : Option RtoCycleResult :=
  (event.result cfg).filter fun result => w.scheduler.due cfg result.computedAt && !result.advice.isEmpty

def attempts (cfg : Settings) : QueueWorld → List RtoEvent → List RtoCycleResult
  | _, [] => []
  | w, event :: rest => (w.attempt cfg event).toList ++ attempts cfg (w.advance cfg event) rest

theorem attempts_idle {cfg : Settings} {w : QueueWorld} {event : RtoEvent} (idle : w.attempt cfg event = none)
    (rest : List RtoEvent) : attempts cfg w (event :: rest) = attempts cfg (w.advance cfg event) rest := by
  rw [attempts, idle]
  rfl

theorem attempts_some {cfg : Settings} {w : QueueWorld} {event : RtoEvent} {result : RtoCycleResult}
    (attempted : w.attempt cfg event = some result) (rest : List RtoEvent) :
    attempts cfg w (event :: rest) = result :: attempts cfg (w.advance cfg event) rest := by
  rw [attempts, attempted]
  rfl

/-- The advice, and nothing else, is added to the two stores, as pending recommendations. -/
def Adds (before after : RecServer) (adviceItems : List SetpointAdvice) : Prop :=
  ∃ rows recs, after.db.recommendations.values = before.db.recommendations.values ++ rows ∧
    after.memory.recs.values = before.memory.recs.values ++ recs ∧
    rows.map rowAdvice ++ recs.map memoryAdvice = adviceItems ∧
    (∀ row ∈ rows, row.status = .pending) ∧ ∀ rec ∈ recs, rec.status = .pending

/-- The persist failed, and there is no memory to fall back to. -/
def Refused (cfg : Settings) (tick : RtoTick) : Prop := EarlyFault tick.fault ∧ cfg.allowDemoMemory = false

/-- What a cycle does to the queue and to the cadence. -/
structure CycleKeeps (cfg : Settings) (w : QueueWorld) (tick : RtoTick) : Prop where
  tagged : ∀ result, w.attempt cfg (.cycle tick) = some result → ∀ item ∈ result.advice, "rto" ∈ item.tags
  queues : ∀ result, w.attempt cfg (.cycle tick) = some result → ¬Refused cfg tick →
    Adds w.server (w.advance cfg (.cycle tick)).server result.advice
  refused : Refused cfg tick → (w.advance cfg (.cycle tick)).server = w.server
  idle : w.attempt cfg (.cycle tick) = none → (w.advance cfg (.cycle tick)).server = w.server ∧
    (w.advance cfg (.cycle tick)).scheduler.lastPersist = w.scheduler.lastPersist

/-! ### The batch of one cycle -/

theorem mem_tagRto (item : SetpointAdvice) : "rto" ∈ (tagRto item).tags := by
  unfold tagRto
  split
  · assumption
  · simp

theorem computeRtoCycle_tagged {computedAt : Int} {plantCodes : List String} {reads : CycleReads} {result : RtoCycleResult}
    (computed : computeRtoCycle computedAt plantCodes reads = some result) : ∀ item ∈ result.advice, "rto" ∈ item.tags := by
  obtain ⟨advice, _, rfl⟩ := Option.map_eq_some_iff.mp computed
  intro item member
  obtain ⟨untagged, _, rfl⟩ := List.mem_map.mp member
  exact mem_tagRto untagged

theorem result_tagged {plantCodes : List String} {tick : RtoTick} {result : RtoCycleResult}
    (computed : tick.result plantCodes = some result) : ∀ item ∈ result.advice, "rto" ∈ item.tags := by
  rcases Option.or_eq_some_iff.mp computed with first | ⟨_, second⟩
  · obtain ⟨reads, _, own⟩ := Option.bind_eq_some_iff.mp first
    exact computeRtoCycle_tagged own
  · exact computeRtoCycle_tagged second

theorem adds_stored (now : Int) (adviceItems : List SetpointAdvice) (simulations : Dict String AdviceSimulation)
    (server : RecServer) :
    Adds server { server with db := (persistRecommendations now adviceItems simulations server.db).2 } adviceItems := by
  refine ⟨adviceItems.map (newRecommendation now simulations), [], ?_, (List.append_nil _).symm, ?_, ?_,
    List.forall_mem_nil _⟩
  · exact Table.values_insertAll _ _
  · rw [List.map_map, List.map_nil, List.append_nil]
    exact (List.map_congr_left fun advice _ => rowAdvice_new now simulations advice).trans (List.map_id _)
  · intro row member
    obtain ⟨advice, _, rfl⟩ := List.mem_map.mp member
    rfl

theorem persist_pending {memory : MemoryRecStore} (fresh : memory.Fresh) (now : Int) (adviceItems : List SetpointAdvice)
    (simulations : Dict String AdviceSimulation) :
    ∃ recs, (memory.persist now adviceItems simulations).recs.values = memory.recs.values ++ recs ∧
      recs.map memoryAdvice = adviceItems ∧ ∀ rec ∈ recs, rec.status = .pending := by
  unfold MemoryRecStore.persist
  induction adviceItems generalizing memory with
  | nil => exact ⟨[], (List.append_nil _).symm, rfl, List.forall_mem_nil _⟩
  | cons advice rest ih =>
    obtain ⟨recs, values, items, pending⟩ := ih ((memory.persistOne_extends now simulations advice).below fresh)
    refine ⟨MemoryRecStore.newRecommendation now memory.nextId simulations advice :: recs, ?_, ?_, ?_⟩
    · rw [List.foldl_cons, values, MemoryRecStore.persistOne_values fresh, List.append_assoc, List.singleton_append]
    · rw [List.map_cons, items]
      rfl
    · intro rec member
      rcases List.mem_cons.mp member with rfl | later
      · rfl
      · exact pending rec later

theorem adds_remembered {server : RecServer} (fresh : server.memory.Fresh) (now : Int) (adviceItems : List SetpointAdvice)
    (simulations : Dict String AdviceSimulation) :
    Adds server { server with memory := server.memory.persist now adviceItems simulations } adviceItems := by
  obtain ⟨recs, values, items, pending⟩ := persist_pending fresh now adviceItems simulations
  exact ⟨[], recs, (List.append_nil _).symm, values, items, List.forall_mem_nil _, pending⟩

theorem queueAdvice_refused {cfg : Settings} {fault : Option PersistFault} (early : EarlyFault fault)
    (closed : cfg.allowDemoMemory = false) (now : Int) (adviceItems : List SetpointAdvice)
    (simulations : Dict String AdviceSimulation) (server : RecServer) :
    (queueAdvice cfg fault now adviceItems simulations server).2 = server := by
  unfold queueAdvice
  rw [persistUnder_early now adviceItems simulations server.db early]
  simp [closed]

theorem queueAdvice_adds {cfg : Settings} {fault : Option PersistFault} {server : RecServer} (fresh : server.memory.Fresh)
    {adviceItems : List SetpointAdvice} (some_ : adviceItems ≠ []) (now : Int) (simulations : Dict String AdviceSimulation)
    (kept : fault = none ∨ EarlyFault fault ∧ cfg.allowDemoMemory = true) :
    Adds server (queueAdvice cfg fault now adviceItems simulations server).2 adviceItems := by
  unfold queueAdvice
  rcases kept with rfl | ⟨early, demo⟩
  · rw [persistUnder_none]
    dsimp only
    rw [Option.getD_some, if_neg fun both => some_ ((persisted_empty_iff server.db).mp both.1)]
    exact adds_stored now adviceItems simulations server
  · rw [persistUnder_early now adviceItems simulations server.db early]
    dsimp only
    rw [if_pos ⟨rfl, demo⟩]
    exact adds_remembered fresh now adviceItems simulations

/-! ### One step -/

theorem attempt_eq_some {cfg : Settings} {w : QueueWorld} {event : RtoEvent} {result : RtoCycleResult} :
    w.attempt cfg event = some result ↔
      event.result cfg = some result ∧ w.scheduler.due cfg result.computedAt = true ∧ result.advice ≠ [] := by
  simp [QueueWorld.attempt, Option.filter_eq_some_iff]

theorem attempt_none {cfg : Settings} {w : QueueWorld} {event : RtoEvent} {result : RtoCycleResult}
    (idle : w.attempt cfg event = none) (computed : event.result cfg = some result) :
    w.scheduler.due cfg result.computedAt = false ∨ result.advice = [] := by
  by_contra busy
  obtain ⟨due, some_⟩ := not_or.mp busy
  rw [attempt_eq_some.mpr ⟨computed, Bool.not_eq_false _ ▸ due, some_⟩] at idle
  cases idle

theorem runOnce_attempt {cfg : Settings} {fault : Option PersistFault} {result : RtoCycleResult} {scheduler : RtoScheduler}
    (server : RecServer) (due : scheduler.due cfg result.computedAt = true) (some_ : result.advice ≠ []) :
    (runOnce cfg fault result scheduler server).2.1.lastPersist = some result.computedAt ∧
      (runOnce cfg fault result scheduler server).2.2 =
        (queueAdvice cfg fault result.computedAt result.advice .empty server).2 := by
  unfold runOnce
  rw [if_neg (by simp [due, some_])]
  exact ⟨rfl, rfl⟩

theorem runOnce_idle {cfg : Settings} {fault : Option PersistFault} {result : RtoCycleResult} {scheduler : RtoScheduler}
    (server : RecServer) (idle : scheduler.due cfg result.computedAt = false ∨ result.advice = []) :
    (runOnce cfg fault result scheduler server).2.1.lastPersist = scheduler.lastPersist ∧
      (runOnce cfg fault result scheduler server).2.2 = server := by
  unfold runOnce
  rw [if_pos idle]
  exact ⟨rfl, rfl⟩

theorem advance_raised {cfg : Settings} {tick : RtoTick} (w : QueueWorld) (raised : tick.result cfg.unitCodeList = none) :
    w.advance cfg (.cycle tick) = w := by
  simp only [QueueWorld.advance, raised]

theorem advance_computed {cfg : Settings} {tick : RtoTick} {result : RtoCycleResult} (w : QueueWorld)
    (computed : tick.result cfg.unitCodeList = some result) :
    w.advance cfg (.cycle tick) = w.step (.cycle cfg tick.fault result) := by
  simp only [QueueWorld.advance, computed]

theorem advance_attempt {cfg : Settings} {w : QueueWorld} {event : RtoEvent} {result : RtoCycleResult}
    (attempted : w.attempt cfg event = some result) :
    (w.advance cfg event).scheduler.lastPersist = some result.computedAt := by
  obtain ⟨computed, due, some_⟩ := attempt_eq_some.mp attempted
  cases event with
  | cycle tick =>
    rw [advance_computed w computed]
    exact (runOnce_attempt w.server due some_).1
  | request => cases computed
  | analyze => cases computed

theorem advance_idle {cfg : Settings} {w : QueueWorld} {event : RtoEvent} (idle : w.attempt cfg event = none) :
    (w.advance cfg event).scheduler.lastPersist = w.scheduler.lastPersist := by
  cases event with
  | cycle tick =>
    cases computed : tick.result cfg.unitCodeList with
    | none => rw [advance_raised w computed]
    | some result =>
      rw [advance_computed w computed]
      exact (runOnce_idle w.server (attempt_none idle computed)).1
  | request => rfl
  | analyze => rfl

/-- One cycle keeps to its rules in a store with fresh ids, if its persist stores the whole batch or nothing. -/
theorem cycleKeeps {cfg : Settings} {w : QueueWorld} {tick : RtoTick} (fresh : w.server.memory.Fresh)
    (whole : tick.fault = none ∨ EarlyFault tick.fault) : CycleKeeps cfg w tick where
  tagged result attempted := result_tagged (attempt_eq_some.mp attempted).1
  queues result attempted held := by
    obtain ⟨computed, due, some_⟩ := attempt_eq_some.mp attempted
    rw [advance_computed w computed]
    show Adds w.server (runOnce cfg tick.fault result w.scheduler w.server).2.2 result.advice
    rw [(runOnce_attempt w.server due some_).2]
    refine queueAdvice_adds fresh some_ result.computedAt .empty (whole.imp_right fun early => ⟨early, ?_⟩)
    exact Bool.not_eq_false _ ▸ fun closed => held ⟨early, closed⟩
  refused refusal := by
    cases computed : tick.result cfg.unitCodeList with
    | none => rw [advance_raised w computed]
    | some result =>
      rw [advance_computed w computed]
      show (runOnce cfg tick.fault result w.scheduler w.server).2.2 = w.server
      by_cases idle : w.scheduler.due cfg result.computedAt = false ∨ result.advice = []
      · exact (runOnce_idle w.server idle).2
      · obtain ⟨due, some_⟩ := not_or.mp idle
        rw [(runOnce_attempt w.server (Bool.not_eq_false _ ▸ due) some_).2]
        exact queueAdvice_refused refusal.1 refusal.2 _ _ _ _
  idle none_ := by
    refine ⟨?_, advance_idle none_⟩
    cases computed : tick.result cfg.unitCodeList with
    | none => rw [advance_raised w computed]
    | some result =>
      rw [advance_computed w computed]
      exact (runOnce_idle w.server (attempt_none none_ computed)).2

/-! ### Runs -/

theorem advance_extends (cfg : Settings) (w : QueueWorld) (event : RtoEvent) :
    w.server.memory.Extends (w.advance cfg event).server.memory := by
  cases event with
  | cycle tick =>
    cases computed : tick.result cfg.unitCodeList with
    | none =>
      rw [advance_raised w computed]
      exact .refl _ _
    | some result =>
      rw [advance_computed w computed]
      exact step_extends w _
  | request id request => exact step_extends w _
  | analyze other fault now persist adviceItems simulations => exact step_extends w _

theorem advance_fresh (cfg : Settings) (events : List RtoEvent) :
    (run (QueueWorld.advance cfg) .start events).server.memory.Fresh :=
  run_invariant (fun w event fresh => (advance_extends cfg w event).below fresh) MemoryRecStore.empty_fresh

/-- The scheduler remembers the time of its last attempt. -/
theorem lastPersist_run (cfg : Settings) (w : QueueWorld) (events : List RtoEvent) :
    (run (QueueWorld.advance cfg) w events).scheduler.lastPersist =
      ((attempts cfg w events).getLast?.map (·.computedAt)).or w.scheduler.lastPersist := by
  induction events generalizing w with
  | nil => rfl
  | cons event rest ih =>
    rw [run_cons, ih]
    cases attempted : w.attempt cfg event with
    | none => rw [attempts_idle attempted, advance_idle attempted]
    | some result =>
      rw [attempts_some attempted, advance_attempt attempted, List.getLast?_cons]
      cases (attempts cfg (w.advance cfg event) rest).getLast? <;> rfl

theorem mem_attempts {cfg : Settings} {w : QueueWorld} {events : List RtoEvent} {result : RtoCycleResult}
    (member : result ∈ attempts cfg w events) : result ∈ events.filterMap (·.result cfg) := by
  induction events generalizing w with
  | nil => cases member
  | cons event rest ih =>
    rcases List.mem_append.mp member with here | later
    · have computed := (attempt_eq_some.mp (Option.mem_toList.mp here)).1
      exact List.mem_filterMap.mpr ⟨event, List.mem_cons_self, computed⟩
    · obtain ⟨other, among, computed⟩ := List.mem_filterMap.mp (ih later)
      exact List.mem_filterMap.mpr ⟨other, List.mem_cons_of_mem _ among, computed⟩

/-- The results of a run are not computed back in time. -/
def Chronological (cfg : Settings) (events : List RtoEvent) : Prop :=
  (events.filterMap (·.result cfg)).Pairwise fun a b => a.computedAt ≤ b.computedAt

def Spaced (cfg : Settings) (earlier later : Int) : Prop := cfg.rtoPersistIntervalSeconds * 1000000 ≤ later - earlier

/-- Any two attempts of a run are an interval apart, and so is each of them from the attempt before the run. -/
theorem attempts_spaced {cfg : Settings} {events : List RtoEvent} (chronological : Chronological cfg events)
    (w : QueueWorld) : (attempts cfg w events).Pairwise (fun a b => Spaced cfg a.computedAt b.computedAt) ∧
      ∀ last, w.scheduler.lastPersist = some last → ∀ result ∈ attempts cfg w events, Spaced cfg last result.computedAt := by
  induction events generalizing w with
  | nil => exact ⟨.nil, fun _ _ => List.forall_mem_nil _⟩
  | cons event rest ih =>
    have later : Chronological cfg rest := by
      unfold Chronological at chronological ⊢
      rw [← List.singleton_append, List.filterMap_append] at chronological
      exact (List.pairwise_append.mp chronological).2.1
    obtain ⟨spaced, sinceNext⟩ := ih later (w.advance cfg event)
    cases attempted : w.attempt cfg event with
    | none =>
      rw [attempts_idle attempted]
      rw [advance_idle attempted] at sinceNext
      exact ⟨spaced, sinceNext⟩
    | some result =>
      obtain ⟨computed, due, _⟩ := attempt_eq_some.mp attempted
      rw [attempts_some attempted]
      have afterIt := sinceNext result.computedAt (advance_attempt attempted)
      refine ⟨List.pairwise_cons.mpr ⟨afterIt, spaced⟩, fun last held other member => ?_⟩
      have dueNow : Spaced cfg last result.computedAt := by
        unfold RtoScheduler.due at due
        rw [held] at due
        unfold Spaced
        exact of_decide_eq_true due
      rcases List.mem_cons.mp member with rfl | rest_
      · exact dueNow
      · have order : result.computedAt ≤ other.computedAt := by
          unfold Chronological at chronological
          rw [List.filterMap_cons_some computed] at chronological
          exact (List.pairwise_cons.mp chronological).1 other (mem_attempts rest_)
        unfold Spaced at dueNow ⊢
        omega

/-- Over every run, whatever the sessions do and others request: attempts are an interval apart, an attempt queues its
own tagged advice as pending recommendations, or nothing where the persist fails and there is no memory to fall back
to, and any other cycle leaves queue and cadence alone. -/
theorem cadence_kept (cfg : Settings) {events : List RtoEvent} (chronological : Chronological cfg events)
    (whole : ∀ tick, .cycle tick ∈ events → tick.fault = none ∨ EarlyFault tick.fault) :
    (attempts cfg .start events).Pairwise (fun a b => Spaced cfg a.computedAt b.computedAt) ∧
      ∀ before tick after, events = before ++ .cycle tick :: after →
        let w := run (QueueWorld.advance cfg) .start before
        w.scheduler.lastPersist = (attempts cfg .start before).getLast?.map (·.computedAt) ∧ CycleKeeps cfg w tick := by
  refine ⟨(attempts_spaced chronological .start).1, ?_⟩
  rintro before tick after rfl w
  refine ⟨?_, cycleKeeps (advance_fresh cfg before) (whole tick (by simp))⟩
  have last := lastPersist_run cfg .start before
  rwa [show QueueWorld.start.scheduler.lastPersist = none from rfl, Option.or_none] at last

/-- A hot unit of low efficiency beside a cooler one. -/
def hotReading (code : String) : LiveReading ℚ :=
  { time := 0
    plantCode := code
    electricityPowerMw := 15
    fuelGasFlowKm3h := 100
    steamFlowTonh := 30
    feedFlowTonh := 100
    reactorTempC := if code = "olefin" then 412 else 400
    pressureBar := none
    energyIntensityKgoeTon := 700
    carbonEmissionKgco2Ton := none
    energyEfficiencyPercent := 10
    source := "db"
    quality := none }

def hotTick (computedAt : Int) (fault : Option PersistFault) : RtoTick where
  computedAt := computedAt
  session := none
  unpinned := ⟨hotReading, hotReading⟩
  fault := fault

def rtoSettings : Settings := { unitCodes := "olefin,pta", appEnv := "production", appDebug := false }

def hotUnits : List UnitOperatingState := loadUnitStates hotReading ["olefin", "pta"]

theorem hotUnits_advised : ∃ advice, buildStructuredAdvice hotUnits (classifyUnits hotUnits) = some advice ∧ advice ≠ [] := by
  have distinct : (hotUnits.map (·.plantCode)).Nodup := by decide +kernel
  have top : bestUnit hotUnits = some (nudge 1 (loadUnitState hotReading "pta")) := by decide +kernel
  have low : lowTier hotUnits (loadUnitState hotReading "olefin") := by
    rw [lowTier, medianEfficiency_sorted (by decide +kernel)]
    decide +kernel
  have moves : (setpointDeltas (currentSetpoints (loadUnitState hotReading "olefin"))
      (proposedSetpoints (loadUnitState hotReading "olefin") (nudge 1 (loadUnitState hotReading "pta")))).items ≠ [] := by
    decide +kernel
  obtain ⟨advice, built⟩ := buildStructuredAdvice_classified distinct top
  obtain ⟨item, member, _⟩ := classifiedAdvice_covers distinct top built (by decide +kernel) low moves
  exact ⟨advice, built, List.ne_nil_of_mem member⟩

theorem hotTick_result (computedAt : Int) (fault : Option PersistFault) :
    ∃ result, (hotTick computedAt fault).result rtoSettings.unitCodeList = some result ∧
      result.computedAt = computedAt ∧ result.advice ≠ [] := by
  have codes : rtoSettings.unitCodeList = ["olefin", "pta"] := by decide +kernel
  have apart : (hotUnits.map fun s => (s.energyEfficiencyPercent, s.energyIntensityKgoeTon)).dedup.length = 2 := by
    decide +kernel
  obtain ⟨advice, built, some_⟩ := hotUnits_advised
  refine ⟨⟨computedAt, classifyUnits hotUnits, advice.map tagRto⟩, ?_, rfl, fun none_ => some_ (List.map_eq_nil_iff.mp none_)⟩
  show computeRtoCycle computedAt rtoSettings.unitCodeList ⟨hotReading, hotReading⟩ = _
  unfold computeRtoCycle
  dsimp only
  rw [codes, show loadUnitStates hotReading ["olefin", "pta"] = hotUnits from rfl, apart, if_neg (by decide), built]
  rfl

/-- Cycles at the start, after one minute and after two, of which the last one finds no database. -/
def hotEvents : List RtoEvent :=
  [.cycle (hotTick 0 none), .cycle (hotTick 60000000 none), .cycle (hotTick 120000000 (some .commit))]

theorem cadence_kept_hot :
    (attempts rtoSettings .start hotEvents).Pairwise (fun a b => Spaced rtoSettings a.computedAt b.computedAt) ∧
      ∀ before tick after, hotEvents = before ++ .cycle tick :: after →
        let w := run (QueueWorld.advance rtoSettings) .start before
        w.scheduler.lastPersist = (attempts rtoSettings .start before).getLast?.map (·.computedAt) ∧
          CycleKeeps rtoSettings w tick := by
  refine cadence_kept rtoSettings ?_ ?_
  · obtain ⟨first, readFirst, atFirst, _⟩ := hotTick_result 0 none
    obtain ⟨second, readSecond, atSecond, _⟩ := hotTick_result 60000000 none
    obtain ⟨third, readThird, atThird, _⟩ := hotTick_result 120000000 (some .commit)
    have results : hotEvents.filterMap (·.result rtoSettings) = [first, second, third] := by
      simp [hotEvents, RtoEvent.result, readFirst, readSecond, readThird]
    unfold Chronological
    rw [results]
    simp [atFirst, atSecond, atThird]
  · intro tick member
    simp only [hotEvents, List.mem_cons, RtoEvent.cycle.injEq, List.not_mem_nil, or_false] at member
    rcases member with rfl | rfl | rfl
    · exact Or.inl rfl
    · exact Or.inl rfl
    · exact Or.inr (Or.inr rfl)

/-- A production deployment whose commit fails queues nothing of its advice. -/
theorem commit_failure_queues_nothing : ¬ ∀ (cfg : Settings) (events : List RtoEvent), Chronological cfg events →
    (∀ tick, .cycle tick ∈ events → tick.fault = none ∨ EarlyFault tick.fault) →
    ∀ before tick after, events = before ++ .cycle tick :: after →
      let w := run (QueueWorld.advance cfg) .start before
      ∀ result, w.attempt cfg (.cycle tick) = some result →
        Adds w.server (w.advance cfg (.cycle tick)).server result.advice := by
  intro always
  obtain ⟨result, computed, _, some_⟩ := hotTick_result 0 (some .commit)
  have whole : ∀ tick, .cycle tick ∈ [RtoEvent.cycle (hotTick 0 (some .commit))] → tick.fault = none ∨ EarlyFault tick.fault := by
    intro tick member
    cases List.mem_singleton.mp member
    exact Or.inr (Or.inr rfl)
  have chronological : Chronological rtoSettings [.cycle (hotTick 0 (some .commit))] := by
    simp [Chronological, RtoEvent.result, computed]
  have attempted : QueueWorld.start.attempt rtoSettings (.cycle (hotTick 0 (some .commit))) = some result :=
    attempt_eq_some.mpr ⟨computed, rfl, some_⟩
  obtain ⟨rows, recs, stored, remembered, items, _⟩ := always rtoSettings _ chronological whole [] _ [] rfl result attempted
  have refusal : Refused rtoSettings (hotTick 0 (some .commit)) := ⟨Or.inr rfl, by decide +kernel⟩
  have same := (cycleKeeps MemoryRecStore.empty_fresh (Or.inr (Or.inr rfl)) :
    CycleKeeps rtoSettings .start (hotTick 0 (some .commit))).refused refusal
  simp only [run_nil, same, List.self_eq_append_right] at stored remembered
  subst stored
  subst remembered
  exact some_ items.symm

end Iems.Rto
