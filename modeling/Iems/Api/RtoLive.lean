import Iems.Api.Analyze

/-! The live view of the real-time optimizer against an analysis of the same plants. -/
namespace Iems.Api
open Lib Iems.Core Iems.Optimization Iems.Rto

/-- What the scheduler of the process tells of its cycle, and the configured one. -/
structure RtoCycle where
  running : Bool := false
  cycleSeconds : ℚ := 10
  intervalSeconds : ℚ := 10

structure RtoUnitTargetOut where
  plantCode : String
  tier : Tier
  energyEfficiencyPercent : ℚ
  energyIntensityKgoeTon : ℚ
  gapPpVsBest : ℚ
  benchmarkPlant : Option String
  onTarget : Bool
  title : Option String
  current : Option (Dict String ℚ)
  proposed : Option (Dict String ℚ)
  deltas : Option (Dict String ℚ)
  estimatedSecReductionPct : ℚ
  estimatedEnergySavingKwhPerH : ℚ

structure RtoLiveOut where
  computedAt : Int
  cycleSeconds : ℚ
  totalEstimatedSavingKwhPerH : ℚ
  units : List RtoUnitTargetOut

def unitTarget (bench : UnitBenchmark) (advice : Option SetpointAdvice) : RtoUnitTargetOut where
  plantCode := bench.plantCode
  tier := bench.tier
  energyEfficiencyPercent := bench.energyEfficiencyPercent
  energyIntensityKgoeTon := bench.energyIntensityKgoeTon
  gapPpVsBest := bench.gapPpVsBest
  benchmarkPlant := bench.benchmarkPlant
  onTarget := advice.isNone
  title := advice.map (·.title)
  current := advice.map (·.current)
  proposed := advice.map (·.proposed)
  deltas := advice.map (·.deltas)
  estimatedSecReductionPct := (advice.map (·.estimatedSecReductionPct)).getD 0
  estimatedEnergySavingKwhPerH := (advice.map (·.estimatedEnergySavingKwhPerH)).getD 0

/-- The plants of a request: those it names, or all that are monitored. -/
def requestedCodes (cfg : Settings) (plantCodes : String) : List String :=
  if commaList plantCodes = [] then cfg.unitCodeList else commaList plantCodes

def liveView (cycle : RtoCycle) (result : RtoCycleResult) : RtoLiveOut :=
  let adviceByPlant := Dict.ofPairs (result.advice.map fun a => (a.plantCode, a))
  let targets := result.units.map fun bench => unitTarget bench (adviceByPlant.get? bench.plantCode)
  { computedAt := result.computedAt
    cycleSeconds := if cycle.running then cycle.cycleSeconds else cycle.intervalSeconds
    totalEstimatedSavingKwhPerH := roundTo 2 (targets.map (·.estimatedEnergySavingKwhPerH)).sum
    units := targets }

/-- `none` is an error that the route does not catch. -/
def rtoLive (cfg : Settings) (cycle : RtoCycle) (computedAt : Int) (reads : CycleReads) (plantCodes : String) :
    Option RtoLiveOut :=
  (computeRtoCycle computedAt (requestedCodes cfg plantCodes) reads).map (liveView cycle)

/-- What the view shows of an advice. -/
structure AdvisedTarget where
  plantCode : String
  title : String
  current : Dict String ℚ
  proposed : Dict String ℚ
  deltas : Dict String ℚ
  estimatedSecReductionPct : ℚ
  estimatedEnergySavingKwhPerH : ℚ

def advisedTarget (advice : SetpointAdvice) : AdvisedTarget where
  plantCode := advice.plantCode
  title := advice.title
  current := advice.current
  proposed := advice.proposed
  deltas := advice.deltas
  estimatedSecReductionPct := advice.estimatedSecReductionPct
  estimatedEnergySavingKwhPerH := advice.estimatedEnergySavingKwhPerH

def RtoUnitTargetOut.advised (unit : RtoUnitTargetOut) : Option AdvisedTarget := do
  return {
    plantCode := unit.plantCode
    title := ← unit.title
    current := ← unit.current
    proposed := ← unit.proposed
    deltas := ← unit.deltas
    estimatedSecReductionPct := unit.estimatedSecReductionPct
    estimatedEnergySavingKwhPerH := unit.estimatedEnergySavingKwhPerH }

def RtoUnitTargetOut.benchmark (unit : RtoUnitTargetOut) : UnitBenchmark where
  plantCode := unit.plantCode
  energyEfficiencyPercent := unit.energyEfficiencyPercent
  energyIntensityKgoeTon := unit.energyIntensityKgoeTon
  tier := unit.tier
  gapPpVsBest := unit.gapPpVsBest
  benchmarkPlant := unit.benchmarkPlant

/-- The view and the analysis say the same: of the same units, the same advice in the same order, and the same saving. -/
structure LiveAgrees (live : RtoLiveOut) (res : OptimizationResponse) : Prop where
  units : live.units.map (·.benchmark) = res.units
  advised : live.units.filterMap (·.advised) = res.advice.map fun out => advisedTarget out.advice
  onTarget : ∀ unit ∈ live.units, unit.onTarget = true ↔ ∀ out ∈ res.advice, out.advice.plantCode ≠ unit.plantCode
  total : live.totalEstimatedSavingKwhPerH = res.totalEstimatedSavingKwhPerH

/-- Both routes fail, or both answer and agree. -/
inductive ViewAgrees : Option RtoLiveOut → Option OptimizationResponse → Prop where
  | failed : ViewAgrees none none
  | shown {live : RtoLiveOut} {res : OptimizationResponse} (agrees : LiveAgrees live res) : ViewAgrees (some live) (some res)

/-! ### Targets and advice -/

section
variable {items : List SetpointAdvice} {benchmarks : List UnitBenchmark}

/-- The advice of a plant as the view finds it. -/
def taggedAdvice (items : List SetpointAdvice) : Dict String SetpointAdvice :=
  Dict.ofPairs ((items.map tagRto).map fun a => (a.plantCode, a))

theorem tagRto_code (item : SetpointAdvice) : (tagRto item).plantCode = item.plantCode := by
  unfold tagRto
  split <;> rfl

theorem advisedTarget_tagRto (item : SetpointAdvice) : advisedTarget (tagRto item) = advisedTarget item := by
  unfold tagRto
  split <;> rfl

theorem codes_classifyUnits (states : List UnitOperatingState) :
    (classifyUnits states).map (·.plantCode) = states.map (·.plantCode) := by
  unfold classifyUnits
  cases top : bestUnit states with
  | none =>
    rw [eq_nil_of_bestUnit_none top]
    rfl
  | some best =>
    dsimp only
    rw [List.map_map]
    rfl

/-- Asked for unit by unit, the advice comes back as it was given. -/
theorem taggedAdvice_units (part : (items.map (·.plantCode)).Sublist (benchmarks.map (·.plantCode)))
    (distinct : (benchmarks.map (·.plantCode)).Nodup) :
    benchmarks.filterMap (fun bench => (taggedAdvice items).get? bench.plantCode) = items.map tagRto := by
  have codes : (items.map tagRto).map (·.plantCode) = items.map (·.plantCode) := by
    rw [List.map_map]
    exact List.map_congr_left fun item _ => tagRto_code item
  have found := Dict.filterMap_ofPairs (codes ▸ part) distinct
  rw [List.filterMap_map] at found
  exact found

theorem sum_savings (found : UnitBenchmark → Option SetpointAdvice) (benchmarks : List UnitBenchmark) :
    ((benchmarks.map fun bench => unitTarget bench (found bench)).map (·.estimatedEnergySavingKwhPerH)).sum =
      ((benchmarks.filterMap found).map (·.estimatedEnergySavingKwhPerH)).sum := by
  induction benchmarks with
  | nil => rfl
  | cons bench rest ih =>
    rw [List.map_cons, List.map_cons, List.sum_cons, ih]
    cases own : found bench with
    | none =>
      rw [List.filterMap_cons_none own]
      exact zero_add _
    | some advice =>
      rw [List.filterMap_cons_some own]
      rfl

theorem advised_targets {found : UnitBenchmark → Option SetpointAdvice}
    (keyed : ∀ bench advice, found bench = some advice → advice.plantCode = bench.plantCode)
    (benchmarks : List UnitBenchmark) :
    (benchmarks.map fun bench => unitTarget bench (found bench)).filterMap (·.advised) =
      (benchmarks.filterMap found).map advisedTarget := by
  rw [List.filterMap_map, List.map_filterMap]
  congr 1
  funext bench
  cases own : found bench with
  | none =>
    show (unitTarget bench (found bench)).advised = _
    rw [own]
    rfl
  | some advice =>
    show (unitTarget bench (found bench)).advised = some (advisedTarget advice)
    rw [own]
    have code := keyed bench advice own
    unfold advisedTarget
    rw [code]
    rfl

theorem taggedAdvice_none_iff {code : String} : (taggedAdvice items).get? code = none ↔ ∀ item ∈ items, item.plantCode ≠ code := by
  unfold taggedAdvice
  rw [Dict.get?_ofPairs, ← not_iff_not, ← ne_eq, lookup_ne_none_iff]
  simp [tagRto_code]

theorem taggedAdvice_keyed {code : String} {advice : SetpointAdvice} (distinct : (items.map (·.plantCode)).Nodup)
    (found : (taggedAdvice items).get? code = some advice) : advice.plantCode = code := by
  have keys : (((items.map tagRto).map fun a => (a.plantCode, a)).map Prod.fst).Nodup := by
    rw [List.map_map, List.map_map]
    exact (List.map_congr_left fun item _ => (tagRto_code item).symm) ▸ distinct
  obtain ⟨tagged, _, same⟩ := List.mem_map.mp ((Dict.get?_ofPairs_iff keys).mp found)
  cases same
  rfl

end

/-! ### The view and the analysis -/

section
variable {cfg : Settings} {cycle : RtoCycle} {computedAt : Int} {plantCodes : String} {ctx : AnalyzeContext}
  {server : RecServer} {simulate persist : Bool} {model : String}

theorem computeRtoCycle_eq (codes : List String) (reads : CycleReads) : computeRtoCycle computedAt codes reads =
    (buildStructuredAdvice (unitStates reads codes) (classifyUnits (unitStates reads codes))).map fun advice =>
      ⟨computedAt, classifyUnits (unitStates reads codes), advice.map tagRto⟩ := rfl

theorem rtoLive_built {reads : CycleReads} {items : List SetpointAdvice}
    (built : buildStructuredAdvice (unitStates reads (requestedCodes cfg plantCodes))
      (classifyUnits (unitStates reads (requestedCodes cfg plantCodes))) = some items) :
    rtoLive cfg cycle computedAt reads plantCodes = some (liveView cycle
      ⟨computedAt, classifyUnits (unitStates reads (requestedCodes cfg plantCodes)), items.map tagRto⟩) := by
  unfold rtoLive
  rw [computeRtoCycle_eq, built]
  rfl

/-- A simulation that the request asks for raises. -/
def SimulationRaises (ctx : AnalyzeContext) (body : AnalyzeRequest) : Prop :=
  body.simulate = true ∧ ∃ items,
    buildStructuredAdvice (unitStates ctx.reads body.plantCodes) (classifyUnits (unitStates ctx.reads body.plantCodes)) =
      some items ∧ simulations ctx body.model (unitStates ctx.reads body.plantCodes) items = none

theorem analyze_isSome (steady : ¬SimulationRaises ctx ⟨requestedCodes cfg plantCodes, simulate, persist, model⟩) :
    (analyze ctx ⟨requestedCodes cfg plantCodes, simulate, persist, model⟩ server).1.isSome =
      (rtoLive cfg cycle computedAt ctx.reads plantCodes).isSome := by
  unfold analyze rtoLive
  rw [computeRtoCycle_eq]
  dsimp only
  cases built : buildStructuredAdvice (unitStates ctx.reads (requestedCodes cfg plantCodes))
    (classifyUnits (unitStates ctx.reads (requestedCodes cfg plantCodes))) with
  | none => rfl
  | some items =>
    dsimp only
    split
    · rename_i raised
      split at raised
      · rename_i asked
        exact absurd ⟨asked, items, built, raised⟩ steady
      · cases raised
    · rfl

theorem analyze_raises {body : AnalyzeRequest} (raises : SimulationRaises ctx body) : (analyze ctx body server).1 = none := by
  obtain ⟨asked, items, built, raised⟩ := raises
  unfold analyze
  dsimp only
  rw [built]
  dsimp only
  rw [if_pos asked, raised]

theorem liveAgrees {codes : List String} (distinct : codes.Nodup) {items : List SetpointAdvice}
    (built : buildStructuredAdvice (unitStates ctx.reads codes) (classifyUnits (unitStates ctx.reads codes)) = some items)
    {res : OptimizationResponse} (advice : res.advice.map (·.advice) = items)
    (units : res.units = classifyUnits (unitStates ctx.reads codes))
    (total : res.totalEstimatedSavingKwhPerH = roundTo 2 (items.map (·.estimatedEnergySavingKwhPerH)).sum) :
    LiveAgrees (liveView cycle ⟨computedAt, classifyUnits (unitStates ctx.reads codes), items.map tagRto⟩) res := by
  have codesOf : (classifyUnits (unitStates ctx.reads codes)).map (·.plantCode) = codes := by
    rw [codes_classifyUnits, unitStates_codes]
  have part : (items.map (·.plantCode)).Sublist ((classifyUnits (unitStates ctx.reads codes)).map (·.plantCode)) := by
    rw [codes_classifyUnits]
    exact advice_codes built
  have apart : (items.map (·.plantCode)).Nodup := advice_distinct distinct built
  generalize classifyUnits (unitStates ctx.reads codes) = benchmarks at codesOf part units
  have inOrder := taggedAdvice_units part (codesOf ▸ distinct)
  have targets : (liveView cycle ⟨computedAt, benchmarks, items.map tagRto⟩).units =
      benchmarks.map fun bench => unitTarget bench ((taggedAdvice items).get? bench.plantCode) := rfl
  refine ⟨?_, ?_, fun unit member => ?_, ?_⟩
  · rw [targets, units, List.map_map]
    exact List.map_id _
  · rw [targets, advised_targets fun bench advice found => taggedAdvice_keyed apart found, inOrder, List.map_map,
      ← advice, List.map_map]
    exact List.map_congr_left fun out _ => advisedTarget_tagRto out.advice
  · rw [targets] at member
    obtain ⟨bench, among, rfl⟩ := List.mem_map.mp member
    show ((taggedAdvice items).get? bench.plantCode).isNone = true ↔ _
    rw [Option.isNone_iff_eq_none, taggedAdvice_none_iff, ← advice]
    exact List.forall_mem_map
  · show roundTo 2 ((benchmarks.map fun bench => unitTarget bench ((taggedAdvice items).get? bench.plantCode)).map
      (·.estimatedEnergySavingKwhPerH)).sum = _
    rw [total, sum_savings, inOrder, List.map_map]
    congr 2
    exact List.map_congr_left fun item _ => by unfold Function.comp tagRto; split <;> rfl

/-- For plants that are named once, the view of the optimizer and an analysis of the same readings say the same; only
where a simulation raises does the view answer alone. -/
theorem rto_live_agrees (cfg : Settings) (cycle : RtoCycle) (computedAt : Int) (plantCodes : String) (ctx : AnalyzeContext)
    (server : RecServer) (simulate persist : Bool) (model : String) (distinct : (requestedCodes cfg plantCodes).Nodup) :
    let body : AnalyzeRequest := ⟨requestedCodes cfg plantCodes, simulate, persist, model⟩
    (SimulationRaises ctx body → (analyze ctx body server).1 = none ∧
        ∃ live, rtoLive cfg cycle computedAt ctx.reads plantCodes = some live) ∧
      (¬SimulationRaises ctx body →
        ViewAgrees (rtoLive cfg cycle computedAt ctx.reads plantCodes) (analyze ctx body server).1) := by
  intro body
  constructor
  · intro raises
    have ⟨_, items, built, _⟩ := raises
    exact ⟨analyze_raises raises, _, rtoLive_built built⟩
  intro steady
  have both := @analyze_isSome cfg cycle computedAt plantCodes ctx server simulate persist model steady
  cases answered : (analyze ctx body server).1 with
  | none =>
    rw [answered] at both
    rw [Option.isNone_iff_eq_none.mp (Option.isSome_eq_false_iff.mp both.symm)]
    exact .failed
  | some res =>
    obtain ⟨items, sims, built, _, advice, units, total⟩ := analyze_answer answered
    dsimp only [body] at built units
    have own : res.advice.map (·.advice) = items := by
      rw [advice, List.map_map]
      exact List.map_id _
    rw [rtoLive_built built]
    exact .shown (liveAgrees distinct built own units total)

theorem rto_live_agrees_hot :
    ViewAgrees (rtoLive rtoSettings {} 0 hotContext.reads "")
        (analyze hotContext ⟨requestedCodes rtoSettings "", false, true, "elm"⟩ ⟨.empty, .empty⟩).1 ∧
      ∃ live, rtoLive rtoSettings {} 0 hotContext.reads "" = some live := by
  have codes : requestedCodes rtoSettings "" = ["olefin", "pta"] := by decide +kernel
  have distinct : (requestedCodes rtoSettings "").Nodup := by
    rw [codes]
    decide
  have steady : ¬SimulationRaises hotContext ⟨requestedCodes rtoSettings "", false, true, "elm"⟩ :=
    fun raises => Bool.false_ne_true raises.1
  refine ⟨(rto_live_agrees rtoSettings {} 0 "" hotContext ⟨.empty, .empty⟩ false true "elm" distinct).2 steady, ?_⟩
  obtain ⟨advice, built, _⟩ := hotUnits_advised
  unfold rtoLive
  rw [codes, computeRtoCycle_eq, hot_states, built]
  exact ⟨_, rfl⟩

end

end Iems.Api
