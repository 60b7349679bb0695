import Iems.Ml.Drift
import Iems.Ml.Train
import Iems.Services.Vsg

/-! Virtual samples around the rows of a plant, and the rows that training adds. -/
namespace Iems.Ml
open Lib Iems.Core Iems.Services

def Sample.feature (sample : Sample) : Feature → ℚ
  | .electricityPowerMw => sample.electricityPowerMw
  | .fuelGasFlowKm3h => sample.fuelGasFlowKm3h
  | .steamFlowTonh => sample.steamFlowTonh
  | .feedFlowTonh => sample.feedFlowTonh
  | .reactorTempC => sample.reactorTempC

structure EmpiricalStats where
  mean : ℚ
  std : ℚ
  lo : ℚ
  hi : ℚ

/-- The statistics of one column, its range widened a little. -/
def empiricalStats (np : Numpy ℚ) (frame : List Sample) (k : Feature) : EmpiricalStats :=
  let series := frame.map (·.feature k)
  let mean := average series
  let std := np.sqrt (average (series.map fun x => (x - mean) ^ 2))
  let std := if std = 0 then 1 else std
  let lo := lowest series
  let hi := highest series
  let pad := 5 / 100 * (hi - lo + 1 / 1000000)
  { mean := mean, std := max std (1 / 1000), lo := lo - pad, hi := hi + pad }

/-- The draws of the generators around real rows: the rows that seed particles, and their noise. -/
structure RealDraws extends VsgDraws where
  noise : Nat → Feature → ℚ
  seedRows : Nat → Nat → List Nat

section
variable (np : Numpy ℚ) (frame : List Sample)

def generateMonteCarloFromReal (draws : RealDraws) (nSamples : Int) : List VirtualSample :=
  (List.range nSamples.toNat).map fun i =>
    virtualSample fun k =>
      let stats := empiricalStats np frame k
      clip (stats.mean + stats.std * draws.normal i k) stats.lo stats.hi

def realRules : SwarmRules Feature ℚ ℚ :=
  psoRules (fun k => (empiricalStats np frame k).lo) fun k => (empiricalStats np frame k).hi

/-- The first rows of the array are seeded from real ones, the rest drawn within the bounds. -/
def seedPosition (draws : RealDraws) (take i : Nat) (k : Feature) : ℚ :=
  let stats := empiricalStats np frame k
  if i < take then
    match (draws.seedRows frame.length take)[i]?.bind (frame[·]?) with
    | some row => row.feature k
    | none => 0
  else uniform stats.lo stats.hi (draws.unit (i - take) k)

/-- `none` where the bounds of an empty frame are no numbers, or where there is no particle. -/
def realPsoStart (draws : RealDraws) (nParticles : Nat) : Option (Swarm Feature ℚ ℚ) :=
  if frame = [] then none
  else
    (realRules np frame).start ((List.range nParticles).map fun i =>
      let place (k : Feature) : ℚ :=
        seedPosition np frame draws (min frame.length nParticles) i k +
          1 / 100 * draws.noise i k * ((empiricalStats np frame k).hi - (empiricalStats np frame k).lo)
      ((realRules np frame).clamp place, fun k => 2 / 10 * draws.normal i k))

def generatePsoFromReal (draws : RealDraws) (nSamples : Int) (nParticles : Nat := 30) (nIters : Nat := 40) :
    Option (List VirtualSample) :=
  (realPsoStart np frame draws nParticles).bind fun s =>
    pickSamples draws.toVsgDraws nSamples (((realRules np frame).after s draws.iteration nIters).archive.map virtualSample)

/-- The generator around the real rows, or within the fixed bounds where there are none. -/
def augmentWithVsg (draws : RealDraws) (method : String) (nSamples : Int) : Option (List VirtualSample) :=
  if frame = [] then
    if method = "pso" then generatePso draws.toVsgDraws nSamples else generateMonteCarlo draws.toVsgDraws nSamples
  else if method = "pso" then generatePsoFromReal np frame draws nSamples
  else some (generateMonteCarloFromReal np frame draws nSamples)

end

/-- The columns of a virtual sample that the merge keeps. -/
def mergedRow (virtual : VirtualSample) : Sample where
  electricityPowerMw := virtual.features .electricityPowerMw
  fuelGasFlowKm3h := virtual.features .fuelGasFlowKm3h
  steamFlowTonh := virtual.features .steamFlowTonh
  feedFlowTonh := virtual.features .feedFlowTonh
  reactorTempC := virtual.features .reactorTempC
  energyIntensityKgoeTon := virtual.derived.energyIntensityKgoeTon
  carbonEmissionKgco2Ton := virtual.derived.carbonEmissionKgco2Ton

def mergeRealAndVirtual (frame : List Sample) (virtual : List VirtualSample) : List Sample :=
  frame ++ virtual.map mergedRow

/-! ### The bounds of a frame -/

section
variable {np : Numpy ℚ} {frame : List Sample}

variable (np) in
theorem empiricalStats_ordered (some_ : frame ≠ []) (k : Feature) :
    (empiricalStats np frame k).lo ≤ (empiricalStats np frame k).hi := by
  have series : frame.map (·.feature k) ≠ [] := by simpa using some_
  have range := (lowest_spec series).2 _ (highest_spec series).1
  unfold empiricalStats
  dsimp only
  linarith

theorem realPsoStart_eq {draws : RealDraws} {nParticles : Nat} {s : Swarm Feature ℚ ℚ}
    (started : realPsoStart np frame draws nParticles = some s) :
    frame ≠ [] ∧ ∃ placed, placed.length = nParticles ∧ (realRules np frame).start placed = some s := by
  unfold realPsoStart at started
  split at started
  · cases started
  · rename_i some_
    exact ⟨some_, _, by simp, started⟩

theorem realPsoStart_sound {draws : RealDraws} {nParticles : Nat} {s : Swarm Feature ℚ ℚ}
    (started : realPsoStart np frame draws nParticles = some s) (iteration : Nat → SwarmDraw Feature ℚ) (n : Nat) :
    s.particles.length = nParticles ∧ SwarmRules.Sound (realRules np frame) s iteration n := by
  obtain ⟨some_, placed, size, begun⟩ := realPsoStart_eq started
  have ordered : ∀ k, (realRules np frame).lows k ≤ (realRules np frame).highs k := empiricalStats_ordered np some_
  exact ⟨(SwarmRules.start_fresh begun).1.trans size, SwarmRules.started_sound ordered begun iteration n⟩

theorem realPsoStart_isSome {draws : RealDraws} {nParticles : Nat} (some_ : frame ≠ []) (positive : 0 < nParticles) :
    ∃ s, realPsoStart np frame draws nParticles = some s := by
  unfold realPsoStart
  rw [if_neg some_]
  exact SwarmRules.start_isSome (by simp; omega)

end

/-- After any number of iterations of either generator, whatever is drawn: positions and archived features are within
the bounds, each personal best is the best of the visited positions and its score never rises, the global best is a
personal best of least score and that never rises, and the archive has one position for each particle and iteration. -/
theorem pso_sound (np : Numpy ℚ) (frame : List Sample) (uniformDraws : VsgDraws) (realDraws : RealDraws) (nParticles n : Nat) :
    (∀ s, psoStart uniformDraws nParticles = some s →
      s.particles.length = nParticles ∧ SwarmRules.Sound uniformRules s uniformDraws.iteration n) ∧
    ∀ s, realPsoStart np frame realDraws nParticles = some s →
      s.particles.length = nParticles ∧ SwarmRules.Sound (realRules np frame) s realDraws.iteration n := by
  constructor
  · intro s started
    exact ⟨psoStart_size started, psoStart_sound started uniformDraws.iteration n⟩
  · intro s started
    exact realPsoStart_sound started realDraws.iteration n

/-- A generator that draws the middle of everything and chooses the first. -/
def middleDraws : RealDraws where
  unit _ _ := 1 / 2
  normal _ _ := 0
  iteration _ := ⟨fun _ _ => 1 / 2, fun _ _ => 1 / 2⟩
  choice _ size := List.range size
  noise _ _ := 0
  seedRows _ size := List.range size

theorem pso_sound_middle :
    (∃ s, psoStart middleDraws.toVsgDraws 2 = some s ∧ s.particles.length = 2 ∧
        SwarmRules.Sound uniformRules s middleDraws.iteration 3) ∧
      ∃ s, realPsoStart meanLearner.numpy [steadySample] middleDraws 2 = some s ∧ s.particles.length = 2 ∧
        SwarmRules.Sound (realRules meanLearner.numpy [steadySample]) s middleDraws.iteration 3 := by
  have sound := pso_sound meanLearner.numpy [steadySample] middleDraws.toVsgDraws middleDraws 2 3
  obtain ⟨s, started⟩ : ∃ s, psoStart middleDraws.toVsgDraws 2 = some s := psoStart_isSome (by decide)
  obtain ⟨t, begun⟩ : ∃ t, realPsoStart meanLearner.numpy [steadySample] middleDraws 2 = some t :=
    realPsoStart_isSome (List.cons_ne_nil _ _) (by decide)
  exact ⟨⟨s, started, sound.1 s started⟩, t, begun, sound.2 t begun⟩

end Iems.Ml
