import Iems.Lib.Swarm
import Iems.Services.Physics

/-! Virtual sample generation within fixed bounds: uniform draws, and a particle swarm over the energy intensity. -/
namespace Iems.Services
open Lib

inductive Feature where
  | electricityPowerMw
  | fuelGasFlowKm3h
  | steamFlowTonh
  | feedFlowTonh
  | reactorTempC
  deriving DecidableEq

def featureBounds : Feature → ℚ × ℚ
  | .electricityPowerMw => (5, 25)
  | .fuelGasFlowKm3h => (50, 150)
  | .steamFlowTonh => (10, 50)
  | .feedFlowTonh => (80, 120)
  | .reactorTempC => (380, 420)

/-- `enrich_reading(**params)`. -/
def enrichFeatures (x : Feature → ℚ) : EnrichedReading :=
  enrichReading (x .electricityPowerMw) (x .fuelGasFlowKm3h) (x .steamFlowTonh) (x .feedFlowTonh) (x .reactorTempC)

/-- The rounded features of a sample, with the figures of the unrounded ones. -/
structure VirtualSample where
  features : Feature → ℚ
  derived : EnrichedReading

def virtualSample (x : Feature → ℚ) : VirtualSample :=
  { features := fun k => roundTo 2 (x k), derived := enrichFeatures x }

/-- The draws of one generator: unit and normal numbers for each sample or particle and feature, those of each
iteration, and `choice n size`, different indices below `n`. -/
structure VsgDraws where
  unit : Nat → Feature → ℚ
  normal : Nat → Feature → ℚ
  iteration : Nat → SwarmDraw Feature ℚ
  choice : Nat → Nat → List Nat

/-- `rng.uniform(lo, hi)` of a unit draw. -/
def uniform (lo hi unit : ℚ) : ℚ := lo + (hi - lo) * unit

def generateMonteCarlo (draws : VsgDraws) (nSamples : Int) : Option (List VirtualSample) :=
  if nSamples < 0 then none
  else some ((List.range nSamples.toNat).map fun i =>
    virtualSample fun k => uniform (featureBounds k).1 (featureBounds k).2 (draws.unit i k))

def fitness (x : Feature → ℚ) : ℚ := (enrichFeatures x).energyIntensityKgoeTon

def psoRules (lows highs : Feature → ℚ) : SwarmRules Feature ℚ ℚ where
  inertia := 6 / 10
  cognitive := 14 / 10
  social := 14 / 10
  lows := lows
  highs := highs
  fitness := fitness

def uniformRules : SwarmRules Feature ℚ ℚ := psoRules (fun k => (featureBounds k).1) fun k => (featureBounds k).2

/-- The particles before the first iteration; `none` where `argmin` raises on none. -/
def psoStart (draws : VsgDraws) (nParticles : Nat) : Option (Swarm Feature ℚ ℚ) :=
  uniformRules.start ((List.range nParticles).map fun i =>
    (fun k => uniform (featureBounds k).1 (featureBounds k).2 (draws.unit i k), fun k => 1 / 2 * draws.normal i k))

/-- As many samples of the archive as asked for, or all of a smaller one. -/
def pickSamples (draws : VsgDraws) (nSamples : Int) (archive : List VirtualSample) : Option (List VirtualSample) :=
  if nSamples < archive.length then
    if nSamples < 0 then none
    else some ((draws.choice archive.length nSamples.toNat).filterMap (archive[·]?))
  else some archive

def generatePso (draws : VsgDraws) (nSamples : Int) (nParticles : Nat := 30) (nIters : Nat := 40) :
    Option (List VirtualSample) :=
  (psoStart draws nParticles).bind fun s =>
    pickSamples draws nSamples ((uniformRules.after s draws.iteration nIters).archive.map virtualSample)

/-- What `choice` answers without replacement. -/
structure VsgDraws.Chooses (draws : VsgDraws) : Prop where
  length : ∀ n size, size ≤ n → (draws.choice n size).length = size
  below : ∀ n size, size ≤ n → ∀ i ∈ draws.choice n size, i < n

theorem featureBounds_ordered (k : Feature) : (featureBounds k).1 ≤ (featureBounds k).2 := by
  cases k <;> decide

theorem psoStart_sound {draws : VsgDraws} {nParticles : Nat} {s : Swarm Feature ℚ ℚ}
    (started : psoStart draws nParticles = some s) (iteration : Nat → SwarmDraw Feature ℚ) (n : Nat) :
    SwarmRules.Sound uniformRules s iteration n :=
  SwarmRules.started_sound featureBounds_ordered started iteration n

theorem psoStart_size {draws : VsgDraws} {nParticles : Nat} {s : Swarm Feature ℚ ℚ}
    (started : psoStart draws nParticles = some s) : s.particles.length = nParticles := by
  rw [(SwarmRules.start_fresh started).1, List.length_map, List.length_range]

theorem psoStart_isSome {draws : VsgDraws} {nParticles : Nat} (some_ : 0 < nParticles) :
    ∃ s, psoStart draws nParticles = some s :=
  SwarmRules.start_isSome (by simp; omega)

theorem length_pickSamples {draws : VsgDraws} {nSamples : Int} {archive : List VirtualSample} (chooses : draws.Chooses)
    (nonneg : 0 ≤ nSamples) :
    ∃ samples, pickSamples draws nSamples archive = some samples ∧
      (samples.length : Int) = min nSamples archive.length := by
  unfold pickSamples
  split
  · rename_i fewer
    rw [if_neg (not_lt.mpr nonneg)]
    have within : nSamples.toNat ≤ archive.length := by omega
    refine ⟨_, rfl, ?_⟩
    have all : ((draws.choice archive.length nSamples.toNat).filterMap (archive[·]?)).length =
        (draws.choice archive.length nSamples.toNat).length := by
      rw [List.length_filterMap_eq_countP, List.countP_eq_length]
      intro i member
      rw [List.getElem?_eq_getElem (chooses.below _ _ within i member)]
      rfl
    rw [all, chooses.length _ _ within, min_eq_left fewer.le]
    omega
  · rename_i all
    exact ⟨archive, rfl, (min_eq_right (not_lt.mp all)).symm⟩

end Iems.Services
