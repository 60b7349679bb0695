import Iems.Ml.Serve

/-! The totals of a forecast against its intensities: what the horizon's feed makes of them. -/
namespace Iems.Ml
open Lib Iems.Core Iems.Services Iems.Carbon

/-- Two reported numbers agree: finite ones within the tolerance, special values exactly. -/
def Near (tolerance : ℚ) : ExtRat → ExtRat → Prop
  | .finite a, .finite b => |a - b| ≤ tolerance
  | a, b => a = b

/-- The feed of the whole horizon. -/
def PredictionRequest.feedTon (request : PredictionRequest) : ℚ :=
  request.features.feedFlowTonh * (request.horizonMinutes / 60)

/-- The totals are the intensities over the feed of the horizon, up to the two digits that each number is reported
with; the carbon total may be the sum of two numbers so rounded. -/
structure Consistent (request : PredictionRequest) (result : PredictionResult) : Prop where
  carbon : Near (1 / 100 + |request.feedTon| / 200) result.predictedCarbonKgco2
    (result.predictedCarbonIntensityKgco2Ton.scale request.feedTon)
  energy : Near (1 / 200 + |request.feedTon * (1163 / 100)| / 200) result.predictedEnergyKwh
    (result.predictedIntensityKgoeTon.scale (request.feedTon * (1163 / 100)))

/-- What a cubic metre of gas, a ton of steam and a kilowatt hour emit, in kg. -/
structure EmissionRates where
  gas : ℚ
  steam : ℚ
  electricity : ℚ

/-- The rates of the plant's entry in the factor file; those of the settings for a plant without a name or an entry. -/
def plantRates (factors : Dict String EmissionFactors) (cfg : Settings) (plantCode : String) : EmissionRates :=
  match factors.get? plantCode with
  | some ef =>
    if plantCode = "" then ⟨cfg.efNaturalGasKgco2PerM3, cfg.efSteamKgco2PerTon, cfg.efElectricityKgco2PerKwh⟩
    else ⟨ef.naturalGasKgco2PerM3, ef.steamKgco2PerTon, ef.electricityKgco2PerKwh⟩
  | none => ⟨cfg.efNaturalGasKgco2PerM3, cfg.efSteamKgco2PerTon, cfg.efElectricityKgco2PerKwh⟩

/-- The emissions of the horizon, each scope with its two digits. -/
def flowEmissions (rates : EmissionRates) (f : PlantFeatures) (hours : ℚ) : ℚ :=
  roundTo 2 (f.fuelGasFlowKm3h * 1000 * hours * rates.gas + f.steamFlowTonh * hours * rates.steam) +
    roundTo 2 (f.electricityPowerMw * 1000 * hours * rates.electricity)

/-- The emissions for each ton of feed that the flows stand for, between 20 and 80, with two digits. -/
def flowIntensity (f : PlantFeatures) : ℚ :=
  roundTo 2 (min (max (2 / 10 * f.fuelGasFlowKm3h + 3 / 10 * f.steamFlowTonh + 5 / 100 * f.electricityPowerMw) 20) 80)

/-- The feed over which the intensity of the flows makes up their emissions, give or take the last digits of both. -/
def FeedMatches (rates : EmissionRates) (f : PlantFeatures) (hours : ℚ) : Prop :=
  (flowEmissions rates f hours - 1 / 100) / (flowIntensity f + 1 / 200) ≤ f.feedFlowTonh * hours ∧
    f.feedFlowTonh * hours ≤ (flowEmissions rates f hours + 1 / 100) / (flowIntensity f - 1 / 200)

/-! ### Rounding against scaling -/

theorem roundTo_scaled (x factor : ℚ) : |roundTo 2 (x * factor) - roundTo 2 x * factor| ≤ 1 / 200 + |factor| / 200 := by
  obtain ⟨low, high⟩ := roundTo_near (x * factor)
  obtain ⟨under, above⟩ := roundTo_near x
  have whole : |roundTo 2 (x * factor) - x * factor| ≤ 1 / 200 := abs_le.mpr ⟨by linarith, by linarith⟩
  have part : |x - roundTo 2 x| ≤ 1 / 200 := abs_le.mpr ⟨by linarith, by linarith⟩
  have scaled : |(x - roundTo 2 x) * factor| ≤ |factor| / 200 := by
    rw [abs_mul]
    have grown := mul_le_mul_of_nonneg_right part (abs_nonneg factor)
    linarith
  have split : roundTo 2 (x * factor) - roundTo 2 x * factor =
      (roundTo 2 (x * factor) - x * factor) + (x - roundTo 2 x) * factor := by ring
  rw [split]
  exact (abs_add_le _ _).trans (add_le_add whole scaled)

/-- A scaled number, rounded, against the rounded number scaled; special values do not change. -/
theorem near_scaled (x : ExtRat) (factor : ℚ) {tolerance : ℚ} (wide : 1 / 200 + |factor| / 200 ≤ tolerance) :
    Near tolerance ((x.scale factor).roundTo 2) ((x.roundTo 2).scale factor) := by
  cases x with
  | finite a => exact (roundTo_scaled a factor).trans wide
  | nan => rfl
  | infinite negative =>
    unfold ExtRat.scale
    by_cases zero : factor = 0
    · simp [zero, ExtRat.roundTo, Near]
    · simp [zero, ExtRat.roundTo, Near]

theorem scale_scale (x : ExtRat) (first second : ℚ) : (x.scale first).scale second = x.scale (first * second) := by
  cases x with
  | finite a => simp [mul_assoc]
  | nan => rfl
  | infinite negative =>
    unfold ExtRat.scale
    rcases lt_trichotomy first 0 with below | rfl | above
    · rcases lt_trichotomy second 0 with under | rfl | positive
      · have product : 0 < first * second := mul_pos_of_neg_of_neg below under
        simp [below.ne, below, under.ne, under, product.not_gt]
      · simp [below.ne, below]
      · have product : first * second < 0 := mul_neg_of_neg_of_pos below positive
        simp [below.ne, below, positive.ne', positive.not_gt, product]
    · simp
    · rcases lt_trichotomy second 0 with under | rfl | positive
      · have product : first * second < 0 := mul_neg_of_pos_of_neg above under
        simp [above.ne', above.not_gt, under.ne, under, product]
      · simp [above.ne', above.not_gt]
      · have product : 0 < first * second := mul_pos above positive
        simp [above.ne', above.not_gt, positive.ne', positive.not_gt, product.not_gt]

/-! ### The two sources -/

section
variable {M : Type} {learner : Learner M} {cfg : Settings} {request : PredictionRequest} {result : PredictionResult}

theorem predictRegistered_consistent {registered : RegisteredModel M}
    (answered : predictRegistered learner cfg registered request = .ok result) : Consistent request result := by
  have narrow : 1 / 200 + |request.feedTon| / 200 ≤ 1 / 100 + |request.feedTon| / 200 := by linarith
  unfold predictRegistered at answered
  split at answered
  · cases answered
  · split at answered
    · cases answered
    · cases answered
    · rename_i intensity outputs _
      cases answered
      constructor
      · dsimp only
        rw [scale_scale]
        exact near_scaled _ request.feedTon narrow
      · dsimp only
        rw [scale_scale, scale_scale, ← mul_assoc]
        exact near_scaled intensity (request.feedTon * kgoeToKwh) le_rfl

theorem resolveFactors_rates (factors : Dict String EmissionFactors) (plantCode : String) :
    let ef := resolveFactors factors cfg (some plantCode) none
    plantRates factors cfg plantCode = ⟨ef.naturalGasKgco2PerM3, ef.steamKgco2PerTon, ef.electricityKgco2PerKwh⟩ := by
  intro ef
  by_cases named : plantCode = ""
  · subst named
    unfold plantRates
    cases factors.get? "" <;> rfl
  · have given : namedCode (some plantCode) = some plantCode := by simp [namedCode, named]
    unfold plantRates ef resolveFactors factorsFor
    rw [given]
    cases entry : factors.get? plantCode <;> simp [named, entry]

theorem computeScopesOf_total (factors : Dict String EmissionFactors) (f : PlantFeatures) (hours : ℚ) (plantCode : String) :
    (computeScopesOf factors cfg f.fuelGasFlowKm3h f.steamFlowTonh f.electricityPowerMw f.feedFlowTonh hours
      (some plantCode)).totalKgco2 = flowEmissions (plantRates factors cfg plantCode) f hours := by
  rw [resolveFactors_rates]
  rfl

theorem flowIntensity_low (f : PlantFeatures) : 20 ≤ flowIntensity f := by
  have clipped : ((20 : ℤ) : ℚ) ≤
      min (max (2 / 10 * f.fuelGasFlowKm3h + 3 / 10 * f.steamFlowTonh + 5 / 100 * f.electricityPowerMw) 20) 80 :=
    le_min (le_max_right _ _) (by norm_num)
  have rounded := @le_roundTo 2 _ _ clipped
  exact_mod_cast rounded

theorem flowIntensity_high (f : PlantFeatures) : flowIntensity f ≤ 80 := by
  have clipped : min (max (2 / 10 * f.fuelGasFlowKm3h + 3 / 10 * f.steamFlowTonh + 5 / 100 * f.electricityPowerMw) 20) 80 ≤
      ((80 : ℤ) : ℚ) := min_le_right _ _
  have rounded := @roundTo_le 2 _ _ clipped
  exact_mod_cast rounded

/-- The band of a total around an intensity over a feed, solved for the feed. -/
theorem band_iff {total intensity feed : ℚ} (positive : 0 < feed) (large : 1 / 200 < intensity) :
    |total - intensity * feed| ≤ 1 / 100 + |feed| / 200 ↔
      (total - 1 / 100) / (intensity + 1 / 200) ≤ feed ∧ feed ≤ (total + 1 / 100) / (intensity - 1 / 200) := by
  rw [abs_of_pos positive, abs_le, div_le_iff₀ (by linarith), le_div_iff₀ (by linarith)]
  constructor
  · rintro ⟨low, high⟩
    constructor <;> linarith
  · rintro ⟨low, high⟩
    constructor <;> linarith

theorem predictPhysics_consistent_iff (factors : Dict String EmissionFactors) (fed : 0 < request.feedTon) :
    Consistent request (predictPhysics cfg factors request) ↔
      FeedMatches (plantRates factors cfg request.plantCode) request.features (request.horizonMinutes / 60) := by
  have total : (predictPhysics cfg factors request).predictedCarbonKgco2 =
      .finite (flowEmissions (plantRates factors cfg request.plantCode) request.features (request.horizonMinutes / 60)) := by
    unfold predictPhysics
    dsimp only
    rw [computeScopesOf_total]
    unfold flowEmissions
    rw [roundTo_add]
  have large : 1 / 200 < flowIntensity request.features := by
    have low := flowIntensity_low request.features
    linarith
  have band := @band_iff (flowEmissions (plantRates factors cfg request.plantCode) request.features
    (request.horizonMinutes / 60)) _ _ fed large
  constructor
  · intro consistent
    have carbon := consistent.carbon
    rw [total] at carbon
    exact band.mp carbon
  · intro matched
    constructor
    · rw [total]
      exact band.mpr matched
    · unfold predictPhysics intensityToEnergyKwh
      dsimp only
      rw [mul_assoc (energyIntensity _ _ _ _), mul_assoc (energyIntensity _ _ _ _)]
      exact roundTo_scaled _ (request.feedTon * kgoeToKwh)

theorem feedTon_pos (fed : 0 < request.features.feedFlowTonh) (long : 0 < request.horizonMinutes) : 0 < request.feedTon :=
  mul_pos fed (div_pos long (by norm_num))

end

/-- A forecast is consistent exactly where a registered model made it, or where the feed happens to be the one over
which the intensity of the flows gives what the plant's emission factors make of them. -/
theorem prediction_consistent_iff {M : Type} (learner : Learner M) (cfg : Settings) (factors : Dict String EmissionFactors)
    (store : ModelStore M) (request : PredictionRequest) (fed : 0 < request.features.feedFlowTonh)
    (long : 0 < request.horizonMinutes) (result : PredictionResult)
    (answered : predictWithModel learner cfg factors store request = .ok result) :
    Consistent request result ↔
      (loadLatest store request.model request.plantCode).isSome ∨
        FeedMatches (plantRates factors cfg request.plantCode) request.features (request.horizonMinutes / 60) := by
  unfold predictWithModel at answered
  split at answered
  · rename_i registered found
    exact iff_of_true (predictRegistered_consistent answered) (Or.inl (by rw [found]; rfl))
  · rename_i missing
    split at answered
    · cases answered
    · cases answered
      rw [predictPhysics_consistent_iff factors (feedTon_pos fed long), missing]
      simp

def olefinRequest : PredictionRequest := { features := ⟨15, 100, 30, 100, 400⟩ }

theorem prediction_consistent_iff_olefin :
    Consistent olefinRequest (predictPhysics {} .empty olefinRequest) ↔
      (loadLatest emptyStore olefinRequest.model olefinRequest.plantCode).isSome ∨
        FeedMatches (plantRates .empty {} olefinRequest.plantCode) olefinRequest.features
          (olefinRequest.horizonMinutes / 60) :=
  prediction_consistent_iff meanLearner {} .empty emptyStore olefinRequest (by decide +kernel) (by decide +kernel) _ rfl

/-- Without a registered model, an hour at the default operating point is 207509 kg at 29.75 kg for each ton of 100. -/
theorem fallback_carbon_inconsistent :
    predictWithModel meanLearner {} .empty emptyStore olefinRequest = .ok (predictPhysics {} .empty olefinRequest) ∧
      (predictPhysics {} .empty olefinRequest).predictedCarbonKgco2 = .finite 207509 ∧
      (predictPhysics {} .empty olefinRequest).predictedCarbonIntensityKgco2Ton = .finite (2975 / 100) ∧
      ¬ Consistent olefinRequest (predictPhysics {} .empty olefinRequest) := by
  refine ⟨rfl, by decide +kernel, by decide +kernel, ?_⟩
  rw [predictPhysics_consistent_iff _ (by decide +kernel)]
  unfold FeedMatches
  decide +kernel

/-- With the default factors the feed matches nowhere in the range that the plants run in. -/
theorem default_feed_unmatched {plantCode : String} {f : PlantFeatures} {hours : ℚ} (fuel : 50 ≤ f.fuelGasFlowKm3h)
    (steam : 0 ≤ f.steamFlowTonh) (power : 0 ≤ f.electricityPowerMw) (small : f.feedFlowTonh ≤ 120)
    (long : 1 / 60 ≤ hours) : ¬ FeedMatches (plantRates .empty {} plantCode) f hours := by
  rintro ⟨least, _⟩
  have positive : 0 < hours := by linarith
  have burned : 50 * hours ≤ f.fuelGasFlowKm3h * hours := mul_le_mul_of_nonneg_right fuel positive.le
  have raised : 0 ≤ f.steamFlowTonh * hours := mul_nonneg steam positive.le
  have drawn : 0 ≤ f.electricityPowerMw * hours := mul_nonneg power positive.le
  have most : f.feedFlowTonh * hours ≤ 120 * hours := mul_le_mul_of_nonneg_right small positive.le
  have total : 100000 * hours - 1 / 200 ≤ flowEmissions (plantRates .empty {} plantCode) f hours := by
    have direct := (roundTo_near (f.fuelGasFlowKm3h * 1000 * hours * 2 + f.steamFlowTonh * hours * (3 / 10))).1
    have bought : 0 ≤ roundTo 2 (f.electricityPowerMw * 1000 * hours * (1 / 2)) := roundTo_nonneg (by linarith)
    show _ ≤ roundTo 2 (f.fuelGasFlowKm3h * 1000 * hours * 2 + f.steamFlowTonh * hours * (3 / 10)) +
      roundTo 2 (f.electricityPowerMw * 1000 * hours * (1 / 2))
    linarith
  have low := flowIntensity_low f
  have high := flowIntensity_high f
  rw [div_le_iff₀ (by linarith)] at least
  have bounded : f.feedFlowTonh * hours * (flowIntensity f + 1 / 200) ≤ 120 * hours * 81 :=
    mul_le_mul most (by linarith) (by linarith) (by linarith)
  linarith

end Iems.Ml
