import Iems.Carbon.Factors
import Iems.Lib.Rounding

/-! The published scope 3 figures against the activities and factors they are computed from. -/
namespace Iems.Carbon
open Lib

structure Scope3Factors.Nonneg (f : Scope3Factors) : Prop where
  cat3 : 0 ≤ f.cat3FuelUpstreamKgco2PerM3
  cat1 : 0 ≤ f.cat1PurchasedGoodsKgco2PerTon
  cat5 : 0 ≤ f.cat5WasteKgco2PerTon

/-- How far the figures of a breakdown are from each other and from the exact products with the factors of the three
categories. -/
structure Scope3Close (cat3 cat1 cat5 fuelGasKm3 productTon : ℚ) (breakdown : Scope3Breakdown) : Prop where
  cat3 : |breakdown.cat3FuelUpstreamKgco2 - fuelGasKm3 * 1000 * cat3| ≤ 5 / 1000
  cat1 : |breakdown.cat1PurchasedGoodsKgco2 - productTon * cat1| ≤ 5 / 1000
  cat5 : |breakdown.cat5WasteKgco2 - productTon * cat5| ≤ 5 / 1000
  total : |breakdown.totalKgco2 - (breakdown.cat3FuelUpstreamKgco2 + breakdown.cat1PurchasedGoodsKgco2 +
    breakdown.cat5WasteKgco2)| ≤ 2 / 100

section
variable {factors : Dict String Scope3Factors}

/-- The built-in factors are nonnegative too. -/
theorem scope3For_nonneg (nonneg : ∀ f ∈ factors.values, f.Nonneg) (plantCode : String) :
    (scope3For factors plantCode).Nonneg := by
  unfold scope3For
  cases listed : factors.get? plantCode with
  | none => exact ⟨by norm_num, by norm_num, by norm_num⟩
  | some f => exact nonneg f (factors.mem_values.mpr ⟨plantCode, listed⟩)

theorem computeScope3_close (plantCode : String) (fuelGasKm3 productTon : ℚ) :
    let f := scope3For factors plantCode
    Scope3Close f.cat3FuelUpstreamKgco2PerM3 f.cat1PurchasedGoodsKgco2PerTon f.cat5WasteKgco2PerTon fuelGasKm3 productTon
      (computeScope3 factors plantCode fuelGasKm3 productTon) where
  cat3 := (roundTo_error _).trans (by norm_num)
  cat1 := (roundTo_error _).trans (by norm_num)
  cat5 := (roundTo_error _).trans (by norm_num)
  total := by
    let f := scope3For factors plantCode
    have error := roundTo_sum_error [fuelGasKm3 * 1000 * f.cat3FuelUpstreamKgco2PerM3,
      productTon * f.cat1PurchasedGoodsKgco2PerTon, productTon * f.cat5WasteKgco2PerTon]
    simp only [List.sum_cons, List.sum_nil, List.map_cons, List.map_nil, List.length_cons, List.length_nil, add_zero,
      ← add_assoc] at error
    exact error.trans (by norm_num)

theorem computeScope3_mono {plantCode : String} (nonneg : (scope3For factors plantCode).Nonneg)
    {fuelGasKm3 moreFuel productTon moreProduct : ℚ} (fuel : fuelGasKm3 ≤ moreFuel) (product : productTon ≤ moreProduct) :
    (computeScope3 factors plantCode fuelGasKm3 productTon).totalKgco2 ≤
      (computeScope3 factors plantCode moreFuel moreProduct).totalKgco2 := by
  have cat3 := mul_le_mul_of_nonneg_right (mul_le_mul_of_nonneg_right fuel (by norm_num : (0 : ℚ) ≤ 1000)) nonneg.cat3
  have cat1 := mul_le_mul_of_nonneg_right product nonneg.cat1
  have cat5 := mul_le_mul_of_nonneg_right product nonneg.cat5
  exact roundTo_mono (add_le_add (add_le_add cat3 cat1) cat5)

/-- A plant of the file is computed with the factors of its entry, another one with the built-in ones. -/
theorem scope3_published (nonneg : ∀ f ∈ factors.values, f.Nonneg) (plantCode : String) :
    (∀ f, factors.get? plantCode = some f → ∀ fuelGasKm3 productTon,
      Scope3Close f.cat3FuelUpstreamKgco2PerM3 f.cat1PurchasedGoodsKgco2PerTon f.cat5WasteKgco2PerTon fuelGasKm3 productTon
        (computeScope3 factors plantCode fuelGasKm3 productTon)) ∧
    (factors.get? plantCode = none → ∀ fuelGasKm3 productTon,
      Scope3Close (35 / 100) 12 (3 / 2) fuelGasKm3 productTon (computeScope3 factors plantCode fuelGasKm3 productTon)) ∧
    ∀ fuelGasKm3 moreFuel productTon moreProduct : ℚ, fuelGasKm3 ≤ moreFuel → productTon ≤ moreProduct →
      (computeScope3 factors plantCode fuelGasKm3 productTon).totalKgco2 ≤
        (computeScope3 factors plantCode moreFuel moreProduct).totalKgco2 := by
  refine ⟨fun f listed fuelGasKm3 productTon => ?_, fun unlisted fuelGasKm3 productTon => ?_,
    fun _ _ _ _ fuel product => computeScope3_mono (scope3For_nonneg nonneg plantCode) fuel product⟩
  · have close := @computeScope3_close factors plantCode fuelGasKm3 productTon
    have own : scope3For factors plantCode = f := by
      unfold scope3For
      rw [listed, Option.getD_some]
    rwa [own] at close
  · have close := @computeScope3_close factors plantCode fuelGasKm3 productTon
    unfold scope3For at close
    rwa [unlisted] at close

end

def listedFactors : Dict String Scope3Factors :=
  ⟨[("olefin", ⟨"olefin", 42 / 100, 15, 2, "2026.1", "plant survey", ""⟩)], by simp⟩

/-- A listed plant and one that the file lacks, at the same activity. -/
theorem scope3_published_olefin :
    let olefin := computeScope3 listedFactors "olefin"
    let pta := computeScope3 listedFactors "pta"
    (olefin 10 100).totalKgco2 = 5900 ∧ (pta 10 100).totalKgco2 = 4850 ∧
      Scope3Close (42 / 100) 15 2 10 100 (olefin 10 100) ∧ Scope3Close (35 / 100) 12 (3 / 2) 10 100 (pta 10 100) ∧
      (olefin 10 100).totalKgco2 ≤ (olefin 11 100).totalKgco2 := by
  intro olefin pta
  have nonneg : ∀ f ∈ listedFactors.values, f.Nonneg := by
    intro f member
    cases List.mem_singleton.mp member
    exact ⟨by norm_num, by norm_num, by norm_num⟩
  obtain ⟨listed, _, rising⟩ := scope3_published nonneg "olefin"
  obtain ⟨_, unlisted, _⟩ := scope3_published nonneg "pta"
  exact ⟨by decide +kernel, by decide +kernel, listed _ rfl 10 100, unlisted rfl 10 100,
    rising 10 11 100 100 (by norm_num) le_rfl⟩

/-- The bound is reached: with half a hundredth in every part, the parts are rounded away and the total is not. -/
example : (computeScope3 ⟨[("olefin", ⟨"olefin", 1, 1, 1, "", "", ""⟩)], by simp⟩ "olefin" (5 / 1000000) (5 / 1000)).totalKgco2 =
    2 / 100 := by decide +kernel

end Iems.Carbon
