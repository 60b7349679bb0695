import Iems.Lib.Dict
import Iems.Lib.Worst

/-! OPC-UA data quality: status codes, worst-of aggregation and the health of a reading. -/
namespace Iems.Ingestion
open Lib

inductive QualityCode where
  | good | uncertain | bad | unknown
  deriving DecidableEq

def QualityCode.value : QualityCode → String
  | .good => "good"
  | .uncertain => "uncertain"
  | .bad => "bad"
  | .unknown => "unknown"

/-- `code & 0xC0000000`. -/
def qualityBits (code : Int) : Int := code / 0x40000000 % 4 * 0x40000000

def statusCodeToQuality : Option Int → QualityCode
  | none => .unknown
  | some code =>
    if qualityBits code = 0x00000000 then .good
    else if qualityBits code = 0x40000000 then .uncertain
    else if qualityBits code = 0x80000000 then .bad
    else .unknown

def qualityOrder : QualityCode → Nat
  | .bad => 3
  | .uncertain => 2
  | .unknown => 1
  | .good => 0

def aggregateQuality (qualities : Dict String QualityCode) : QualityCode :=
  worstOf qualityOrder .good qualities.values

def qualityIsHealthy (quality : QualityCode) (allowUncertain : Bool) : Bool :=
  if quality = .good then true
  else if quality = .uncertain ∧ allowUncertain then true
  else false

structure QualityPayload where
  quality : String
  qualityDetail : Dict String String
  qualityOk : Bool
  deriving DecidableEq

def readingQualityPayload (perTag : Dict String QualityCode) (allowUncertain : Bool) : QualityPayload :=
  let overall := aggregateQuality perTag
  { quality := overall.value
    qualityDetail := perTag.mapValues fun _ code => code.value
    qualityOk := qualityIsHealthy overall allowUncertain }

/-! ### Worst-of aggregation and health -/

theorem qualityOrder_injective (a b : QualityCode) (same : qualityOrder a = qualityOrder b) : a = b := by
  cases a <;> cases b <;> first | rfl | exact absurd same (by decide)

theorem aggregateQuality_eq_iff {perTag : Dict String QualityCode} {worst : QualityCode} :
    aggregateQuality perTag = worst ↔
      worst ∈ QualityCode.good :: perTag.values ∧ ∀ code ∈ perTag.values, qualityOrder code ≤ qualityOrder worst := by
  unfold aggregateQuality
  rw [worstOf_eq_iff qualityOrder_injective]
  have lowest : qualityOrder .good ≤ qualityOrder worst := Nat.zero_le _
  simp only [lowest, true_and]

theorem aggregateQuality_good {perTag : Dict String QualityCode} :
    aggregateQuality perTag = .good ↔ ∀ code ∈ perTag.values, code = .good := by
  rw [aggregateQuality_eq_iff]
  constructor
  · rintro ⟨_, lowest⟩ code member
    have bound := lowest code member
    cases code <;> first | rfl | exact absurd bound (by decide)
  · intro healthy
    refine ⟨List.mem_cons_self, fun code member => ?_⟩
    obtain rfl := healthy code member
    exact Nat.le_refl _

theorem aggregateQuality_uncertain {perTag : Dict String QualityCode} :
    aggregateQuality perTag = .uncertain ↔ .uncertain ∈ perTag.values ∧ .bad ∉ perTag.values := by
  rw [aggregateQuality_eq_iff]
  constructor
  · rintro ⟨member, highest⟩
    have seen : QualityCode.uncertain ∈ perTag.values := by simpa using member
    refine ⟨seen, fun bad => ?_⟩
    exact absurd (highest _ bad) (by decide)
  · rintro ⟨seen, noBad⟩
    refine ⟨List.mem_cons_of_mem _ seen, fun code member => ?_⟩
    cases code with
    | bad => exact absurd member noBad
    | good | uncertain | unknown => decide

theorem qualityIsHealthy_iff {quality : QualityCode} {allowUncertain : Bool} :
    qualityIsHealthy quality allowUncertain = true ↔
      quality = .good ∨ (quality = .uncertain ∧ allowUncertain = true) := by
  unfold qualityIsHealthy
  by_cases good : quality = .good
  · simp [good]
  · by_cases uncertain : quality = .uncertain ∧ allowUncertain = true <;> simp [good, uncertain]

theorem qualityOk_iff {perTag : Dict String QualityCode} {allowUncertain : Bool} :
    (readingQualityPayload perTag allowUncertain).qualityOk = true ↔
      (∀ code ∈ perTag.values, code = .good) ∨
        (allowUncertain = true ∧ .uncertain ∈ perTag.values ∧ .bad ∉ perTag.values) := by
  show qualityIsHealthy (aggregateQuality perTag) allowUncertain = true ↔ _
  rw [qualityIsHealthy_iff, aggregateQuality_good, aggregateQuality_uncertain, and_comm (b := _ = true)]

/-- Unknown ranks below Uncertain, so an Uncertain tag hides an Unknown one when Uncertain is allowed. -/
theorem qualityOk_tags {perTag : Dict String QualityCode} {allowUncertain : Bool} :
    (readingQualityPayload perTag allowUncertain).qualityOk = true ↔
      (∀ code ∈ perTag.values, qualityIsHealthy code allowUncertain = true) ∨
        (allowUncertain = true ∧ .uncertain ∈ perTag.values ∧ .bad ∉ perTag.values) := by
  rw [qualityOk_iff]
  constructor
  · rintro (good | hidden)
    · exact Or.inl fun code member => qualityIsHealthy_iff.mpr (Or.inl (good code member))
    · exact Or.inr hidden
  · rintro (healthy | hidden)
    · by_cases good : ∀ code ∈ perTag.values, code = .good
      · exact Or.inl good
      · -- some tag is not Good, so its health comes from the flag
        rw [not_forall] at good
        obtain ⟨code, differs⟩ := good
        obtain ⟨member, notGood⟩ := Classical.not_imp.mp differs
        rcases qualityIsHealthy_iff.mp (healthy code member) with good | ⟨uncertain, allowed⟩
        · exact absurd good notGood
        · refine Or.inr ⟨allowed, uncertain ▸ member, fun bad => ?_⟩
          rcases qualityIsHealthy_iff.mp (healthy _ bad) with wrong | ⟨wrong, _⟩ <;> cases wrong
    · exact Or.inr hidden

theorem readingHealth_tags (perTag : Dict String QualityCode) (allowUncertain : Bool) :
    ((readingQualityPayload perTag allowUncertain).qualityOk = true ↔
      (∀ code ∈ perTag.values, qualityIsHealthy code allowUncertain = true) ∨
        (allowUncertain = true ∧ .uncertain ∈ perTag.values ∧ .bad ∉ perTag.values)) ∧
    ∀ tag code, perTag.get? tag = none → (readingQualityPayload perTag allowUncertain).qualityOk = false →
      ((readingQualityPayload (perTag.set tag code) allowUncertain).qualityOk = true ↔
        allowUncertain = true ∧ code = .uncertain ∧ .bad ∉ perTag.values) := by
  refine ⟨qualityOk_tags, fun tag code fresh unhealthy => ?_⟩
  have notBefore : ¬ (readingQualityPayload perTag allowUncertain).qualityOk = true := by
    rw [unhealthy]
    exact Bool.false_ne_true
  rw [qualityOk_iff] at notBefore ⊢
  simp only [Dict.mem_values_set_fresh fresh]
  constructor
  · rintro (good | ⟨allowed, seen, noBad⟩)
    · exact absurd (Or.inl fun other member => good other (Or.inr member)) notBefore
    · have noBadBefore : QualityCode.bad ∉ perTag.values := fun bad => noBad (Or.inr bad)
      rcases seen with added | earlier
      · exact ⟨allowed, added.symm, noBadBefore⟩
      · exact absurd (Or.inr ⟨allowed, earlier, noBadBefore⟩) notBefore
  · rintro ⟨allowed, rfl, noBad⟩
    refine Or.inr ⟨allowed, Or.inl rfl, ?_⟩
    rintro (wrong | bad)
    · cases wrong
    · exact noBad bad

def unknownSteam : Dict String QualityCode := Dict.empty.set "steam_flow_tonh" .unknown

theorem readingHealth_tags_unknownSteam :
    ((readingQualityPayload unknownSteam true).qualityOk = true ↔
      (∀ code ∈ unknownSteam.values, qualityIsHealthy code true = true) ∨
        (true = true ∧ .uncertain ∈ unknownSteam.values ∧ .bad ∉ unknownSteam.values)) ∧
    ((readingQualityPayload (unknownSteam.set "pressure_bar" .uncertain) true).qualityOk = true ↔
      true = true ∧ QualityCode.uncertain = .uncertain ∧ .bad ∉ unknownSteam.values) :=
  ⟨(readingHealth_tags unknownSteam true).1,
    (readingHealth_tags unknownSteam true).2 "pressure_bar" .uncertain (by decide) (by decide)⟩

/-- An Uncertain pressure makes the reading with an Unknown steam flow healthy. -/
theorem uncertain_hides_unknown :
    (¬ ∀ (perTag : Dict String QualityCode) (allowUncertain : Bool), perTag.items ≠ [] →
      ((readingQualityPayload perTag allowUncertain).qualityOk = true ↔
        ∀ code ∈ perTag.values, qualityIsHealthy code allowUncertain = true)) ∧
    ¬ ∀ (perTag : Dict String QualityCode) (allowUncertain : Bool) (tag : String) (code : QualityCode),
      perTag.items ≠ [] → perTag.get? tag = none →
      (readingQualityPayload perTag allowUncertain).qualityOk = false →
      (readingQualityPayload (perTag.set tag code) allowUncertain).qualityOk = false := by
  constructor
  · intro agrees
    have every := (agrees (unknownSteam.set "pressure_bar" .uncertain) true (by decide)).mp (by decide)
    exact absurd (every .unknown (by decide)) (by decide)
  · intro never
    have stays := never unknownSteam true "pressure_bar" .uncertain (by decide) (by decide) (by decide)
    exact absurd stays (by decide)

end Iems.Ingestion
