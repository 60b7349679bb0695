import Iems.Ingestion.OpcuaClient

/-! What a published reading of quality good says about its values. -/
namespace Iems.Ingestion
open Lib Iems.Core Iems.Carbon

theorem asOf_isSome {times : List Timestamp} {now : Datetime} :
    (asOf times now).isSome = true ↔ ∀ a ∈ times, ∀ b ∈ times, a.isAware = b.isAware := by
  cases times with
  | nil => simp [asOf]
  | cons first rest =>
    unfold asOf
    rw [Timestamp.latest?_isSome]
    constructor
    · intro same a memberA b memberB
      have likeFirst : ∀ c ∈ first :: rest, c.isAware = first.isAware := by
        intro c member
        rcases List.mem_cons.mp member with here | later
        · rw [here]
        · exact same c later
      rw [likeFirst a memberA, likeFirst b memberB]
    · intro same stamp member
      exact same stamp (List.mem_cons_of_mem _ member) first List.mem_cons_self

theorem cleanValue_isSome {value : ExtRat} : (∃ clean, cleanValue value = some clean) ↔ value.isNan = false := by
  unfold cleanValue
  cases value.isNan <;> simp

theorem value_good {code : QualityCode} : code.value = "good" ↔ code = .good := by
  cases code <;> decide

section
variable {cfg : Settings} {plant : PlantTagMap} {samples : Dict String TagSample}

/-- In Plant Connect mode the gathered samples are published, with the missing fields Bad. -/
theorem publishGathered_connected (connected : cfg.plantConnect = true) (now : Datetime) (plantCode : String) (g : Gathered) :
    publishGathered cfg now plantCode g =
      publish cfg now plantCode g (Dict.setDefaults (missingFields g.values) .bad g.perTag) := by
  unfold publishGathered
  dsimp only
  split
  · rfl
  · rename_i complete
    have noneMissing : missingFields g.values = [] := by
      by_contra absent
      exact complete ⟨absent, connected⟩
    rw [if_neg (not_not.mpr noneMissing), noneMissing]
    rfl

theorem readOpcuaPlant_session {tagMap : TagMap} {plantCode : String} (connected : cfg.plantConnect = true)
    (endpoint : cfg.opcUaEndpoint ≠ "") (mapped : tagMap.get? plantCode = some plant) (sine : ℚ → ℚ) (t : ℚ)
    (now : Datetime) (samples : Dict String TagSample) :
    readOpcuaPlant cfg tagMap sine t now (.ok samples) plantCode =
      publishGathered cfg now plantCode (gather plant samples) := by
  unfold readOpcuaPlant
  rw [mapped]
  simp [connected, endpoint]

/-- Every sensor field has a tag whose sample is Good. -/
def AllGood (plant : PlantTagMap) (samples : Dict String TagSample) : Prop :=
  ∀ field ∈ sensorFields, ∃ tag sample, plant.tags.get? field = some tag ∧
    samples.get? field = some sample ∧ sample.quality = .good

theorem fieldQuality_good {field : String} :
    (fieldQuality plant samples field).getD .bad = .good ↔
      ∃ tag sample, plant.tags.get? field = some tag ∧ samples.get? field = some sample ∧ sample.quality = .good := by
  unfold fieldQuality
  cases plant.tags.get? field with
  | none => simp
  | some tag => cases samples.get? field <;> simp

theorem published_good {allowUncertain : Bool} :
    (readingQualityPayload (Dict.setDefaults (missingFields (gather plant samples).values) .bad
      (gather plant samples).perTag) allowUncertain).quality = "good" ↔ AllGood plant samples := by
  show (aggregateQuality _).value = "good" ↔ _
  rw [value_good, aggregateQuality_good]
  constructor
  · intro healthy field sensor
    apply fieldQuality_good.mp
    apply healthy
    rw [Dict.mem_values]
    exact ⟨field, by rw [published_perTag, if_pos sensor]⟩
  · intro allGood code member
    obtain ⟨field, found⟩ := (Dict.mem_values _).mp member
    rw [published_perTag] at found
    split at found
    · rename_i sensor
      rw [← Option.some.inj found]
      exact fieldQuality_good.mpr (allGood field sensor)
    · cases found

/-- Naive and aware server times meet among the samples with a value. -/
def MixedTimes (plant : PlantTagMap) (samples : Dict String TagSample) : Prop :=
  ∃ a ∈ sensorFields.filterMap (fieldTime plant samples), ∃ b ∈ sensorFields.filterMap (fieldTime plant samples),
    a.isAware ≠ b.isAware

theorem publish_cases (now : Datetime) (plantCode : String) (perTag : Dict String QualityCode) :
    (MixedTimes plant samples ∧ publish cfg now plantCode (gather plant samples) perTag = .error .typeError) ∨
      ∃ reading, publish cfg now plantCode (gather plant samples) perTag = .ok reading ∧
        reading.values = cleanValues (gather plant samples).values ∧
        reading.quality = readingQualityPayload perTag cfg.opcUaAllowUncertain ∧
        ∃ stamp, asOf (gather plant samples).serverTimes now = some stamp ∧ reading.time = stamp.isoformat := by
  unfold publish
  dsimp only
  split
  · rename_i raised
    refine Or.inl ⟨?_, rfl⟩
    have uncomparable : ¬ (asOf (gather plant samples).serverTimes now).isSome = true := by
      rw [raised]
      exact Bool.false_ne_true
    rw [asOf_isSome, gather_eq] at uncomparable
    simp only [not_forall] at uncomparable
    obtain ⟨a, memberA, b, memberB, apart⟩ := uncomparable
    exact ⟨a, memberA, b, memberB, apart⟩
  · rename_i stamp found
    exact Or.inr ⟨_, rfl, rfl, rfl, stamp, found, rfl⟩

theorem publish_mixed (mixed : MixedTimes plant samples) (now : Datetime) (plantCode : String)
    (perTag : Dict String QualityCode) :
    publish cfg now plantCode (gather plant samples) perTag = .error .typeError := by
  rcases publish_cases now plantCode perTag with ⟨_, raised⟩ | ⟨_, _, _, _, stamp, found, _⟩
  · exact raised
  · obtain ⟨a, memberA, b, memberB, apart⟩ := mixed
    have comparable : (asOf (gather plant samples).serverTimes now).isSome = true := by
      rw [found]
      rfl
    rw [asOf_isSome, gather_eq] at comparable
    exact absurd (comparable a memberA b memberB) apart

theorem fieldValue_mapped {field : String} {tag : TagDef} {sample : TagSample} (present : plant.tags.get? field = some tag)
    (sampled : samples.get? field = some sample) :
    fieldValue plant samples field = sample.value.map fun value => applyScale value tag.scale tag.offset := by
  unfold fieldValue
  rw [present, sampled]
  rfl

theorem cleanValues_present {field : String} (sensor : field ∈ sensorFields) :
    (∃ value, (cleanValues (gather plant samples).values).get? field = some (some value)) ↔
      ∃ value, fieldValue plant samples field = some value ∧ value.isNan = false := by
  rw [cleanValues_get?, if_pos sensor]
  cases fieldValue plant samples field with
  | none => simp [cleanValue, ExtRat.isNan]
  | some value => simpa using cleanValue_isSome

end

/-- Good tags carry a value that scales to a number. -/
def GoodValues (plant : PlantTagMap) (samples : Dict String TagSample) : Prop :=
  ∀ field ∈ sensorFields, ∀ tag sample, plant.tags.get? field = some tag → samples.get? field = some sample →
    ∃ value, sample.value = some value ∧ (applyScale value tag.scale tag.offset).isNan = false

/-- The missing fields get Bad by `setdefault`, which leaves the Good of a null sample in place. -/
theorem goodReading_complete (cfg : Settings) (tagMap : TagMap) (sine : ℚ → ℚ) (t : ℚ) (now : Datetime)
    (samples : Dict String TagSample) (plantCode : String) (plant : PlantTagMap)
    (connected : cfg.plantConnect = true) (endpoint : cfg.opcUaEndpoint ≠ "")
    (mapped : tagMap.get? plantCode = some plant) :
    (∀ reading, readOpcuaPlant cfg tagMap sine t now (.ok samples) plantCode = .ok reading →
      reading.quality.quality = "good" → ∀ field ∈ sensorFields,
        (∃ value, reading.values.get? field = some (some value)) ∧
        ∃ tag sample, plant.tags.get? field = some tag ∧ samples.get? field = some sample ∧
          sample.quality = .good) ↔
      (¬ AllGood plant samples ∨ GoodValues plant samples ∨ MixedTimes plant samples) := by
  rw [readOpcuaPlant_session connected endpoint mapped, publishGathered_connected connected]
  constructor
  · intro complete
    by_cases allGood : AllGood plant samples
    · refine Or.inr ?_
      rcases publish_cases now plantCode _ with ⟨mixed, _⟩ | ⟨reading, published, values, quality, _⟩
      · exact Or.inr mixed
      · refine Or.inl fun field sensor tag sample present sampled => ?_
        have good : reading.quality.quality = "good" := by
          rw [quality]
          exact published_good.mpr allGood
        obtain ⟨shown, _⟩ := complete reading published good field sensor
        rw [values] at shown
        obtain ⟨value, held, number⟩ := (cleanValues_present sensor).mp shown
        rw [fieldValue_mapped present sampled] at held
        obtain ⟨raw, read, rfl⟩ := Option.map_eq_some_iff.mp held
        exact ⟨raw, read, number⟩
    · exact Or.inl allGood
  · intro condition reading published good
    rcases publish_cases now plantCode _ with ⟨_, raised⟩ | ⟨found, other, values, quality, _⟩
    · rw [raised] at published
      cases published
    · rw [other] at published
      cases published
      rw [quality] at good
      have allGood := published_good.mp good
      rcases condition with bad | numbers | mixed
      · exact absurd allGood bad
      · intro field sensor
        obtain ⟨tag, sample, present, sampled, healthy⟩ := allGood field sensor
        obtain ⟨value, read, number⟩ := numbers field sensor tag sample present sampled
        refine ⟨?_, tag, sample, present, sampled, healthy⟩
        rw [values, cleanValues_present sensor]
        refine ⟨applyScale value tag.scale tag.offset, ?_, number⟩
        rw [fieldValue_mapped present sampled, read]
        rfl
      · rw [publish_mixed mixed] at other
        cases other

/-! ### A Good pressure without a value -/

def julyNoon : Datetime := ⟨2026, 7, 1, 43200000000, by decide⟩

def goodSample (value : Option ExtRat) : TagSample := ⟨value, .good, some 0, none, none⟩

def olefinSamples (pressure : Option ExtRat) : Dict String TagSample :=
  Dict.collect
    (fun field => some (goodSample (if field = "pressure_bar" then pressure else some (.finite 10))))
    sensorFields .empty

theorem goodReading_complete_olefin :
    (∀ reading, readOpcuaPlant connectedCfg olefinTags (fun _ => 0) 0 julyNoon
        (.ok (olefinSamples (some (.finite 12)))) "olefin" = .ok reading →
      reading.quality.quality = "good" → ∀ field ∈ sensorFields,
        (∃ value, reading.values.get? field = some (some value)) ∧
        ∃ tag sample, olefinPlant.tags.get? field = some tag ∧
          (olefinSamples (some (.finite 12))).get? field = some sample ∧ sample.quality = .good) ↔
      (¬ AllGood olefinPlant (olefinSamples (some (.finite 12))) ∨
        GoodValues olefinPlant (olefinSamples (some (.finite 12))) ∨
        MixedTimes olefinPlant (olefinSamples (some (.finite 12)))) :=
  goodReading_complete connectedCfg olefinTags (fun _ => 0) 0 julyNoon (olefinSamples (some (.finite 12)))
    "olefin" olefinPlant rfl (by decide) (by decide)

theorem goodReading_without_pressure :
    ¬ ∀ (cfg : Settings) (tagMap : TagMap) (sine : ℚ → ℚ) (t : ℚ) (now : Datetime)
        (samples : Dict String TagSample) (plantCode : String) (plant : PlantTagMap),
      cfg.plantConnect = true → cfg.opcUaEndpoint ≠ "" → tagMap.get? plantCode = some plant →
      ∀ reading, readOpcuaPlant cfg tagMap sine t now (.ok samples) plantCode = .ok reading →
        reading.quality.quality = "good" → ∀ field ∈ sensorFields,
          (∃ value, reading.values.get? field = some (some value)) ∧
          ∃ tag sample, plant.tags.get? field = some tag ∧ samples.get? field = some sample ∧
            sample.quality = .good := by
  intro complete
  have published : ((readOpcuaPlant connectedCfg olefinTags (fun _ => 0) 0 julyNoon (.ok (olefinSamples none))
      "olefin").toOption.map fun reading => (reading.quality.quality, reading.values.get? "pressure_bar")) =
        some ("good", some none) := by decide +kernel
  cases read : readOpcuaPlant connectedCfg olefinTags (fun _ => 0) 0 julyNoon (.ok (olefinSamples none)) "olefin" with
  | error raised =>
    rw [read] at published
    cases published
  | ok reading =>
    rw [read] at published
    obtain ⟨good, absent⟩ := Prod.mk.inj (Option.some.inj published)
    obtain ⟨⟨value, shown⟩, _⟩ := complete connectedCfg olefinTags (fun _ => 0) 0 julyNoon (olefinSamples none)
      "olefin" olefinPlant rfl (by decide) (by decide) reading read good "pressure_bar" (by decide)
    rw [absent] at shown
    cases shown

end Iems.Ingestion
