import Iems.Lib.Newest
import Iems.Repositories.LatestReading

/-! The history of a plant, against the newest of its stored readings. -/
namespace Iems.Repositories
open Lib

/-- A reading with its time, in microseconds. -/
abbrev Timed (R : Type) := Int × R

/-- The number columns of a reading. -/
structure ReadingRow where
  electricityPowerMw : Option ℚ := none
  fuelGasFlowKm3h : Option ℚ := none
  steamFlowTonh : Option ℚ := none
  feedFlowTonh : Option ℚ := none
  reactorTempC : Option ℚ := none
  pressureBar : Option ℚ := none
  energyIntensityKgoeTon : Option ℚ := none
  carbonEmissionKgco2Ton : Option ℚ := none
  energyEfficiencyPercent : Option ℚ := none
  deriving DecidableEq

/-- `value or default` on a number: zero is falsy. -/
def orNumber (value : Option ℚ) (default : ℚ) : ℚ := (value.filter (· ≠ 0)).getD default

section
variable {R : Type} (plants : Dict String Nat) (table : Dict (Int × Nat) R)

/-- The readings of a plant that a query keeps, in the order of their times. -/
def orderedRows (plantId : Nat) (keep : Int → Bool) : List (Timed R) :=
  ((table.items.filter fun item => item.1.2 = plantId && keep item.1.1).map fun item => (item.1.1, item.2)).mergeSort
    fun a b => a.1 ≤ b.1

/-- Every reading of a plant, oldest first. -/
def plantReadings (plantCode : String) : List (Timed R) :=
  match plants.get? plantCode with
  | none => []
  | some plantId => orderedRows table plantId fun _ => true

/-- The readings of the last `minutes`. -/
def windowReadings (now : Int) (plantCode : String) (minutes : Int) : List (Timed R) :=
  match plants.get? plantCode with
  | none => []
  | some plantId => orderedRows table plantId fun time => now - minutes * 60000000 ≤ time

/-- `ORDER BY time ASC LIMIT limit`. -/
def getHistory (now : Int) (plantCode : String) (minutes : Int := 15) (limit : Nat := 900) : List (Timed R) :=
  (windowReadings plants table now plantCode minutes).take limit

/-- The latest reading, over rows of any columns. -/
def latestReading (plantCode : String) : Option (Timed R) := do
  let plantId ← plants.get? plantCode
  let item ← (table.items.filter fun item => item.1.2 = plantId).maxOn? fun item => item.1.1
  return (item.1.1, item.2)

end

theorem latestReading_sensors (plants : Dict String Nat) (table : SensorTable) (plantCode : String) :
    latestReading plants table plantCode = getLatestReading plants table plantCode := rfl

section
variable {R : Type} {plants : Dict String Nat} {table : Dict (Int × Nat) R} {now minutes : Int} {plantCode : String}

theorem mem_orderedRows {plantId : Nat} {keep : Int → Bool} {row : Timed R} : row ∈ orderedRows table plantId keep ↔
    table.get? (row.1, plantId) = some row.2 ∧ keep row.1 = true := by
  unfold orderedRows
  rw [List.mem_mergeSort, List.mem_map, table.get?_iff_mem]
  constructor
  · rintro ⟨⟨⟨time, owner⟩, columns⟩, member, rfl⟩
    obtain ⟨listed, kept⟩ := List.mem_filter.mp member
    rw [Bool.and_eq_true, decide_eq_true_iff] at kept
    obtain ⟨rfl, kept⟩ := kept
    exact ⟨listed, kept⟩
  · rintro ⟨listed, kept⟩
    exact ⟨((row.1, plantId), row.2), List.mem_filter.mpr ⟨listed, by simpa using kept⟩, rfl⟩

theorem length_orderedRows (plantId : Nat) (keep : Int → Bool) : (orderedRows table plantId keep).length =
    table.items.countP fun item => item.1.2 = plantId && keep item.1.1 := by
  unfold orderedRows
  rw [List.length_mergeSort, List.length_map, List.countP_eq_length_filter]

theorem times_distinct (table : Dict (Int × Nat) R) (plantId : Nat) (keep : Int → Bool) :
    ((orderedRows table plantId keep).map Prod.fst).Nodup := by
  have keys := table.distinct.sublist
    ((@List.filter_sublist _ (fun item => item.1.2 = plantId && keep item.1.1) table.items).map Prod.fst)
  refine ((List.mergeSort_perm _ _).map Prod.fst).nodup_iff.mpr ?_
  rw [List.map_map]
  refine List.pairwise_map.mpr ((List.pairwise_map.mp keys).imp_of_mem ?_)
  rintro ⟨⟨time, owner⟩, _⟩ ⟨⟨time', owner'⟩, _⟩ first second apart same
  have mine := (List.mem_filter.mp first).2
  have theirs := (List.mem_filter.mp second).2
  rw [Bool.and_eq_true, decide_eq_true_iff] at mine theirs
  exact apart (Prod.ext same (mine.1.trans theirs.1.symm))

theorem orderedRows_ascending (table : Dict (Int × Nat) R) (plantId : Nat) (keep : Int → Bool) :
    Ascending Prod.fst (orderedRows table plantId keep) := by
  have sorted : (orderedRows table plantId keep).Pairwise fun a b => decide (a.1 ≤ b.1) = true := by
    refine List.pairwise_mergeSort ?_ ?_ _
    · intro a b c first second
      rw [decide_eq_true_iff] at *
      exact first.trans second
    · intro a b
      rw [Bool.or_eq_true, decide_eq_true_iff, decide_eq_true_iff]
      exact le_total _ _
  have distinct := List.pairwise_map.mp (times_distinct table plantId keep)
  exact (sorted.and distinct).imp fun both => lt_of_le_of_ne (of_decide_eq_true both.1) both.2

theorem length_windowReadings {plantId : Nat} (known : plants.get? plantCode = some plantId) :
    (windowReadings plants table now plantCode minutes).length =
      table.items.countP fun item => item.1.2 = plantId && now - minutes * 60000000 ≤ item.1.1 := by
  rw [windowReadings, known]
  exact length_orderedRows plantId _

theorem windowReadings_ascending : Ascending Prod.fst (windowReadings plants table now plantCode minutes) := by
  unfold windowReadings
  cases plants.get? plantCode with
  | none => exact List.Pairwise.nil
  | some plantId => exact orderedRows_ascending table plantId _

theorem mem_windowReadings {row : Timed R} : row ∈ windowReadings plants table now plantCode minutes ↔
    row ∈ plantReadings plants table plantCode ∧ now - minutes * 60000000 ≤ row.1 := by
  unfold windowReadings plantReadings
  cases plants.get? plantCode with
  | none => simp
  | some plantId => simp [mem_orderedRows]

/-! ### Other columns under the same keys -/

theorem orderedRows_mapValues {S : Type} (f : Int → R → S) (plantId : Nat) (keep : Int → Bool) :
    orderedRows (table.mapValues fun key row => f key.1 row) plantId keep =
      (orderedRows table plantId keep).map fun row => (row.1, f row.1 row.2) := by
  have sorted := @List.map_mergeSort _ _ (fun a b : Timed R => decide (a.1 ≤ b.1)) (fun a b : Timed S => decide (a.1 ≤ b.1))
    (fun row => (row.1, f row.1 row.2)) ((table.items.filter fun item => item.1.2 = plantId && keep item.1.1).map
      fun item => (item.1.1, item.2)) fun _ _ _ _ => rfl
  unfold orderedRows Dict.mapValues
  rw [sorted, List.filter_map, List.map_map, List.map_map]
  rfl

theorem windowReadings_mapValues {S : Type} (f : Int → R → S) :
    windowReadings plants (table.mapValues fun key row => f key.1 row) now plantCode minutes =
      (windowReadings plants table now plantCode minutes).map fun row => (row.1, f row.1 row.2) := by
  unfold windowReadings
  cases plants.get? plantCode with
  | none => rfl
  | some plantId => exact orderedRows_mapValues f plantId _

theorem getHistory_mapValues {S : Type} {f : Int → R → S} {limit : Nat} :
    getHistory plants (table.mapValues fun key row => f key.1 row) now plantCode minutes limit =
      (getHistory plants table now plantCode minutes limit).map fun row => (row.1, f row.1 row.2) := by
  unfold getHistory
  rw [windowReadings_mapValues, List.map_take]

theorem windowReadings_subperm :
    (windowReadings plants table now plantCode minutes).Subperm (plantReadings plants table plantCode) := by
  refine List.subperm_of_subset ?_ fun row member => (mem_windowReadings.mp member).1
  exact windowReadings_ascending.imp fun before => fun same => lt_irrefl _ (same ▸ before)

theorem windowReadings_later {x y : Timed R} (outside : y ∈ plantReadings plants table plantCode)
    (missing : y ∉ windowReadings plants table now plantCode minutes)
    (inside : x ∈ windowReadings plants table now plantCode minutes) : y.1 < x.1 := by
  have since := (mem_windowReadings.mp inside).2
  have before : ¬ now - minutes * 60000000 ≤ y.1 := fun after => missing (mem_windowReadings.mpr ⟨outside, after⟩)
  omega

theorem latestReading_some {row : Timed R} (latest : latestReading plants table plantCode = some row) :
    row ∈ plantReadings plants table plantCode ∧
      ∀ other ∈ plantReadings plants table plantCode, other.1 ≤ row.1 := by
  unfold latestReading at latest
  obtain ⟨plantId, known, latest⟩ := Option.bind_eq_some_iff.mp latest
  obtain ⟨⟨⟨time, owner⟩, columns⟩, greatest, same⟩ := Option.bind_eq_some_iff.mp latest
  cases same
  obtain ⟨stored, mine⟩ := List.mem_filter.mp (List.maxOn?_mem greatest)
  obtain rfl := of_decide_eq_true mine
  simp only [plantReadings, known, mem_orderedRows, and_true]
  refine ⟨table.get?_iff_mem.mpr stored, fun other held => ?_⟩
  have listed : ((other.1, owner), other.2) ∈ table.items.filter fun item => item.1.2 = owner :=
    List.mem_filter.mpr ⟨table.get?_iff_mem.mp held, by simp⟩
  have below := List.le_apply_get_maxOn?_of_mem (f := fun item : (Int × Nat) × R => item.1.1) listed
  simpa [greatest] using below

theorem latestReading_exists {row : Timed R} (listed : row ∈ plantReadings plants table plantCode) :
    ∃ latest, latestReading plants table plantCode = some latest := by
  unfold plantReadings at listed
  unfold latestReading
  cases known : plants.get? plantCode with
  | none =>
    rw [known] at listed
    cases listed
  | some plantId =>
    rw [known] at listed
    have stored := table.get?_iff_mem.mp (mem_orderedRows.mp listed).1
    have mine : ((row.1, plantId), row.2) ∈ table.items.filter fun item => item.1.2 = plantId :=
      List.mem_filter.mpr ⟨stored, by simp⟩
    obtain ⟨item, greatest⟩ := Option.isSome_iff_exists.mp
      (List.isSome_maxOn?_of_mem (f := fun item : (Int × Nat) × R => item.1.1) mine)
    refine ⟨(item.1.1, item.2), ?_⟩
    rw [Option.bind_eq_bind, Option.bind_some, greatest]
    rfl

theorem plantReadings_unique {x y : Timed R} (first : x ∈ plantReadings plants table plantCode)
    (second : y ∈ plantReadings plants table plantCode) (same : x.1 = y.1) : x = y := by
  unfold plantReadings at first second
  cases known : plants.get? plantCode with
  | none =>
    rw [known] at first
    cases first
  | some plantId =>
    rw [known] at first second
    have read := (mem_orderedRows.mp first).1
    rw [same, (mem_orderedRows.mp second).1] at read
    exact Prod.ext same (Option.some.inj read).symm

theorem windowReadings_last {row : Timed R} (end_ : (windowReadings plants table now plantCode minutes).getLast? = some row) :
    latestReading plants table plantCode = some row := by
  obtain ⟨listed, since⟩ := mem_windowReadings.mp (List.mem_of_getLast? end_)
  obtain ⟨latest, found⟩ := latestReading_exists listed
  obtain ⟨held, greatest⟩ := latestReading_some found
  have above := greatest row listed
  have below := windowReadings_ascending.le_last end_ (mem_windowReadings.mpr ⟨held, since.trans above⟩)
  rw [found, plantReadings_unique held listed (le_antisymm below above)]

theorem getHistory_newest_iff (limit : Nat) :
    Newest Prod.fst limit (windowReadings plants table now plantCode minutes)
        (getHistory plants table now plantCode minutes limit) ↔
      (windowReadings plants table now plantCode minutes).length ≤ limit ∨ limit = 0 :=
  newest_take_iff windowReadings_ascending

/-- A history ends with the latest reading exactly where its limit cuts nothing off. -/
theorem getHistory_last_iff {limit : Nat} (positive : 0 < limit) :
    (∀ row, (getHistory plants table now plantCode minutes limit).getLast? = some row →
        latestReading plants table plantCode = some row) ↔
      (windowReadings plants table now plantCode minutes).length ≤ limit := by
  unfold getHistory
  constructor
  · intro latest
    by_contra long
    rw [not_le] at long
    have ascending : Ascending Prod.fst (windowReadings plants table now plantCode minutes) := windowReadings_ascending
    rw [← List.take_append_drop limit (windowReadings plants table now plantCode minutes)] at ascending
    have kept : (windowReadings plants table now plantCode minutes).take limit ≠ [] :=
      List.ne_nil_of_length_pos (by rw [List.length_take]; omega)
    have cut : (windowReadings plants table now plantCode minutes).drop limit ≠ [] :=
      List.ne_nil_of_length_pos (by rw [List.length_drop]; omega)
    obtain ⟨later, dropped⟩ := List.exists_mem_of_ne_nil _ cut
    have after := ascending.split _ (List.getLast_mem kept) later dropped
    have greatest := (latestReading_some (latest _ (List.getLast?_eq_some_getLast kept))).2
    have below := greatest later (mem_windowReadings.mp (List.mem_of_mem_drop dropped)).1
    omega
  · intro short row end_
    rw [List.take_of_length_le short] at end_
    exact windowReadings_last end_

/-- The newest readings of a window that has enough of them are the newest of the plant. -/
theorem newest_window_iff {count : Nat} {kept : List (Timed R)}
    (inside : ∀ row ∈ kept, row ∈ windowReadings plants table now plantCode minutes)
    (enough : count ≤ (windowReadings plants table now plantCode minutes).length) :
    Newest Prod.fst count (plantReadings plants table plantCode) kept ↔
      Newest Prod.fst count (windowReadings plants table now plantCode minutes) kept :=
  newest_part_iff windowReadings_subperm
    (fun _ outside missing _ within => windowReadings_later outside missing within) inside enough

end
end Iems.Repositories
