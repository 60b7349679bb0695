import Iems.Carbon.Period
import Iems.Lib.Grid
import Mathlib.Tactic.Ring

/-! The calendar: ordinals of days, months and years, and what the date operations do to them. -/
namespace Iems.Carbon
open Lib

theorem isLeap_iff {year : Nat} : isLeap year = true ↔ year % 4 = 0 ∧ (year % 100 ≠ 0 ∨ year % 400 = 0) := by
  simp [isLeap]

theorem daysInMonth_pos (year month : Nat) : 0 < daysInMonth year month := by
  unfold daysInMonth
  split
  · split <;> omega
  · split <;> omega

theorem daysBeforeMonth_one (year : Nat) : daysBeforeMonth year 1 = 0 := rfl

theorem daysBeforeMonth_succ {year month : Nat} (positive : 1 ≤ month) :
    daysBeforeMonth year (month + 1) = daysBeforeMonth year month + daysInMonth year month := by
  obtain ⟨m, rfl⟩ : ∃ m, month = m + 1 := ⟨month - 1, by omega⟩
  unfold daysBeforeMonth
  rw [Nat.add_sub_cancel, Nat.add_sub_cancel, List.range_succ, List.map_append, List.sum_append]
  simp

theorem daysBeforeMonth_year (year : Nat) : daysBeforeMonth year 13 = if isLeap year then 366 else 365 := by
  unfold daysBeforeMonth daysInMonth
  cases isLeap year <;> decide

theorem daysBeforeYear_succ {year : Nat} (positive : 1 ≤ year) :
    daysBeforeYear (year + 1) = daysBeforeYear year + daysBeforeMonth year 13 := by
  obtain ⟨n, rfl⟩ : ∃ n, year = n + 1 := ⟨year - 1, by omega⟩
  rw [daysBeforeMonth_year]
  unfold daysBeforeYear
  rw [Nat.add_sub_cancel, Nat.add_sub_cancel, Nat.succ_div, Nat.succ_div, Nat.succ_div]
  have centuries : n / 100 ≤ n / 4 := Nat.div_le_div_left (by omega) (by omega)
  have nested : ((n + 1) % 100 = 0 → (n + 1) % 4 = 0) ∧ ((n + 1) % 400 = 0 → (n + 1) % 100 = 0) := by omega
  -- each quotient grows by one exactly where its divisor divides the year
  simp only [isLeap_iff, Nat.dvd_iff_mod_eq_zero]
  generalize (n + 1) % 4 = by4 at *
  generalize (n + 1) % 100 = by100 at *
  generalize (n + 1) % 400 = by400 at *
  split_ifs <;> omega

/-- Ordinal of the first day of the month with index `k`, counted from January of year 1. -/
def monthOrdinal (k : Nat) : Nat := daysBeforeYear (k / 12 + 1) + daysBeforeMonth (k / 12 + 1) (k % 12 + 1) + 1

theorem monthOrdinal_succ (k : Nat) :
    monthOrdinal (k + 1) = monthOrdinal k + daysInMonth (k / 12 + 1) (k % 12 + 1) := by
  unfold monthOrdinal
  by_cases december : k % 12 = 11
  · have year : (k + 1) / 12 = k / 12 + 1 := by omega
    have month : (k + 1) % 12 = 0 := by omega
    have length := daysBeforeYear_succ (by omega : 1 ≤ k / 12 + 1)
    have last : daysBeforeMonth (k / 12 + 1) 13 = _ := daysBeforeMonth_succ (by omega : 1 ≤ 12)
    rw [year, month, december, length, last, daysBeforeMonth_one]
    ring
  · have year : (k + 1) / 12 = k / 12 := by omega
    have month : (k + 1) % 12 = k % 12 + 1 := by omega
    rw [year, month, daysBeforeMonth_succ (by omega)]
    omega

theorem monthOrdinal_strictMono : StrictMono monthOrdinal := by
  apply strictMono_nat_of_lt_succ
  intro k
  have positive := daysInMonth_pos (k / 12 + 1) (k % 12 + 1)
  rw [monthOrdinal_succ]
  omega

def Datetime.monthIndex (dt : Datetime) : Nat := 12 * (dt.year - 1) + (dt.month - 1)

def Datetime.yearIndex (dt : Datetime) : Nat := dt.year - 1

theorem monthIndex_parts (dt : Datetime) : dt.monthIndex / 12 + 1 = dt.year ∧ dt.monthIndex % 12 + 1 = dt.month := by
  obtain ⟨yearLow, _, monthLow, monthHigh, _⟩ := dt.valid
  unfold Datetime.monthIndex
  omega

theorem toOrdinal_eq (dt : Datetime) : dt.toOrdinal = monthOrdinal dt.monthIndex + (dt.day - 1) := by
  obtain ⟨_, _, _, _, dayLow, _, _⟩ := dt.valid
  obtain ⟨year, month⟩ := monthIndex_parts dt
  unfold Datetime.toOrdinal monthOrdinal
  rw [year, month]
  omega

theorem toOrdinal_cell (dt : Datetime) : dt.toOrdinal ∈ cell monthOrdinal dt.monthIndex := by
  obtain ⟨_, _, _, _, dayLow, dayHigh, _⟩ := dt.valid
  obtain ⟨year, month⟩ := monthIndex_parts dt
  refine ⟨?_, ?_⟩
  · rw [toOrdinal_eq]
    omega
  · rw [toOrdinal_eq, monthOrdinal_succ, year, month]
    omega

theorem exists_datetime {x : Int} (low : microsPerDay ≤ x) (high : x < monthOrdinal 119988 * microsPerDay) :
    ∃ dt : Datetime, dt.instant = x := by
  obtain ⟨ordinal, ordinalOf⟩ : ∃ ordinal : Nat, x / microsPerDay = ordinal :=
    ⟨(x / microsPerDay).toNat, by unfold microsPerDay at *; omega⟩
  have first : monthOrdinal 0 = 1 := rfl
  obtain ⟨k, _, early, inside⟩ := @exists_cell _ _ _ monthOrdinal_strictMono ordinal 0 119988
    (by unfold microsPerDay at *; omega) (by unfold microsPerDay at *; omega)
  obtain ⟨monthStart, monthEnd⟩ := inside
  rw [monthOrdinal_succ] at monthEnd
  let dt : Datetime := ⟨k / 12 + 1, k % 12 + 1, ordinal - monthOrdinal k + 1, (x % microsPerDay).toNat,
    by unfold ValidParts microsPerDay; omega⟩
  have index : dt.monthIndex = k := by
    show 12 * (k / 12 + 1 - 1) + (k % 12 + 1 - 1) = k
    omega
  have days : dt.toOrdinal = ordinal := by
    rw [toOrdinal_eq, index]
    show monthOrdinal k + (ordinal - monthOrdinal k + 1 - 1) = ordinal
    omega
  refine ⟨dt, ?_⟩
  unfold Datetime.instant
  rw [days]
  show (ordinal : Int) * microsPerDay + (x % microsPerDay).toNat = x
  unfold microsPerDay at *
  omega

theorem datetime_ext {a b : Datetime} (year : a.year = b.year) (month : a.month = b.month) (day : a.day = b.day)
    (clock : a.clock = b.clock) : a = b := by
  obtain ⟨_, _, _, _, _⟩ := a
  obtain ⟨_, _, _, _, _⟩ := b
  subst year month day clock
  rfl

theorem instant_injective {a b : Datetime} (same : a.instant = b.instant) : a = b := by
  obtain ⟨_, _, _, _, dayLowA, _, clockA⟩ := a.valid
  obtain ⟨_, _, _, _, dayLowB, _, clockB⟩ := b.valid
  unfold Datetime.instant microsPerDay at same
  unfold microsPerDay at clockA clockB
  have ordinal : a.toOrdinal = b.toOrdinal := by omega
  have clock : a.clock = b.clock := by omega
  have monthA := toOrdinal_cell a
  have monthB := toOrdinal_cell b
  rw [ordinal] at monthA
  have index := cell_unique monthOrdinal_strictMono monthA monthB
  obtain ⟨yearPartA, monthPartA⟩ := monthIndex_parts a
  obtain ⟨yearPartB, monthPartB⟩ := monthIndex_parts b
  have dayA := toOrdinal_eq a
  have dayB := toOrdinal_eq b
  rw [index] at yearPartA monthPartA dayA
  exact datetime_ext (by omega) (by omega) (by omega) clock

/-! ### Date operations -/

theorem make?_some {year month day : Int} {clock : Nat} {dt : Datetime}
    (made : Datetime.make? year month day clock = some dt) :
    dt.year = year.toNat ∧ dt.month = month.toNat ∧ dt.day = day.toNat ∧ dt.clock = clock := by
  unfold Datetime.make? at made
  split at made
  · cases made
    exact ⟨rfl, rfl, rfl, rfl⟩
  · cases made

theorem make?_isSome {year month day : Int} {clock : Nat}
    (valid : ValidParts year.toNat month.toNat day.toNat clock) :
    ∃ dt, Datetime.make? year month day clock = some dt :=
  ⟨⟨_, _, _, _, valid⟩, dif_pos valid⟩

theorem lastDay_ordinal {year : Nat} (positive : 1 ≤ year) :
    daysBeforeYear (year + 1) = daysBeforeYear year + daysBeforeMonth year 12 + daysInMonth year 12 := by
  have last : daysBeforeMonth year 13 = _ := daysBeforeMonth_succ (by omega : 1 ≤ 12)
  rw [daysBeforeYear_succ positive, last, Nat.add_assoc]

theorem addDay_some {dt next : Datetime} (added : dt.addDay = some next) :
    next.toOrdinal = dt.toOrdinal + 1 ∧ next.clock = dt.clock := by
  obtain ⟨yearLow, _, monthLow, monthHigh, dayLow, dayHigh, _⟩ := dt.valid
  unfold Datetime.addDay at added
  split at added
  · obtain ⟨year, month, day, clock⟩ := make?_some added
    have sameYear : next.year = dt.year := year
    have sameMonth : next.month = dt.month := month
    unfold Datetime.toOrdinal
    rw [sameYear, sameMonth]
    omega
  · split at added
    · obtain ⟨year, month, day, clock⟩ := make?_some added
      have sameYear : next.year = dt.year := year
      have nextMonth : next.month = dt.month + 1 := by omega
      have before := @daysBeforeMonth_succ dt.year dt.month monthLow
      unfold Datetime.toOrdinal
      rw [sameYear, nextMonth, before]
      omega
    · obtain ⟨year, month, day, clock⟩ := make?_some added
      have nextYear : next.year = dt.year + 1 := by omega
      have january : next.month = 1 := month
      have december : dt.month = 12 := by omega
      have before := lastDay_ordinal yearLow
      rw [december] at dayHigh
      unfold Datetime.toOrdinal
      rw [nextYear, january, before, daysBeforeMonth_one, december]
      rename_i notBefore _
      rw [december] at notBefore
      omega

theorem subDay_some {dt previous : Datetime} (subtracted : dt.subDay = some previous) :
    previous.toOrdinal + 1 = dt.toOrdinal ∧ previous.clock = dt.clock := by
  obtain ⟨yearLow, _, monthLow, monthHigh, dayLow, dayHigh, _⟩ := dt.valid
  unfold Datetime.subDay at subtracted
  split at subtracted
  · obtain ⟨year, month, day, clock⟩ := make?_some subtracted
    have sameYear : previous.year = dt.year := year
    have sameMonth : previous.month = dt.month := month
    unfold Datetime.toOrdinal
    rw [sameYear, sameMonth]
    omega
  · split at subtracted
    · obtain ⟨year, month, day, clock⟩ := make?_some subtracted
      obtain ⟨m, here⟩ : ∃ m, dt.month = m + 1 := ⟨dt.month - 1, by omega⟩
      have sameYear : previous.year = dt.year := year
      have previousMonth : previous.month = m := by omega
      have before := @daysBeforeMonth_succ dt.year m (by omega)
      unfold Datetime.toOrdinal
      rw [here, Nat.add_sub_cancel] at day
      rw [sameYear, previousMonth, here, before]
      omega
    · obtain ⟨year, month, day, clock⟩ := make?_some subtracted
      obtain ⟨_, _, _, _, _⟩ := previous.valid
      obtain ⟨y, here⟩ : ∃ y, dt.year = y + 1 := ⟨dt.year - 1, by omega⟩
      have previousYear : previous.year = y := by omega
      have december : previous.month = 12 := month
      have january : dt.month = 1 := by omega
      have before := @lastDay_ordinal y (by omega)
      have length : daysInMonth y 12 = 31 := rfl
      unfold Datetime.toOrdinal
      rw [previousYear, december, here, january, before, daysBeforeMonth_one, length]
      omega

theorem addDay_isSome {dt : Datetime} (bounded : dt.toOrdinal + 1 < monthOrdinal 119988) :
    ∃ next, dt.addDay = some next := by
  obtain ⟨yearLow, yearHigh, monthLow, monthHigh, dayLow, dayHigh, clock⟩ := dt.valid
  unfold Datetime.addDay
  split
  · refine make?_isSome ⟨yearLow, yearHigh, monthLow, monthHigh, by omega, ?_, clock⟩
    show _ ≤ daysInMonth dt.year dt.month
    omega
  · split
    · refine make?_isSome ⟨yearLow, yearHigh, by omega, by omega, by omega, ?_, clock⟩
      exact daysInMonth_pos _ _
    · rename_i lastDay lastMonth
      have notLast : dt.year ≠ 9999 := by
        intro last
        have december : dt.month = 12 := by omega
        have index : dt.monthIndex = 119987 := by
          unfold Datetime.monthIndex
          omega
        have ordinal := toOrdinal_eq dt
        have after : monthOrdinal 119988 = monthOrdinal 119987 + 31 := monthOrdinal_succ 119987
        have length : daysInMonth dt.year dt.month = 31 := by rw [december]; rfl
        rw [index] at ordinal
        omega
      exact make?_isSome ⟨by omega, by omega, by omega, by omega, by omega, daysInMonth_pos _ _, clock⟩

theorem subDay_isSome {dt : Datetime} (later : 2 ≤ dt.toOrdinal) : ∃ previous, dt.subDay = some previous := by
  obtain ⟨yearLow, yearHigh, monthLow, monthHigh, dayLow, dayHigh, clock⟩ := dt.valid
  unfold Datetime.subDay
  split
  · refine make?_isSome ⟨yearLow, yearHigh, monthLow, monthHigh, by omega, ?_, clock⟩
    show _ ≤ daysInMonth dt.year dt.month
    omega
  · split
    · refine make?_isSome ⟨yearLow, yearHigh, by omega, by omega, ?_, ?_, clock⟩
      · exact daysInMonth_pos _ _
      · have sameMonth : ((dt.month : Int) - 1).toNat = dt.month - 1 := by omega
        rw [sameMonth]
        exact Nat.le_refl _
    · have first : dt.year ≠ 1 := by
        intro one
        have january : dt.month = 1 := by omega
        unfold Datetime.toOrdinal at later
        rw [one, january, daysBeforeMonth_one] at later
        have zero : daysBeforeYear 1 = 0 := rfl
        omega
      exact make?_isSome ⟨by omega, by omega, by omega, by omega, by omega, Nat.le_refl 31, clock⟩

theorem addMonths_some {dt next : Datetime} {months : Int} (added : addMonths dt months = some next) :
    (next.monthIndex : Int) = dt.monthIndex + months ∧ next.day = 1 ∧ next.clock = dt.clock := by
  obtain ⟨yearLow, _, monthLow, monthHigh, _⟩ := dt.valid
  obtain ⟨nextLow, _, nextMonthLow, _, _⟩ := next.valid
  obtain ⟨year, month, day, clock⟩ := make?_some added
  refine ⟨?_, day, clock⟩
  unfold Datetime.monthIndex
  omega

theorem addMonths_isSome {dt : Datetime} {months : Int} (low : 0 ≤ (dt.monthIndex : Int) + months)
    (high : (dt.monthIndex : Int) + months < 119988) : ∃ next, addMonths dt months = some next := by
  obtain ⟨yearLow, _, monthLow, monthHigh, _, _, clock⟩ := dt.valid
  unfold Datetime.monthIndex at low high
  exact make?_isSome ⟨by omega, by omega, by omega, by omega, by omega, daysInMonth_pos _ _, clock⟩

end Iems.Carbon
