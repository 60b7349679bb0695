import Iems.Carbon.Calendar
import Mathlib.Data.Int.ConditionallyCompleteOrder
import Mathlib.Order.ConditionallyCompleteLattice.Basic

/-! The reporting windows as cells of three grids: days, months and years. -/
namespace Iems.Carbon
open Lib

/-- The instants at which the periods of a type begin, counted from the first one of year 1. -/
def boundary : PeriodType → ℕ → ℤ
  | .daily, n => (n + 1) * microsPerDay
  | .monthly, n => monthOrdinal n * microsPerDay
  | .yearly, n => monthOrdinal (12 * n) * microsPerDay

def periodIndex : PeriodType → Datetime → ℕ
  | .daily, dt => dt.toOrdinal - 1
  | .monthly, dt => dt.monthIndex
  | .yearly, dt => dt.yearIndex

/-- The window of the period with index `n`. -/
structure WindowAt (periodType : PeriodType) (n : ℕ) (w : PeriodWindow) : Prop where
  kind : w.periodType = periodType
  start : w.start.instant = boundary periodType n
  end_ : w.end_.instant = boundary periodType (n + 1)

def PeriodWindow.span (w : PeriodWindow) : Set ℤ := Set.Ico w.start.instant w.end_.instant

theorem boundary_strictMono (periodType : PeriodType) : StrictMono (boundary periodType) := by
  apply strictMono_nat_of_lt_succ
  intro n
  cases periodType with
  | daily =>
    show ((n : ℤ) + 1) * microsPerDay < ((n + 1 : ℕ) + 1) * microsPerDay
    unfold microsPerDay
    push_cast
    omega
  | monthly =>
    have later := monthOrdinal_strictMono (by omega : n < n + 1)
    show (monthOrdinal n : ℤ) * microsPerDay < monthOrdinal (n + 1) * microsPerDay
    unfold microsPerDay
    omega
  | yearly =>
    have later := monthOrdinal_strictMono (by omega : 12 * n < 12 * (n + 1))
    show (monthOrdinal (12 * n) : ℤ) * microsPerDay < monthOrdinal (12 * (n + 1)) * microsPerDay
    unfold microsPerDay
    omega

theorem windowAt_span {periodType : PeriodType} {n : ℕ} {w : PeriodWindow} (placed : WindowAt periodType n w) :
    w.span = cell (boundary periodType) n := by
  unfold PeriodWindow.span cell
  rw [placed.start, placed.end_]

theorem windowAt_unique {periodType : PeriodType} {n : ℕ} {w v : PeriodWindow} (first : WindowAt periodType n w)
    (second : WindowAt periodType n v) : w = v := by
  have start := instant_injective (first.start.trans second.start.symm)
  have end_ := instant_injective (first.end_.trans second.end_.symm)
  have kind := first.kind.trans second.kind.symm
  obtain ⟨_, _, _⟩ := w
  obtain ⟨_, _, _⟩ := v
  subst kind start end_
  rfl

theorem toOrdinal_pos (dt : Datetime) : 1 ≤ dt.toOrdinal := by
  obtain ⟨_, _, _, _, dayLow, _⟩ := dt.valid
  unfold Datetime.toOrdinal
  omega

theorem monthIndex_year (dt : Datetime) : 12 * dt.yearIndex ≤ dt.monthIndex ∧ dt.monthIndex < 12 * (dt.yearIndex + 1) := by
  obtain ⟨_, _, monthLow, monthHigh, _⟩ := dt.valid
  unfold Datetime.yearIndex Datetime.monthIndex
  omega

theorem instant_cell (periodType : PeriodType) (dt : Datetime) :
    dt.instant ∈ cell (boundary periodType) (periodIndex periodType dt) := by
  obtain ⟨_, _, _, _, _, _, clock⟩ := dt.valid
  have positive := toOrdinal_pos dt
  obtain ⟨monthLow, monthHigh⟩ := toOrdinal_cell dt
  obtain ⟨yearLow, yearHigh⟩ := monthIndex_year dt
  have yearStart := monthOrdinal_strictMono.monotone yearLow
  have yearEnd := monthOrdinal_strictMono.monotone (by omega : dt.monthIndex + 1 ≤ 12 * (dt.yearIndex + 1))
  unfold cell Datetime.instant
  cases periodType with
  | daily =>
    show _ ≤ _ ∧ _ < _
    simp only [boundary, periodIndex]
    unfold microsPerDay at clock ⊢
    push_cast
    omega
  | monthly =>
    show _ ≤ _ ∧ _ < _
    simp only [boundary, periodIndex]
    unfold microsPerDay at clock ⊢
    omega
  | yearly =>
    show _ ≤ _ ∧ _ < _
    simp only [boundary, periodIndex]
    unfold microsPerDay at clock ⊢
    omega

/-! ### The first instants of days, months and years -/

theorem midnight_instant {dt : Datetime} (midnight : dt.clock = 0) : dt.instant = dt.toOrdinal * microsPerDay := by
  unfold Datetime.instant
  rw [midnight]
  omega

theorem dayStart_instant {dt : Datetime} (midnight : dt.clock = 0) : dt.instant = boundary .daily (dt.toOrdinal - 1) := by
  have positive := toOrdinal_pos dt
  rw [midnight_instant midnight]
  show _ = (((dt.toOrdinal - 1 : ℕ) : ℤ) + 1) * microsPerDay
  unfold microsPerDay
  omega

theorem monthStart_instant {dt : Datetime} (first : dt.day = 1) (midnight : dt.clock = 0) :
    dt.instant = boundary .monthly dt.monthIndex := by
  rw [midnight_instant midnight, toOrdinal_eq, first]
  rfl

theorem yearStart_instant {dt : Datetime} (january : dt.month = 1) (first : dt.day = 1) (midnight : dt.clock = 0) :
    dt.instant = boundary .yearly dt.yearIndex := by
  have index : dt.monthIndex = 12 * dt.yearIndex := by
    unfold Datetime.monthIndex Datetime.yearIndex
    omega
  rw [monthStart_instant first midnight, index]
  rfl

theorem midnight_some {dt day : Datetime} (cut : dt.midnight = some day) :
    day.toOrdinal = dt.toOrdinal ∧ day.clock = 0 := by
  obtain ⟨year, month, dayOf, clock⟩ := make?_some cut
  refine ⟨?_, clock⟩
  unfold Datetime.toOrdinal
  rw [year, month, dayOf]
  rfl

theorem firstOfMonth_some {dt first : Datetime} (cut : dt.firstOfMonth = some first) :
    first.monthIndex = dt.monthIndex ∧ first.day = 1 ∧ first.clock = 0 := by
  obtain ⟨year, month, day, clock⟩ := make?_some cut
  refine ⟨?_, day, clock⟩
  unfold Datetime.monthIndex
  rw [year, month]
  rfl

theorem firstOfYear_some {dt first : Datetime} (cut : dt.firstOfYear = some first) :
    first.yearIndex = dt.yearIndex ∧ first.month = 1 ∧ first.day = 1 ∧ first.clock = 0 := by
  obtain ⟨year, month, day, clock⟩ := make?_some cut
  refine ⟨?_, month, day, clock⟩
  unfold Datetime.yearIndex
  rw [year]
  rfl

theorem replaceYear_some {dt other : Datetime} {year : ℤ} (replaced : dt.replaceYear year = some other) :
    other.year = year.toNat ∧ other.month = dt.month ∧ other.day = dt.day ∧ other.clock = dt.clock :=
  make?_some replaced

/-! ### The window of a reference -/

theorem periodWindow_daily (ref : Datetime) (completedOnly : Bool) :
    periodWindow .daily ref completedOnly =
      ref.midnight.bind fun today => (if completedOnly then some today else today.addDay).bind fun last =>
        last.subDay.map fun first => ⟨.daily, first, last⟩ := by
  unfold periodWindow
  simp only [Option.map_eq_bind]
  cases completedOnly <;> rfl

theorem periodWindow_monthly (ref : Datetime) (completedOnly : Bool) :
    periodWindow .monthly ref completedOnly =
      ref.firstOfMonth.bind fun month => (if completedOnly then some month else addMonths month 1).bind fun last =>
        (addMonths last (-1)).map fun first => ⟨.monthly, first, last⟩ := by
  unfold periodWindow
  simp only [Option.map_eq_bind]
  cases completedOnly <;> rfl

theorem periodWindow_yearly (ref : Datetime) (completedOnly : Bool) :
    periodWindow .yearly ref completedOnly =
      ref.firstOfYear.bind fun year =>
        (if completedOnly then some year else year.replaceYear (year.year + 1)).bind fun last =>
          (last.replaceYear (last.year - 1)).map fun first => ⟨.yearly, first, last⟩ := by
  unfold periodWindow
  simp only [Option.map_eq_bind]
  cases completedOnly <;> rfl

theorem dailyWindow_at {ref : Datetime} {completedOnly : Bool} {w : PeriodWindow}
    (found : periodWindow .daily ref completedOnly = some w) :
    ∃ n, WindowAt .daily n w ∧ periodIndex .daily ref = if completedOnly then n + 1 else n := by
  simp only [periodWindow_daily, Option.bind_eq_some_iff, Option.map_eq_some_iff] at found
  obtain ⟨today, cut, last, ended, first, started, rfl⟩ := found
  obtain ⟨sameDay, midnight⟩ := midnight_some cut
  obtain ⟨before, clock⟩ := subDay_some started
  have positive := toOrdinal_pos first
  have lastMidnight : last.clock = 0 ∧
      last.toOrdinal = if completedOnly then ref.toOrdinal else ref.toOrdinal + 1 := by
    cases completedOnly with
    | true =>
      cases ended
      exact ⟨midnight, sameDay⟩
    | false =>
      obtain ⟨after, kept⟩ := addDay_some ended
      exact ⟨kept.trans midnight, by rw [after, sameDay]; rfl⟩
  obtain ⟨lastClock, lastDay⟩ := lastMidnight
  refine ⟨first.toOrdinal - 1, ⟨rfl, dayStart_instant (clock.trans lastClock), ?_⟩, ?_⟩
  · have next : first.toOrdinal - 1 + 1 = last.toOrdinal - 1 := by omega
    rw [next]
    exact dayStart_instant lastClock
  · show ref.toOrdinal - 1 = _
    cases completedOnly with
    | true =>
      have sameEnd : last.toOrdinal = ref.toOrdinal := lastDay
      show ref.toOrdinal - 1 = first.toOrdinal - 1 + 1
      omega
    | false =>
      have nextEnd : last.toOrdinal = ref.toOrdinal + 1 := lastDay
      show ref.toOrdinal - 1 = first.toOrdinal - 1
      omega

theorem monthlyWindow_at {ref : Datetime} {completedOnly : Bool} {w : PeriodWindow}
    (found : periodWindow .monthly ref completedOnly = some w) :
    ∃ n, WindowAt .monthly n w ∧ periodIndex .monthly ref = if completedOnly then n + 1 else n := by
  simp only [periodWindow_monthly, Option.bind_eq_some_iff, Option.map_eq_some_iff] at found
  obtain ⟨thisMonth, cut, last, ended, first, started, rfl⟩ := found
  obtain ⟨sameMonth, dayOne, midnight⟩ := firstOfMonth_some cut
  obtain ⟨before, firstDay, clock⟩ := addMonths_some started
  have lastOfMonth : last.day = 1 ∧ last.clock = 0 ∧
      last.monthIndex = if completedOnly then ref.monthIndex else ref.monthIndex + 1 := by
    cases completedOnly with
    | true =>
      cases ended
      exact ⟨dayOne, midnight, sameMonth⟩
    | false =>
      obtain ⟨after, day, kept⟩ := addMonths_some ended
      refine ⟨day, kept.trans midnight, ?_⟩
      show last.monthIndex = ref.monthIndex + 1
      omega
  obtain ⟨lastDay, lastClock, lastMonth⟩ := lastOfMonth
  refine ⟨first.monthIndex, ⟨rfl, monthStart_instant firstDay (clock.trans lastClock), ?_⟩, ?_⟩
  · have next : first.monthIndex + 1 = last.monthIndex := by omega
    rw [next]
    exact monthStart_instant lastDay lastClock
  · show ref.monthIndex = _
    cases completedOnly with
    | true =>
      have sameEnd : last.monthIndex = ref.monthIndex := lastMonth
      show ref.monthIndex = first.monthIndex + 1
      omega
    | false =>
      have nextEnd : last.monthIndex = ref.monthIndex + 1 := lastMonth
      show ref.monthIndex = first.monthIndex
      omega

theorem yearlyWindow_at {ref : Datetime} {completedOnly : Bool} {w : PeriodWindow}
    (found : periodWindow .yearly ref completedOnly = some w) :
    ∃ n, WindowAt .yearly n w ∧ periodIndex .yearly ref = if completedOnly then n + 1 else n := by
  simp only [periodWindow_yearly, Option.bind_eq_some_iff, Option.map_eq_some_iff] at found
  obtain ⟨thisYear, cut, last, ended, first, started, rfl⟩ := found
  obtain ⟨sameYear, january, dayOne, midnight⟩ := firstOfYear_some cut
  obtain ⟨before, firstMonth, firstDay, clock⟩ := replaceYear_some started
  obtain ⟨firstLow, _⟩ := first.valid
  obtain ⟨thisLow, _⟩ := thisYear.valid
  obtain ⟨refLow, _⟩ := ref.valid
  unfold Datetime.yearIndex at sameYear
  have lastOfYear : last.month = 1 ∧ last.day = 1 ∧ last.clock = 0 ∧
      last.year = if completedOnly then ref.year else ref.year + 1 := by
    cases completedOnly with
    | true =>
      cases ended
      refine ⟨january, dayOne, midnight, ?_⟩
      show thisYear.year = ref.year
      omega
    | false =>
      obtain ⟨after, month, day, kept⟩ := replaceYear_some ended
      refine ⟨month.trans january, day.trans dayOne, kept.trans midnight, ?_⟩
      show last.year = ref.year + 1
      omega
  obtain ⟨lastMonth, lastDay, lastClock, lastYear⟩ := lastOfYear
  refine ⟨first.yearIndex, ⟨rfl, ?_, ?_⟩, ?_⟩
  · exact yearStart_instant (firstMonth.trans lastMonth) (firstDay.trans lastDay) (clock.trans lastClock)
  · have next : first.yearIndex + 1 = last.yearIndex := by
      unfold Datetime.yearIndex
      omega
    rw [next]
    exact yearStart_instant lastMonth lastDay lastClock
  · show ref.year - 1 = _
    unfold Datetime.yearIndex
    cases completedOnly with
    | true =>
      have sameEnd : last.year = ref.year := lastYear
      show ref.year - 1 = first.year - 1 + 1
      omega
    | false =>
      have nextEnd : last.year = ref.year + 1 := lastYear
      show ref.year - 1 = first.year - 1
      omega

/-- The completed window is the cell before the one of the reference, the running window its own. -/
theorem periodWindow_at {periodType : PeriodType} {ref : Datetime} {completedOnly : Bool} {w : PeriodWindow}
    (found : periodWindow periodType ref completedOnly = some w) :
    ∃ n, WindowAt periodType n w ∧ periodIndex periodType ref = if completedOnly then n + 1 else n := by
  cases periodType with
  | daily => exact dailyWindow_at found
  | monthly => exact monthlyWindow_at found
  | yearly => exact yearlyWindow_at found

/-! ### Which references have a window -/

/-- The first instant after year 9999. -/
def horizon : ℤ := boundary .yearly 9999

theorem instant_lt_horizon (dt : Datetime) : dt.instant < horizon := by
  obtain ⟨_, yearHigh, _⟩ := dt.valid
  obtain ⟨_, beforeNext⟩ := instant_cell .yearly dt
  have latest : boundary .yearly (dt.yearIndex + 1) ≤ horizon := by
    apply (boundary_strictMono .yearly).monotone
    unfold Datetime.yearIndex
    omega
  exact lt_of_lt_of_le beforeNext latest

theorem exists_at {periodType : PeriodType} {n : ℕ} (bounded : boundary periodType n < horizon) :
    ∃ dt : Datetime, dt.instant = boundary periodType n := by
  apply exists_datetime ?_ bounded
  have first : boundary periodType 0 = microsPerDay := by cases periodType <;> rfl
  rw [← first]
  exact (boundary_strictMono periodType).monotone (Nat.zero_le n)

theorem midnight_isSome (ref : Datetime) : ∃ today, ref.midnight = some today := by
  obtain ⟨yearLow, yearHigh, monthLow, monthHigh, dayLow, dayHigh, _⟩ := ref.valid
  exact make?_isSome ⟨yearLow, yearHigh, monthLow, monthHigh, dayLow, dayHigh, by decide⟩

theorem firstOfMonth_isSome (ref : Datetime) : ∃ first, ref.firstOfMonth = some first := by
  obtain ⟨yearLow, yearHigh, monthLow, monthHigh, _⟩ := ref.valid
  exact make?_isSome ⟨yearLow, yearHigh, monthLow, monthHigh, by decide, daysInMonth_pos _ _, by decide⟩

theorem firstOfYear_isSome (ref : Datetime) : ∃ first, ref.firstOfYear = some first := by
  obtain ⟨yearLow, yearHigh, _⟩ := ref.valid
  exact make?_isSome ⟨yearLow, yearHigh, by decide, by decide, by decide, daysInMonth_pos _ _, by decide⟩

theorem replaceYear_isSome {dt : Datetime} {year : ℤ} (first : dt.day = 1) (low : 1 ≤ year) (high : year ≤ 9999) :
    ∃ other, dt.replaceYear year = some other := by
  obtain ⟨_, _, monthLow, monthHigh, _, _, clock⟩ := dt.valid
  refine make?_isSome ⟨by omega, by omega, monthLow, monthHigh, by omega, ?_, clock⟩
  have positive := daysInMonth_pos year.toNat dt.month
  show dt.day ≤ daysInMonth year.toNat dt.month
  omega

theorem completedWindow_isSome {periodType : PeriodType} {ref : Datetime} (later : 1 ≤ periodIndex periodType ref) :
    ∃ w, periodWindow periodType ref true = some w := by
  cases periodType with
  | daily =>
    obtain ⟨today, cut⟩ := midnight_isSome ref
    obtain ⟨sameDay, _⟩ := midnight_some cut
    have second : 1 ≤ ref.toOrdinal - 1 := later
    obtain ⟨first, started⟩ := @subDay_isSome today (by omega)
    exact ⟨⟨.daily, first, today⟩, by simp [periodWindow_daily, cut, started]⟩
  | monthly =>
    obtain ⟨month, cut⟩ := firstOfMonth_isSome ref
    obtain ⟨sameMonth, _, _⟩ := firstOfMonth_some cut
    obtain ⟨_, yearHigh, _, monthHigh, _⟩ := month.valid
    have second : 1 ≤ ref.monthIndex := later
    have bounded : month.monthIndex < 119988 := by
      unfold Datetime.monthIndex
      omega
    obtain ⟨first, started⟩ := @addMonths_isSome month (-1) (by omega) (by omega)
    exact ⟨⟨.monthly, first, month⟩, by simp [periodWindow_monthly, cut, started]⟩
  | yearly =>
    obtain ⟨year, cut⟩ := firstOfYear_isSome ref
    obtain ⟨sameYear, _, dayOne, _⟩ := firstOfYear_some cut
    obtain ⟨_, yearHigh, _⟩ := year.valid
    have second : 1 ≤ ref.yearIndex := later
    unfold Datetime.yearIndex at sameYear second
    obtain ⟨first, started⟩ := @replaceYear_isSome year (year.year - 1) dayOne (by omega) (by omega)
    exact ⟨⟨.yearly, first, year⟩, by simp [periodWindow_yearly, cut, started]⟩

theorem runningWindow_isSome {periodType : PeriodType} {ref : Datetime}
    (bounded : boundary periodType (periodIndex periodType ref + 1) < horizon) :
    ∃ w, periodWindow periodType ref false = some w := by
  cases periodType with
  | daily =>
    obtain ⟨today, cut⟩ := midnight_isSome ref
    obtain ⟨sameDay, _⟩ := midnight_some cut
    have positive := toOrdinal_pos ref
    have early : today.toOrdinal + 1 < monthOrdinal 119988 := by
      change ((ref.toOrdinal - 1 + 1 : ℕ) + 1 : ℤ) * microsPerDay < monthOrdinal 119988 * microsPerDay at bounded
      unfold microsPerDay at bounded
      omega
    obtain ⟨last, ended⟩ := addDay_isSome early
    obtain ⟨after, _⟩ := addDay_some ended
    obtain ⟨first, started⟩ := @subDay_isSome last (by omega)
    exact ⟨⟨.daily, first, last⟩, by simp [periodWindow_daily, cut, ended, started]⟩
  | monthly =>
    obtain ⟨month, cut⟩ := firstOfMonth_isSome ref
    obtain ⟨sameMonth, _, _⟩ := firstOfMonth_some cut
    have early : ref.monthIndex + 1 < 119988 := (boundary_strictMono .monthly).lt_iff_lt.mp bounded
    obtain ⟨last, ended⟩ := @addMonths_isSome month 1 (by omega) (by omega)
    obtain ⟨after, _, _⟩ := addMonths_some ended
    obtain ⟨first, started⟩ := @addMonths_isSome last (-1) (by omega) (by omega)
    exact ⟨⟨.monthly, first, last⟩, by simp [periodWindow_monthly, cut, ended, started]⟩
  | yearly =>
    obtain ⟨year, cut⟩ := firstOfYear_isSome ref
    obtain ⟨sameYear, _, dayOne, _⟩ := firstOfYear_some cut
    have early : ref.yearIndex + 1 < 9999 := (boundary_strictMono .yearly).lt_iff_lt.mp bounded
    obtain ⟨yearLow, _⟩ := year.valid
    unfold Datetime.yearIndex at sameYear early
    obtain ⟨last, ended⟩ := @replaceYear_isSome year (year.year + 1) dayOne (by omega) (by omega)
    obtain ⟨after, _, day, _⟩ := replaceYear_some ended
    obtain ⟨lastLow, lastHigh, _⟩ := last.valid
    obtain ⟨first, started⟩ := @replaceYear_isSome last (last.year - 1) (day.trans dayOne) (by omega) (by omega)
    exact ⟨⟨.yearly, first, last⟩, by simp [periodWindow_yearly, cut, ended, started]⟩

end Iems.Carbon
