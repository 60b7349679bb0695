import Iems.Carbon.Windows

/-! The windows of every reference tile the calendar, and each coarser tiling is a union of the finer ones. -/
namespace Iems.Carbon
open Lib

/-- A window that `period_window` gives for some reference. -/
def Reported (periodType : PeriodType) (completedOnly : Bool) (w : PeriodWindow) : Prop :=
  ∃ ref, periodWindow periodType ref completedOnly = some w

/-- `v` is the first window of its type and mode to start after `w`. -/
def Successive (periodType : PeriodType) (completedOnly : Bool) (w v : PeriodWindow) : Prop :=
  w.start.instant < v.start.instant ∧
    ∀ u, Reported periodType completedOnly u → ¬(w.start.instant < u.start.instant ∧ u.start.instant < v.start.instant)

theorem periodIndex_of_cell {periodType : PeriodType} {dt : Datetime} {n : ℕ}
    (inside : dt.instant ∈ cell (boundary periodType) n) : periodIndex periodType dt = n :=
  cell_unique (boundary_strictMono periodType) (instant_cell periodType dt) inside

theorem periodIndex_of_start {periodType : PeriodType} {dt : Datetime} {n : ℕ}
    (start : dt.instant = boundary periodType n) : periodIndex periodType dt = n := by
  apply periodIndex_of_cell
  rw [start]
  exact ⟨le_rfl, boundary_strictMono periodType (Nat.lt_succ_self n)⟩

theorem periodWindow_of_index {periodType : PeriodType} {ref : Datetime} {completedOnly : Bool} {w : PeriodWindow}
    {n : ℕ} (found : periodWindow periodType ref completedOnly = some w)
    (index : periodIndex periodType ref = if completedOnly then n + 1 else n) : WindowAt periodType n w := by
  obtain ⟨m, placed, here⟩ := periodWindow_at found
  have same : m = n := by
    rw [index] at here
    cases completedOnly with
    | true => exact (Nat.succ.inj here).symm
    | false => exact here.symm
  rwa [same] at placed

/-- Whatever the mode, the windows that occur are those of the periods that end before year 10000. -/
theorem reported_iff {periodType : PeriodType} {completedOnly : Bool} {w : PeriodWindow} :
    Reported periodType completedOnly w ↔
      ∃ n, WindowAt periodType n w ∧ boundary periodType (n + 1) < horizon := by
  constructor
  · rintro ⟨ref, found⟩
    obtain ⟨n, placed, _⟩ := periodWindow_at found
    refine ⟨n, placed, ?_⟩
    rw [← placed.end_]
    exact instant_lt_horizon w.end_
  · rintro ⟨n, placed, bounded⟩
    cases completedOnly with
    | true =>
      obtain ⟨ref, start⟩ := exists_at bounded
      have index := periodIndex_of_start start
      obtain ⟨v, found⟩ := @completedWindow_isSome periodType ref (by omega)
      have same := windowAt_unique placed (periodWindow_of_index found index)
      exact ⟨ref, by rw [found, same]⟩
    | false =>
      have early := (boundary_strictMono periodType (Nat.lt_succ_self n)).trans bounded
      obtain ⟨ref, start⟩ := exists_at early
      have index := periodIndex_of_start start
      obtain ⟨v, found⟩ := @runningWindow_isSome periodType ref (by rwa [index])
      have same := windowAt_unique placed (periodWindow_of_index found index)
      exact ⟨ref, by rw [found, same]⟩

theorem exists_reported {periodType : PeriodType} {n : ℕ} (completedOnly : Bool)
    (bounded : boundary periodType (n + 1) < horizon) :
    ∃ w, Reported periodType completedOnly w ∧ WindowAt periodType n w := by
  obtain ⟨end_, ended⟩ := exists_at bounded
  obtain ⟨start, started⟩ := exists_at ((boundary_strictMono periodType (Nat.lt_succ_self n)).trans bounded)
  have placed : WindowAt periodType n ⟨periodType, start, end_⟩ := ⟨rfl, started, ended⟩
  exact ⟨_, reported_iff.mpr ⟨n, placed, bounded⟩, placed⟩

/-! ### One granularity -/

theorem windowAt_start_lt_end {periodType : PeriodType} {n : ℕ} {w : PeriodWindow} (placed : WindowAt periodType n w) :
    w.start.instant < w.end_.instant := by
  rw [placed.start, placed.end_]
  exact boundary_strictMono periodType (Nat.lt_succ_self n)

theorem reported_equal_or_disjoint {periodType : PeriodType} {completedOnly : Bool} {w v : PeriodWindow}
    (first : Reported periodType completedOnly w) (second : Reported periodType completedOnly v) :
    w = v ∨ Disjoint w.span v.span := by
  obtain ⟨n, placedW, _⟩ := reported_iff.mp first
  obtain ⟨m, placedV, _⟩ := reported_iff.mp second
  by_cases same : n = m
  · subst same
    exact Or.inl (windowAt_unique placedW placedV)
  · right
    rw [windowAt_span placedW, windowAt_span placedV]
    exact cell_disjoint (boundary_strictMono periodType) same

theorem successive_iff_adjacent {periodType : PeriodType} {completedOnly : Bool} {w v : PeriodWindow}
    (first : Reported periodType completedOnly w) (second : Reported periodType completedOnly v) :
    Successive periodType completedOnly w v ↔ w.end_ = v.start := by
  obtain ⟨n, placedW, _⟩ := reported_iff.mp first
  obtain ⟨m, placedV, bounded⟩ := reported_iff.mp second
  have mono := boundary_strictMono periodType
  constructor
  · rintro ⟨before, noneBetween⟩
    rw [placedW.start, placedV.start] at before
    have later : n < m := mono.lt_iff_lt.mp before
    have following : m = n + 1 := by
      by_contra further
      have between : boundary periodType (n + 1 + 1) < horizon :=
        lt_of_le_of_lt (mono.monotone (by omega : n + 1 + 1 ≤ m + 1)) bounded
      obtain ⟨u, reported, placedU⟩ := exists_reported completedOnly between
      apply noneBetween u reported
      rw [placedW.start, placedV.start, placedU.start]
      exact ⟨mono (Nat.lt_succ_self n), mono (by omega : n + 1 < m)⟩
    apply instant_injective
    rw [placedW.end_, placedV.start, following]
  · intro touching
    have following : n + 1 = m := by
      apply mono.injective
      rw [← placedW.end_, touching, placedV.start]
    refine ⟨?_, ?_⟩
    · rw [placedW.start, placedV.start]
      exact mono (by omega)
    · rintro u reported ⟨after, before⟩
      obtain ⟨k, placedU, _⟩ := reported_iff.mp reported
      rw [placedW.start, placedU.start, mono.lt_iff_lt] at after
      rw [placedU.start, placedV.start, mono.lt_iff_lt] at before
      omega

theorem reported_covers {periodType : PeriodType} {completedOnly : Bool} {w v : PeriodWindow} {x : ℤ}
    (first : Reported periodType completedOnly w) (second : Reported periodType completedOnly v)
    (low : w.start.instant ≤ x) (high : x < v.end_.instant) :
    ∃! u, Reported periodType completedOnly u ∧ x ∈ u.span := by
  obtain ⟨n, placedW, _⟩ := reported_iff.mp first
  obtain ⟨m, placedV, bounded⟩ := reported_iff.mp second
  rw [placedW.start] at low
  rw [placedV.end_] at high
  have mono := boundary_strictMono periodType
  obtain ⟨k, _, upper, inside⟩ := exists_cell mono low high
  have early : boundary periodType (k + 1) < horizon := lt_of_le_of_lt (mono.monotone (by omega)) bounded
  obtain ⟨u, reported, placed⟩ := exists_reported completedOnly early
  have covered : x ∈ u.span := by rwa [windowAt_span placed]
  refine ⟨u, ⟨reported, covered⟩, ?_⟩
  rintro other ⟨alsoReported, alsoCovered⟩
  rcases reported_equal_or_disjoint alsoReported reported with same | apart
  · exact same
  · exact absurd covered (Set.disjoint_left.mp apart alsoCovered)

/-! ### Finer windows inside coarser ones -/

theorem iUnion_reported {periodType : PeriodType} (completedOnly : Bool) {a b : ℕ}
    (bounded : boundary periodType b < horizon) :
    Set.Ico (boundary periodType a) (boundary periodType b) =
      ⋃ v ∈ {v | Reported periodType completedOnly v ∧
        v.span ⊆ Set.Ico (boundary periodType a) (boundary periodType b)}, v.span := by
  have mono := boundary_strictMono periodType
  apply Set.Subset.antisymm
  · intro x inside
    rw [iUnion_cell mono a b] at inside
    simp only [Set.mem_iUnion, Set.mem_Ico, exists_prop] at inside
    obtain ⟨n, ⟨lower, upper⟩, covered⟩ := inside
    have early : boundary periodType (n + 1) < horizon := lt_of_le_of_lt (mono.monotone upper) bounded
    obtain ⟨v, reported, placed⟩ := exists_reported completedOnly early
    rw [← windowAt_span placed] at covered
    refine Set.mem_biUnion ⟨reported, ?_⟩ covered
    rw [windowAt_span placed]
    exact cell_subset mono lower upper
  · exact Set.iUnion₂_subset fun v inside => inside.2

theorem monthly_boundary (n : ℕ) : boundary .monthly n = boundary .daily (monthOrdinal n - 1) := by
  have positive : 1 ≤ monthOrdinal n := by
    unfold monthOrdinal
    omega
  show (monthOrdinal n : ℤ) * microsPerDay = ((monthOrdinal n - 1 : ℕ) + 1) * microsPerDay
  unfold microsPerDay
  omega

theorem yearly_boundary (n : ℕ) : boundary .yearly n = boundary .monthly (12 * n) := rfl

theorem yearly_span {n : ℕ} {w : PeriodWindow} (placed : WindowAt .yearly n w) :
    w.span = Set.Ico (boundary .monthly (12 * n)) (boundary .monthly (12 * (n + 1))) := by
  rw [windowAt_span placed, ← yearly_boundary, ← yearly_boundary]
  rfl

theorem monthly_union {completedOnly : Bool} {w : PeriodWindow} (reported : Reported .monthly completedOnly w)
    (daily : Bool) : w.span = ⋃ d ∈ {d | Reported .daily daily d ∧ d.span ⊆ w.span}, d.span := by
  obtain ⟨n, placed, bounded⟩ := reported_iff.mp reported
  have span : w.span =
      Set.Ico (boundary .daily (monthOrdinal n - 1)) (boundary .daily (monthOrdinal (n + 1) - 1)) := by
    rw [windowAt_span placed, ← monthly_boundary, ← monthly_boundary]
    rfl
  rw [monthly_boundary] at bounded
  rw [span]
  exact iUnion_reported daily bounded

theorem yearly_union {completedOnly : Bool} {w : PeriodWindow} (reported : Reported .yearly completedOnly w)
    (monthly : Bool) : w.span = ⋃ m ∈ {m | Reported .monthly monthly m ∧ m.span ⊆ w.span}, m.span := by
  obtain ⟨n, placed, bounded⟩ := reported_iff.mp reported
  rw [yearly_span placed]
  exact iUnion_reported monthly bounded

theorem reported_months {completedOnly : Bool} {w : PeriodWindow} (reported : Reported .yearly completedOnly w)
    (monthly : Bool) :
    ∃ months : Fin 12 → PeriodWindow,
      (∀ i, (months i).start.year = w.start.year ∧ (months i).start.month = i + 1) ∧
      ∀ m, Reported .monthly monthly m ∧ m.span ⊆ w.span ↔ ∃ i, months i = m := by
  obtain ⟨n, placed, bounded⟩ := reported_iff.mp reported
  have mono := boundary_strictMono .monthly
  have span := yearly_span placed
  have early : ∀ i : Fin 12, boundary .monthly (12 * n + i + 1) < horizon := by
    intro i
    exact lt_of_le_of_lt (mono.monotone (by omega)) bounded
  choose months monthReported monthPlaced using fun i => exists_reported monthly (early i)
  have yearOf : w.start.year = n + 1 := by
    have index : w.start.year - 1 = n := periodIndex_of_start placed.start
    obtain ⟨yearLow, _⟩ := w.start.valid
    omega
  refine ⟨months, ?_, ?_⟩
  · intro i
    have index : (months i).start.monthIndex = 12 * n + i := periodIndex_of_start (monthPlaced i).start
    obtain ⟨year, month⟩ := monthIndex_parts (months i).start
    omega
  · intro m
    constructor
    · rintro ⟨mReported, inside⟩
      obtain ⟨k, mPlaced, _⟩ := reported_iff.mp mReported
      rw [windowAt_span mPlaced, span, cell_subset_iff mono] at inside
      obtain ⟨lower, upper⟩ := inside
      refine ⟨⟨k - 12 * n, by omega⟩, ?_⟩
      have index : 12 * n + (k - 12 * n) = k := by omega
      have here := monthPlaced ⟨k - 12 * n, by omega⟩
      simp only [index] at here
      exact windowAt_unique here mPlaced
    · rintro ⟨i, rfl⟩
      refine ⟨monthReported i, ?_⟩
      rw [windowAt_span (monthPlaced i), span]
      exact cell_subset mono (by omega) (by omega)

/-! ### References in the supported years -/

theorem periodIndex_pos {periodType : PeriodType} {ref : Datetime} (later : 2 ≤ ref.year) :
    1 ≤ periodIndex periodType ref := by
  obtain ⟨_, _, monthLow, _, dayLow, _⟩ := ref.valid
  cases periodType with
  | daily =>
    show 1 ≤ ref.toOrdinal - 1
    unfold Datetime.toOrdinal daysBeforeYear
    omega
  | monthly =>
    show 1 ≤ ref.monthIndex
    unfold Datetime.monthIndex
    omega
  | yearly =>
    show 1 ≤ ref.yearIndex
    unfold Datetime.yearIndex
    omega

theorem periodEnd_le_year (periodType : PeriodType) (ref : Datetime) :
    boundary periodType (periodIndex periodType ref + 1) ≤ boundary .yearly (ref.yearIndex + 1) := by
  obtain ⟨_, yearHigh⟩ := monthIndex_year ref
  obtain ⟨_, monthHigh⟩ := toOrdinal_cell ref
  have positive := toOrdinal_pos ref
  cases periodType with
  | daily =>
    have month := monthOrdinal_strictMono.monotone (by omega : ref.monthIndex + 1 ≤ 12 * (ref.yearIndex + 1))
    show ((ref.toOrdinal - 1 + 1 : ℕ) + 1 : ℤ) * microsPerDay ≤ monthOrdinal (12 * (ref.yearIndex + 1)) * microsPerDay
    unfold microsPerDay
    omega
  | monthly =>
    rw [yearly_boundary]
    exact (boundary_strictMono .monthly).monotone yearHigh
  | yearly => exact le_rfl

theorem reference_windows (periodType : PeriodType) {r : Datetime} (low : 2 ≤ r.year) (high : r.year ≤ 9998) :
    ∃ done running,
      periodWindow periodType r true = some done ∧ periodWindow periodType r false = some running ∧
      done.start.instant < done.end_.instant ∧ running.start.instant < running.end_.instant ∧
      done.end_.instant ≤ r.instant ∧ done.end_ = running.start ∧
      running.start.instant ≤ r.instant ∧ r.instant < running.end_.instant := by
  have later := @periodIndex_pos periodType r low
  have bounded : boundary periodType (periodIndex periodType r + 1) < horizon := by
    refine lt_of_le_of_lt (periodEnd_le_year periodType r) (boundary_strictMono .yearly ?_)
    unfold Datetime.yearIndex
    omega
  obtain ⟨done, foundDone⟩ := completedWindow_isSome later
  obtain ⟨running, foundRunning⟩ := runningWindow_isSome bounded
  obtain ⟨n, index⟩ : ∃ n, periodIndex periodType r = n + 1 := ⟨_, (Nat.sub_add_cancel later).symm⟩
  have placedDone := periodWindow_of_index foundDone index
  have placedRunning := periodWindow_of_index foundRunning index
  have inside := instant_cell periodType r
  rw [index] at inside
  obtain ⟨start, end_⟩ := inside
  have touching : done.end_ = running.start := instant_injective (placedDone.end_.trans placedRunning.start.symm)
  refine ⟨done, running, foundDone, foundRunning, windowAt_start_lt_end placedDone,
    windowAt_start_lt_end placedRunning, ?_, touching, ?_, ?_⟩
  · rwa [placedDone.end_]
  · rwa [placedRunning.start]
  · rwa [placedRunning.end_]

/-- Every period is reported once: windows bracket their reference, tile the calendar and nest. -/
theorem periodWindows_tile :
    (∀ (periodType : PeriodType) (r : Datetime), 2 ≤ r.year → r.year ≤ 9998 →
      ∃ done running,
        periodWindow periodType r true = some done ∧ periodWindow periodType r false = some running ∧
        done.start.instant < done.end_.instant ∧ running.start.instant < running.end_.instant ∧
        done.end_.instant ≤ r.instant ∧ done.end_ = running.start ∧
        running.start.instant ≤ r.instant ∧ r.instant < running.end_.instant) ∧
    (∀ (periodType : PeriodType) (completedOnly : Bool) (w v : PeriodWindow),
      Reported periodType completedOnly w → Reported periodType completedOnly v →
        (w = v ∨ Disjoint w.span v.span) ∧
        (Successive periodType completedOnly w v ↔ w.end_ = v.start) ∧
        ∀ x, w.start.instant ≤ x → x < v.end_.instant →
          ∃! u, Reported periodType completedOnly u ∧ x ∈ u.span) ∧
    (∀ (completedOnly daily : Bool) (w : PeriodWindow), Reported .monthly completedOnly w →
      w.span = ⋃ d ∈ {d | Reported .daily daily d ∧ d.span ⊆ w.span}, d.span) ∧
    (∀ (completedOnly monthly : Bool) (w : PeriodWindow), Reported .yearly completedOnly w →
      ∃ months : Fin 12 → PeriodWindow,
        (∀ i, (months i).start.year = w.start.year ∧ (months i).start.month = i + 1) ∧
        (∀ m, Reported .monthly monthly m ∧ m.span ⊆ w.span ↔ ∃ i, months i = m) ∧
        w.span = ⋃ i, (months i).span) := by
  refine ⟨?_, ?_, ?_, ?_⟩
  · intro periodType r low high
    exact reference_windows periodType low high
  · intro periodType completedOnly w v first second
    refine ⟨reported_equal_or_disjoint first second, successive_iff_adjacent first second, ?_⟩
    intro x low high
    exact reported_covers first second low high
  · intro completedOnly daily w reported
    exact monthly_union reported daily
  · intro completedOnly monthly w reported
    obtain ⟨months, calendar, exactly⟩ := reported_months reported monthly
    refine ⟨months, calendar, exactly, ?_⟩
    have listed : {m | Reported .monthly monthly m ∧ m.span ⊆ w.span} = Set.range months := Set.ext exactly
    rw [yearly_union reported monthly, listed]
    exact iSup_range

def leapDay : Datetime := ⟨2024, 2, 29, 43200000000, by decide⟩

def january2024 : PeriodWindow := ⟨.monthly, ⟨2024, 1, 1, 0, by decide⟩, ⟨2024, 2, 1, 0, by decide⟩⟩

def february2024 : PeriodWindow := ⟨.monthly, ⟨2024, 2, 1, 0, by decide⟩, ⟨2024, 3, 1, 0, by decide⟩⟩

def year2023 : PeriodWindow := ⟨.yearly, ⟨2023, 1, 1, 0, by decide⟩, ⟨2024, 1, 1, 0, by decide⟩⟩

theorem periodWindows_tile_leapDay :
    (∃ done running,
      periodWindow .monthly leapDay true = some done ∧ periodWindow .monthly leapDay false = some running ∧
      done.start.instant < done.end_.instant ∧ running.start.instant < running.end_.instant ∧
      done.end_.instant ≤ leapDay.instant ∧ done.end_ = running.start ∧
      running.start.instant ≤ leapDay.instant ∧ leapDay.instant < running.end_.instant) ∧
    (january2024 = february2024 ∨ Disjoint january2024.span february2024.span) ∧
    february2024.span =
      ⋃ d ∈ {d | Reported .daily true d ∧ d.span ⊆ february2024.span}, d.span ∧
    ∃ months : Fin 12 → PeriodWindow,
      (∀ i, (months i).start.year = year2023.start.year ∧ (months i).start.month = i + 1) ∧
      (∀ m, Reported .monthly true m ∧ m.span ⊆ year2023.span ↔ ∃ i, months i = m) ∧
      year2023.span = ⋃ i, (months i).span := by
  have january : Reported .monthly true january2024 := ⟨leapDay, by decide +kernel⟩
  have february : Reported .monthly true february2024 := ⟨⟨2024, 3, 31, 0, by decide⟩, by decide +kernel⟩
  have lastYear : Reported .yearly true year2023 := ⟨leapDay, by decide +kernel⟩
  obtain ⟨bracket, tiling, days, months⟩ := periodWindows_tile
  exact ⟨bracket .monthly leapDay (by decide) (by decide), (tiling .monthly true _ _ january february).1,
    days true true _ february, months true true _ lastYear⟩

end Iems.Carbon
