import Iems.Lib.Runs
import Iems.Repositories.Sensors

/-!
Concurrent upserts, each in a session of its own: an insert, and after its failure a read of the row and
a flush of the columns that the payload changes.
-/
namespace Iems.Repositories
open Lib

inductive SensorColumn where
  | electricityPowerMw | fuelGasFlowKm3h | steamFlowTonh | feedFlowTonh | reactorTempC | pressureBar
  | energyIntensityKgoeTon | carbonEmissionKgco2Ton | energyEfficiencyPercent
  | source | quality | qualityDetail
  deriving DecidableEq

inductive Cell where
  | number (value : Option ExtRat)
  | text (value : Option String)
  deriving DecidableEq

def SensorRow.cell (row : SensorRow) : SensorColumn → Cell
  | .electricityPowerMw => .number row.electricityPowerMw
  | .fuelGasFlowKm3h => .number row.fuelGasFlowKm3h
  | .steamFlowTonh => .number row.steamFlowTonh
  | .feedFlowTonh => .number row.feedFlowTonh
  | .reactorTempC => .number row.reactorTempC
  | .pressureBar => .number row.pressureBar
  | .energyIntensityKgoeTon => .number row.energyIntensityKgoeTon
  | .carbonEmissionKgco2Ton => .number row.carbonEmissionKgco2Ton
  | .energyEfficiencyPercent => .number row.energyEfficiencyPercent
  | .source => .text row.source
  | .quality => .text row.quality
  | .qualityDetail => .text row.qualityDetail

theorem SensorRow.ext_cells {row other : SensorRow} (same : ∀ column, row.cell column = other.cell column) :
    row = other := by
  have number : ∀ {a b : Option ExtRat}, Cell.number a = .number b → a = b := fun equal => Cell.number.inj equal
  have text : ∀ {a b : Option String}, Cell.text a = .text b → a = b := fun equal => Cell.text.inj equal
  cases row
  cases other
  rw [SensorRow.mk.injEq]
  exact ⟨number (same .electricityPowerMw), number (same .fuelGasFlowKm3h), number (same .steamFlowTonh),
    number (same .feedFlowTonh), number (same .reactorTempC), number (same .pressureBar),
    number (same .energyIntensityKgoeTon), number (same .carbonEmissionKgco2Ton),
    number (same .energyEfficiencyPercent), text (same .source), text (same .quality), text (same .qualityDetail)⟩

/-- The flush sends a column that changed, and a nan always, as it differs from itself. -/
def sends (loaded edited : Cell) : Bool := edited ≠ loaded || edited = .number (some .nan)

def flushNumber (loaded edited current : Option ExtRat) : Option ExtRat :=
  if sends (.number loaded) (.number edited) then edited else current

def flushText (loaded edited current : Option String) : Option String :=
  if sends (.text loaded) (.text edited) then edited else current

def flushRow (loaded edited current : SensorRow) : SensorRow where
  electricityPowerMw := flushNumber loaded.electricityPowerMw edited.electricityPowerMw current.electricityPowerMw
  fuelGasFlowKm3h := flushNumber loaded.fuelGasFlowKm3h edited.fuelGasFlowKm3h current.fuelGasFlowKm3h
  steamFlowTonh := flushNumber loaded.steamFlowTonh edited.steamFlowTonh current.steamFlowTonh
  feedFlowTonh := flushNumber loaded.feedFlowTonh edited.feedFlowTonh current.feedFlowTonh
  reactorTempC := flushNumber loaded.reactorTempC edited.reactorTempC current.reactorTempC
  pressureBar := flushNumber loaded.pressureBar edited.pressureBar current.pressureBar
  energyIntensityKgoeTon :=
    flushNumber loaded.energyIntensityKgoeTon edited.energyIntensityKgoeTon current.energyIntensityKgoeTon
  carbonEmissionKgco2Ton :=
    flushNumber loaded.carbonEmissionKgco2Ton edited.carbonEmissionKgco2Ton current.carbonEmissionKgco2Ton
  energyEfficiencyPercent :=
    flushNumber loaded.energyEfficiencyPercent edited.energyEfficiencyPercent current.energyEfficiencyPercent
  source := flushText loaded.source edited.source current.source
  quality := flushText loaded.quality edited.quality current.quality
  qualityDetail := flushText loaded.qualityDetail edited.qualityDetail current.qualityDetail

theorem cell_flushRow (loaded edited current : SensorRow) (column : SensorColumn) :
    (flushRow loaded edited current).cell column =
      if sends (loaded.cell column) (edited.cell column) then edited.cell column else current.cell column := by
  have number : ∀ a b c : Option ExtRat, Cell.number (flushNumber a b c) =
      if sends (.number a) (.number b) then .number b else .number c := by
    intro a b c
    unfold flushNumber
    split <;> rfl
  have text : ∀ a b c : Option String, Cell.text (flushText a b c) =
      if sends (.text a) (.text b) then .text b else .text c := by
    intro a b c
    unfold flushText
    split <;> rfl
  cases column with
  | source | quality | qualityDetail => exact text _ _ _
  | electricityPowerMw | fuelGasFlowKm3h | steamFlowTonh | feedFlowTonh | reactorTempC | pressureBar
  | energyIntensityKgoeTon | carbonEmissionKgco2Ton | energyEfficiencyPercent => exact number _ _ _

/-- A flush over the row that was loaded leaves the edited row. -/
theorem flushRow_loaded (loaded edited : SensorRow) : flushRow loaded edited loaded = edited := by
  apply SensorRow.ext_cells
  intro column
  rw [cell_flushRow]
  split
  · rfl
  · rename_i unsent
    unfold sends at unsent
    simp only [ne_eq, decide_not, Bool.or_eq_true, Bool.not_eq_true', decide_eq_false_iff_not, not_or, not_not,
      decide_eq_true_eq] at unsent
    exact unsent.1.symm

/-! ### The sessions -/

structure UpsertRequest where
  payload : SensorMessage
  key : Int × Nat

/-- What the session does next. -/
inductive UpsertPhase where
  | insert
  | select
  | update (loaded : SensorRow)

/-- An insert that succeeded, or an update with the row that it had loaded. -/
structure UpsertCommit where
  number : Nat
  request : UpsertRequest
  loaded : Option SensorRow

/-- The sessions are numbered in the order of their requests. -/
structure UpsertWorld where
  table : SensorTable
  started : List UpsertRequest := []
  phases : Nat → Option UpsertPhase := fun _ => none
  commits : List UpsertCommit := []

inductive UpsertAction where
  | start (payload : SensorMessage)
  | insert (i : Nat)
  | select (i : Nat)
  | update (i : Nat)

def setPhase (phases : Nat → Option UpsertPhase) (i : Nat) (phase : Option UpsertPhase) : Nat → Option UpsertPhase :=
  fun j => if j = i then phase else phases j

section
variable (plants : Dict String Nat) (instantOf : String → Option Int) (dumps : Dict String String → String)

/-- The part before the insert: `none` where it raises. -/
def upsertRequest (payload : SensorMessage) : Option UpsertRequest := do
  let plantCode ← payload.plantCode
  let plantId ← plants.get? plantCode
  let time ← payload.time
  let ts ← instantOf time
  some ⟨payload, (ts, plantId)⟩

def upsertStep (w : UpsertWorld) : UpsertAction → UpsertWorld
  | .start payload =>
    match upsertRequest plants instantOf payload with
    | none => w
    | some request =>
      { w with
        started := w.started ++ [request]
        phases := setPhase w.phases w.started.length (some .insert) }
  | .insert i =>
    match w.phases i, w.started[i]? with
    | some .insert, some request =>
      match insertReading w.table request.key (applyFields dumps {} request.payload) with
      | some inserted =>
        { w with
          table := inserted
          phases := setPhase w.phases i none
          commits := w.commits ++ [⟨i, request, none⟩] }
      | none => { w with phases := setPhase w.phases i (some .select) }
    | _, _ => w
  | .select i =>
    match w.phases i, w.started[i]? with
    | some .select, some request =>
      { w with phases := setPhase w.phases i ((w.table.get? request.key).map .update) }
    | _, _ => w
  | .update i =>
    match w.phases i, w.started[i]? with
    | some (.update loaded), some request =>
      let edited := applyFields dumps loaded request.payload
      match w.table.get? request.key with
      | none => { w with phases := setPhase w.phases i none }
      | some current =>
        if fitsColumns edited then
          { w with
            table := w.table.set request.key (flushRow loaded edited current)
            phases := setPhase w.phases i none
            commits := w.commits ++ [⟨i, request, some loaded⟩] }
        else { w with phases := setPhase w.phases i none }
    | _, _ => w

/-- The texts of the payload fit their columns. -/
def UpsertRequest.Fits (request : UpsertRequest) : Prop := fitsColumns (applyFields dumps {} request.payload) = true

/-! ### What every step keeps -/

/-- Each request that its session has finished with and that fits is committed exactly once. -/
structure UpsertsSound (w : UpsertWorld) : Prop where
  numbered : ∀ i, w.phases i ≠ none → i < w.started.length
  asked : ∀ request ∈ w.started, upsertRequest plants instantOf request.payload = some request
  recorded : ∀ commit ∈ w.commits, w.started[commit.number]? = some commit.request ∧
    w.phases commit.number = none ∧ commit.request.Fits dumps
  once : (w.commits.map UpsertCommit.number).Nodup
  refused : ∀ (i : Nat) (request : UpsertRequest), w.started[i]? = some request → w.phases i = some .select → request.Fits dumps →
    w.table.get? request.key ≠ none
  loaded : ∀ (i : Nat) (request : UpsertRequest) (row : SensorRow), w.started[i]? = some request → w.phases i = some (.update row) →
    w.table.get? request.key ≠ none
  finished : ∀ (i : Nat) (request : UpsertRequest), w.started[i]? = some request → w.phases i = none → request.Fits dumps →
    i ∈ w.commits.map UpsertCommit.number

variable {plants instantOf dumps}

@[simp] theorem setPhase_self (phases : Nat → Option UpsertPhase) (i : Nat) (phase : Option UpsertPhase) :
    setPhase phases i phase i = phase := if_pos rfl

theorem setPhase_other (phases : Nat → Option UpsertPhase) {i j : Nat} (phase : Option UpsertPhase) (apart : j ≠ i) :
    setPhase phases i phase j = phases j := if_neg apart

theorem insertReading_some {table inserted : SensorTable} {key : Int × Nat} {row : SensorRow}
    (fresh : insertReading table key row = some inserted) :
    fitsColumns row = true ∧ table.get? key = none ∧ inserted = table.set key row := by
  unfold insertReading at fresh
  split at fresh
  · rename_i free
    rw [Bool.and_eq_true, Option.isNone_iff_eq_none] at free
    exact ⟨free.1, free.2, (Option.some.inj fresh).symm⟩
  · cases fresh

theorem insertReading_none {table : SensorTable} {key : Int × Nat} {row : SensorRow}
    (taken : insertReading table key row = none) (fits : fitsColumns row = true) : table.get? key ≠ none := by
  intro absent
  unfold insertReading at taken
  rw [fits, absent] at taken
  exact nomatch taken

theorem upsertRequest_payload {payload : SensorMessage} {request : UpsertRequest}
    (asked : upsertRequest plants instantOf payload = some request) : request.payload = payload := by
  unfold upsertRequest at asked
  simp only [Option.bind_eq_bind, Option.bind_eq_some_iff] at asked
  obtain ⟨_, _, _, _, _, _, _, _, same⟩ := asked
  rw [← Option.some.inj same]

theorem getElem?_snoc {α : Type} {entries : List α} {entry found : α} {i : Nat} :
    (entries ++ [entry])[i]? = some found ↔ entries[i]? = some found ∨ i = entries.length ∧ entry = found := by
  rw [List.getElem?_append]
  split
  · rename_i bound
    exact ⟨.inl, fun either => either.resolve_right fun last => by omega⟩
  · rename_i past
    rw [List.getElem?_singleton, List.getElem?_eq_none (by omega)]
    by_cases last : i = entries.length
    · simp [last]
    · have below : i - entries.length ≠ 0 := by omega
      simp [last, below]

theorem sound_start {w : UpsertWorld} {payload : SensorMessage} {request : UpsertRequest}
    (sound : UpsertsSound plants instantOf dumps w) (asked : upsertRequest plants instantOf payload = some request) :
    UpsertsSound plants instantOf dumps
      { w with started := w.started ++ [request], phases := setPhase w.phases w.started.length (some .insert) } := by
  have older : ∀ {i : Nat} {r : UpsertRequest}, w.started[i]? = some r →
      setPhase w.phases w.started.length (some .insert) i = w.phases i := by
    intro i r found
    have bound := (List.getElem?_eq_some_iff.mp found).1
    exact setPhase_other _ _ (by omega)
  refine ⟨?_, ?_, ?_, sound.once, ?_, ?_, ?_⟩
  · intro i busy
    rw [List.length_append, List.length_singleton]
    by_cases last : i = w.started.length
    · omega
    · dsimp only at busy
      rw [setPhase_other _ _ last] at busy
      have bound := sound.numbered i busy
      omega
  · intro r member
    rcases List.mem_append.mp member with old | new
    · exact sound.asked r old
    · rw [List.mem_singleton.mp new, upsertRequest_payload asked]
      exact asked
  · intro commit member
    obtain ⟨known, closed, fits⟩ := sound.recorded commit member
    exact ⟨getElem?_snoc.mpr (.inl known), (older known).trans closed, fits⟩
  · intro i r found phase fits
    rcases getElem?_snoc.mp found with old | ⟨rfl, rfl⟩
    · exact sound.refused i r old ((older old).symm.trans phase) fits
    · dsimp only at phase
      rw [setPhase_self] at phase
      exact nomatch phase
  · intro i r row found phase
    rcases getElem?_snoc.mp found with old | ⟨rfl, rfl⟩
    · exact sound.loaded i r row old ((older old).symm.trans phase)
    · dsimp only at phase
      rw [setPhase_self] at phase
      exact nomatch phase
  · intro i r found phase fits
    rcases getElem?_snoc.mp found with old | ⟨rfl, rfl⟩
    · exact sound.finished i r old ((older old).symm.trans phase) fits
    · dsimp only at phase
      rw [setPhase_self] at phase
      exact nomatch phase

/-- A session goes on without a commit: it ends only where its row does not fit. -/
theorem sound_move {w : UpsertWorld} {i : Nat} {request : UpsertRequest} {phase : Option UpsertPhase}
    (sound : UpsertsSound plants instantOf dumps w) (known : w.started[i]? = some request) (busy : w.phases i ≠ none)
    (present : phase ≠ none → request.Fits dumps ∨ phase ≠ some .select → w.table.get? request.key ≠ none)
    (ends : phase = none → ¬ request.Fits dumps) :
    UpsertsSound plants instantOf dumps { w with phases := setPhase w.phases i phase } := by
  have own : ∀ {r : UpsertRequest}, w.started[i]? = some r → request = r := fun found => Option.some.inj (known.symm.trans found)
  refine ⟨?_, sound.asked, ?_, sound.once, ?_, ?_, ?_⟩
  · intro j open_
    by_cases same : j = i
    · rw [same]
      exact sound.numbered i busy
    · dsimp only at open_
      rw [setPhase_other _ _ same] at open_
      exact sound.numbered j open_
  · intro commit member
    obtain ⟨found, closed, fits⟩ := sound.recorded commit member
    have apart : commit.number ≠ i := fun same => busy (same ▸ closed)
    exact ⟨found, (setPhase_other _ _ apart).trans closed, fits⟩
  · intro j r found waits fits
    by_cases same : j = i
    · subst same
      obtain rfl := own found
      dsimp only at waits
      rw [setPhase_self] at waits
      exact present (by simp [waits]) (.inl fits)
    · dsimp only at waits
      rw [setPhase_other _ _ same] at waits
      exact sound.refused j r found waits fits
  · intro j r row found waits
    by_cases same : j = i
    · subst same
      obtain rfl := own found
      dsimp only at waits
      rw [setPhase_self] at waits
      exact present (by simp [waits]) (.inr (by simp [waits]))
    · dsimp only at waits
      rw [setPhase_other _ _ same] at waits
      exact sound.loaded j r row found waits
  · intro j r found closed fits
    by_cases same : j = i
    · subst same
      obtain rfl := own found
      dsimp only at closed
      rw [setPhase_self] at closed
      exact absurd fits (ends closed)
    · dsimp only at closed
      rw [setPhase_other _ _ same] at closed
      exact sound.finished j r found closed fits

theorem sound_commit {w : UpsertWorld} {i : Nat} {request : UpsertRequest} (row : SensorRow) (loaded : Option SensorRow)
    (sound : UpsertsSound plants instantOf dumps w) (known : w.started[i]? = some request) (busy : w.phases i ≠ none)
    (fits : request.Fits dumps) :
    UpsertsSound plants instantOf dumps
      { w with
        table := w.table.set request.key row
        phases := setPhase w.phases i none
        commits := w.commits ++ [⟨i, request, loaded⟩] } := by
  have grows : ∀ {key : Int × Nat}, w.table.get? key ≠ none → (w.table.set request.key row).get? key ≠ none := by
    intro key before
    rw [Dict.get?_set]
    split
    · exact Option.some_ne_none row
    · exact before
  have others : ∀ {j : Nat} {phase : UpsertPhase}, setPhase w.phases i none j = some phase → w.phases j = some phase := by
    intro j phase waits
    by_cases same : j = i
    · rw [same, setPhase_self] at waits
      cases waits
    · rwa [setPhase_other _ _ same] at waits
  refine ⟨?_, sound.asked, ?_, ?_, ?_, ?_, ?_⟩
  · intro j open_
    obtain ⟨phase, waits⟩ := Option.ne_none_iff_exists'.mp open_
    exact sound.numbered j (by rw [others waits]; exact Option.some_ne_none phase)
  · intro commit member
    rcases List.mem_append.mp member with old | new
    · obtain ⟨found, closed, fit⟩ := sound.recorded commit old
      have apart : commit.number ≠ i := fun same => busy (same ▸ closed)
      exact ⟨found, (setPhase_other _ _ apart).trans closed, fit⟩
    · rw [List.mem_singleton.mp new]
      exact ⟨known, setPhase_self .., fits⟩
  · rw [List.map_append, List.map_singleton, List.nodup_append]
    refine ⟨sound.once, List.nodup_singleton _, ?_⟩
    rintro number before _ new rfl
    rw [List.mem_singleton] at new
    obtain ⟨commit, member, rfl⟩ := List.mem_map.mp before
    have same : commit.number = i := new
    exact busy (same ▸ (sound.recorded commit member).2.1)
  · intro j r found waits fit
    exact grows (sound.refused j r found (others waits) fit)
  · intro j r before found waits
    exact grows (sound.loaded j r before found (others waits))
  · intro j r found closed fit
    rw [List.map_append, List.map_singleton, List.mem_append, List.mem_singleton]
    by_cases same : j = i
    · exact .inr same
    · dsimp only at closed
      rw [setPhase_other _ _ same] at closed
      exact .inl (sound.finished j r found closed fit)

/-- What a step can do: nothing, a start, a move of a session without effect, or a commit. -/
theorem upsertStep_cases (w : UpsertWorld) (action : UpsertAction) :
    upsertStep plants instantOf dumps w action = w ∨
    (∃ payload request, upsertRequest plants instantOf payload = some request ∧
      upsertStep plants instantOf dumps w action =
        { w with started := w.started ++ [request], phases := setPhase w.phases w.started.length (some .insert) }) ∨
    (∃ i request phase, w.started[i]? = some request ∧ w.phases i ≠ none ∧
      upsertStep plants instantOf dumps w action = { w with phases := setPhase w.phases i phase } ∧
      (w.phases i = some .insert ∧ phase = some .select ∧
          insertReading w.table request.key (applyFields dumps {} request.payload) = none ∨
        w.phases i = some .select ∧ phase = (w.table.get? request.key).map .update ∨
        ∃ row, w.phases i = some (.update row) ∧ phase = none ∧
          (w.table.get? request.key = none ∨ ¬ request.Fits dumps))) ∨
    (∃ i request row loaded, w.started[i]? = some request ∧ w.phases i ≠ none ∧ request.Fits dumps ∧
      upsertStep plants instantOf dumps w action =
        { w with
          table := w.table.set request.key row
          phases := setPhase w.phases i none
          commits := w.commits ++ [⟨i, request, loaded⟩] } ∧
      (loaded = none ∧ w.table.get? request.key = none ∧ row = applyFields dumps {} request.payload ∨
        ∃ seen current, action = .update i ∧ w.phases i = some (.update seen) ∧ loaded = some seen ∧
          w.table.get? request.key = some current ∧
          row = flushRow seen (applyFields dumps {} request.payload) current)) := by
  cases action with
  | start payload =>
    unfold upsertStep
    dsimp only
    cases asked : upsertRequest plants instantOf payload with
    | none => exact .inl rfl
    | some request => exact .inr (.inl ⟨payload, request, asked, rfl⟩)
  | insert i =>
    unfold upsertStep
    dsimp only
    split
    · rename_i request waits known
      have busy : w.phases i ≠ none := by simp [waits]
      cases inserted : insertReading w.table request.key (applyFields dumps {} request.payload) with
      | none => exact .inr (.inr (.inl ⟨i, request, _, known, busy, rfl, .inl ⟨waits, rfl, inserted⟩⟩))
      | some table =>
        obtain ⟨fits, absent, rfl⟩ := insertReading_some inserted
        exact .inr (.inr (.inr ⟨i, request, _, none, known, busy, fits, rfl, .inl ⟨rfl, absent, rfl⟩⟩))
    · exact .inl rfl
  | select i =>
    unfold upsertStep
    dsimp only
    split
    · rename_i request waits known
      exact .inr (.inr (.inl ⟨i, request, _, known, by simp [waits], rfl, .inr (.inl ⟨waits, rfl⟩)⟩))
    · exact .inl rfl
  | update i =>
    unfold upsertStep
    dsimp only
    split
    · rename_i seen request waits known
      have busy : w.phases i ≠ none := by simp [waits]
      rw [applyFields_overwrites seen {} request.payload]
      cases held : w.table.get? request.key with
      | none => exact .inr (.inr (.inl ⟨i, request, none, known, busy, rfl, .inr (.inr ⟨seen, waits, rfl, .inl held⟩)⟩))
      | some current =>
        dsimp only
        split
        · rename_i fits
          exact .inr (.inr (.inr ⟨i, request, _, some seen, known, busy, fits, rfl,
            .inr ⟨seen, current, rfl, waits, rfl, held, rfl⟩⟩))
        · rename_i unfit
          exact .inr (.inr (.inl ⟨i, request, none, known, busy, rfl, .inr (.inr ⟨seen, waits, rfl, .inr unfit⟩)⟩))
    · exact .inl rfl

theorem sound_step {w : UpsertWorld} (sound : UpsertsSound plants instantOf dumps w) (action : UpsertAction) :
    UpsertsSound plants instantOf dumps (upsertStep plants instantOf dumps w action) := by
  rcases @upsertStep_cases plants instantOf dumps w action with
    same | ⟨payload, request, asked, next⟩ | ⟨i, request, phase, known, busy, next, moved⟩ |
      ⟨i, request, row, loaded, known, busy, fits, next, _⟩
  · rw [same]
    exact sound
  · rw [next]
    exact sound_start sound asked
  · rw [next]
    refine sound_move sound known busy ?_ ?_
    · rcases moved with ⟨_, rfl, taken⟩ | ⟨_, rfl⟩ | ⟨_, _, rfl, _⟩
      · rintro _ (fits | other)
        · exact insertReading_none taken fits
        · exact absurd rfl other
      · rintro found _
        exact fun absent => found (by rw [absent, Option.map_none])
      · exact fun ended => absurd rfl ended
    · rcases moved with ⟨_, rfl, _⟩ | ⟨waits, rfl⟩ | ⟨row, waits, _, absent | unfit⟩
      · exact fun ended => nomatch ended
      · intro ended fits
        exact sound.refused i request known waits fits (Option.map_eq_none_iff.mp ended)
      · exact fun _ => absurd absent (sound.loaded i request row known waits)
      · exact fun _ => unfit
  · rw [next]
    exact sound_commit row loaded sound known busy fits

theorem sound_begin (table : SensorTable) : UpsertsSound plants instantOf dumps { table := table } where
  numbered _ busy := absurd rfl busy
  asked _ member := nomatch member
  recorded _ member := nomatch member
  once := List.nodup_nil
  refused _ _ found := nomatch found
  loaded _ _ _ found := nomatch found
  finished _ _ found := nomatch found

theorem sound_run (table : SensorTable) (actions : List UpsertAction) :
    UpsertsSound plants instantOf dumps (run (upsertStep plants instantOf dumps) { table := table } actions) :=
  run_invariant (fun _ action sound => sound_step sound action) (sound_begin table)

/-! ### Runs -/

theorem rowKey_request {payload : SensorMessage} {request : UpsertRequest}
    (asked : upsertRequest plants instantOf payload = some request) (fits : request.Fits dumps) :
    rowKey plants instantOf dumps payload = some request.key := by
  have same := upsertRequest_payload asked
  unfold UpsertRequest.Fits at fits
  rw [same] at fits
  unfold upsertRequest at asked
  unfold rowKey
  simp only [Option.bind_eq_bind, Option.bind_eq_some_iff] at asked ⊢
  obtain ⟨plantCode, hasCode, plantId, known, time, hasTime, ts, placed, made⟩ := asked
  refine ⟨plantCode, hasCode, plantId, known, time, hasTime, ts, placed, ?_⟩
  rw [if_pos fits, ← Option.some.inj made]

/-- The row that the update loaded is still the stored one. -/
def Current (w : UpsertWorld) : UpsertAction → Prop
  | .update i => ∀ request row, w.started[i]? = some request → w.phases i = some (.update row) →
      w.table.get? request.key = some row
  | _ => True

theorem consume_commit {table : SensorTable} {log : List SensorMessage} {request : UpsertRequest}
    (asked : upsertRequest plants instantOf request.payload = some request) (fits : request.Fits dumps) :
    consume plants instantOf dumps table (log ++ [request.payload]) =
      (consume plants instantOf dumps table log).set request.key (applyFields dumps {} request.payload) := by
  rw [consume_writeLog, consume_writeLog, writeLog_append]
  show writeRow _ _ _ request.payload = _
  unfold writeRow
  rw [rowKey_request asked fits]

/-- The table is that of one consumer which takes the committed messages one after another. -/
def Serial (plants : Dict String Nat) (instantOf : String → Option Int) (dumps : Dict String String → String)
    (table : SensorTable) (w : UpsertWorld) : Prop :=
  w.table = consume plants instantOf dumps table (w.commits.map fun commit => commit.request.payload)

theorem serial_step {table : SensorTable} {w : UpsertWorld} {action : UpsertAction}
    (sound : UpsertsSound plants instantOf dumps w) (current : Current w action)
    (serial : Serial plants instantOf dumps table w) :
    Serial plants instantOf dumps table (upsertStep plants instantOf dumps w action) := by
  rcases @upsertStep_cases plants instantOf dumps w action with
    same | ⟨_, _, _, next⟩ | ⟨_, _, _, _, _, next, _⟩ | ⟨i, request, row, loaded, known, _, fits, next, how⟩
  · rwa [same]
  · rw [next]
    exact serial
  · rw [next]
    exact serial
  · have whole : row = applyFields dumps {} request.payload := by
      rcases how with ⟨_, _, inserted⟩ | ⟨seen, held, rfl, waits, _, present, flushed⟩
      · exact inserted
      · cases present.symm.trans (current request seen known waits)
        rw [flushed, flushRow_loaded]
    have asked := sound.asked request (List.mem_of_getElem? known)
    rw [next]
    unfold Serial at serial ⊢
    dsimp only
    rw [List.map_append, List.map_singleton, consume_commit asked fits, ← serial, whole]

end

/-- Where no other commit comes between the read and the flush of a row, concurrent upserts leave the table
of one consumer, in the order of their commits, and every message that can be stored is committed once. -/
theorem upserts_serial (plants : Dict String Nat) (instantOf : String → Option Int)
    (dumps : Dict String String → String) (table : SensorTable) (actions : List UpsertAction)
    (current : Meets (upsertStep plants instantOf dumps) Current { table := table } actions) :
    let w := run (upsertStep plants instantOf dumps) { table := table } actions
    w.table = consume plants instantOf dumps table (w.commits.map fun commit => commit.request.payload) ∧
      (∀ commit ∈ w.commits, w.started[commit.number]? = some commit.request) ∧
      ∀ i request, w.started[i]? = some request → w.phases i = none → request.Fits dumps →
        (w.commits.map UpsertCommit.number).count i = 1 := by
  intro w
  have sound : UpsertsSound plants instantOf dumps w := sound_run table actions
  refine ⟨?_, fun commit member => (sound.recorded commit member).1, ?_⟩
  · have keep : ∀ w action, UpsertsSound plants instantOf dumps w ∧ Serial plants instantOf dumps table w →
        Current w action → UpsertsSound plants instantOf dumps (upsertStep plants instantOf dumps w action) ∧
          Serial plants instantOf dumps table (upsertStep plants instantOf dumps w action) :=
      fun w action held allowed => ⟨sound_step held.1 action, serial_step held.1 allowed held.2⟩
    exact (current.invariant keep ⟨sound_begin table, rfl⟩).2
  · intro i request known closed fits
    exact List.count_eq_one_of_mem sound.once (sound.finished i request known closed fits)

/-- The cell that a commit sends, by the key of its row. -/
def UpsertCommit.cellKey (dumps : Dict String String → String) (column : SensorColumn) (commit : UpsertCommit) :
    Option (Int × Nat) :=
  let edited := (applyFields dumps {} commit.request.payload).cell column
  if commit.loaded.all fun row => sends (row.cell column) edited then some commit.request.key else none

/-- Each cell carries the last commit that sent it. -/
def LastSent (dumps : Dict String String → String) (table : SensorTable) (w : UpsertWorld) : Prop :=
  ∀ key column, (w.table.get? key).map (·.cell column) =
    ((lastFor (UpsertCommit.cellKey dumps column) key w.commits).map fun commit =>
      (applyFields dumps {} commit.request.payload).cell column).or ((table.get? key).map (·.cell column))

theorem lastSent_step {plants : Dict String Nat} {instantOf : String → Option Int} {dumps : Dict String String → String}
    {table : SensorTable} {w : UpsertWorld} (lastSent : LastSent dumps table w) (action : UpsertAction) :
    LastSent dumps table (upsertStep plants instantOf dumps w action) := by
  rcases @upsertStep_cases plants instantOf dumps w action with
    same | ⟨_, _, _, next⟩ | ⟨_, _, _, _, _, next, _⟩ | ⟨i, request, row, loaded, _, _, _, next, how⟩
  · rwa [same]
  · rw [next]
    exact lastSent
  · rw [next]
    exact lastSent
  · rw [next]
    intro key column
    dsimp only
    rw [lastFor_append, lastFor_singleton, Dict.get?_set]
    have before := lastSent key column
    rcases how with ⟨rfl, _, rfl⟩ | ⟨seen, current, _, _, rfl, present, rfl⟩
    · have sent : UpsertCommit.cellKey dumps column ⟨i, request, none⟩ = some request.key := rfl
      rw [sent]
      by_cases own : key = request.key
      · rw [if_pos own, if_pos (congrArg some own.symm)]
        rfl
      · rw [if_neg own, if_neg fun same => own (Option.some.inj same).symm, Option.none_or, before]
    · have sent : UpsertCommit.cellKey dumps column ⟨i, request, some seen⟩ =
          if sends (seen.cell column) ((applyFields dumps {} request.payload).cell column) then some request.key else none :=
        rfl
      rw [sent]
      by_cases own : key = request.key
      · subst own
        rw [if_pos rfl, Option.map_some, cell_flushRow]
        split
        · rw [if_pos rfl]
          rfl
        · rw [if_neg (Option.some_ne_none _).symm, Option.none_or, ← before, present]
          rfl
      · rw [if_neg own, before]
        split
        · rw [if_neg fun same => own (Option.some.inj same).symm, Option.none_or]
        · rw [if_neg (Option.some_ne_none _).symm, Option.none_or]

/-- In every schedule of concurrent upserts a column that a payload leaves as its session had loaded it keeps what
others stored since, and every other one is overwritten. -/
theorem upsert_cells (plants : Dict String Nat) (instantOf : String → Option Int)
    (dumps : Dict String String → String) (table : SensorTable) (actions : List UpsertAction) :
    LastSent dumps table (run (upsertStep plants instantOf dumps) { table := table } actions) :=
  run_invariant (fun _ action lastSent => lastSent_step lastSent action) fun _ _ => rfl

/-- Two sessions on one key, the second behind the first. -/
theorem upserts_serial_olefin :
    let instantOf : String → Option Int := fun time => if time = "2026-07-01T12:00:00+00:00" then some 0 else none
    let w := run (upsertStep onePlant instantOf fun _ => "detail") { table := .empty }
      [.start (olefinMessage 10), .start (olefinMessage 12), .insert 0, .insert 1, .select 1, .update 1]
    w.table = consume onePlant instantOf (fun _ => "detail") .empty (w.commits.map fun commit => commit.request.payload) ∧
      (∀ commit ∈ w.commits, w.started[commit.number]? = some commit.request) ∧
      ∀ i request, w.started[i]? = some request → w.phases i = none → request.Fits (fun _ => "detail") →
        (w.commits.map UpsertCommit.number).count i = 1 := by
  refine upserts_serial onePlant _ _ .empty _ ⟨trivial, trivial, trivial, trivial, trivial, ?_, trivial⟩
  intro request row known waits
  cases known
  cases waits
  rfl

end Iems.Repositories
