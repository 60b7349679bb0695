import Iems.Lib.Windows
import Iems.Ml.Split
import Iems.Ml.Train

/-! The sequence model: its training windows, its forecasts, and the targets that its forecasts are scored against. -/
namespace Iems.Ml
open Lib Iems.Core

/-- Windows of consecutive rows, the targets they are trained on, and the same windows as flat rows. -/
structure TemporalWindows where
  seqs : List (List (List ℚ))
  outs : List (List ℚ)
  flats : List (List ℚ)
  deriving DecidableEq

/-- `none` where there is no target at the end of a window. -/
def buildTemporalWindows (X y : List (List ℚ)) (lookback : Nat) : Option TemporalWindows := do
  let rows := if X.length < lookback then padFront lookback X else X
  let targets := if X.length < lookback ∧ y.length < lookback then padFront lookback y else y
  let outs ← (windowEnds lookback rows.length).mapM fun i => targets[i]?
  let seqs := windows lookback rows
  return ⟨seqs, outs, seqs.map List.flatten⟩

/-- What a trained model forecasts with: a network over windows, or one over flat rows. -/
inductive LstmHead where
  | torch (net : List (List ℚ) → List ExtRat)
  | temporalElm (elm : List ℚ → List ExtRat)

structure LstmModel where
  lookback : Nat
  head : LstmHead

/-- `np.linspace(0.6, 1.0, lookback)`. -/
def windowWeights (lookback : Nat) : List ℚ :=
  (List.range lookback).map fun k : Nat => 3 / 5 + 2 / 5 * ((k : ℚ) / ((lookback - 1 : Nat) : ℚ))

/-- A row repeated through a window, each time with its weight. -/
def weightedWindow (lookback : Nat) (row : List ℚ) : List (List ℚ) :=
  (windowWeights lookback).map fun weight => row.map (· * weight)

/-- A batch of no rows has not the width that a head expects. -/
def widthError : String := "operands could not be broadcast together"

def toFlatWindows (X : List (List ℚ)) (lookback : Nat) : Option (List (List ℚ)) :=
  if lookback ≤ X.length then (buildTemporalWindows X (X.map fun _ => [0]) lookback).map (·.flats)
  else some (X.map fun row => (weightedWindow lookback row).flatten)

/-- The windows of `_torch_predict`: a short batch is its last row, repeated. -/
def toTorchWindows (X : List (List ℚ)) (lookback : Nat) : Option (List (List (List ℚ))) :=
  if lookback ≤ X.length then (buildTemporalWindows X (X.map fun _ => [0, 0]) lookback).map (·.seqs)
  else some [(X.drop (X.length - 1)).flatMap (List.replicate lookback)]

def LstmModel.predict (m : LstmModel) (X : List (List ℚ)) : Except String (List (List ExtRat)) :=
  if X = [] then .error widthError
  else
    match m.head with
    | .torch net =>
      match toTorchWindows X m.lookback with
      | none => .error widthError
      | some seqs => .ok (seqs.map net)
    | .temporalElm elm =>
      match toFlatWindows X m.lookback with
      | none => .error widthError
      | some flats => .ok (flats.map elm)

/-- How the two heads are trained; the network is not, where torch is missing or fails. -/
structure LstmTools where
  trainTorch : List (List (List ℚ)) → List (List ℚ) → Nat → Int → ℚ → Int → Option (List (List ℚ) → List ExtRat)
  trainElm : List (List ℚ) → List (List ℚ) → Nat → Int → Except String (List ℚ → List ExtRat)

def trainLstm (tools : LstmTools) (X y : List (List ℚ)) (lookback hiddenDim : Nat) (epochs : Int) (lr : ℚ) (seed : Int)
    (preferTorch : Bool) : Except String LstmModel :=
  match buildTemporalWindows X y lookback with
  | none => .error "index is out of bounds"
  | some w =>
    match if preferTorch then tools.trainTorch w.seqs w.outs hiddenDim epochs lr seed else none with
    | some net => .ok { lookback := lookback, head := .torch net }
    | none => do
      let elm ← tools.trainElm w.flats w.outs (max hiddenDim 32) seed
      return { lookback := lookback, head := .temporalElm elm }

/-- A learner whose sequence models are these. -/
def lstmLearner (base : Learner LstmModel) (tools : LstmTools) : Learner LstmModel :=
  { base with
    trainLstm := fun rows lookback hiddenDim epochs lr seed preferTorch =>
      trainLstm tools (rows.map Sample.features) (rows.map Sample.targets) lookback hiddenDim epochs lr seed preferTorch
    predict := LstmModel.predict }

/-! ### The windows -/

/-- The windows of a series of `n` paired rows, and the row that each of them ends with. -/
structure Windowed (X y : List (List ℚ)) (lookback : Nat) (w : TemporalWindows) : Prop where
  seqs : w.seqs.length = max X.length lookback - lookback + 1
  outs : w.outs.length = max X.length lookback - lookback + 1
  flats : w.flats = w.seqs.map List.flatten
  each : ∀ j < max X.length lookback - lookback + 1,
    w.seqs[j]? = some (((padFront lookback X).drop j).take lookback) ∧
    (((padFront lookback X).drop j).take lookback).length = lookback ∧
    (((padFront lookback X).drop j).take lookback).getLast? = X[j + min X.length lookback - 1]? ∧
    w.outs[j]? = y[j + min X.length lookback - 1]?

section
variable {X y : List (List ℚ)} {lookback : Nat}

/-- Of paired rows both series are padded alike. -/
theorem buildTemporalWindows_eq (paired : y.length = X.length) : buildTemporalWindows X y lookback =
    ((windowEnds lookback (padFront lookback X).length).mapM fun i => (padFront lookback y)[i]?).map fun outs =>
      ⟨windows lookback (padFront lookback X), outs, (windows lookback (padFront lookback X)).map List.flatten⟩ := by
  have padded : (if X.length < lookback then padFront lookback X else X) = padFront lookback X ∧
      (if X.length < lookback ∧ y.length < lookback then padFront lookback y else y) = padFront lookback y := by
    by_cases short : X.length < lookback
    · rw [if_pos short, if_pos ⟨short, paired ▸ short⟩]
      exact ⟨rfl, rfl⟩
    · have long := not_lt.mp short
      rw [if_neg short, if_neg (fun both => short both.1), padFront_long long, padFront_long (paired ▸ long)]
      exact ⟨rfl, rfl⟩
  unfold buildTemporalWindows
  dsimp only
  rw [padded.1, padded.2]
  cases (windowEnds lookback (padFront lookback X).length).mapM fun i => (padFront lookback y)[i]? <;> rfl

theorem padFront_end {rows : List (List ℚ)} (positive : 1 ≤ lookback) (some_ : rows ≠ []) (j : Nat) :
    (padFront lookback rows)[j + lookback - 1]? = rows[j + min rows.length lookback - 1]? := by
  have long := List.length_pos_iff.mpr some_
  rw [← padFront_getElem? some_]
  congr 1
  omega

theorem targets_read (positive : 1 ≤ lookback) (some_ : X ≠ []) (paired : y.length = X.length) :
    ∃ outs, ((windowEnds lookback (padFront lookback X).length).mapM fun i => (padFront lookback y)[i]?) = some outs ∧
      outs.length = max X.length lookback - lookback + 1 ∧
      ∀ j < max X.length lookback - lookback + 1, outs[j]? = y[j + min X.length lookback - 1]? := by
  have length := @length_padFront _ X lookback some_
  have someY : y ≠ [] := List.ne_nil_of_length_pos (by rw [paired]; exact List.length_pos_iff.mpr some_)
  have lengthY := @length_padFront _ y lookback someY
  have target (i : Nat) (end_ : i ∈ windowEnds lookback (padFront lookback X).length) :
      ∃ target, (padFront lookback y)[i]? = some target := by
    have inside : i < (padFront lookback y).length := by
      rw [windowEnds, List.mem_range'_1] at end_
      omega
    exact ⟨_, List.getElem?_eq_getElem inside⟩
  obtain ⟨outs, read⟩ := mapM_exists target
  have each := mapM_eq_some.mp read
  refine ⟨outs, read, ?_, fun j inside => ?_⟩
  · have counted := congrArg List.length each
    rw [List.length_map, List.length_map, windowEnds, List.length_range', length] at counted
    omega
  · have place := congrArg (·[j]?) each
    simp only [List.getElem?_map] at place
    rw [windowEnds_getElem? positive (by omega), Option.map_some] at place
    rw [← paired, ← padFront_end positive someY]
    obtain ⟨out, held, same⟩ := Option.map_eq_some_iff.mp place.symm
    rw [held, same]

theorem buildTemporalWindows_windowed (positive : 1 ≤ lookback) (some_ : X ≠ []) (paired : y.length = X.length) :
    ∃ w, buildTemporalWindows X y lookback = some w ∧ Windowed X y lookback w := by
  have length := @length_padFront _ X lookback some_
  obtain ⟨outs, read, counted, targets⟩ := targets_read positive some_ paired
  rw [buildTemporalWindows_eq paired, read]
  refine ⟨_, rfl, ?_, counted, rfl, fun j inside => ⟨?_, ?_, ?_, targets j inside⟩⟩
  · rw [length_windows, length]
    omega
  · exact windows_getElem? positive (by omega)
  · rw [List.length_take, List.length_drop]
    omega
  · rw [window_getLast? positive (by omega), padFront_end positive some_]

theorem buildTemporalWindows_long (positive : 1 ≤ lookback) (long : lookback ≤ X.length) (paired : y.length = X.length) :
    ∃ outs, buildTemporalWindows X y lookback = some ⟨windows lookback X, outs, (windows lookback X).map List.flatten⟩ := by
  obtain ⟨outs, read, _⟩ := targets_read positive (List.ne_nil_of_length_pos (positive.trans long)) paired
  rw [buildTemporalWindows_eq paired, read, padFront_long long]
  exact ⟨outs, rfl⟩

end

/-! ### The windows of the forecasts -/

def LstmModel.forecast (m : LstmModel) (window : List (List ℚ)) : List ExtRat :=
  match m.head with
  | .torch net => net window
  | .temporalElm elm => elm window.flatten

/-- The windows that the forecasts for a batch are made of. -/
def LstmModel.windows (m : LstmModel) (X : List (List ℚ)) : List (List (List ℚ)) :=
  if m.lookback ≤ X.length then Lib.windows m.lookback X
  else
    match m.head with
    | .torch _ => [(X.drop (X.length - 1)).flatMap (List.replicate m.lookback)]
    | .temporalElm _ => X.map (weightedWindow m.lookback)

/-- A window of the forecast whose last row is row `k` of the batch. -/
structure EndsAt (X : List (List ℚ)) (lookback k : Nat) (window : List (List ℚ)) : Prop where
  inside : k < X.length
  length : window.length = lookback
  last : window.getLast? = X[k]?
  consecutive : lookback ≤ X.length → lookback ≤ k + 1 ∧ window = (X.drop (k + 1 - lookback)).take lookback

section
variable {m : LstmModel} {X : List (List ℚ)}

theorem LstmModel.predict_eq (positive : 1 ≤ m.lookback) (some_ : X ≠ []) :
    m.predict X = .ok ((m.windows X).map m.forecast) := by
  obtain ⟨lookback, head⟩ := m
  unfold LstmModel.predict LstmModel.windows
  rw [if_neg some_]
  cases head with
  | torch net =>
    unfold toTorchWindows
    dsimp only
    split_ifs with long
    · obtain ⟨outs, built⟩ := buildTemporalWindows_long positive long (List.length_map fun _ => [(0 : ℚ), 0])
      rw [built]
      rfl
    · rfl
  | temporalElm elm =>
    unfold toFlatWindows
    dsimp only
    split_ifs with long
    · obtain ⟨outs, built⟩ := buildTemporalWindows_long positive long (List.length_map fun _ => [(0 : ℚ)])
      rw [built]
      simp only [Option.map_some, List.map_map]
      rfl
    · simp only [List.map_map]
      rfl

theorem windowWeights_last {lookback : Nat} (two : 2 ≤ lookback) : (windowWeights lookback).getLast? = some 1 := by
  obtain ⟨n, rfl⟩ := Nat.exists_eq_add_of_le' two
  have positive : ((n : ℚ) + 1) ≠ 0 := by positivity
  rw [windowWeights, List.range_succ, List.map_append, List.map_singleton, List.getLast?_concat]
  norm_num [positive]

theorem weightedWindow_last {lookback : Nat} (two : 2 ≤ lookback) (row : List ℚ) :
    (weightedWindow lookback row).getLast? = some row := by
  rw [weightedWindow, List.getLast?_map, windowWeights_last two]
  simp

variable {lookback i : Nat}

theorem endsAt_consecutive (positive : 1 ≤ lookback) (inside : i < X.length + 1 - lookback) :
    EndsAt X lookback (i + lookback - 1) ((X.drop i).take lookback) where
  inside := by omega
  length := by
    rw [List.length_take, List.length_drop]
    omega
  last := window_getLast? positive (by omega)
  consecutive := by
    intro
    have first : i + lookback - 1 + 1 - lookback = i := by omega
    exact ⟨by omega, by rw [first]⟩

theorem endsAt_repeated (positive : 1 ≤ lookback) (some_ : X ≠ []) (short : ¬ lookback ≤ X.length) :
    EndsAt X lookback (X.length - 1) ((X.drop (X.length - 1)).flatMap (List.replicate lookback)) := by
  have long := List.length_pos_iff.mpr some_
  obtain ⟨row, last⟩ : ∃ row, X[X.length - 1]? = some row := ⟨_, List.getElem?_eq_getElem (by omega)⟩
  have rows : (X.drop (X.length - 1)).flatMap (List.replicate lookback) = List.replicate lookback row := by
    obtain ⟨inside, rfl⟩ := List.getElem?_eq_some_iff.mp last
    have beyond : X.length - 1 + 1 = X.length := by omega
    rw [List.drop_eq_getElem_cons inside, beyond, List.drop_length, List.flatMap_singleton]
  rw [rows]
  refine ⟨by omega, List.length_replicate, ?_, fun enough => absurd enough short⟩
  rw [last, List.getLast?_replicate, if_neg (by omega)]

theorem endsAt_weighted {row : List ℚ} (read : X[i]? = some row) (short : ¬ lookback ≤ X.length) :
    EndsAt X lookback i (weightedWindow lookback row) := by
  obtain ⟨inside, _⟩ := List.getElem?_eq_some_iff.mp read
  refine ⟨inside, by simp [weightedWindow, windowWeights], ?_, fun enough => absurd enough short⟩
  rw [read, weightedWindow_last (by omega)]

/-- The windows of a batch end with its last rows, in their order. -/
theorem LstmModel.windows_endsAt (positive : 1 ≤ m.lookback) (some_ : X ≠ []) :
    1 ≤ (m.windows X).length ∧ (m.windows X).length ≤ X.length ∧
      ∀ i window, (m.windows X)[i]? = some window →
        EndsAt X m.lookback (X.length - (m.windows X).length + i) window := by
  have long := List.length_pos_iff.mpr some_
  obtain ⟨lookback, head⟩ := m
  unfold LstmModel.windows
  dsimp only at positive ⊢
  split_ifs with enough
  · rw [length_windows]
    refine ⟨by omega, by omega, fun i window listed => ?_⟩
    have inside : i < X.length + 1 - lookback := by
      rw [← length_windows lookback X]
      exact (List.getElem?_eq_some_iff.mp listed).1
    rw [windows_getElem? positive inside] at listed
    cases listed
    have place : X.length - (X.length + 1 - lookback) + i = i + lookback - 1 := by omega
    rw [place]
    exact endsAt_consecutive positive inside
  · cases head with
    | torch net =>
      refine ⟨le_rfl, long, fun i window listed => ?_⟩
      obtain ⟨inside, rfl⟩ := List.getElem?_eq_some_iff.mp listed
      obtain rfl : i = 0 := by simpa using inside
      exact endsAt_repeated positive some_ enough
    | temporalElm elm =>
      dsimp only
      rw [List.length_map]
      refine ⟨long, le_rfl, fun i window listed => ?_⟩
      rw [List.getElem?_map] at listed
      obtain ⟨row, read, rfl⟩ := Option.map_eq_some_iff.mp listed
      rw [Nat.sub_self, Nat.zero_add]
      exact endsAt_weighted read enough

end

/-! ### What a forecast is scored against -/

/-- The pairs that `multi_output_mape(y_test[-n:], y_pred[-n:])` compares. -/
def scoredPairs {β γ : Type} (yTest : List β) (yPred : List γ) : List (β × γ) :=
  let n := min yPred.length yTest.length
  (lastRows n yTest).zip (lastRows n yPred)

/-- Every forecast for a holdout is scored, against the row that its own window ends with. -/
structure AlignedScores (m : LstmModel) (rows : List Sample) (yPred : List (List ExtRat)) : Prop where
  every : (scoredPairs rows yPred).map Prod.snd = yPred
  own : ∀ (i : Nat) (row : Sample) (forecast : List ExtRat), (scoredPairs rows yPred)[i]? = some (row, forecast) → ∃ k window,
    (m.windows (rows.map Sample.features))[i]? = some window ∧ forecast = m.forecast window ∧ rows[k]? = some row ∧
      EndsAt (rows.map Sample.features) m.lookback k window

section
variable {m : LstmModel} {rows : List Sample} {yPred : List (List ExtRat)}

theorem scoredPairs_eq {β γ : Type} {yTest : List β} {forecasts : List γ} (some_ : 1 ≤ forecasts.length)
    (fits : forecasts.length ≤ yTest.length) :
    scoredPairs yTest forecasts = (yTest.drop (yTest.length - forecasts.length)).zip forecasts := by
  have positive : forecasts.length ≠ 0 := by omega
  unfold scoredPairs lastRows
  rw [Nat.min_eq_left fits]
  dsimp only
  rw [if_neg positive, if_neg positive, Nat.sub_self, List.drop_zero]

theorem scoredPairs_columns {β γ : Type} {yTest : List β} {forecasts : List γ} (some_ : 1 ≤ forecasts.length)
    (fits : forecasts.length ≤ yTest.length) :
    (scoredPairs yTest forecasts).map Prod.fst = lastRows (min forecasts.length yTest.length) yTest ∧
      (scoredPairs yTest forecasts).map Prod.snd = lastRows (min forecasts.length yTest.length) forecasts := by
  have positive : min forecasts.length yTest.length ≠ 0 := by omega
  unfold scoredPairs lastRows
  dsimp only
  rw [if_neg positive, if_neg positive]
  constructor
  · apply List.map_fst_zip
    rw [List.length_drop, List.length_drop]
    omega
  · apply List.map_snd_zip
    rw [List.length_drop, List.length_drop]
    omega

theorem LstmModel.predict_length (positive : 1 ≤ m.lookback)
    (predicted : m.predict (rows.map Sample.features) = .ok yPred) :
    rows.map Sample.features ≠ [] ∧ 1 ≤ yPred.length ∧ yPred.length ≤ rows.length := by
  have some_ : rows.map Sample.features ≠ [] := by
    intro none
    rw [none] at predicted
    cases predicted
  obtain ⟨first, fits, _⟩ := m.windows_endsAt positive some_
  rw [m.predict_eq positive some_] at predicted
  cases predicted
  rw [List.length_map] at fits ⊢
  exact ⟨some_, first, fits⟩

theorem alignedScores (positive : 1 ≤ m.lookback) (predicted : m.predict (rows.map Sample.features) = .ok yPred) :
    AlignedScores m rows yPred := by
  obtain ⟨some_, first, fits⟩ := m.predict_length positive predicted
  obtain ⟨_, _, ends⟩ := m.windows_endsAt positive some_
  rw [m.predict_eq positive some_] at predicted
  cases predicted
  constructor
  · have kept : min ((m.windows (rows.map Sample.features)).map m.forecast).length rows.length =
        ((m.windows (rows.map Sample.features)).map m.forecast).length := Nat.min_eq_left fits
    rw [(scoredPairs_columns first fits).2, kept, lastRows, if_neg (by omega), Nat.sub_self, List.drop_zero]
  · intro i row forecast scored
    rw [scoredPairs_eq first fits] at scored
    obtain ⟨target, made⟩ := List.getElem?_zip_eq_some.mp scored
    rw [List.getElem?_map] at made
    obtain ⟨window, held, rfl⟩ := Option.map_eq_some_iff.mp made
    rw [List.getElem?_drop, List.length_map] at target
    have ending := ends i window held
    rw [List.length_map] at ending
    exact ⟨_, window, held, rfl, target, ending⟩

theorem trainLstm_lookback {tools : LstmTools} {X y : List (List ℚ)} {lookback hiddenDim : Nat} {epochs : Int} {lr : ℚ}
    {seed : Int} {preferTorch : Bool}
    (trained : trainLstm tools X y lookback hiddenDim epochs lr seed preferTorch = .ok m) : m.lookback = lookback := by
  unfold trainLstm at trained
  split at trained
  · cases trained
  · split at trained
    · cases trained
      rfl
    · obtain ⟨elm, _, done⟩ := bind_eq_ok.mp trained
      cases done
      rfl

/-- The error of a sequence model is that of its forecasts against those rows. -/
theorem fitAndScore_scored {base : Learner LstmModel} {tools : LstmTools} {cfg : Settings} {dataset : MLDataset}
    {fit : Fit LstmModel} (positive : 1 ≤ cfg.mlLstmLookback)
    (fitted : fitAndScore (lstmLearner base tools) cfg .lstm dataset = .ok fit) :
    ∃ trainRows testRows yPred,
      trainTestSplit base.shuffle dataset cfg.mlHoldoutRatio cfg.mlSeed true = .ok (trainRows, testRows) ∧
      fit.model.lookback = cfg.mlLstmLookback ∧
      fit.model.predict (testRows.map Sample.features) = .ok yPred ∧
      multiOutputMape ((scoredPairs testRows yPred).map Prod.fst) ((scoredPairs testRows yPred).map Prod.snd) =
        .ok fit.mape ∧
      AlignedScores fit.model testRows yPred := by
  unfold fitAndScore at fitted
  obtain ⟨⟨trainRows, testRows⟩, split, fitted⟩ := bind_eq_ok.mp fitted
  obtain ⟨⟨augmented, vsgSamples⟩, _, fitted⟩ := bind_eq_ok.mp fitted
  obtain ⟨model, trained, fitted⟩ := bind_eq_ok.mp fitted
  obtain ⟨yPred, predicted, fitted⟩ := bind_eq_ok.mp fitted
  obtain ⟨mape, scored, fitted⟩ := bind_eq_ok.mp fitted
  split at fitted
  · cases fitted
  · cases fitted
    have lookback : model.lookback = cfg.mlLstmLookback := trainLstm_lookback (raised_eq_ok.mp trained)
    have forecasts : model.predict (testRows.map Sample.features) = .ok yPred := raised_eq_ok.mp predicted
    have aligned := alignedScores (lookback ▸ positive) forecasts
    refine ⟨trainRows, testRows, yPred, ?_, lookback, forecasts, ?_, aligned⟩
    · simpa [lstmLearner] using split
    · obtain ⟨_, first, fits⟩ := model.predict_length (lookback ▸ positive) forecasts
      obtain ⟨targets, tails⟩ := scoredPairs_columns first fits
      rwa [targets, tails]

end

/-- Windows are trained and scored against the target of their own last row, whatever the lengths are. -/
theorem temporalWindows_aligned {lookback : Nat} (positive : 1 ≤ lookback) :
    (∀ X y : List (List ℚ), X ≠ [] → y.length = X.length →
      ∃ w, buildTemporalWindows X y lookback = some w ∧ Windowed X y lookback w) ∧
    (∀ (m : LstmModel) (rows : List Sample), m.lookback = lookback → rows ≠ [] →
      ∃ yPred, m.predict (rows.map Sample.features) = .ok yPred ∧ AlignedScores m rows yPred) ∧
    ∀ (base : Learner LstmModel) (tools : LstmTools) (cfg : Settings) (dataset : MLDataset) (fit : Fit LstmModel),
      cfg.mlLstmLookback = lookback → fitAndScore (lstmLearner base tools) cfg .lstm dataset = .ok fit →
        ∃ trainRows testRows yPred,
          trainTestSplit base.shuffle dataset cfg.mlHoldoutRatio cfg.mlSeed true = .ok (trainRows, testRows) ∧
          fit.model.lookback = cfg.mlLstmLookback ∧
          fit.model.predict (testRows.map Sample.features) = .ok yPred ∧
          multiOutputMape ((scoredPairs testRows yPred).map Prod.fst) ((scoredPairs testRows yPred).map Prod.snd) =
            .ok fit.mape ∧
          AlignedScores fit.model testRows yPred := by
  refine ⟨?_, ?_, ?_⟩
  · intro X y some_ paired
    exact buildTemporalWindows_windowed positive some_ paired
  · rintro m rows rfl some_
    have batch : rows.map Sample.features ≠ [] := mt List.map_eq_nil_iff.mp some_
    have predicted := m.predict_eq positive batch
    exact ⟨_, predicted, alignedScores positive predicted⟩
  · rintro base tools cfg dataset fit rfl fitted
    exact fitAndScore_scored positive fitted

theorem temporalWindows_aligned_pair :
    (∃ w, buildTemporalWindows [[1], [2], [3]] [[10], [20], [30]] 2 = some w ∧
      Windowed [[1], [2], [3]] [[10], [20], [30]] 2 w) ∧
    ∃ yPred, (LstmModel.mk 2 (.temporalElm fun _ => [])).predict ([steadySample].map Sample.features) = .ok yPred ∧
      AlignedScores (LstmModel.mk 2 (.temporalElm fun _ => [])) [steadySample] yPred := by
  obtain ⟨windowed, scored, _⟩ := temporalWindows_aligned (by decide : 1 ≤ 2)
  exact ⟨windowed _ _ (by decide) rfl, scored _ _ rfl (by decide)⟩

end Iems.Ml
