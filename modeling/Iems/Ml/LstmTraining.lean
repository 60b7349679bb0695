import Iems.Ml.Lstm
import Iems.Ml.Vsg

/-! The rows that a sequence model is trained on: the first rows of the dataset, and the virtual rows behind them. -/
namespace Iems.Ml
open Lib Iems.Core Iems.Services

/-- A learner whose virtual rows come from the generators; a generator that draws nothing has raised. -/
def vsgLearner {M : Type} (base : Learner M) (draws : List Sample → String → Int → Int → RealDraws) : Learner M :=
  { base with
    virtualSamples := fun rows method nSamples seed =>
      match augmentWithVsg base.numpy rows (draws rows method nSamples seed) method nSamples with
      | some virtual => .ok (virtual.map mergedRow)
      | none => .error "ValueError" }

/-- Training adds no virtual rows. -/
def Unaugmented (cfg : Settings) : Prop :=
  (cfg.trustedModeActive = true ∧ cfg.mlAllowVsgInTrusted = false) ∨ cfg.mlVsgSamples ≤ 0

instance (cfg : Settings) : Decidable (Unaugmented cfg) :=
  inferInstanceAs (Decidable ((cfg.trustedModeActive = true ∧ cfg.mlAllowVsgInTrusted = false) ∨ cfg.mlVsgSamples ≤ 0))

/-- The training rows with their places in the dataset; the virtual ones have none. -/
def placedRows (dataset : MLDataset) (cut : Nat) (virtual : List VirtualSample) : List (Sample × Option Nat) :=
  placed (dataset.frame.take cut) ++ unplaced (virtual.map mergedRow)

/-- Feature windows, without the places. -/
def featureWindows (placedWindows : List (List (Sample × Option Nat))) : List (List (List ℚ)) :=
  placedWindows.map fun window => window.map fun row => row.1.features

/-- The model is what one of the two heads answers on these windows. -/
def FittedOn (tools : LstmTools) (cfg : Settings) (seqs : List (List (List ℚ))) (model : LstmModel) : Prop :=
  model.lookback = cfg.mlLstmLookback ∧ ∃ outs,
    match model.head with
    | .torch net =>
      tools.trainTorch seqs outs cfg.mlLstmHidden cfg.mlLstmEpochs cfg.mlLstmLr cfg.mlSeed = some net
    | .temporalElm elm =>
      tools.trainElm (seqs.map List.flatten) outs (max cfg.mlLstmHidden 32) cfg.mlSeed = .ok elm

/-- The rows of a dataset are readings of the plant, from the oldest to the latest. -/
def InTimeOrder (readings : List PlantReading) (dataset : MLDataset) : Prop :=
  ∃ history : List PlantReading, history.Pairwise (fun a b => a.time ≤ b.time) ∧ (∀ r ∈ history, r ∈ readings) ∧
    history.mapM sampleOf = some dataset.frame

/-! ### The dataset -/

section
variable {M : Type} {learner : Learner M} {cfg : Settings} {dataset : MLDataset}

theorem loadDbDataset_ordered {readings : List PlantReading} {now : Int} {plantCode : String} {limit : Nat}
    {lookbackHours : Int} (loaded : loadDbDataset readings now plantCode limit lookbackHours = .ok (some dataset)) :
    InTimeOrder readings dataset := by
  unfold loadDbDataset at loaded
  dsimp only at loaded
  split at loaded
  · cases loaded
  · split at loaded
    · cases loaded
    · rename_i frame read
      cases loaded
      refine ⟨_, ?_, ?_, read⟩
      · apply List.pairwise_reverse.mpr
        exact (List.pairwise_insertionSort _ _).sublist (List.take_sublist _ _)
      · intro r member
        have listed := List.mem_of_mem_take (List.mem_reverse.mp member)
        exact List.mem_of_mem_filter ((List.mem_insertionSort _).mp listed)

/-- A prepared dataset of plant data is in time order. -/
theorem prepareDataset_ordered {readings : List PlantReading} {now : Int} {plantCode : String}
    (prepared : prepareDataset learner cfg (some readings) now plantCode = .ok dataset)
    (plant : dataset.source = "timescaledb") : InTimeOrder readings dataset := by
  unfold prepareDataset at prepared
  dsimp only at prepared
  split at prepared
  · cases prepared
  · rename_i dbDs loaded
    split at prepared
    · rename_i ds enough
      cases prepared
      rw [(Option.filter_eq_some_iff.mp enough).1] at loaded
      exact loadDbDataset_ordered loaded
    · split at prepared
      · cases prepared
      · cases prepared
        simp [buildSyntheticDataset] at plant

theorem temporalSplit_prefix {shuffle : Int → Nat → List Nat} {testRatio : ℚ} {seed : Int}
    {trainRows testRows : List Sample}
    (split : trainTestSplit shuffle dataset testRatio seed true = .ok (trainRows, testRows)) :
    dataset.frame ≠ [] ∧ ∃ cut, 1 ≤ cut ∧ cut ≤ dataset.frame.length ∧ trainRows = dataset.frame.take cut ∧
      testRows = dataset.frame.drop cut := by
  have low := one_le_splitCut dataset.frame.length testRatio
  unfold trainTestSplit at split
  dsimp only at split
  rw [if_pos rfl] at split
  split_ifs at split with empty two
  · cases split
    exact ⟨List.ne_nil_of_length_pos (by omega), _, by omega, by omega, rfl, rfl⟩
  · cases split
    exact ⟨List.ne_nil_of_length_pos (by omega), _, le_rfl, by omega, rfl, rfl⟩

end

/-! ### The virtual rows -/

section
variable {np : Numpy ℚ} {frame : List Sample} {draws : RealDraws} {nSamples : Int} {virtual : List VirtualSample}

theorem generatePsoFromReal_ne_nil (chooses : draws.toVsgDraws.Chooses) (positive : 0 < nSamples)
    (generated : generatePsoFromReal np frame draws nSamples = some virtual) : virtual ≠ [] := by
  unfold generatePsoFromReal at generated
  obtain ⟨s, started, picked⟩ := Option.bind_eq_some_iff.mp generated
  obtain ⟨size, sound⟩ := realPsoStart_sound started draws.iteration 40
  obtain ⟨samples, same, counted⟩ := @length_pickSamples _ nSamples
    (((realRules np frame).after s draws.iteration 40).archive.map virtualSample) chooses positive.le
  rw [same] at picked
  cases picked
  rw [List.length_map, sound.counted, size] at counted
  intro none_
  rw [none_, List.length_nil] at counted
  omega

/-- Either generator around real rows draws at least one sample where some are asked for. -/
theorem augmentWithVsg_ne_nil {method : String} (some_ : frame ≠ []) (chooses : draws.toVsgDraws.Chooses)
    (positive : 0 < nSamples) (generated : augmentWithVsg np frame draws method nSamples = some virtual) : virtual ≠ [] := by
  unfold augmentWithVsg at generated
  rw [if_neg some_] at generated
  split at generated
  · exact generatePsoFromReal_ne_nil chooses positive generated
  · cases generated
    intro none_
    have counted := congrArg List.length none_
    rw [generateMonteCarloFromReal, List.length_map, List.length_range, List.length_nil] at counted
    omega

end

section
variable {base : Learner LstmModel} {draws : List Sample → String → Int → Int → RealDraws} {cfg : Settings}
  {trainRows rows : List Sample} {vsgSamples : Nat}

/-- The augmented rows are the training rows with virtual ones behind them, and with none exactly where the settings
turn that off. -/
theorem vsgAugment_rows (chooses : ∀ rows method nSamples seed, (draws rows method nSamples seed).toVsgDraws.Chooses)
    (some_ : trainRows ≠ []) (augmented : vsgAugment (vsgLearner base draws) cfg trainRows = .ok (rows, vsgSamples)) :
    ∃ virtual : List VirtualSample, rows = mergeRealAndVirtual trainRows virtual ∧ vsgSamples = virtual.length ∧
      (virtual = [] ↔ Unaugmented cfg) := by
  unfold vsgAugment at augmented
  split at augmented
  · rename_i trusted
    cases augmented
    refine ⟨[], (List.append_nil _).symm, rfl, iff_of_true rfl (Or.inl ?_)⟩
    simpa using trusted
  · rename_i allowed
    split at augmented
    · rename_i none_
      cases augmented
      exact ⟨[], (List.append_nil _).symm, rfl, iff_of_true rfl (Or.inr none_)⟩
    · rename_i positive
      obtain ⟨drawn, generated, same⟩ := bind_eq_ok.mp augmented
      cases same
      have answered := raised_eq_ok.mp generated
      unfold vsgLearner at answered
      dsimp only at answered
      split at answered
      · rename_i virtual made
        cases answered
        refine ⟨virtual, rfl, List.length_map _, iff_of_false ?_ ?_⟩
        · exact augmentWithVsg_ne_nil some_ (chooses ..) (not_le.mp positive) made
        · rintro (off | none_)
          · exact allowed (by simpa using off)
          · exact positive none_
      · cases answered

end

/-! ### What the model is fitted on -/

section
variable {tools : LstmTools} {cfg : Settings} {dataset : MLDataset} {virtual : List VirtualSample} {cut : Nat}

theorem map_fst_placedRows :
    (placedRows dataset cut virtual).map Prod.fst = mergeRealAndVirtual (dataset.frame.take cut) virtual := by
  rw [placedRows, List.map_append, map_fst_placed, map_fst_unplaced]
  rfl

/-- The windows of the merged rows are those of the placed rows, without the places. -/
theorem merged_windows (lookback : Nat) :
    windows lookback ((mergeRealAndVirtual (dataset.frame.take cut) virtual).map Sample.features) =
      featureWindows (windows lookback (placedRows dataset cut virtual)) := by
  rw [← map_fst_placedRows, List.map_map, windows_map]
  rfl

theorem buildTemporalWindows_seqs {X y : List (List ℚ)} {lookback : Nat} {w : TemporalWindows} (long : lookback ≤ X.length)
    (built : buildTemporalWindows X y lookback = some w) : w.seqs = windows lookback X ∧ w.flats = w.seqs.map List.flatten := by
  unfold buildTemporalWindows at built
  dsimp only at built
  rw [if_neg (not_lt.mpr long)] at built
  obtain ⟨outs, _, made⟩ := Option.bind_eq_some_iff.mp built
  cases made
  exact ⟨rfl, rfl⟩

theorem trainLstm_fitted {X y : List (List ℚ)} {model : LstmModel} (long : cfg.mlLstmLookback ≤ X.length)
    (trained : trainLstm tools X y cfg.mlLstmLookback cfg.mlLstmHidden cfg.mlLstmEpochs cfg.mlLstmLr cfg.mlSeed
      cfg.mlPreferTorchLstm = .ok model) : FittedOn tools cfg (windows cfg.mlLstmLookback X) model := by
  have lookback := trainLstm_lookback trained
  unfold trainLstm at trained
  split at trained
  · cases trained
  · rename_i w built
    obtain ⟨seqs, flats⟩ := buildTemporalWindows_seqs long built
    rw [flats, seqs] at trained
    refine ⟨lookback, w.outs, ?_⟩
    split at trained
    · rename_i net found
      cases trained
      dsimp only
      split at found
      · exact found
      · cases found
    · obtain ⟨elm, fitted, done⟩ := bind_eq_ok.mp trained
      cases done
      exact fitted

end

/-- From the split to the model: what it was fitted on. -/
structure FitTrace (base : Learner LstmModel) (tools : LstmTools) (draws : List Sample → String → Int → Int → RealDraws)
    (cfg : Settings) (dataset : MLDataset) (model : LstmModel) (cut : Nat) (virtual : List VirtualSample) : Prop where
  inside : cut ≤ dataset.frame.length
  split : trainTestSplit base.shuffle dataset cfg.mlHoldoutRatio cfg.mlSeed true =
    .ok (dataset.frame.take cut, dataset.frame.drop cut)
  augmented : vsgAugment (vsgLearner (lstmLearner base tools) draws) cfg (dataset.frame.take cut) =
    .ok (mergeRealAndVirtual (dataset.frame.take cut) virtual, virtual.length)
  fitted : cfg.mlLstmLookback ≤ cut →
    FittedOn tools cfg (featureWindows (windows cfg.mlLstmLookback (placedRows dataset cut virtual))) model

section
variable {base : Learner LstmModel} {tools : LstmTools} {draws : List Sample → String → Int → Int → RealDraws}
  {cfg : Settings} {dataset : MLDataset}

theorem fitAndScore_trace (chooses : ∀ rows method nSamples seed, (draws rows method nSamples seed).toVsgDraws.Chooses)
    {fit : Fit LstmModel} (fitted : fitAndScore (vsgLearner (lstmLearner base tools) draws) cfg .lstm dataset = .ok fit) :
    ∃ cut virtual, FitTrace base tools draws cfg dataset fit.model cut virtual ∧ (virtual = [] ↔ Unaugmented cfg) := by
  unfold fitAndScore at fitted
  obtain ⟨⟨trainRows, testRows⟩, split, fitted⟩ := bind_eq_ok.mp fitted
  obtain ⟨⟨augmented, vsgSamples⟩, grown, fitted⟩ := bind_eq_ok.mp fitted
  obtain ⟨model, trained, fitted⟩ := bind_eq_ok.mp fitted
  obtain ⟨yPred, _, fitted⟩ := bind_eq_ok.mp fitted
  obtain ⟨mape, _, fitted⟩ := bind_eq_ok.mp fitted
  have temporal : trainTestSplit base.shuffle dataset cfg.mlHoldoutRatio cfg.mlSeed true = .ok (trainRows, testRows) := by
    simpa [vsgLearner, lstmLearner] using split
  obtain ⟨some_, cut, first, inside, rfl, rfl⟩ := temporalSplit_prefix temporal
  have real : dataset.frame.take cut ≠ [] := by
    apply List.ne_nil_of_length_pos
    rw [List.length_take_of_le inside]
    exact first
  obtain ⟨virtual, rfl, rfl, added⟩ := vsgAugment_rows chooses real grown
  split at fitted
  · cases fitted
  · cases fitted
    refine ⟨cut, virtual, ⟨inside, temporal, grown, fun long => ?_⟩, added⟩
    rw [← merged_windows]
    refine trainLstm_fitted ?_ (raised_eq_ok.mp trained)
    rw [List.length_map, mergeRealAndVirtual, List.length_append, List.length_take_of_le inside]
    omega

/-- A run that trains a sequence model has fitted it on the rows of a prepared dataset, plant data in time order. -/
theorem trainModel_trace (chooses : ∀ rows method nSamples seed, (draws rows method nSamples seed).toVsgDraws.Chooses)
    {store : ModelStore LstmModel} {request : TrainRequest} (lstm : request.kind = .lstm) {result : TrainResult LstmModel}
    (trained : (trainModel (vsgLearner (lstmLearner base tools) draws) cfg store request).2 = .ok result) :
    ∃ dataset fit cut virtual,
      prepareDataset (vsgLearner (lstmLearner base tools) draws) cfg request.session request.now request.plantCode =
        .ok dataset ∧
      (∀ readings, request.session = some readings → dataset.source = "timescaledb" → InTimeOrder readings dataset) ∧
      fitAndScore (vsgLearner (lstmLearner base tools) draws) cfg .lstm dataset = .ok fit ∧
      FitTrace base tools draws cfg dataset fit.model cut virtual ∧ (virtual = [] ↔ Unaugmented cfg) := by
  unfold trainModel at trained
  split at trained
  · cases trained
  · rename_i dataset prepared
    split at trained
    · cases trained
    · split at trained
      · cases trained
      · rename_i fit fitted
        rw [lstm] at fitted
        obtain ⟨cut, virtual, trace, added⟩ := fitAndScore_trace chooses fitted
        refine ⟨dataset, fit, cut, virtual, prepared, ?_, fitted, trace, added⟩
        intro readings session plant
        rw [session] at prepared
        exact prepareDataset_ordered prepared plant

end

/-- Every window is a run of consecutive rows of the dataset. -/
def TrueWindows (cfg : Settings) (dataset : MLDataset) (cut : Nat) (virtual : List VirtualSample) : Prop :=
  ∀ window ∈ windows cfg.mlLstmLookback (placedRows dataset cut virtual), IsRun cfg.mlLstmLookback dataset.frame window

/-- The windows of a trained sequence model are runs of consecutive rows of its dataset exactly where training adds no
virtual rows, or where windows are empty. -/
theorem lstm_windows_true_iff (base : Learner LstmModel) (tools : LstmTools)
    (draws : List Sample → String → Int → Int → RealDraws)
    (chooses : ∀ rows method nSamples seed, (draws rows method nSamples seed).toVsgDraws.Chooses) (cfg : Settings)
    (store : ModelStore LstmModel) (request : TrainRequest) (lstm : request.kind = .lstm) (result : TrainResult LstmModel)
    (trained : (trainModel (vsgLearner (lstmLearner base tools) draws) cfg store request).2 = .ok result) :
    ∃ dataset fit cut virtual,
      prepareDataset (vsgLearner (lstmLearner base tools) draws) cfg request.session request.now request.plantCode =
        .ok dataset ∧
      (∀ readings, request.session = some readings → dataset.source = "timescaledb" → InTimeOrder readings dataset) ∧
      fitAndScore (vsgLearner (lstmLearner base tools) draws) cfg .lstm dataset = .ok fit ∧
      FitTrace base tools draws cfg dataset fit.model cut virtual ∧
      (cfg.mlLstmLookback ≤ cut →
        (TrueWindows cfg dataset cut virtual ↔ cfg.mlLstmLookback = 0 ∨ Unaugmented cfg)) := by
  obtain ⟨dataset, fit, cut, virtual, prepared, ordered, fitted, trace, added⟩ := trainModel_trace chooses lstm trained
  refine ⟨dataset, fit, cut, virtual, prepared, ordered, fitted, trace, fun long => ?_⟩
  have merged : virtual.map mergedRow = [] ↔ Unaugmented cfg := List.map_eq_nil_iff.trans added
  unfold TrueWindows
  rw [placedRows, windows_run_iff trace.inside long, merged]

theorem middleDraws_chooses : middleDraws.toVsgDraws.Chooses where
  length _ _ _ := List.length_range
  below _ _ fits _ member := (List.mem_range.mp member).trans_le fits

/-- A head that answers one forecast, whatever it is trained on. -/
def steadyTools : LstmTools where
  trainTorch _ _ _ _ _ _ := none
  trainElm _ _ _ _ := .ok fun _ => [.finite 400, .finite 50]

/-- Rows whose feed grows by a ton each hour. -/
def risingFrame (n : Nat) : List Sample := (List.range n).map fun i : Nat => { steadySample with feedFlowTonh := 100 + i }

def risingBase : Learner LstmModel where
  numpy := meanLearner.numpy
  calibration := meanLearner.calibration
  shuffle := meanLearner.shuffle
  syntheticFrame n _ _ := risingFrame n
  virtualSamples := meanLearner.virtualSamples
  trainElm _ _ _ := .error "not trained here"
  trainLstm _ _ _ _ _ _ _ := .error "not trained here"
  predict := LstmModel.predict

/-- Ten rows, windows of two, and one virtual row. -/
def smallSettings : Settings := { mlSyntheticSamples := 10, mlLstmLookback := 2, mlVsgSamples := 1 }

def lstmRequest : TrainRequest :=
  { kind := .lstm
    plantCode := "olefin"
    session := none
    now := 0
    stamp := ⟨"20260701T120000Z", "2026-07-01T12:00:00+00:00"⟩ }

def emptyModels : ModelStore LstmModel := { registry := .empty, calibration := none }

theorem small_trains : ∃ result,
    (trainModel (vsgLearner (lstmLearner risingBase steadyTools) fun _ _ _ _ => middleDraws) smallSettings emptyModels
      lstmRequest).2 = .ok result := by
  have answered : (trainModel (vsgLearner (lstmLearner risingBase steadyTools) fun _ _ _ _ => middleDraws) smallSettings
      emptyModels lstmRequest).2.isOk = true := by decide +kernel
  revert answered
  cases (trainModel (vsgLearner (lstmLearner risingBase steadyTools) fun _ _ _ _ => middleDraws) smallSettings
    emptyModels lstmRequest).2 with
  | ok result => exact fun _ => ⟨result, rfl⟩
  | error raised => exact fun wrong => nomatch wrong

theorem lstm_windows_true_iff_small :
    ∃ dataset fit cut virtual,
      prepareDataset (vsgLearner (lstmLearner risingBase steadyTools) fun _ _ _ _ => middleDraws) smallSettings none 0
        "olefin" = .ok dataset ∧
      fitAndScore (vsgLearner (lstmLearner risingBase steadyTools) fun _ _ _ _ => middleDraws) smallSettings .lstm dataset =
        .ok fit ∧
      FitTrace risingBase steadyTools (fun _ _ _ _ => middleDraws) smallSettings dataset fit.model cut virtual ∧
      (2 ≤ cut → (TrueWindows smallSettings dataset cut virtual ↔ (2 : Nat) = 0 ∨ Unaugmented smallSettings)) := by
  obtain ⟨result, trained⟩ := small_trains
  obtain ⟨dataset, fit, cut, virtual, prepared, _, fitted, trace, runs⟩ :=
    lstm_windows_true_iff risingBase steadyTools (fun _ _ _ _ => middleDraws) (fun _ _ _ _ => middleDraws_chooses)
      smallSettings emptyModels lstmRequest rfl result trained
  exact ⟨dataset, fit, cut, virtual, prepared, fitted, trace, runs⟩

/-- The small run fits its model on a window with a row that the dataset does not have. -/
theorem virtual_row_in_window :
    ∃ dataset fit cut virtual,
      prepareDataset (vsgLearner (lstmLearner risingBase steadyTools) fun _ _ _ _ => middleDraws) smallSettings none 0
        "olefin" = .ok dataset ∧
      fitAndScore (vsgLearner (lstmLearner risingBase steadyTools) fun _ _ _ _ => middleDraws) smallSettings .lstm dataset =
        .ok fit ∧
      FitTrace risingBase steadyTools (fun _ _ _ _ => middleDraws) smallSettings dataset fit.model cut virtual ∧
      2 ≤ cut ∧ ∃ window ∈ featureWindows (windows 2 (placedRows dataset cut virtual)),
        ∃ row ∈ window, row ∉ dataset.frame.map Sample.features := by
  obtain ⟨result, trained⟩ := small_trains
  obtain ⟨dataset, fit, cut, virtual, prepared, _, fitted, trace, _⟩ :=
    trainModel_trace (fun _ _ _ _ => middleDraws_chooses) rfl trained
  obtain rfl : ⟨risingFrame 10, "synthetic", "olefin"⟩ = dataset := Except.ok.inj prepared
  have computed : trainTestSplit risingBase.shuffle ⟨risingFrame 10, "synthetic", "olefin"⟩ (1 / 5) 42 true =
      .ok ((risingFrame 10).take 8, (risingFrame 10).drop 8) := by decide +kernel
  have cut_ : 8 = cut := by
    have counted := congrArg (fun parts => parts.1.length) (Except.ok.inj (computed.symm.trans trace.split))
    dsimp only at counted
    rw [List.length_take_of_le trace.inside] at counted
    exact counted
  subst cut_
  have drawn : vsgAugment (vsgLearner (lstmLearner risingBase steadyTools) fun _ _ _ _ => middleDraws) smallSettings
      ((risingFrame 10).take 8) = .ok ((risingFrame 10).take 8 ++
        (generateMonteCarloFromReal meanLearner.numpy ((risingFrame 10).take 8) middleDraws 1).map mergedRow, 1) := rfl
  obtain ⟨merged, _⟩ := Prod.mk.inj (Except.ok.inj (drawn.symm.trans trace.augmented))
  refine ⟨_, fit, 8, virtual, prepared, fitted, trace, by decide, ?_⟩
  rw [← merged_windows, ← merged]
  decide +kernel

end Iems.Ml
