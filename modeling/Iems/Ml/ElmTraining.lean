import Iems.Lib.LeastSquares
import Iems.Ml.Elm
import Iems.Ml.Lstm
import Iems.Ml.Trust

/-! Training of the extreme learning machine: a drawn hidden layer over standardized rows, and output weights by a
pseudo-inverse. -/
namespace Iems.Ml
open Lib Iems.Core Matrix

/-- The numeric library under the training; `normal` draws the weights of the inputs and then those of the units. -/
structure ElmTools where
  exp : ℚ → ℚ
  sqrt : ℚ → ℚ
  normal : Int → (nFeatures nHidden : Nat) → (Fin nFeatures → Fin nHidden → ℚ) × (Fin nHidden → ℚ)
  pinv : {n nHidden : Nat} → Matrix (Fin n) (Fin nHidden) ℚ → Matrix (Fin nHidden) (Fin n) ℚ

section
variable {n width : Nat}

def columnMean (X : Matrix (Fin n) (Fin width) ℚ) (i : Fin width) : ℚ := (∑ r, X r i) / n

def columnVariance (X : Matrix (Fin n) (Fin width) ℚ) (i : Fin width) : ℚ := (∑ r, (X r i - columnMean X i) ^ 2) / n

/-- A deviation that all but vanishes counts as one. -/
def columnStd (sqrt : ℚ → ℚ) (X : Matrix (Fin n) (Fin width) ℚ) (i : Fin width) : ℚ :=
  let std := sqrt (columnVariance X i)
  if std < 1 / 10 ^ 8 then 1 else std

theorem columnStd_pos (sqrt : ℚ → ℚ) (X : Matrix (Fin n) (Fin width) ℚ) (i : Fin width) : 0 < columnStd sqrt X i := by
  unfold columnStd
  dsimp only
  split
  · exact one_pos
  · rename_i large
    exact lt_of_lt_of_le (by norm_num) (not_lt.mp large)

def standardized (sqrt : ℚ → ℚ) (X : Matrix (Fin n) (Fin width) ℚ) : Matrix (Fin n) (Fin width) ℚ :=
  fun r i => (X r i - columnMean X i) / columnStd sqrt X i

end

section
variable {n inputDim outputDim : Nat} (tools : ElmTools)

/-- The model before it has output weights. -/
def elmLayer (X : Matrix (Fin n) (Fin inputDim) ℚ) (y : Matrix (Fin n) (Fin outputDim) ℚ) (nHidden : Nat) (seed : Int) :
    ElmModel inputDim nHidden outputDim where
  W := (tools.normal seed inputDim nHidden).1
  b := (tools.normal seed inputDim nHidden).2
  beta _ _ := 0
  xMean := columnMean X
  xStd := columnStd tools.sqrt X
  yMean := columnMean y
  yStd := columnStd tools.sqrt y
  xVaries := columnStd_pos tools.sqrt X
  yVaries := columnStd_pos tools.sqrt y

/-- What the hidden units make of the rows. -/
def ElmModel.hiddenRows {nHidden : Nat} (exp : ℚ → ℚ) (m : ElmModel inputDim nHidden outputDim)
    (X : Matrix (Fin n) (Fin inputDim) ℚ) : Matrix (Fin n) (Fin nHidden) ℚ := fun r => m.hidden exp (X r)

def ElmModel.weighted {nHidden : Nat} (m : ElmModel inputDim nHidden outputDim) (beta : Matrix (Fin nHidden) (Fin outputDim) ℚ) :
    ElmModel inputDim nHidden outputDim := { m with beta := beta }

def trainElm (X : Matrix (Fin n) (Fin inputDim) ℚ) (y : Matrix (Fin n) (Fin outputDim) ℚ) (nHidden : Nat) (seed : Int) :
    ElmModel inputDim nHidden outputDim :=
  let layer := elmLayer tools X y nHidden seed
  layer.weighted (tools.pinv (layer.hiddenRows tools.exp X) * standardized tools.sqrt y)

/-- The pseudo-inverse that a training asks for is one. -/
def Inverts (X : Matrix (Fin n) (Fin inputDim) ℚ) (y : Matrix (Fin n) (Fin outputDim) ℚ) (nHidden : Nat) (seed : Int) : Prop :=
  IsPseudoInverse ((elmLayer tools X y nHidden seed).hiddenRows tools.exp X)
    (tools.pinv ((elmLayer tools X y nHidden seed).hiddenRows tools.exp X))

end

namespace ElmModel
variable {n inputDim nHidden outputDim : Nat}

/-- The squared error of an output over the rows. -/
def sqError (exp : ℚ → ℚ) (m : ElmModel inputDim nHidden outputDim) (X : Matrix (Fin n) (Fin inputDim) ℚ)
    (y : Matrix (Fin n) (Fin outputDim) ℚ) (o : Fin outputDim) : ℚ :=
  sqDist (fun r => m.predictRow exp (X r) o) fun r => y r o

/-- A model against all others with its hidden layer: none errs less on the rows, those that err as little forecast the
same there and have no shorter weights; and it errs no more than the mean does. -/
structure LeastFit (exp : ℚ → ℚ) (m : ElmModel inputDim nHidden outputDim) (X : Matrix (Fin n) (Fin inputDim) ℚ)
    (y : Matrix (Fin n) (Fin outputDim) ℚ) : Prop where
  least : ∀ beta o, m.sqError exp X y o ≤ (m.weighted beta).sqError exp X y o
  determined : ∀ beta o, (m.weighted beta).sqError exp X y o = m.sqError exp X y o →
    ∀ r, (m.weighted beta).predictRow exp (X r) o = m.predictRow exp (X r) o
  shortest : ∀ beta o, (m.weighted beta).sqError exp X y o = m.sqError exp X y o →
    ∑ j, m.beta j o ^ 2 ≤ ∑ j, beta j o ^ 2
  spread : ∀ o, m.sqError exp X y o ≤ ∑ r, (y r o - columnMean y o) ^ 2

end ElmModel

/-! ### The fit of one training -/

section
variable {n inputDim outputDim nHidden : Nat} {tools : ElmTools} {X : Matrix (Fin n) (Fin inputDim) ℚ}
  {y : Matrix (Fin n) (Fin outputDim) ℚ} {seed : Int}

theorem sqDist_affine {u v : Fin n → ℚ} (scale shift : ℚ) :
    sqDist (fun r => u r * scale + shift) (fun r => v r * scale + shift) = scale ^ 2 * sqDist u v := by
  unfold sqDist
  rw [Finset.mul_sum]
  refine Finset.sum_congr rfl fun r _ => ?_
  ring

theorem standardized_back (r : Fin n) (o : Fin outputDim) :
    y r o = standardized tools.sqrt y r o * columnStd tools.sqrt y o + columnMean y o := by
  unfold standardized
  rw [div_mul_cancel₀ _ (columnStd_pos tools.sqrt y o).ne', sub_add_cancel]

/-- In units of the deviation, the error is that of the weights on the hidden rows. -/
theorem weighted_sqError (beta : Matrix (Fin nHidden) (Fin outputDim) ℚ) (o : Fin outputDim) :
    ((elmLayer tools X y nHidden seed).weighted beta).sqError tools.exp X y o = columnStd tools.sqrt y o ^ 2 *
      sqDist ((elmLayer tools X y nHidden seed).hiddenRows tools.exp X *ᵥ fun j => beta j o)
        (fun r => standardized tools.sqrt y r o) := by
  rw [← sqDist_affine _ (columnMean y o)]
  unfold ElmModel.sqError
  congr 1
  funext r
  exact standardized_back r o

/-- Weights that err as little make the same of the hidden rows. -/
theorem trainElm_reached (pseudo : Inverts tools X y nHidden seed) {beta : Matrix (Fin nHidden) (Fin outputDim) ℚ} {o : Fin outputDim}
    (equal : ((trainElm tools X y nHidden seed).weighted beta).sqError tools.exp X y o =
      (trainElm tools X y nHidden seed).sqError tools.exp X y o) :
    (elmLayer tools X y nHidden seed).hiddenRows tools.exp X *ᵥ (fun j => beta j o) =
      (elmLayer tools X y nHidden seed).hiddenRows tools.exp X *ᵥ fun j => (trainElm tools X y nHidden seed).beta j o := by
  have scale : columnStd tools.sqrt y o ^ 2 ≠ 0 := pow_ne_zero 2 (columnStd_pos tools.sqrt y o).ne'
  have same := (weighted_sqError beta o).symm.trans (equal.trans (weighted_sqError _ o))
  rw [mul_right_inj' scale] at same
  exact pseudo.least_iff.mp same

theorem trainElm_least (pseudo : Inverts tools X y nHidden seed) : (trainElm tools X y nHidden seed).LeastFit tools.exp X y := by
  have least : ∀ beta o, (trainElm tools X y nHidden seed).sqError tools.exp X y o ≤
      ((trainElm tools X y nHidden seed).weighted beta).sqError tools.exp X y o := by
    intro beta o
    refine ((weighted_sqError _ o).trans_le ?_).trans_eq (weighted_sqError beta o).symm
    exact mul_le_mul_of_nonneg_left (pseudo.least _ _) (sq_nonneg _)
  refine ⟨least, fun beta o equal r => ?_, fun beta o equal => ?_, fun o => ?_⟩
  · have here := congrFun (trainElm_reached pseudo equal) r
    show _ * columnStd tools.sqrt y o + columnMean y o = _ * columnStd tools.sqrt y o + columnMean y o
    exact congrArg (fun hidden => hidden * columnStd tools.sqrt y o + columnMean y o) here
  · have shorter := pseudo.shortest (trainElm_reached pseudo equal)
    simp only [sqDist, Pi.zero_apply, sub_zero] at shorter
    exact shorter
  · refine (least 0 o).trans_eq ?_
    unfold ElmModel.sqError sqDist
    refine Finset.sum_congr rfl fun r _ => ?_
    have mean : ((trainElm tools X y nHidden seed).weighted 0).predictRow tools.exp (X r) o = columnMean y o := by
      show (∑ j, _ * (0 : ℚ)) * columnStd tools.sqrt y o + columnMean y o = _
      simp
    exact (congrArg (fun forecast => (forecast - y r o) ^ 2) mean).trans (sub_sq_comm _ _)

end

/-- A matrix of one value, inverted. -/
def flatPinv {n nHidden : Nat} (A : Matrix (Fin n) (Fin nHidden) ℚ) : Matrix (Fin nHidden) (Fin n) ℚ :=
  fun j r => 1 / (n * nHidden) / A r j

theorem flatPinv_inverts {n nHidden : Nat} {A : Matrix (Fin n) (Fin nHidden) ℚ} (flat : ∀ r j, A r j = 1 / 2) :
    IsPseudoInverse A (flatPinv A) := by
  have range : ∀ r s, (A * flatPinv A) r s = nHidden * (1 / (n * nHidden)) := by
    intro r s
    rw [Matrix.mul_apply]
    simp only [flatPinv, flat, Finset.sum_const, Finset.card_univ, Fintype.card_fin, nsmul_eq_mul]
    ring
  have domain : ∀ j k, (flatPinv A * A) j k = n * (1 / (n * nHidden)) := by
    intro j k
    rw [Matrix.mul_apply]
    simp only [flatPinv, flat, Finset.sum_const, Finset.card_univ, Fintype.card_fin, nsmul_eq_mul]
    ring
  have rows : ∀ _ : Fin n, (n : ℚ) ≠ 0 := fun r => Nat.cast_ne_zero.mpr (Nat.ne_zero_of_lt r.isLt)
  have units : ∀ _ : Fin nHidden, (nHidden : ℚ) ≠ 0 := fun j => Nat.cast_ne_zero.mpr (Nat.ne_zero_of_lt j.isLt)
  refine ⟨?_, ?_, ?_, ?_⟩
  · ext r j
    have some_ := rows r
    have more := units j
    rw [Matrix.mul_apply]
    simp only [range, flat, Finset.sum_const, Finset.card_univ, Fintype.card_fin, nsmul_eq_mul]
    field_simp
  · ext j r
    have some_ := rows r
    have more := units j
    rw [Matrix.mul_apply]
    simp only [domain, flatPinv, flat, Finset.sum_const, Finset.card_univ, Fintype.card_fin, nsmul_eq_mul]
    field_simp
  · ext r s
    rw [Matrix.transpose_apply, range, range]
  · ext j k
    rw [Matrix.transpose_apply, domain, domain]

/-- Weights of zero, so that every unit makes one half of every row. -/
def flatTools : ElmTools where
  exp _ := 1
  sqrt x := x
  normal _ _ _ := (fun _ _ => 0, fun _ => 0)
  pinv := flatPinv

/-! ### Units -/

/-- Columns in other units. -/
structure UnitChange (width : Nat) where
  scale : Fin width → ℚ
  shift : Fin width → ℚ
  positive : ∀ i, 0 < scale i

namespace UnitChange
variable {n width : Nat}

def row (u : UnitChange width) (x : Fin width → ℚ) : Fin width → ℚ := fun i => u.scale i * x i + u.shift i

def rows (u : UnitChange width) (X : Matrix (Fin n) (Fin width) ℚ) : Matrix (Fin n) (Fin width) ℚ := fun r => u.row (X r)

/-- The square root takes the scales out of the variances, and no deviation counts as vanishing in one of the units
only. -/
def Keeps (u : UnitChange width) (sqrt : ℚ → ℚ) (X : Matrix (Fin n) (Fin width) ℚ) : Prop :=
  ∀ i, sqrt (u.scale i ^ 2 * columnVariance X i) = u.scale i * sqrt (columnVariance X i) ∧
    (u.scale i = 1 ∨ 1 / 10 ^ 8 ≤ sqrt (columnVariance X i) ∧ 1 / 10 ^ 8 ≤ u.scale i * sqrt (columnVariance X i))

instance (u : UnitChange width) (sqrt : ℚ → ℚ) (X : Matrix (Fin n) (Fin width) ℚ) : Decidable (u.Keeps sqrt X) :=
  inferInstanceAs (Decidable (∀ _, _ ∧ _))

variable {u : UnitChange width} {sqrt : ℚ → ℚ} {X : Matrix (Fin n) (Fin width) ℚ}

theorem columnMean_rows (some_ : n ≠ 0) (i : Fin width) :
    columnMean (u.rows X) i = u.scale i * columnMean X i + u.shift i := by
  have count : (n : ℚ) ≠ 0 := Nat.cast_ne_zero.mpr some_
  unfold columnMean rows row
  rw [Finset.sum_add_distrib, ← Finset.mul_sum, Finset.sum_const, Finset.card_univ, Fintype.card_fin, nsmul_eq_mul]
  field_simp

theorem columnVariance_rows (some_ : n ≠ 0) (i : Fin width) :
    columnVariance (u.rows X) i = u.scale i ^ 2 * columnVariance X i := by
  unfold columnVariance
  rw [columnMean_rows some_, mul_div_assoc', Finset.mul_sum]
  congr 1
  refine Finset.sum_congr rfl fun r _ => ?_
  show (u.scale i * X r i + u.shift i - _) ^ 2 = _
  ring

theorem columnStd_rows (some_ : n ≠ 0) (keeps : u.Keeps sqrt X) (i : Fin width) :
    columnStd sqrt (u.rows X) i = u.scale i * columnStd sqrt X i := by
  obtain ⟨root, alike⟩ := keeps i
  unfold columnStd
  dsimp only
  rw [columnVariance_rows some_, root]
  rcases alike with one | ⟨large, scaled⟩
  · rw [one, one_mul, one_mul]
  · rw [if_neg (not_lt.mpr large), if_neg (not_lt.mpr scaled)]

theorem standardize_row (some_ : n ≠ 0) (keeps : u.Keeps sqrt X) (x : Fin width → ℚ) (i : Fin width) :
    (u.row x i - columnMean (u.rows X) i) / columnStd sqrt (u.rows X) i =
      (x i - columnMean X i) / columnStd sqrt X i := by
  have scale := (u.positive i).ne'
  rw [columnMean_rows some_, columnStd_rows some_ keeps]
  unfold row
  rw [add_sub_add_right_eq_sub, ← mul_sub, mul_div_mul_left _ _ scale]

end UnitChange

section
variable {n inputDim outputDim nHidden : Nat} {tools : ElmTools} {X : Matrix (Fin n) (Fin inputDim) ℚ}
  {y : Matrix (Fin n) (Fin outputDim) ℚ} {seed : Int} {u : UnitChange inputDim} {v : UnitChange outputDim}

theorem elmLayer_hidden_units (some_ : n ≠ 0) (features : u.Keeps tools.sqrt X) (x : Fin inputDim → ℚ) (j : Fin nHidden) :
    (elmLayer tools (u.rows X) (v.rows y) nHidden seed).hidden tools.exp (u.row x) j =
      (elmLayer tools X y nHidden seed).hidden tools.exp x j := by
  unfold ElmModel.hidden
  congr 2
  refine Finset.sum_congr rfl fun i _ => ?_
  exact congrArg (· * _) (UnitChange.standardize_row some_ features x i)

/-- Training in other units is training: what the model forecasts is the same in its own units. -/
theorem trainElm_units (some_ : n ≠ 0) (features : u.Keeps tools.sqrt X) (targets : v.Keeps tools.sqrt y)
    (x : Fin inputDim → ℚ) :
    (trainElm tools (u.rows X) (v.rows y) nHidden seed).predictRow tools.exp (u.row x) =
      v.row ((trainElm tools X y nHidden seed).predictRow tools.exp x) := by
  have hidden : (elmLayer tools (u.rows X) (v.rows y) nHidden seed).hiddenRows tools.exp (u.rows X) =
      (elmLayer tools X y nHidden seed).hiddenRows tools.exp X :=
    funext fun r => funext fun j => elmLayer_hidden_units some_ features (X r) j
  have solved : standardized tools.sqrt (v.rows y) = standardized tools.sqrt y :=
    funext fun r => funext fun o => UnitChange.standardize_row some_ targets (y r) o
  have beta : (trainElm tools (u.rows X) (v.rows y) nHidden seed).beta = (trainElm tools X y nHidden seed).beta := by
    show tools.pinv _ * _ = tools.pinv _ * _
    rw [hidden, solved]
  funext o
  have units : ∀ j, (elmLayer tools (u.rows X) (v.rows y) nHidden seed).hidden tools.exp (u.row x) j =
      (elmLayer tools X y nHidden seed).hidden tools.exp x j := fun j => elmLayer_hidden_units some_ features x j
  have layer : ∑ j, (trainElm tools (u.rows X) (v.rows y) nHidden seed).hidden tools.exp (u.row x) j *
      (trainElm tools X y nHidden seed).beta j o = ∑ j, (trainElm tools X y nHidden seed).hidden tools.exp x j *
        (trainElm tools X y nHidden seed).beta j o :=
    Finset.sum_congr rfl fun j _ => congrArg (· * _) (units j)
  unfold ElmModel.predictRow
  rw [beta, layer]
  show _ * columnStd tools.sqrt (v.rows y) o + columnMean (v.rows y) o =
    v.scale o * (_ * columnStd tools.sqrt y o + columnMean y o) + v.shift o
  rw [UnitChange.columnStd_rows some_ targets, UnitChange.columnMean_rows some_]
  ring

/-- The square root of the squares. -/
def exactSqrt (q : ℚ) : ℚ := (q.num.toNat.sqrt : ℚ) / q.den.sqrt

def squareTools : ElmTools := { flatTools with sqrt := exactSqrt }

/-- Temperatures in Celsius and the intensities at them. -/
def celsiusRows : Matrix (Fin 2) (Fin 1) ℚ := fun r _ => if r = 0 then 400 else 410

def intensityRows : Matrix (Fin 2) (Fin 1) ℚ := fun r _ => if r = 0 then 600 else 620

def toFahrenheit : UnitChange 1 := ⟨fun _ => 9 / 5, fun _ => 32, fun _ => by norm_num⟩

def toKwh : UnitChange 1 := ⟨fun _ => 1163 / 100, fun _ => 0, fun _ => by norm_num⟩

theorem trainElm_units_fahrenheit :
    (trainElm squareTools (toFahrenheit.rows celsiusRows) (toKwh.rows intensityRows) 2 42).predictRow squareTools.exp
        (toFahrenheit.row fun _ => 405) =
      toKwh.row ((trainElm squareTools celsiusRows intensityRows 2 42).predictRow squareTools.exp fun _ => 405) :=
  trainElm_units (by decide) (by decide +kernel) (by decide +kernel) _

end

/-! ### What is registered -/

/-- The last step of what is registered under a key: a fit of the entry's dataset. -/
def Fitted {M : Type} (learner : Learner M) (key : String × ModelKind) (entry : Registration M) : Prop :=
  ∃ cfg fit, fitAndScore learner cfg key.2 entry.dataset = .ok fit ∧ entry.registered.model = fit.model

section
variable {M : Type} {learner : Learner M} {cfg : Settings} {store : ModelStore M} {request : TrainRequest}
  {dataset : MLDataset} {key : String × ModelKind} {entry : Registration M}

theorem saveLocal_model {model : M} {kind : ModelKind} {plantCode : String} {mapeValue : ExtRat} {metrics : TrainMetrics}
    {stamp : SaveStamp}
    (found : (saveLocal store model kind plantCode mapeValue metrics dataset stamp).1.registry.get? key = some entry) :
    store.registry.get? key = some entry ∨ key.2 = kind ∧ entry.dataset = dataset ∧ entry.registered.model = model := by
  unfold saveLocal at found
  dsimp only at found
  rw [Dict.get?_set] at found
  split at found
  · rename_i own
    cases found
    exact .inr ⟨congrArg Prod.snd own, rfl, rfl⟩
  · exact .inl found

theorem registerFit_model {version : Option String} {fit : Fit M}
    (found : (registerFit cfg store request dataset version fit).1.registry.get? key = some entry) :
    store.registry.get? key = some entry ∨
      key.2 = request.kind ∧ entry.dataset = dataset ∧ entry.registered.model = fit.model := by
  unfold registerFit at found
  dsimp only at found
  split at found
  · exact .inl found
  · unfold logToMlflow at found
    split at found
    · exact saveLocal_model found
    · cases logged : request.mlflow with
      | failed =>
        rw [logged] at found
        exact saveLocal_model found
      | savedOnly stamp =>
        rw [logged] at found
        exact (saveLocal_model found).elim saveLocal_model .inr
      | logged stamp runId =>
        rw [logged] at found
        exact (saveLocal_model found).elim saveLocal_model .inr

theorem trainModel_fitted (found : (trainModel learner cfg store request).1.registry.get? key = some entry) :
    store.registry.get? key = some entry ∨ Fitted learner key entry := by
  refine trainModel_new (fun calibrated dataset version fit _ scored registered => ?_) found
  refine (registerFit_model registered).imp_right ?_
  rintro ⟨kind, rfl, model⟩
  exact ⟨cfg, fit, kind ▸ scored, model⟩

/-- Every registered model is a fit of the dataset that it is registered with. -/
def RegistryFitted (learner : Learner M) (s : TrustState M) : Prop :=
  ∀ key entry, s.store.registry.get? key = some entry → Fitted learner key entry

theorem trustStep_fitted (s : TrustState M) (action : TrustAction) (fitted : RegistryFitted learner s) :
    RegistryFitted learner (trustStep learner s action) := by
  intro key entry found
  cases action with
  | train request => exact (trainModel_fitted found).elim (fitted key entry) id
  | cycle inputs => exact (runOnce_new (fun _ _ => trainModel_fitted) found).elim (fitted key entry) id
  | predict request => exact fitted key entry found
  | configure settings => exact fitted key entry found

end

/-- A registered model: an extreme learning machine over the features, or a model of another kind. -/
inductive Trained (L : Type) where
  | elm (nHidden : Nat) (m : ElmModel 5 nHidden 2)
  | lstm (m : L)

def featureRows (rows : List Sample) : Matrix (Fin rows.length) (Fin 5) ℚ := fun r i => (rows.get r).features.getD i 0

def targetRows (rows : List Sample) : Matrix (Fin rows.length) (Fin 2) ℚ :=
  fun r o => (rows.get r).targets.getD o 0

section
variable {L : Type} (tools : ElmTools) (learner : Learner (Trained L))

/-- The training and the forecasts of the extreme learning machine in the place of the learner's own. -/
def elmLearner : Learner (Trained L) :=
  { learner with
    trainElm := fun rows nHidden seed =>
      .ok (.elm nHidden (trainElm tools (featureRows rows) (targetRows rows) nHidden seed))
    predict := fun model rows =>
      match model with
      | .elm _ m => .ok (rows.map (m.predict tools.exp))
      | .lstm _ => learner.predict model rows }

/-- The rows that a training is given: its part of the dataset, with virtual rows behind them. -/
def TrainedOn (cfg : Settings) (dataset : MLDataset) (rows : List Sample) : Prop :=
  let temporal := dataset.source == "timescaledb"
  ∃ train test count, trainTestSplit learner.shuffle dataset (if temporal then cfg.mlHoldoutRatio else cfg.mlTestRatio)
      cfg.mlSeed temporal = .ok (train, test) ∧ vsgAugment learner cfg train = .ok (rows, count)

/-- A registered extreme learning machine fits the rows it was trained on with the least squared error. -/
def FitsLeast (entry : Registration (Trained L)) : Prop :=
  ∃ cfg rows m, TrainedOn learner cfg entry.dataset rows ∧ entry.registered.model = .elm cfg.mlElmHidden m ∧
    m.LeastFit tools.exp (featureRows rows) (targetRows rows)

variable {tools learner}

theorem fitAndScore_elm {cfg : Settings} {dataset : MLDataset} {fit : Fit (Trained L)}
    (scored : fitAndScore (elmLearner tools learner) cfg .elm dataset = .ok fit) :
    ∃ rows, TrainedOn learner cfg dataset rows ∧ fit.model = .elm cfg.mlElmHidden
      (trainElm tools (featureRows rows) (targetRows rows) cfg.mlElmHidden cfg.mlSeed) := by
  unfold fitAndScore at scored
  obtain ⟨⟨train, test⟩, split, scored⟩ := bind_eq_ok.mp scored
  obtain ⟨⟨rows, count⟩, grown, scored⟩ := bind_eq_ok.mp scored
  obtain ⟨model, trained, scored⟩ := bind_eq_ok.mp scored
  obtain ⟨yPred, _, scored⟩ := bind_eq_ok.mp scored
  obtain ⟨mape, _, scored⟩ := bind_eq_ok.mp scored
  have made : fit.model = model := by
    split at scored
    · cases scored
    · cases scored
      rfl
  have plain : (dataset.source == "timescaledb" || ModelKind.elm == .lstm) = (dataset.source == "timescaledb") :=
    Bool.or_false _
  rw [plain] at split
  rw [made]
  cases raised_eq_ok.mp trained
  exact ⟨rows, ⟨train, test, count, split, grown⟩, rfl⟩

/-- Where the pseudo-inverses are exact, every extreme learning machine that any run of trainings, cycles and changes of
the settings has registered fits the rows it was trained on as well as any output weights could. -/
theorem registered_elm_least (tools : ElmTools) (learner : Learner (Trained L))
    (pseudo : ∀ rows nHidden seed, Inverts tools (featureRows rows) (targetRows rows) nHidden seed) (cfg : Settings)
    (calibration : Option String) (actions : List TrustAction) :
    ∀ plantCode entry, (run (trustStep (elmLearner tools learner)) ⟨cfg, .empty, calibration⟩ actions).store.registry.get?
      (plantCode, .elm) = some entry → FitsLeast tools learner entry := by
  intro plantCode entry found
  have start : RegistryFitted (elmLearner tools learner) ⟨cfg, .empty, calibration⟩ := by
    intro key entry found
    cases found
  obtain ⟨cfg, fit, scored, model⟩ := run_invariant trustStep_fitted start _ entry found
  obtain ⟨rows, trained, made⟩ := fitAndScore_elm scored
  exact ⟨cfg, rows, _, trained, model.trans made, trainElm_least (pseudo rows cfg.mlElmHidden cfg.mlSeed)⟩

end

def flatLearner : Learner (Trained Unit) where
  numpy := meanLearner.numpy
  calibration := meanLearner.calibration
  shuffle := meanLearner.shuffle
  syntheticFrame := meanLearner.syntheticFrame
  virtualSamples := meanLearner.virtualSamples
  trainElm _ _ _ := .error "replaced"
  trainLstm _ _ _ _ _ _ _ := .ok (.lstm ())
  predict _ _ := .ok []

theorem registered_elm_least_flat :
    let s := run (trustStep (elmLearner flatTools flatLearner)) ⟨{ demoSettings with mlElmHidden := 2 }, .empty, none⟩
      [.train demoRequest]
    (s.store.registry.get? ("olefin", .elm)).isSome = true ∧
      ∀ plantCode entry, s.store.registry.get? (plantCode, .elm) = some entry → FitsLeast flatTools flatLearner entry := by
  refine ⟨by decide +kernel, registered_elm_least flatTools flatLearner (fun rows nHidden seed => ?_) _ none _⟩
  exact flatPinv_inverts fun r j => by simp [ElmModel.hiddenRows, ElmModel.hidden, elmLayer, flatTools, sigmoid]; norm_num

end Iems.Ml
