import Mathlib.Data.List.Chain
import Mathlib.Data.List.Induction
import Mathlib.Logic.Relation

/-! Runs of a step function: what one step preserves, a whole run preserves. -/
namespace Iems.Lib

variable {S A : Type} {step : S → A → S}

def run (step : S → A → S) (s : S) (actions : List A) : S := actions.foldl step s

@[simp] theorem run_nil (s : S) : run step s [] = s := rfl

@[simp] theorem run_cons (s : S) (action : A) (rest : List A) :
    run step s (action :: rest) = run step (step s action) rest := rfl

theorem run_append (s : S) (before after : List A) :
    run step s (before ++ after) = run step (run step s before) after :=
  List.foldl_append

theorem run_snoc (s : S) (before : List A) (action : A) :
    run step s (before ++ [action]) = step (run step s before) action := by
  rw [run_append]; rfl

def Meets (step : S → A → S) (ok : S → A → Prop) : S → List A → Prop
  | _, [] => True
  | s, action :: rest => ok s action ∧ Meets step ok (step s action) rest

theorem meets_of_forall {ok : S → A → Prop} {actions : List A} {s : S}
    (always : ∀ s action, action ∈ actions → ok s action) : Meets step ok s actions := by
  induction actions generalizing s with
  | nil => trivial
  | cons action rest ih =>
    exact ⟨always s action (by simp), ih (fun s a member => always s a (by simp [member]))⟩

/-- The run rule: an invariant that every permitted step keeps holds after every permitted run. -/
theorem Meets.invariant {ok : S → A → Prop} {inv : S → Prop} {s : S} {actions : List A}
    (keep : ∀ s action, inv s → ok s action → inv (step s action))
    (meets : Meets step ok s actions) (start : inv s) : inv (run step s actions) := by
  induction actions generalizing s with
  | nil => exact start
  | cons action rest ih =>
    obtain ⟨allowed, meets⟩ := meets
    exact ih meets (keep s action start allowed)

theorem run_invariant {inv : S → Prop} {s : S} {actions : List A}
    (keep : ∀ s action, inv s → inv (step s action)) (start : inv s) :
    inv (run step s actions) := by
  have meets : Meets step (fun _ _ => True) s actions := meets_of_forall fun _ _ _ => trivial
  exact meets.invariant (fun s action held _ => keep s action held) start

/-- The history rule: an invariant may speak of the actions taken so far. -/
theorem run_history {inv : List A → S → Prop} {s : S}
    (keep : ∀ before action, inv before (run step s before) →
      inv (before ++ [action]) (step (run step s before) action))
    (start : inv [] s) (actions : List A) : inv actions (run step s actions) := by
  induction actions using List.reverseRecOn with
  | nil => exact start
  | append_singleton before action ih =>
    rw [run_snoc]
    exact keep before action ih

theorem meets_append {ok : S → A → Prop} {s : S} {before after : List A} :
    Meets step ok s (before ++ after) ↔
      Meets step ok s before ∧ Meets step ok (run step s before) after := by
  induction before generalizing s with
  | nil => simp [Meets]
  | cons action rest ih => simp only [List.cons_append, Meets, ih, run_cons, and_assoc]

/-- A run is permitted when each action is, in the state that the actions before it lead to. -/
theorem meets_iff_prefixes {ok : S → A → Prop} {s : S} {actions : List A} :
    Meets step ok s actions ↔
      ∀ before action after, actions = before ++ action :: after → ok (run step s before) action := by
  constructor
  · intro meets before action after split
    rw [split, meets_append] at meets
    exact meets.2.1
  · intro each
    induction actions generalizing s with
    | nil => trivial
    | cons first rest ih =>
      refine ⟨each [] first rest rfl, ih ?_⟩
      intro before action after split
      exact each (first :: before) action after (by rw [split]; rfl)

def visited (step : S → A → S) : S → List A → List S
  | s, [] => [s]
  | s, action :: rest => s :: visited step (step s action) rest

theorem visited_head (s : S) (actions : List A) : (visited step s actions).head? = some s := by
  cases actions <;> rfl

theorem run_mem_visited (s : S) (actions : List A) : run step s actions ∈ visited step s actions := by
  induction actions generalizing s with
  | nil => exact List.mem_singleton_self s
  | cons action rest ih => exact List.mem_cons_of_mem _ (ih (step s action))

/-- A property that each step keeps exactly when it is permitted holds all along the permitted runs and no others. -/
theorem visited_iff_meets {ok : S → A → Prop} {inv good : S → Prop} {s : S} {actions : List A}
    (keep : ∀ s action, inv s → inv (step s action))
    (exact_ : ∀ s action, inv s → good s → (good (step s action) ↔ ok s action)) (start : inv s) (fine : good s) :
    (∀ t ∈ visited step s actions, good t) ↔ Meets step ok s actions := by
  induction actions generalizing s with
  | nil => simpa [visited, Meets] using fine
  | cons action rest ih =>
    simp only [visited, List.forall_mem_cons, Meets]
    by_cases allowed : ok s action
    · have next := (exact_ s action start fine).mpr allowed
      rw [ih (keep s action start) next]
      simp [fine, allowed]
    · refine iff_of_false ?_ fun both => allowed both.1
      rintro ⟨_, later⟩
      have first : step s action ∈ visited step (step s action) rest :=
        List.mem_of_mem_head? (visited_head (step s action) rest)
      exact allowed ((exact_ s action start fine).mp (later _ first))

/-- A relation that every permitted step satisfies links the states of a permitted run. -/
theorem Meets.chain {ok : S → A → Prop} {inv : S → Prop} {rel : S → S → Prop} {s : S}
    {actions : List A} (keep : ∀ s action, inv s → ok s action → inv (step s action))
    (related : ∀ s action, inv s → ok s action → rel s (step s action))
    (meets : Meets step ok s actions) (start : inv s) :
    (visited step s actions).IsChain rel := by
  induction actions generalizing s with
  | nil => simp [visited]
  | cons action rest ih =>
    obtain ⟨allowed, meets⟩ := meets
    rw [visited, List.isChain_cons]
    refine ⟨?_, ih meets (keep s action start allowed)⟩
    intro next first
    rw [visited_head, Option.mem_some_iff] at first
    exact first ▸ related s action start allowed

theorem moves_invariant {move : S → S → Prop} {inv : S → Prop} {s t : S}
    (keep : ∀ s t, move s t → inv s → inv t) (moves : Relation.ReflTransGen move s t) (start : inv s) : inv t := by
  induction moves with
  | refl => exact start
  | tail _ last ih => exact keep _ _ last ih

end Iems.Lib
