import Mathlib.Logic.Basic

/-! Computations that may raise. -/
namespace Iems.Lib

theorem bind_eq_ok {ε α β : Type} {x : Except ε α} {f : α → Except ε β} {b : β} :
    (x >>= f) = .ok b ↔ ∃ a, x = .ok a ∧ f a = .ok b := by
  cases x with
  | error _ =>
    constructor
    · intro raised
      cases raised
    · rintro ⟨_, raised, _⟩
      cases raised
  | ok a =>
    constructor
    · intro rest
      exact ⟨a, rfl, rest⟩
    · rintro ⟨_, same, rest⟩
      cases same
      exact rest

/-- What a sequence raises comes from one of its parts. -/
theorem bind_eq_error {ε α β : Type} {x : Except ε α} {f : α → Except ε β} {e : ε} (stopped : (x >>= f) = .error e) :
    x = .error e ∨ ∃ a, x = .ok a ∧ f a = .error e := by
  cases x with
  | error _ =>
    cases stopped
    exact Or.inl rfl
  | ok a => exact Or.inr ⟨a, rfl, stopped⟩

theorem toOption_eq_some {ε α : Type} {x : Except ε α} {a : α} : x.toOption = some a ↔ x = .ok a := by
  cases x <;> simp [Except.toOption]

theorem mapM_eq_some {α β : Type} {f : α → Option β} {xs : List α} {ys : List β} :
    xs.mapM f = some ys ↔ xs.map f = ys.map some := by
  induction xs generalizing ys with
  | nil => cases ys <;> simp
  | cons x xs ih =>
    rw [List.mapM_cons, List.map_cons]
    cases first : f x with
    | none => cases ys <;> simp
    | some y =>
      cases read : xs.mapM f with
      | none => cases ys <;> simp [← ih, read]
      | some later => cases ys <;> simp [← ih, read]

theorem mapM_exists {α β : Type} {f : α → Option β} {xs : List α} (each : ∀ x ∈ xs, ∃ y, f x = some y) :
    ∃ ys, xs.mapM f = some ys := by
  induction xs with
  | nil => exact ⟨[], rfl⟩
  | cons x xs ih =>
    obtain ⟨y, first⟩ := each x List.mem_cons_self
    obtain ⟨ys, rest⟩ := ih fun z later => each z (List.mem_cons_of_mem _ later)
    exact ⟨y :: ys, by simp [List.mapM_cons, first, rest]⟩

/-- What is done to each result may be done to all of them at the end. -/
theorem mapM_then {α β γ : Type} (f : α → Option β) (g : β → γ) (xs : List α) :
    (xs.mapM fun x => (f x).map g) = (xs.mapM f).map (·.map g) := by
  induction xs with
  | nil => rfl
  | cons x rest ih =>
    rw [List.mapM_cons, List.mapM_cons, ih]
    cases f x with
    | none => rfl
    | some first => cases rest.mapM f <;> rfl

end Iems.Lib
