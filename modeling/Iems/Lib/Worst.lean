import Mathlib.Data.List.Basic

/-! Worst-of: the entry of greatest rank met in a scan. -/
namespace Iems.Lib

variable {α : Type} {rank : α → Nat}

def worse (rank : α → Nat) (worst entry : α) : α := if rank worst < rank entry then entry else worst

def worstOf (rank : α → Nat) (start : α) (entries : List α) : α := entries.foldl (worse rank) start

theorem worse_cases (worst entry : α) :
    (worse rank worst entry = worst ∧ rank entry ≤ rank worst) ∨
      (worse rank worst entry = entry ∧ rank worst < rank entry) := by
  unfold worse
  split
  · rename_i higher
    exact Or.inr ⟨rfl, higher⟩
  · rename_i lower
    exact Or.inl ⟨rfl, Nat.le_of_not_lt lower⟩

theorem worstOf_mem (start : α) (entries : List α) : worstOf rank start entries ∈ start :: entries := by
  induction entries generalizing start with
  | nil => exact List.mem_cons_self
  | cons entry rest ih =>
    have member : worstOf rank start (entry :: rest) ∈ worse rank start entry :: rest := ih _
    rcases @worse_cases _ rank start entry with ⟨kept, _⟩ | ⟨replaced, _⟩
    · rw [kept] at member
      rcases List.mem_cons.mp member with equal | later
      · exact List.mem_cons.mpr (Or.inl equal)
      · exact List.mem_cons_of_mem _ (List.mem_cons_of_mem _ later)
    · rw [replaced] at member
      exact List.mem_cons_of_mem _ member

theorem le_worse (worst entry : α) :
    rank worst ≤ rank (worse rank worst entry) ∧ rank entry ≤ rank (worse rank worst entry) := by
  rcases @worse_cases _ rank worst entry with ⟨kept, lower⟩ | ⟨replaced, higher⟩
  · rw [kept]
    exact ⟨Nat.le_refl _, lower⟩
  · rw [replaced]
    exact ⟨Nat.le_of_lt higher, Nat.le_refl _⟩

theorem start_le_worstOf (start : α) (entries : List α) : rank start ≤ rank (worstOf rank start entries) := by
  induction entries generalizing start with
  | nil => exact Nat.le_refl _
  | cons next rest ih => exact Nat.le_trans (le_worse start next).1 (ih _)

theorem le_worstOf {start entry : α} {entries : List α} (member : entry ∈ entries) :
    rank entry ≤ rank (worstOf rank start entries) := by
  induction entries generalizing start with
  | nil => cases member
  | cons next rest ih =>
    rcases List.mem_cons.mp member with first | later
    · subst first
      exact Nat.le_trans (le_worse start entry).2 (start_le_worstOf _ rest)
    · exact ih later

/-- Under an injective rank the worst entry is the member that no other one outranks. -/
theorem worstOf_eq_iff (injective : ∀ a b, rank a = rank b → a = b) {start worst : α} {entries : List α} :
    worstOf rank start entries = worst ↔
      worst ∈ start :: entries ∧ rank start ≤ rank worst ∧ ∀ entry ∈ entries, rank entry ≤ rank worst := by
  constructor
  · rintro rfl
    exact ⟨worstOf_mem start entries, start_le_worstOf start entries, fun _ => le_worstOf⟩
  · rintro ⟨member, aboveStart, aboveEntries⟩
    have upper : rank (worstOf rank start entries) ≤ rank worst := by
      rcases List.mem_cons.mp (@worstOf_mem _ rank start entries) with first | later
      · rw [first]
        exact aboveStart
      · exact aboveEntries _ later
    have lower : rank worst ≤ rank (worstOf rank start entries) := by
      rcases List.mem_cons.mp member with first | later
      · rw [first]
        exact start_le_worstOf start entries
      · exact le_worstOf later
    exact injective _ _ (Nat.le_antisymm upper lower)

end Iems.Lib
