import Mathlib.Data.List.Nodup
import Mathlib.Data.List.Perm.Basic

/-! The place of an entry in a stable sort: which entries come before it, and when the first ones include it. -/
namespace Iems.Lib

variable {α : Type} {le : α → α → Bool}

/-- An entry comes before another when it is less, or equal and earlier in the list. -/
def Precedes (le : α → α → Bool) (l : List α) (x r : α) : Prop :=
  le x r = true ∧ (le r x = false ∨ [x, r].Sublist l)

instance [DecidableEq α] (le : α → α → Bool) (l : List α) (x r : α) : Decidable (Precedes le l x r) :=
  inferInstanceAs (Decidable (_ ∧ _))

def preceding [DecidableEq α] (le : α → α → Bool) (l : List α) (r : α) : List α :=
  l.filter fun x => Precedes le l x r

theorem pair_order {l : List α} {x r : α} (distinct : l.Nodup) (before : [x, r].Sublist l) : ¬ [r, x].Sublist l := by
  induction l with
  | nil => cases before
  | cons a rest ih =>
    obtain ⟨fresh, distinct⟩ := List.nodup_cons.mp distinct
    intro after
    cases before with
    | cons _ before =>
      cases after with
      | cons _ after => exact ih distinct before after
      | cons_cons _ _ => exact fresh (before.subset (by simp))
    | cons_cons _ second =>
      have later : r ∈ rest := List.singleton_sublist.mp second
      cases after with
      | cons _ after => exact fresh (after.subset (by simp))
      | cons_cons _ _ => exact fresh later

theorem pair_cases {l : List α} {x r : α} (first : x ∈ l) (second : r ∈ l) (apart : x ≠ r) :
    [x, r].Sublist l ∨ [r, x].Sublist l := by
  induction l with
  | nil => cases first
  | cons a rest ih =>
    rcases List.mem_cons.mp first with rfl | early
    · rcases List.mem_cons.mp second with rfl | late
      · exact absurd rfl apart
      · exact Or.inl ((List.singleton_sublist.mpr late).cons_cons _)
    · rcases List.mem_cons.mp second with rfl | late
      · exact Or.inr ((List.singleton_sublist.mpr early).cons_cons _)
      · exact (ih early late).imp (·.cons a) (·.cons a)

section
variable {l pre post : List α} {r : α}

theorem mem_before_iff (trans : ∀ a b c, le a b → le b c → le a c) (total : ∀ a b, le a b || le b a)
    (distinct : l.Nodup) (split : l.mergeSort le = pre ++ r :: post) (x : α) :
    x ∈ pre ↔ x ∈ l ∧ Precedes le l x r := by
  have sorted := List.pairwise_mergeSort trans total l
  have unique : (pre ++ r :: post).Nodup := split ▸ (List.mergeSort_perm l le).nodup_iff.mpr distinct
  have member {y : α} : y ∈ pre ++ r :: post ↔ y ∈ l := split ▸ List.mem_mergeSort
  have stable {y z : α} (ordered : le y z) (listed : [y, z].Sublist l) : [y, z].Sublist (pre ++ r :: post) :=
    split ▸ List.pair_sublist_mergeSort trans total ordered listed
  rw [split] at sorted
  obtain ⟨_, rest, across⟩ := List.pairwise_append.mp sorted
  constructor
  · intro before
    have listed := member.mp (List.mem_append_left _ before)
    have first : [x, r].Sublist (pre ++ r :: post) :=
      (List.singleton_sublist.mpr before).append (List.singleton_sublist.mpr List.mem_cons_self)
    have apart : x ≠ r := by
      rintro rfl
      exact List.disjoint_of_nodup_append unique before List.mem_cons_self
    refine ⟨listed, across x before r List.mem_cons_self, ?_⟩
    cases back : le r x with
    | false => exact Or.inl rfl
    | true =>
      rcases pair_cases listed (member.mp (by simp)) apart with inOrder | reversed
      · exact Or.inr inOrder
      · exact absurd (stable back reversed) (pair_order unique first)
  · rintro ⟨listed, ordered, less⟩
    rcases List.mem_append.mp (member.mpr listed) with before | after
    · exact before
    · exfalso
      have reflexive : le r r = true := by simpa using total r r
      rcases List.mem_cons.mp after with rfl | later
      · rcases less with strictly | twice
        · simp [reflexive] at strictly
        · exact pair_order distinct twice twice
      · have back : le r x = true := List.rel_of_pairwise_cons rest later
        rcases less with strictly | inOrder
        · simp [back] at strictly
        · have second : [r, x].Sublist (pre ++ r :: post) :=
            ((List.singleton_sublist.mpr later).cons_cons r).trans (List.sublist_append_right _ _)
          exact pair_order unique (stable ordered inOrder) second

/-- The first `n` entries of a stable sort include an entry exactly when fewer than `n` come before it. -/
theorem mem_take_mergeSort_iff [DecidableEq α] (trans : ∀ a b c, le a b → le b c → le a c)
    (total : ∀ a b, le a b || le b a) (distinct : l.Nodup) (listed : r ∈ l) (n : Nat) :
    r ∈ (l.mergeSort le).take n ↔ (preceding le l r).length < n := by
  obtain ⟨pre, post, split⟩ := List.append_of_mem (List.mem_mergeSort.mpr listed)
  have unique : (pre ++ r :: post).Nodup := split ▸ (List.mergeSort_perm l le).nodup_iff.mpr distinct
  have absent : r ∉ pre := fun before => List.disjoint_of_nodup_append unique before List.mem_cons_self
  have same : pre.Perm (preceding le l r) := by
    unfold preceding
    rw [List.perm_ext_iff_of_nodup (List.nodup_append.mp unique).1 (distinct.filter _)]
    intro x
    rw [mem_before_iff trans total distinct split, List.mem_filter, decide_eq_true_eq]
  rw [← same.length_eq, split, List.take_append, List.mem_append]
  constructor
  · rintro (early | late)
    · exact absurd (List.mem_of_mem_take early) absent
    · by_contra reached
      rw [Nat.sub_eq_zero_of_le (Nat.le_of_not_lt reached), List.take_zero] at late
      cases late
  · intro within
    refine Or.inr ?_
    obtain ⟨k, more⟩ := Nat.exists_eq_add_of_lt within
    rw [show n - pre.length = k + 1 by omega, List.take_succ_cons]
    exact List.mem_cons_self

end

end Iems.Lib
