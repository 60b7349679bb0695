import Iems.Lib.Dict
import Mathlib.Data.List.Induction
import Mathlib.Data.List.TakeDrop
import Mathlib.Tactic.Linarith

/-! Bounded series, one for each key: an entry that does not fit pushes the oldest one out. -/
namespace Iems.Lib

variable {α K V M : Type} {n : ℕ} {l : List α}

/-- The last `n` entries. -/
def keepLast (n : ℕ) (l : List α) : List α := l.drop (l.length - n)

/-- The entries that the last `n` leave out. -/
def forgotten (n : ℕ) (l : List α) : List α := l.take (l.length - n)

theorem forgotten_append_keepLast (n : ℕ) (l : List α) : forgotten n l ++ keepLast n l = l := List.take_append_drop _ l

theorem keepLast_of_length (short : l.length ≤ n) : keepLast n l = l := by
  unfold keepLast
  rw [Nat.sub_eq_zero_of_le short, List.drop_zero]

theorem keepLast_push (n : ℕ) (l : List α) (x : α) : keepLast n (keepLast n l ++ [x]) = keepLast n (l ++ [x]) := by
  rcases Nat.le_total l.length n with short | long
  · rw [keepLast_of_length short]
  · have room : (keepLast n l).length = n := by
      unfold keepLast
      rw [List.length_drop]
      omega
    unfold keepLast at room ⊢
    rw [List.length_append, room, List.length_append, List.length_singleton]
    cases n with
    | zero => simp
    | succ m =>
      rw [List.drop_append_of_le_length (by omega), List.drop_append_of_le_length (by omega), List.drop_drop]
      congr 2
      omega

theorem getLast?_keepLast (positive : 0 < n) (l : List α) : (keepLast n l).getLast? = l.getLast? := by
  unfold keepLast
  rw [List.getLast?_drop]
  split
  · rename_i whole
    have empty : l.length = 0 := by omega
    rw [List.length_eq_zero_iff.mp empty]
    rfl
  · rfl

/-- A selection loses nothing exactly where it selects nothing that was pushed out. -/
theorem filter_keepLast_iff (p : α → Bool) (n : ℕ) (l : List α) :
    (keepLast n l).filter p = l.filter p ↔ ∀ x ∈ forgotten n l, p x = false := by
  have parts := congrArg (List.filter p) (forgotten_append_keepLast n l)
  rw [List.filter_append] at parts
  rw [← parts, List.self_eq_append_left, List.filter_eq_nil_iff]
  simp

/-- Entries a distance apart: the first and the last are all the distances apart. -/
theorem spaced_last {d x last : Int} {l : List Int} (spaced : (x :: l).Pairwise fun a b => a + d ≤ b)
    (end_ : l.getLast? = some last) : x + l.length * d ≤ last := by
  induction l generalizing x with
  | nil => exact nomatch end_
  | cons y rest ih =>
    obtain ⟨first, later⟩ := List.pairwise_cons.mp spaced
    have step := first y List.mem_cons_self
    cases rest with
    | nil =>
      cases end_
      simpa using step
    | cons z rest =>
      have more := ih later (by simpa using end_)
      rw [List.length_cons]
      push_cast at more ⊢
      linarith

/-- An entry that was pushed out lies `n` distances before the last one. -/
theorem forgotten_spaced {d x last : Int} {l : List Int} (positive : 0 < n) (spaced : l.Pairwise fun a b => a + d ≤ b)
    (out : x ∈ forgotten n l) (end_ : l.getLast? = some last) : x + n * d ≤ last := by
  have long : (keepLast n l).length = n := by
    have some_ := List.length_pos_of_mem out
    unfold forgotten at some_
    unfold keepLast
    rw [List.length_take] at some_
    rw [List.length_drop]
    omega
  rw [← forgotten_append_keepLast n l] at spaced
  obtain ⟨_, kept, across⟩ := List.pairwise_append.mp spaced
  have chain : (x :: keepLast n l).Pairwise fun a b => a + d ≤ b := List.pairwise_cons.mpr ⟨across x out, kept⟩
  have reach := spaced_last chain ((getLast?_keepLast positive l).trans end_)
  rwa [long] at reach

theorem map_forgotten {β : Type} (f : α → β) (n : ℕ) (l : List α) : (forgotten n l).map f = forgotten n (l.map f) := by
  unfold forgotten
  rw [List.map_take, List.length_map]

section
variable [DecidableEq K] (n) (keyOf : M → K) (value : M → V)

def pushSeries (series : Dict K (List V)) (message : M) : Dict K (List V) :=
  series.set (keyOf message) (keepLast n ((series.get? (keyOf message)).getD [] ++ [value message]))

/-- Each series holds the last entries of its key. -/
theorem getD_pushSeries (log : List M) (key : K) :
    ((log.foldl (pushSeries n keyOf value) .empty).get? key).getD [] =
      keepLast n ((log.filter fun message => keyOf message = key).map value) := by
  induction log using List.reverseRecOn with
  | nil => exact (keepLast_of_length (Nat.zero_le n)).symm
  | append_singleton before message ih =>
    rw [List.foldl_append, List.foldl_cons, List.foldl_nil]
    unfold pushSeries at ih ⊢
    rw [Dict.get?_set, List.filter_append, List.map_append]
    by_cases own : key = keyOf message
    · rw [if_pos own, ← own, ih, Option.getD_some, keepLast_push]
      simp [own]
    · have other : decide (keyOf message = key) = false := by simpa using Ne.symm own
      rw [if_neg own, ih]
      simp [other]

end

end Iems.Lib
