import Mathlib.Data.List.Basic
import Mathlib.Data.List.Pairwise

/-! Loops that stop at their first failure. -/
namespace Iems.Lib

variable {α β : Type} {f : α → Option β}

/-- The results of the entries before the first one without a result. -/
def untilNone (f : α → Option β) : List α → List β
  | [] => []
  | x :: rest =>
    match f x with
    | none => []
    | some y => y :: untilNone f rest

/-- The loop leaves no result out exactly where nothing but failures follows a failure. -/
theorem untilNone_eq_filterMap (xs : List α) :
    untilNone f xs = xs.filterMap f ↔ xs.Pairwise fun x y => f x = none → f y = none := by
  induction xs with
  | nil => exact ⟨fun _ => .nil, fun _ => rfl⟩
  | cons x rest ih =>
    rw [List.pairwise_cons]
    unfold untilNone
    cases found : f x with
    | none =>
      rw [List.filterMap_cons_none found, eq_comm, List.filterMap_eq_nil_iff]
      constructor
      · intro failed
        refine ⟨fun y member _ => failed y member, List.pairwise_iff_getElem.mpr ?_⟩
        intro i j _ bound _ _
        exact failed _ (List.getElem_mem bound)
      · rintro ⟨first, _⟩ y member
        exact first y member rfl
    | some y =>
      rw [List.filterMap_cons_some found, List.cons_inj_right, ih]
      exact (and_iff_right fun _ _ failed => nomatch failed).symm

theorem mem_untilNone {xs : List α} {y : β} (member : y ∈ untilNone f xs) : ∃ x ∈ xs, f x = some y := by
  induction xs with
  | nil => exact nomatch member
  | cons x rest ih =>
    unfold untilNone at member
    split at member
    · exact nomatch member
    · rename_i found
      rcases List.mem_cons.mp member with rfl | later
      · exact ⟨x, List.mem_cons_self, found⟩
      · obtain ⟨z, listed, same⟩ := ih later
        exact ⟨z, List.mem_cons_of_mem _ listed, same⟩

/-- Nothing behind an entry without a result is reached. -/
theorem untilNone_append {x : α} (before after : List α) (failed : f x = none) :
    untilNone f (before ++ x :: after) = untilNone f before := by
  induction before with
  | nil =>
    show untilNone f (x :: after) = []
    unfold untilNone
    rw [failed]
  | cons first rest ih =>
    rw [List.cons_append]
    unfold untilNone
    cases f first with
    | none => rfl
    | some y =>
      dsimp only
      rw [ih]

end Iems.Lib
