import Mathlib.Data.List.Basic

/-! Texts cut at the first few occurrences of a separator, and fields joined around one. -/
namespace Iems.Lib

variable {α : Type} [DecidableEq α] {sep : α}

/-- At most `limit` cuts, at the leftmost separators; the last piece keeps the rest. -/
def splitMax (sep : α) : Nat → List α → List (List α)
  | 0, text => [text]
  | limit + 1, text =>
    if sep ∈ text then
      text.takeWhile (· ≠ sep) :: splitMax sep limit (text.dropWhile (· ≠ sep)).tail
    else [text]

theorem field_kept {field : List α} (free : sep ∉ field) : ∀ c ∈ field, decide (c ≠ sep) = true := by
  intro c member
  exact decide_eq_true (ne_of_mem_of_not_mem member free)

theorem takeWhile_field {field rest : List α} (free : sep ∉ field) :
    (field ++ sep :: rest).takeWhile (· ≠ sep) = field := by
  rw [List.takeWhile_append_of_pos (field_kept free), List.takeWhile_cons_of_neg (by simp), List.append_nil]

theorem dropWhile_field {field rest : List α} (free : sep ∉ field) :
    (field ++ sep :: rest).dropWhile (· ≠ sep) = sep :: rest := by
  rw [List.dropWhile_append_of_pos (field_kept free), List.dropWhile_cons_of_neg (by simp)]

/-- A text that holds the separator is a field without it, the separator and a rest. -/
theorem first_separator {text : List α} (held : sep ∈ text) :
    ∃ field rest, text = field ++ sep :: rest ∧ sep ∉ field := by
  induction text with
  | nil => cases held
  | cons c text ih =>
    by_cases here : c = sep
    · exact ⟨[], text, by rw [here]; rfl, by simp⟩
    · have later : sep ∈ text := (List.mem_cons.mp held).resolve_left (Ne.symm here)
      obtain ⟨field, rest, text_eq, free⟩ := ih later
      refine ⟨c :: field, rest, by rw [text_eq]; rfl, ?_⟩
      simp [free, Ne.symm here]

theorem splitMax_field {field rest : List α} (limit : Nat) (free : sep ∉ field) :
    splitMax sep (limit + 1) (field ++ sep :: rest) = field :: splitMax sep limit rest := by
  rw [splitMax, if_pos (by simp), takeWhile_field free, dropWhile_field free, List.tail_cons]

/-- A first piece with more to come ends at the first separator. -/
theorem splitMax_cons {text field next : List α} {rest : List (List α)} {limit : Nat} :
    splitMax sep (limit + 1) text = field :: next :: rest ↔
      ∃ tail, text = field ++ sep :: tail ∧ sep ∉ field ∧ splitMax sep limit tail = next :: rest := by
  constructor
  · intro cut
    by_cases held : sep ∈ text
    · obtain ⟨first, tail, rfl, free⟩ := first_separator held
      rw [splitMax_field limit free] at cut
      obtain ⟨rfl, more⟩ := List.cons.inj cut
      exact ⟨tail, rfl, free, more⟩
    · unfold splitMax at cut
      rw [if_neg held] at cut
      cases cut
  · rintro ⟨tail, rfl, free, more⟩
    rw [splitMax_field limit free, more]

/-! ### Fields are recovered from either end -/

theorem field_unique {a b restA restB : List α} (freeA : sep ∉ a) (freeB : sep ∉ b)
    (same : a ++ sep :: restA = b ++ sep :: restB) : a = b ∧ restA = restB := by
  have fields : a = b := by
    rw [← @takeWhile_field _ _ _ _ restA freeA, same, takeWhile_field freeB]
  subst fields
  exact ⟨rfl, List.cons.inj (List.append_cancel_left same) |>.2⟩

theorem last_field_unique {a b restA restB : List α} (freeA : sep ∉ a) (freeB : sep ∉ b)
    (same : restA ++ sep :: a = restB ++ sep :: b) : restA = restB ∧ a = b := by
  have flipped := congrArg List.reverse same
  simp only [List.reverse_append, List.reverse_cons, List.append_assoc, List.singleton_append] at flipped
  obtain ⟨fields, rests⟩ := field_unique (by simpa using freeA) (by simpa using freeB) flipped
  exact ⟨List.reverse_injective rests, List.reverse_injective fields⟩

/-! ### Cuts at every separator -/

def splitAll (sep : α) : List α → List (List α)
  | [] => [[]]
  | c :: text =>
    if c = sep then [] :: splitAll sep text
    else
      match splitAll sep text with
      | [] => [[c]]
      | field :: rest => (c :: field) :: rest

theorem splitAll_field {field : List α} (free : sep ∉ field) (rest : List α) :
    splitAll sep (field ++ sep :: rest) = field :: splitAll sep rest := by
  induction field with
  | nil => simp [splitAll]
  | cons c field ih =>
    obtain ⟨other, later⟩ := not_or.mp (fun held => free (List.mem_cons.mpr held))
    rw [List.cons_append, splitAll, if_neg (Ne.symm other), ih later]

/-- Fields that are each ended by a separator come back, with the empty one behind the last. -/
theorem splitAll_ended {fields : List (List α)} (free : ∀ field ∈ fields, sep ∉ field) :
    splitAll sep (fields.flatMap fun field => field ++ [sep]) = fields ++ [[]] := by
  induction fields with
  | nil => rfl
  | cons field rest ih =>
    rw [List.flatMap_cons, List.append_assoc, List.singleton_append, splitAll_field (free field List.mem_cons_self),
      ih fun other member => free other (List.mem_cons_of_mem _ member), List.cons_append]

end Iems.Lib
