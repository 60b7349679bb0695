import Mathlib.Data.List.Infix

/-! Replacing a text in another one, and when the replacement can be undone. -/
namespace Iems.Lib

variable {α : Type}

/-! ### Joined pieces -/

theorem mem_intercalate {sep : List α} {parts : List (List α)} {c : α} (member : c ∈ sep.intercalate parts) :
    c ∈ sep ∨ ∃ p ∈ parts, c ∈ p := by
  induction parts with
  | nil => simp at member
  | cons p rest ih =>
    cases rest with
    | nil => exact Or.inr ⟨p, List.mem_cons_self, by simpa using member⟩
    | cons q rest =>
      rw [List.intercalate_cons_cons, List.mem_append, List.mem_append] at member
      rcases member with (here | inSep) | later
      · exact Or.inr ⟨p, List.mem_cons_self, here⟩
      · exact Or.inl inSep
      · refine (ih later).imp_right ?_
        rintro ⟨other, among, held⟩
        exact ⟨other, List.mem_cons_of_mem _ among, held⟩

theorem infix_intercalate {sep : List α} {parts : List (List α)} {p : List α} (member : p ∈ parts) :
    p <:+: sep.intercalate parts := by
  induction parts with
  | nil => cases member
  | cons q rest ih =>
    cases rest with
    | nil =>
      cases List.mem_singleton.mp member
      simp
    | cons next rest =>
      rw [List.intercalate_cons_cons]
      rcases List.mem_cons.mp member with rfl | later
      · exact ((List.prefix_append _ _).trans (List.prefix_append _ _)).isInfix
      · exact (ih later).trans (List.suffix_append _ _).isInfix

theorem intercalate_modifyHead {sep : List α} (c : α) {parts : List (List α)} (some_ : parts ≠ []) :
    sep.intercalate (parts.modifyHead (c :: ·)) = c :: sep.intercalate parts := by
  cases parts with
  | nil => exact absurd rfl some_
  | cons p rest => cases rest <;> simp [List.intercalate_cons_cons]

theorem prefix_stops {head : α} {w p rest : List α} (free : head ∉ w) (begins : w <+: p ++ head :: rest) : w <+: p := by
  induction p generalizing w with
  | nil =>
    cases w with
    | nil => exact List.nil_prefix
    | cons c w =>
      obtain ⟨same, _⟩ := List.cons_prefix_cons.mp begins
      exact absurd (same ▸ List.mem_cons_self) free
  | cons c p ih =>
    cases w with
    | nil => exact List.nil_prefix
    | cons d w =>
      obtain ⟨rfl, later⟩ := List.cons_prefix_cons.mp begins
      exact List.cons_prefix_cons.mpr ⟨rfl, ih (fun inside => free (List.mem_cons_of_mem _ inside)) later⟩

theorem infix_after {head : α} {w p rest : List α} (free : head ∉ p) (inside : head :: w <:+: p ++ rest) :
    head :: w <:+: rest := by
  induction p with
  | nil => exact inside
  | cons c p ih =>
    rw [List.mem_cons, not_or] at free
    rcases List.infix_cons_iff.mp inside with begins | later
    · exact absurd (List.cons_prefix_cons.mp begins).1 free.1
    · exact ih free.2 later

theorem infix_around {head : α} {w tail p rest : List α} (freeW : head ∉ w) (free : head ∉ tail)
    (inside : head :: w <:+: p ++ (head :: tail ++ rest)) :
    head :: w <:+: p ∨ head :: w <+: head :: tail ++ rest ∨ head :: w <:+: rest := by
  induction p with
  | nil =>
    rcases List.infix_cons_iff.mp inside with begins | later
    · exact Or.inr (Or.inl begins)
    · exact Or.inr (Or.inr (infix_after free later))
  | cons c p ih =>
    rcases List.infix_cons_iff.mp inside with begins | later
    · obtain ⟨rfl, more⟩ := List.cons_prefix_cons.mp begins
      exact Or.inl (List.cons_prefix_cons.mpr ⟨rfl, prefix_stops freeW more⟩).isInfix
    · exact (ih later).imp_left fun before => List.infix_cons before

/-- Two texts that begin with the same element, and have it nowhere else, occur apart: the one is found between the
others only where it stands in a part, unless one of the two begins with the other. -/
theorem infix_parts {head : α} {w tail : List α} (freeW : head ∉ w) (free : head ∉ tail) {parts : List (List α)}
    (inside : head :: w <:+: (head :: tail).intercalate parts) :
    (∃ p ∈ parts, head :: w <:+: p) ∨ head :: w <+: head :: tail ∨ head :: tail <+: head :: w := by
  induction parts with
  | nil => simp at inside
  | cons p rest ih =>
    cases rest with
    | nil =>
      rw [List.intercalate_singleton] at inside
      exact Or.inl ⟨p, List.mem_cons_self, inside⟩
    | cons q rest =>
      rw [List.intercalate_cons_cons, List.append_assoc] at inside
      rcases infix_around freeW free inside with here | begins | later
      · exact Or.inl ⟨p, List.mem_cons_self, here⟩
      · exact Or.inr (List.prefix_or_prefix_of_prefix begins (List.prefix_append _ _))
      · refine (ih later).imp_left ?_
        rintro ⟨other, among, held⟩
        exact ⟨other, List.mem_cons_of_mem _ among, held⟩

/-! ### Pieces and replacements -/

variable [DecidableEq α]

/-- `skip` more elements belong to an occurrence that has begun. -/
def piecesFrom (sep : List α) : ℕ → List α → List (List α)
  | _, [] => [[]]
  | skip + 1, _ :: rest => piecesFrom sep skip rest
  | 0, c :: rest =>
    if sep <+: c :: rest then [] :: piecesFrom sep (sep.length - 1) rest
    else (piecesFrom sep 0 rest).modifyHead (c :: ·)

/-- The pieces between the occurrences of a separator, leftmost first and without overlap. -/
def pieces (sep text : List α) : List (List α) := piecesFrom sep 0 text

/-- `text.replace(old, new)`. -/
def replaceAll (old new text : List α) : List α := new.intercalate (pieces old text)

theorem piecesFrom_ne_nil (sep : List α) (skip : ℕ) (text : List α) : piecesFrom sep skip text ≠ [] := by
  induction text generalizing skip with
  | nil => cases skip <;> simp [piecesFrom]
  | cons c rest ih =>
    cases skip with
    | zero =>
      unfold piecesFrom
      split
      · simp
      · simpa using ih 0
    | succ skip => exact ih skip

theorem pieces_ne_nil (sep text : List α) : pieces sep text ≠ [] := piecesFrom_ne_nil sep 0 text

theorem piecesFrom_skip (sep begun rest : List α) : piecesFrom sep begun.length (begun ++ rest) = pieces sep rest := by
  induction begun with
  | nil => rfl
  | cons c begun ih => exact ih

theorem pieces_cons (sep : List α) (c : α) (text : List α) (elsewhere : ¬sep <+: c :: text) :
    pieces sep (c :: text) = (pieces sep text).modifyHead (c :: ·) := by
  unfold pieces
  rw [piecesFrom, if_neg elsewhere]

section
variable {head : α} {tail : List α}

theorem pieces_append (rest : List α) : pieces (head :: tail) (head :: tail ++ rest) = [] :: pieces (head :: tail) rest := by
  show piecesFrom (head :: tail) 0 (head :: (tail ++ rest)) = _
  have here : head :: tail <+: head :: (tail ++ rest) := List.prefix_append (head :: tail) rest
  rw [piecesFrom, if_pos here, List.length_cons, Nat.add_sub_cancel, piecesFrom_skip]

theorem intercalate_pieces (text : List α) : (head :: tail).intercalate (pieces (head :: tail) text) = text := by
  induction length : text.length using Nat.strongRecOn generalizing text with
  | ind n ih =>
    cases text with
    | nil => rfl
    | cons c rest =>
      by_cases here : head :: tail <+: c :: rest
      · obtain ⟨after, same⟩ := here
        have shorter : after.length < n := by
          rw [← length, ← same, List.length_append, List.length_cons]
          omega
        rw [← same, pieces_append]
        cases parts : pieces (head :: tail) after with
        | nil => exact absurd parts (pieces_ne_nil _ _)
        | cons p more =>
          rw [List.intercalate_cons_cons, List.nil_append, ← parts, ih _ shorter after rfl]
      · have shorter : rest.length < n := by
          rw [← length, List.length_cons]
          omega
        rw [pieces_cons _ _ _ here, intercalate_modifyHead c (pieces_ne_nil _ _), ih _ shorter rest rfl]

theorem infix_of_mem_pieces {text p : List α} (member : p ∈ pieces (head :: tail) text) : p <:+: text := by
  have within := @infix_intercalate α (head :: tail) _ _ member
  rwa [intercalate_pieces] at within

/-! ### Undoing a replacement -/

/-- As a separator has its first element nowhere else, an occurrence that begins before another ends before it. -/
theorem pieces_before {p rest : List α} (free : head ∉ tail) (absent : ¬head :: tail <:+: p) :
    pieces (head :: tail) (p ++ (head :: tail ++ rest)) = p :: pieces (head :: tail) rest := by
  induction p with
  | nil => exact pieces_append rest
  | cons c p ih =>
    have elsewhere : ¬head :: tail <+: c :: (p ++ (head :: tail ++ rest)) := by
      intro begins
      obtain ⟨rfl, later⟩ := List.cons_prefix_cons.mp begins
      exact absent (List.cons_prefix_cons.mpr ⟨rfl, prefix_stops free later⟩).isInfix
    rw [List.cons_append, pieces_cons _ _ _ elsewhere, ih fun inside => absent (List.infix_cons inside)]
    rfl

theorem pieces_absent {p : List α} (absent : ¬head :: tail <:+: p) : pieces (head :: tail) p = [p] := by
  induction p with
  | nil => rfl
  | cons c p ih =>
    have elsewhere : ¬head :: tail <+: c :: p := fun begins => absent begins.isInfix
    rw [pieces_cons _ _ _ elsewhere, ih fun inside => absent (List.infix_cons inside)]
    rfl

theorem pieces_intercalate (free : head ∉ tail) {parts : List (List α)} (some_ : parts ≠ [])
    (absent : ∀ p ∈ parts, ¬head :: tail <:+: p) : pieces (head :: tail) ((head :: tail).intercalate parts) = parts := by
  induction parts with
  | nil => exact absurd rfl some_
  | cons p rest ih =>
    have first := absent p List.mem_cons_self
    cases rest with
    | nil =>
      rw [List.intercalate_singleton]
      exact pieces_absent first
    | cons q rest =>
      rw [List.intercalate_cons_cons, List.append_assoc, pieces_before free first,
        ih (List.cons_ne_nil _ _) fun other among => absent other (List.mem_cons_of_mem _ among)]

/-- A replacement is undone by the one the other way, if no piece it leaves holds what is put in. -/
theorem replaceAll_undo {old : List α} {oldHead : α} {oldTail : List α} (nonempty : old = oldHead :: oldTail)
    (free : head ∉ tail) {text : List α} (absent : ∀ p ∈ pieces old text, ¬head :: tail <:+: p) :
    replaceAll (head :: tail) old (replaceAll old (head :: tail) text) = text := by
  unfold replaceAll
  rw [pieces_intercalate free (pieces_ne_nil _ _) absent, nonempty, intercalate_pieces]

end

/-! ### One element replaced -/

theorem not_mem_pieces {c : α} {text p : List α} (member : p ∈ pieces [c] text) : c ∉ p := by
  induction text generalizing p with
  | nil =>
    cases List.mem_singleton.mp member
    exact List.not_mem_nil
  | cons d rest ih =>
    by_cases here : [c] <+: d :: rest
    · obtain ⟨rfl, _⟩ := List.cons_prefix_cons.mp here
      rw [show c :: rest = [c] ++ rest from rfl, pieces_append] at member
      rcases List.mem_cons.mp member with rfl | later
      · exact List.not_mem_nil
      · exact ih later
    · rw [pieces_cons _ _ _ here] at member
      have other : c ≠ d := fun same => here (same ▸ List.prefix_append [c] rest)
      cases parts : pieces [c] rest with
      | nil => exact absurd parts (pieces_ne_nil _ _)
      | cons first more =>
        rw [parts] at member ih
        rcases List.mem_cons.mp member with rfl | later
        · rw [List.mem_cons, not_or]
          exact ⟨other, ih List.mem_cons_self⟩
        · exact ih (List.mem_cons_of_mem _ later)

theorem not_mem_replaceAll {c : α} {new text : List α} (free : c ∉ new) : c ∉ replaceAll [c] new text := by
  intro member
  rcases mem_intercalate member with inside | ⟨p, among, held⟩
  · exact free inside
  · exact not_mem_pieces among held

theorem not_mem_replaceAll_of {c d : α} {new text : List α} (free : d ∉ new) (absent : d ∉ text) :
    d ∉ replaceAll [c] new text := by
  intro member
  rcases mem_intercalate member with inside | ⟨p, among, held⟩
  · exact free inside
  · exact absent ((infix_of_mem_pieces among).subset held)

/-- What one entity does not put in stays out. -/
theorem not_infix_replaceAll {c head : α} {w tail text : List α} (freeW : head ∉ w) (free : head ∉ tail)
    (apart : ¬head :: w <+: head :: tail ∧ ¬head :: tail <+: head :: w)
    (absent : c = head ∨ ¬head :: w <:+: text) : ¬head :: w <:+: replaceAll [c] (head :: tail) text := by
  intro inside
  rcases infix_parts freeW free inside with ⟨p, among, held⟩ | shorter | longer
  · rcases absent with rfl | absent
    · exact not_mem_pieces among (held.subset List.mem_cons_self)
    · exact absent (held.trans (infix_of_mem_pieces among))
  · exact apart.1 shorter
  · exact apart.2 longer

/-- An element is put back for its entity: where the entity begins with the element itself, or was not there before. -/
theorem replaceAll_back {c head : α} {tail text : List α} (free : head ∉ tail)
    (absent : c = head ∨ ¬head :: tail <:+: text) :
    replaceAll (head :: tail) [c] (replaceAll [c] (head :: tail) text) = text := by
  refine replaceAll_undo rfl free fun p among held => ?_
  rcases absent with rfl | absent
  · exact not_mem_pieces among (held.subset List.mem_cons_self)
  · exact absent (held.trans (infix_of_mem_pieces among))

end Iems.Lib
