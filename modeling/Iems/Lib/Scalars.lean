import Mathlib

/-! Texts and rational numbers on one line, and how they are read back. -/
namespace Iems.Lib

/-- A scalar of one line: the backslash and the line end are escaped. -/
def plainText (text : String) : List Char :=
  text.toList.flatMap fun c => if c = '\\' then ['\\', '\\'] else if c = '\n' then ['\\', 'n'] else [c]

def readPlain : List Char → List Char
  | '\\' :: 'n' :: rest => '\n' :: readPlain rest
  | '\\' :: c :: rest => c :: readPlain rest
  | c :: rest => c :: readPlain rest
  | [] => []

theorem readPlain_text (text : String) : String.ofList (readPlain (plainText text)) = text := by
  have chars : ∀ chars : List Char, readPlain (chars.flatMap fun c =>
      if c = '\\' then ['\\', '\\'] else if c = '\n' then ['\\', 'n'] else [c]) = chars := by
    intro chars
    induction chars with
    | nil => rfl
    | cons c rest ih =>
      rw [List.flatMap_cons]
      by_cases slash : c = '\\'
      · subst slash
        simp [readPlain, ih]
      · by_cases line : c = '\n'
        · subst line
          simp [readPlain, ih]
        · rw [if_neg slash, if_neg line, List.singleton_append, readPlain, ih]
          all_goals simp_all
  unfold plainText
  rw [chars, String.ofList_toList]

theorem plainText_line (text : String) : '\n' ∉ plainText text := by
  unfold plainText
  rw [List.mem_flatMap]
  rintro ⟨c, _, held⟩
  split at held
  · simp at held
  · split at held
    · simp at held
    · rename_i other
      exact other (List.mem_singleton.mp held).symm

/-- A whole number as a float is shown; another one as a fraction. -/
def numberText (q : ℚ) : List Char := q.num.repr.toList ++ if q.den = 1 then ['.', '0'] else '/' :: q.den.repr.toList

def signOrDigit (c : Char) : Bool := c.isDigit || c = '-'

def readNumber (text : List Char) : Option ℚ := do
  let num ← (String.ofList (text.takeWhile signOrDigit)).toInt?
  match text.dropWhile signOrDigit with
  | '/' :: den => (String.ofList den).toNat?.map fun den => (num : ℚ) / den
  | _ => some num

theorem repr_digits (n : ℕ) : ∀ c ∈ n.repr.toList, c.isDigit = true := by
  rw [Nat.toList_repr]
  exact fun c member => Nat.isDigit_of_mem_toDigits (by decide) (by decide) member

theorem repr_chars (n : ℤ) : ∀ c ∈ n.repr.toList, signOrDigit c = true := by
  intro c member
  unfold signOrDigit
  cases n with
  | ofNat n => rw [repr_digits n c member, Bool.true_or]
  | negSucc n =>
    have parts : (Int.negSucc n).repr.toList = '-' :: (n + 1).repr.toList := by
      simp [Int.repr, String.toList_append]
    rw [parts] at member
    rcases List.mem_cons.mp member with rfl | digit
    · rfl
    · rw [repr_digits (n + 1) c digit, Bool.true_or]

theorem numberText_line (q : ℚ) : '\n' ∉ numberText q := by
  unfold numberText
  intro held
  rcases List.mem_append.mp held with own | rest
  · exact absurd (repr_chars _ _ own) (by decide)
  · split at rest
    · simp at rest
    · rcases List.mem_cons.mp rest with wrong | digit
      · exact absurd wrong (by decide)
      · exact absurd (repr_digits _ _ digit) (by decide)

theorem readNumber_text (q : ℚ) : readNumber (numberText q) = some q := by
  have cut : ∀ rest : List Char, (∀ c, rest.head? = some c → signOrDigit c = false) →
      (q.num.repr.toList ++ rest).takeWhile signOrDigit = q.num.repr.toList ∧
        (q.num.repr.toList ++ rest).dropWhile signOrDigit = rest := by
    intro rest stops
    rw [List.takeWhile_append_of_pos (repr_chars q.num), List.dropWhile_append_of_pos (repr_chars q.num)]
    cases rest with
    | nil => simp
    | cons c rest => simp [stops c rfl]
  unfold readNumber numberText
  by_cases whole : q.den = 1
  · obtain ⟨front, back⟩ := cut ['.', '0'] (by simp [signOrDigit])
    rw [if_pos whole, front, back, String.ofList_toList, Int.toInt?_repr]
    show some (q.num : ℚ) = some q
    rw [Rat.coe_int_num_of_den_eq_one whole]
  · obtain ⟨front, back⟩ := cut ('/' :: q.den.repr.toList) (by simp [signOrDigit])
    rw [if_neg whole, front, back, String.ofList_toList, Int.toInt?_repr]
    show ((String.ofList q.den.repr.toList).toNat?.map fun den => (q.num : ℚ) / den) = some q
    rw [String.ofList_toList, Nat.toNat?_repr]
    exact congrArg some (Rat.num_div_den q)

def labelled (label : String) (value : List Char) : List Char := label.toList ++ value

def unlabelled (label : String) (line : List Char) : List Char := line.drop label.toList.length

@[simp] theorem unlabelled_labelled (label : String) (value : List Char) : unlabelled label (labelled label value) = value :=
  List.drop_left

end Iems.Lib
