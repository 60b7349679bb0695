import Iems.Security.Totp

/-! Which texts pass as a one-time password, and which the check raises on. -/
namespace Iems.Security
open Iems.Core

theorem asciiDigits : ∀ n : Fin 128, isDigit (n.castLE (by decide)) = decide (0x30 ≤ n.val ∧ n.val ≤ 0x39) := by
  decide +kernel

theorem isDigit_ascii {c : CodePoint} (ascii : isAscii c = true) : isDigit c = true ↔ 0x30 ≤ c.val ∧ c.val ≤ 0x39 := by
  have below : c.val < 128 := by simpa [isAscii] using ascii
  have entry := asciiDigits ⟨c.val, below⟩
  rw [show Fin.castLE (by decide) (⟨c.val, below⟩ : Fin 128) = c from rfl] at entry
  rw [entry, decide_eq_true_iff]

theorem isAscii_of_range {c : CodePoint} (range : 0x30 ≤ c.val ∧ c.val ≤ 0x39) : isAscii c = true := by
  unfold isAscii
  simp
  omega

/-- The characters that `strip` takes off. -/
def spaces : List Nat :=
  List.range' 0x09 5 ++ List.range' 0x1C 5 ++ [0x85, 0xA0, 0x1680] ++ List.range' 0x2000 11 ++
    [0x2028, 0x2029, 0x202F, 0x205F, 0x3000]

theorem space_no_digit : ∀ n ∈ spaces, ∀ c : CodePoint, c.val = n → isDigit c = false := by
  have table : ∀ n ∈ spaces, (∃ bound : n < 0x110000, isDigit ⟨n, bound⟩ = false) := by decide +kernel
  intro n member c same
  obtain ⟨bound, digit⟩ := table n member
  rwa [show c = ⟨n, bound⟩ from Fin.ext same]

theorem mem_spaces {c : CodePoint} (space : (!isSurrogate c && isSpace (Char.ofNat c.val)) = true) : c.val ∈ spaces := by
  obtain ⟨scalar, space⟩ := Bool.and_eq_true_iff.mp space
  have valid : c.val.isValidChar := by
    have bound := c.isLt
    simp only [isSurrogate, Bool.not_eq_true', Bool.and_eq_false_iff, decide_eq_false_iff_not] at scalar
    unfold Nat.isValidChar
    omega
  have value : (Char.ofNat c.val).toNat = c.val := by
    unfold Char.ofNat
    rw [dif_pos valid]
    rfl
  unfold isSpace at space
  rw [value] at space
  simp only [Bool.or_eq_true, Bool.and_eq_true, decide_eq_true_eq, beq_iff_eq] at space
  unfold spaces
  simp only [List.mem_append, List.mem_range'_1, List.mem_cons, List.not_mem_nil, or_false]
  omega

theorem strip_digits {code : Text} (digits : code.all isDigit = true) : code.strip = code := by
  apply stripped_self
  intro c member
  by_contra space
  have absent := space_no_digit _ (mem_spaces (by simpa using space)) c rfl
  rw [List.all_eq_true.mp digits c member] at absent
  cases absent

section
variable {b32decode : String → Option Bytes} {hmacSha1 : Bytes → Bytes → Bytes} {secret : String} {now forTime : ℚ}
  {code : Text}

theorem totp_digits {text : Text} (shown : totp b32decode hmacSha1 secret forTime = some text) :
    text ≠ [] ∧ ∀ c ∈ text, 0x30 ≤ c.val ∧ c.val ≤ 0x39 := by
  unfold totp at shown
  simp only [Option.bind_eq_bind, Option.bind_eq_some_iff] at shown
  obtain ⟨key, _, msg, _, last, _, word, _, made⟩ := shown
  obtain rfl := Option.some.inj made
  constructor
  · unfold zfill natText
    simp
  · intro c member
    rcases List.mem_append.mp member with padding | digit
    · obtain ⟨_, rfl⟩ := List.mem_replicate.mp padding
      decide
    · exact mem_natText digit

theorem packCounter_isSome {counter : Int} : (packCounter counter).isSome ↔ 0 ≤ counter ∧ counter < 2 ^ 64 := by
  unfold packCounter
  split
  · rename_i fits
    exact iff_of_true rfl fits
  · rename_i large
    exact iff_of_false Bool.false_ne_true large

theorem totp_ascii {text : Text} (shown : totp b32decode hmacSha1 secret forTime = some text) :
    text.all isAscii = true :=
  List.all_eq_true.mpr fun c member => isAscii_of_range ((totp_digits shown).2 c member)

theorem totp_all_digits {text : Text} (shown : totp b32decode hmacSha1 secret forTime = some text) :
    text.all isDigit = true :=
  List.all_eq_true.mpr fun c member =>
    (isDigit_ascii (isAscii_of_range ((totp_digits shown).2 c member))).mpr ((totp_digits shown).2 c member)

/-- A step shows a code exactly where its counter fits eight bytes. -/
theorem totp_isSome (decodes : (normalizeSecret b32decode secret).isSome)
    (sized : ∀ key msg, (hmacSha1 key msg).length = 20) :
    (totp b32decode hmacSha1 secret forTime).isSome ↔ 0 ≤ ⌊forTime / 30⌋ ∧ ⌊forTime / 30⌋ < 2 ^ 64 := by
  obtain ⟨key, decoded⟩ := Option.isSome_iff_exists.mp decodes
  rw [← packCounter_isSome]
  unfold totp
  cases packed : packCounter ⌊forTime / 30⌋ with
  | none => simp [decoded]
  | some msg =>
    have length := sized key msg
    cases ended : (hmacSha1 key msg).getLast? with
    | none =>
      rw [List.getLast?_eq_none_iff.mp ended] at length
      cases length
    | some last =>
      have word : (((hmacSha1 key msg).drop (last.toNat % 16)).take 4).length = 4 := by
        rw [List.length_take, List.length_drop, length]
        omega
      simp only [decoded, ended, Option.bind_eq_bind, Option.bind_some, unpackWord, if_pos word]
      rfl

theorem floor_step (now : ℚ) (skew : Int) : ⌊(now + skew * 30) / 30⌋ = ⌊now / 30⌋ + skew := by
  have split : (now + skew * 30) / 30 = now / 30 + skew := by ring
  rw [split, Int.floor_add_intCast]

/-! ### The loop over the steps -/

theorem compareDigest_ascii {a b : Text} (first : a.all isAscii = true) (second : b.all isAscii = true) :
    compareDigest a b = some (a == b) := by
  unfold compareDigest
  rw [first, second]
  rfl

/-- One step of the loop, for a code of ASCII digits. -/
theorem matchesStep_cons (digits : code.all isDigit = true) (ascii : code.all isAscii = true) (skew : Int)
    (rest : List Int) :
    matchesStep b32decode hmacSha1 secret code now (skew :: rest) =
      match totp b32decode hmacSha1 secret (now + skew * 30) with
      | none => none
      | some expected =>
        if expected = code then some true else matchesStep b32decode hmacSha1 secret code now rest := by
  rw [matchesStep, strip_digits digits]
  cases shown : totp b32decode hmacSha1 secret (now + skew * 30) with
  | none => rfl
  | some expected => simp [compareDigest_ascii (totp_ascii shown) ascii]

theorem matchesStep_foreign (digits : code.all isDigit = true) (foreign : code.all isAscii = false) (skew : Int)
    (rest : List Int) : matchesStep b32decode hmacSha1 secret code now (skew :: rest) = none := by
  rw [matchesStep, strip_digits digits]
  cases shown : totp b32decode hmacSha1 secret (now + skew * 30) with
  | none => rfl
  | some expected => simp [compareDigest, foreign]

theorem matchesStep_false (digits : code.all isDigit = true) (ascii : code.all isAscii = true) {skews : List Int}
    (refused : matchesStep b32decode hmacSha1 secret code now skews = some false) :
    ∀ skew ∈ skews, ∃ expected, totp b32decode hmacSha1 secret (now + skew * 30) = some expected ∧ expected ≠ code := by
  induction skews with
  | nil => simp
  | cons first rest ih =>
    rw [matchesStep_cons digits ascii] at refused
    cases shown : totp b32decode hmacSha1 secret (now + first * 30) with
    | none => simp [shown] at refused
    | some expected =>
      simp only [shown] at refused
      split at refused
      · cases refused
      · rename_i other
        intro skew member
        rcases List.mem_cons.mp member with rfl | later
        · exact ⟨expected, shown, other⟩
        · exact ih refused skew later

theorem matchesStep_true (digits : code.all isDigit = true) (ascii : code.all isAscii = true) {skews : List Int}
    (matched : matchesStep b32decode hmacSha1 secret code now skews = some true) :
    ∃ skew ∈ skews, totp b32decode hmacSha1 secret (now + skew * 30) = some code := by
  induction skews with
  | nil => cases matched
  | cons first rest ih =>
    rw [matchesStep_cons digits ascii] at matched
    cases shown : totp b32decode hmacSha1 secret (now + first * 30) with
    | none => simp [shown] at matched
    | some expected =>
      simp only [shown] at matched
      split at matched
      · rename_i same
        exact ⟨first, by simp, by rw [shown, same]⟩
      · obtain ⟨skew, member, here⟩ := ih matched
        exact ⟨skew, List.mem_cons_of_mem _ member, here⟩

/-- The loop reaches a step that shows the code once every earlier one shows some code. -/
theorem matchesStep_reaches (digits : code.all isDigit = true) (ascii : code.all isAscii = true) {before : List Int}
    {skew : Int} (after : List Int)
    (earlier : ∀ other ∈ before, (totp b32decode hmacSha1 secret (now + other * 30)).isSome)
    (here : totp b32decode hmacSha1 secret (now + skew * 30) = some code) :
    matchesStep b32decode hmacSha1 secret code now (before ++ skew :: after) = some true := by
  induction before with
  | nil =>
    rw [List.nil_append, matchesStep_cons digits ascii, here]
    simp
  | cons first rest ih =>
    obtain ⟨expected, shown⟩ := Option.isSome_iff_exists.mp (earlier first (by simp))
    rw [List.cons_append, matchesStep_cons digits ascii, shown]
    dsimp only
    split
    · rfl
    · exact ih fun other member => earlier other (List.mem_cons_of_mem _ member)

theorem matchesStep_answers (digits : code.all isDigit = true) (ascii : code.all isAscii = true) {skews : List Int}
    (shown : ∀ skew ∈ skews, (totp b32decode hmacSha1 secret (now + skew * 30)).isSome) :
    (matchesStep b32decode hmacSha1 secret code now skews).isSome := by
  induction skews with
  | nil => rfl
  | cons first rest ih =>
    obtain ⟨expected, here⟩ := Option.isSome_iff_exists.mp (shown first (by simp))
    rw [matchesStep_cons digits ascii, here]
    dsimp only
    split
    · rfl
    · exact ih fun skew member => shown skew (List.mem_cons_of_mem _ member)

end

/-! ### Exactness -/

section
variable (b32decode : String → Option Bytes) (hmacSha1 : Bytes → Bytes → Bytes) (secret : String) (code : Text) (now : ℚ)

/-- The code of the previous, the current or the next step. -/
def CurrentCode : Prop :=
  ∃ skew ∈ ([-1, 0, 1] : List Int), totp b32decode hmacSha1 secret (now + skew * 30) = some code

/-- The check returns, and accepts exactly the current codes. -/
def VerifiesExactly : Prop :=
  ∃ verdict, verifyTotp b32decode hmacSha1 secret code now = some verdict ∧
    (verdict = true ↔ CurrentCode b32decode hmacSha1 secret code now)

/-- Text that is no digit string at all, or a string of ASCII digits at a time whose steps all fit eight bytes. -/
def CodeReadable : Prop :=
  code = [] ∨ code.all isDigit = false ∨
    code.all isAscii = true ∧ (⌊now / 30⌋ + 1 < 2 ^ 64 ∨ CurrentCode b32decode hmacSha1 secret code now)

variable {b32decode hmacSha1 secret code now}

theorem currentCode_digits (current : CurrentCode b32decode hmacSha1 secret code now) :
    code ≠ [] ∧ code.all isDigit = true := by
  obtain ⟨skew, _, shown⟩ := current
  exact ⟨(totp_digits shown).1, totp_all_digits shown⟩

theorem verifyTotp_digits (given : code ≠ []) (digits : code.all isDigit = true) :
    verifyTotp b32decode hmacSha1 secret code now = matchesStep b32decode hmacSha1 secret code now [-1, 0, 1] := by
  unfold verifyTotp
  rw [digits]
  simp [given]

theorem verifiesExactly_refused (refused : code = [] ∨ code.all isDigit = false) :
    VerifiesExactly b32decode hmacSha1 secret code now := by
  refine ⟨false, ?_, ?_⟩
  · unfold verifyTotp
    rcases refused with rfl | other
    · rfl
    · rw [other]
      simp
  · constructor
    · intro accepted
      cases accepted
    · intro current
      obtain ⟨given, digits⟩ := currentCode_digits current
      rcases refused with rfl | other
      · exact absurd rfl given
      · rw [digits] at other
        cases other

theorem verifiesExactly_digits {verdict : Bool} (given : code ≠ []) (digits : code.all isDigit = true)
    (ascii : code.all isAscii = true)
    (answered : matchesStep b32decode hmacSha1 secret code now [-1, 0, 1] = some verdict) :
    VerifiesExactly b32decode hmacSha1 secret code now := by
  refine ⟨verdict, by rw [verifyTotp_digits given digits, answered], ?_⟩
  cases verdict with
  | true => exact iff_of_true rfl (matchesStep_true digits ascii answered)
  | false =>
    refine iff_of_false Bool.false_ne_true ?_
    rintro ⟨skew, member, shown⟩
    obtain ⟨expected, other, different⟩ := matchesStep_false digits ascii answered skew member
    exact different (Option.some.inj (other.symm.trans shown))

/-- A step shows no code after one whose counter is too large. -/
theorem earlier_shown (decodes : (normalizeSecret b32decode secret).isSome)
    (sized : ∀ key msg, (hmacSha1 key msg).length = 20) (late : 30 ≤ now) {skew other : Int} (within : -1 ≤ other)
    (before : other ≤ skew) (shown : (totp b32decode hmacSha1 secret (now + skew * 30)).isSome) :
    (totp b32decode hmacSha1 secret (now + other * 30)).isSome := by
  have first : 1 ≤ ⌊now / 30⌋ := Int.le_floor.mpr (by push_cast; linarith)
  rw [totp_isSome decodes sized, floor_step] at shown ⊢
  omega

/-- ASCII digits have a verdict where all steps have codes, or where one of them shows these digits. -/
theorem matchesStep_settled (decodes : (normalizeSecret b32decode secret).isSome)
    (sized : ∀ key msg, (hmacSha1 key msg).length = 20) (late : 30 ≤ now) (digits : code.all isDigit = true)
    (ascii : code.all isAscii = true) (reached : ⌊now / 30⌋ + 1 < 2 ^ 64 ∨ CurrentCode b32decode hmacSha1 secret code now) :
    (matchesStep b32decode hmacSha1 secret code now [-1, 0, 1]).isSome := by
  have first : 1 ≤ ⌊now / 30⌋ := Int.le_floor.mpr (by push_cast; linarith)
  rcases reached with small | ⟨skew, member, shown⟩
  · apply matchesStep_answers digits ascii
    intro skew member
    rw [totp_isSome decodes sized, floor_step]
    simp only [List.mem_cons, List.not_mem_nil, or_false] at member
    omega
  · obtain ⟨before, after, cut⟩ := List.append_of_mem member
    have ordered : ([-1, 0, 1] : List Int).Pairwise (· ≤ ·) := by decide
    have low : ∀ other ∈ ([-1, 0, 1] : List Int), -1 ≤ other := by decide
    rw [cut] at ordered low
    have earlier : ∀ other ∈ before, -1 ≤ other ∧ other ≤ skew := fun other present =>
      ⟨low other (by simp [present]), (List.pairwise_append.mp ordered).2.2 other present skew (by simp)⟩
    rw [cut, matchesStep_reaches digits ascii after ?_ shown]
    · rfl
    · intro other present
      exact earlier_shown decodes sized late (earlier other present).1 (earlier other present).2 (by rw [shown]; rfl)

/-- Digits with a verdict are ASCII, and the last step has a code unless one of them matched. -/
theorem matchesStep_readable {verdict : Bool} (decodes : (normalizeSecret b32decode secret).isSome)
    (sized : ∀ key msg, (hmacSha1 key msg).length = 20) (digits : code.all isDigit = true)
    (answered : matchesStep b32decode hmacSha1 secret code now [-1, 0, 1] = some verdict) :
    code.all isAscii = true ∧ (⌊now / 30⌋ + 1 < 2 ^ 64 ∨ CurrentCode b32decode hmacSha1 secret code now) := by
  cases ascii : code.all isAscii with
  | false =>
    rw [matchesStep_foreign digits ascii] at answered
    cases answered
  | true =>
    refine ⟨rfl, ?_⟩
    cases verdict with
    | true => exact Or.inr (matchesStep_true digits ascii answered)
    | false =>
      obtain ⟨expected, last, _⟩ := matchesStep_false digits ascii answered 1 (by simp)
      have shown : (totp b32decode hmacSha1 secret (now + (1 : Int) * 30)).isSome := by rw [last]; rfl
      rw [totp_isSome decodes sized, floor_step] at shown
      exact Or.inl shown.2

theorem verifiesExactly_iff (decodes : (normalizeSecret b32decode secret).isSome)
    (sized : ∀ key msg, (hmacSha1 key msg).length = 20) (late : 30 ≤ now) :
    VerifiesExactly b32decode hmacSha1 secret code now ↔ CodeReadable b32decode hmacSha1 secret code now := by
  by_cases refused : code = [] ∨ code.all isDigit = false
  · refine iff_of_true (verifiesExactly_refused refused) ?_
    rcases refused with empty | other
    · exact Or.inl empty
    · exact Or.inr (Or.inl other)
  · obtain ⟨given, digits⟩ := not_or.mp refused
    have digits : code.all isDigit = true := by simpa using digits
    constructor
    · rintro ⟨verdict, verified, _⟩
      rw [verifyTotp_digits given digits] at verified
      exact Or.inr (Or.inr (matchesStep_readable decodes sized digits verified))
    · rintro (empty | other | ⟨ascii, reached⟩)
      · exact absurd empty given
      · rw [digits] at other
        cases other
      · obtain ⟨verdict, answered⟩ :=
          Option.isSome_iff_exists.mp (matchesStep_settled decodes sized late digits ascii reached)
        exact verifiesExactly_digits given digits ascii answered

end
end Iems.Security
