import Iems.Core.Config
import Mathlib.Algebra.GroupWithZero.Nat
import Mathlib.Data.List.Basic

/-! Strings as sequences of code points, lone surrogates among them, and the integers they spell. -/
namespace Iems.Core

abbrev CodePoint := Fin 0x110000

instance codePoints_neZero : NeZero 0x110000 := ⟨Nat.succ_ne_zero 0x10FFFF⟩

abbrev Text := List CodePoint

def codePoint (c : Char) : CodePoint := ⟨c.toNat, by
  have valid := c.valid
  unfold Char.toNat
  unfold UInt32.isValidChar Nat.isValidChar at valid
  omega⟩

def Text.ofString (s : String) : Text := s.toList.map codePoint

def isSurrogate (c : CodePoint) : Bool := 0xD800 ≤ c.val && c.val ≤ 0xDFFF

/-- `payload.encode()`: `none` where it raises on a lone surrogate. -/
def Text.encode? (text : Text) : Option String :=
  if text.any isSurrogate then none else some (String.ofList (text.map fun c => Char.ofNat c.val))

def isAscii (c : CodePoint) : Bool := c.val < 0x80

/-- The zeros of the runs of ten decimal digits, beside the ASCII digits. -/
def decimalZeros : List Nat :=
  [0x660, 0x6F0, 0x7C0, 0x966, 0x9E6, 0xA66, 0xAE6, 0xB66, 0xBE6, 0xC66, 0xCE6, 0xD66, 0xDE6, 0xE50,
    0xED0, 0xF20, 0x1040, 0x1090, 0x17E0, 0x1810, 0x1946, 0x19D0, 0x1A80, 0x1A90, 0x1B50, 0x1BB0, 0x1C40,
    0x1C50, 0xA620, 0xA8D0, 0xA900, 0xA9D0, 0xA9F0, 0xAA50, 0xABF0, 0xFF10, 0x104A0, 0x10D30, 0x11066,
    0x110F0, 0x11136, 0x111D0, 0x112F0, 0x11450, 0x114D0, 0x11650, 0x116C0, 0x11730, 0x118E0, 0x11950,
    0x11C50, 0x11D50, 0x11DA0, 0x11F50, 0x16A60, 0x16AC0, 0x16B50, 0x1D7CE, 0x1D7D8, 0x1D7E2, 0x1D7EC,
    0x1D7F6, 0x1E140, 0x1E2F0, 0x1E4F0, 0x1E950, 0x1FBF0]

def decimalValue (c : CodePoint) : Option Nat :=
  ((0x30 :: decimalZeros).find? fun start => start ≤ c.val && c.val < start + 10).map fun start => c.val - start

/-- The characters that `int` ignores around a literal. -/
def isIntSpace (c : CodePoint) : Bool :=
  (0x09 ≤ c.val && c.val ≤ 0x0D) || c.val == 0x20 || (0x80 ≤ c.val && !isSurrogate c && isSpace (Char.ofNat c.val))

def Text.stripped (drop : CodePoint → Bool) (text : Text) : Text :=
  ((text.dropWhile drop).reverse.dropWhile drop).reverse

def Text.strip (text : Text) : Text := text.stripped fun c => !isSurrogate c && isSpace (Char.ofNat c.val)

def underscore : CodePoint := 0x5F

/-- The digits of a literal, with single underscores between them; `last` is the digit before. -/
def digitsAfter : Text → Option (List Nat)
  | [] => some []
  | c :: rest =>
    if c = underscore then
      match rest with
      | [] => none
      | next :: rest => do
        let digit ← decimalValue next
        let digits ← digitsAfter rest
        return digit :: digits
    else do
      let digit ← decimalValue c
      let digits ← digitsAfter rest
      return digit :: digits

def literalDigits : Text → Option (List Nat)
  | [] => none
  | c :: rest => do
    let digit ← decimalValue c
    let digits ← digitsAfter rest
    return digit :: digits

/-- The interpreter's limit on the digits of an integer that is read or printed. -/
def maxStrDigits : Nat := 4300

def natLiteral (text : Text) : Option Nat := do
  let digits ← literalDigits text
  if digits.length ≤ maxStrDigits then some (digits.foldl (fun value digit => value * 10 + digit) 0) else none

/-- `int(text)`: `none` where it raises. -/
def parseInt (text : Text) : Option Int :=
  match text.stripped isIntSpace with
  | [] => none
  | c :: rest =>
    if c = 0x2B then (natLiteral rest).map Int.ofNat
    else if c = 0x2D then (natLiteral rest).map fun n => -Int.ofNat n
    else (natLiteral (c :: rest)).map Int.ofNat

def natText (n : Nat) : Text := (Nat.toDigits 10 n).map codePoint

/-- `str(n)`: `none` where it raises. -/
def intText (n : Int) : Option Text :=
  if (Nat.toDigits 10 n.natAbs).length ≤ maxStrDigits then
    some (if n < 0 then 0x2D :: natText n.natAbs else natText n.natAbs)
  else none

/-! ### An integer is read back from its digits -/

theorem codePoint_val (c : Char) : (codePoint c).val = c.toNat := rfl

theorem digit_range {c : Char} (digit : c.isDigit) : 0x30 ≤ c.toNat ∧ c.toNat ≤ 0x39 := by
  simpa [Char.isDigit, UInt32.le_iff_toNat_le] using digit

theorem decimalValue_digit {c : Char} (digit : c.isDigit) :
    decimalValue (codePoint c) = some (c.toNat - 0x30) := by
  obtain ⟨low, high⟩ := digit_range digit
  have found : ((0x30 :: decimalZeros).find? fun start => start ≤ c.toNat && c.toNat < start + 10) = some 0x30 :=
    List.find?_cons_of_pos (by simp; omega)
  unfold decimalValue
  rw [codePoint_val, found, Option.map_some]

theorem digit_ne_underscore {c : Char} (digit : c.isDigit) : codePoint c ≠ underscore := by
  intro same
  have := congrArg Fin.val same
  have := digit_range digit
  simp only [codePoint_val, underscore] at *
  omega

theorem digitsAfter_digits {digits : List Char} (numeric : ∀ c ∈ digits, c.isDigit) :
    digitsAfter (digits.map codePoint) = some (digits.map fun c => c.toNat - 0x30) := by
  induction digits with
  | nil => rfl
  | cons c rest ih =>
    have digit := numeric c (by simp)
    have later := ih fun d member => numeric d (by simp [member])
    unfold digitsAfter
    simp only [List.map_cons, if_neg (digit_ne_underscore digit), decimalValue_digit digit, later]
    rfl

theorem literalDigits_digits {digits : List Char} (some_digit : digits ≠ []) (numeric : ∀ c ∈ digits, c.isDigit) :
    literalDigits (digits.map codePoint) = some (digits.map fun c => c.toNat - 0x30) := by
  cases digits with
  | nil => exact absurd rfl some_digit
  | cons c rest =>
    rw [List.map_cons, literalDigits, decimalValue_digit (numeric c (by simp)),
      digitsAfter_digits fun d member => numeric d (by simp [member])]
    rfl

theorem toDigits_numeric (n : Nat) : ∀ c ∈ Nat.toDigits 10 n, c.isDigit :=
  fun _ member => Nat.isDigit_of_mem_toDigits (by decide) (by decide) member

theorem natLiteral_natText {n : Nat} (short : (Nat.toDigits 10 n).length ≤ maxStrDigits) :
    natLiteral (natText n) = some n := by
  have value : ((Nat.toDigits 10 n).map fun c => c.toNat - 0x30).foldl (fun value digit => value * 10 + digit) 0 = n := by
    have read := Nat.ofDigitChars_ten_toDigits (n := n)
    rw [Nat.ofDigitChars_eq_foldl] at read
    rw [List.foldl_map]
    simpa [Nat.mul_comm] using read
  unfold natLiteral natText
  rw [literalDigits_digits Nat.toDigits_ne_nil (toDigits_numeric n)]
  simp only [Option.bind_eq_bind, Option.bind_some, List.length_map, if_pos short, value]

theorem stripped_self {drop : CodePoint → Bool} {text : Text} (kept : ∀ c ∈ text, drop c = false) :
    text.stripped drop = text := by
  have front : ∀ l : Text, (∀ c ∈ l, drop c = false) → l.dropWhile drop = l := by
    intro l kept
    cases l with
    | nil => rfl
    | cons c rest => rw [List.dropWhile_cons_of_neg (by simp [kept c (by simp)])]
  unfold Text.stripped
  rw [front text kept, front _ (by simpa using kept), List.reverse_reverse]

theorem mem_natText {n : Nat} {c : CodePoint} (member : c ∈ natText n) : 0x30 ≤ c.val ∧ c.val ≤ 0x39 := by
  unfold natText at member
  obtain ⟨d, present, rfl⟩ := List.mem_map.mp member
  exact digit_range (toDigits_numeric n d present)

theorem mem_intText {n : Int} {text : Text} {c : CodePoint} (printed : intText n = some text) (member : c ∈ text) :
    c.val = 0x2D ∨ 0x30 ≤ c.val ∧ c.val ≤ 0x39 := by
  unfold intText at printed
  split at printed
  · obtain rfl := Option.some.inj printed
    split at member
    · rcases List.mem_cons.mp member with rfl | member
      · exact Or.inl rfl
      · exact Or.inr (mem_natText member)
    · exact Or.inr (mem_natText member)
  · cases printed

theorem isIntSpace_intText {n : Int} {text : Text} (printed : intText n = some text) :
    ∀ c ∈ text, isIntSpace c = false := by
  intro c member
  have range := mem_intText printed member
  unfold isIntSpace
  simp
  omega

theorem parseInt_unsigned {text : Text} (spaceless : ∀ c ∈ text, isIntSpace c = false)
    (first : ∀ c ∈ text.head?, 0x30 ≤ c.val) (value : Nat) (read : natLiteral text = some value) :
    parseInt text = some (Int.ofNat value) := by
  unfold parseInt
  rw [stripped_self spaceless]
  cases text with
  | nil => cases read
  | cons c rest =>
    have digit := first c rfl
    have noPlus : c ≠ 0x2B := by
      rintro rfl
      exact absurd digit (by decide)
    have noMinus : c ≠ 0x2D := by
      rintro rfl
      exact absurd digit (by decide)
    simp only [if_neg noPlus, if_neg noMinus, read, Option.map_some]

theorem parseInt_intText {n : Int} {text : Text} (printed : intText n = some text) : parseInt text = some n := by
  have spaceless := isIntSpace_intText printed
  unfold intText at printed
  split at printed
  · rename_i short
    have read := natLiteral_natText short
    by_cases negative : n < 0
    · rw [if_pos negative] at printed
      obtain rfl := Option.some.inj printed
      unfold parseInt
      rw [stripped_self spaceless]
      have notPlus : (0x2D : CodePoint) ≠ 0x2B := by decide
      simp only [if_neg notPlus, if_true, read, Option.map_some, Option.some.injEq]
      simp only [Int.ofNat_eq_natCast]
      omega
    · rw [if_neg negative] at printed
      obtain rfl := Option.some.inj printed
      rw [parseInt_unsigned spaceless (fun c head => (mem_natText (List.mem_of_mem_head? head)).1) _ read,
        Int.ofNat_eq_natCast, Int.natAbs_of_nonneg (by omega)]
  · cases printed

theorem intText_surrogate {n : Int} {text : Text} (printed : intText n = some text) :
    text.any isSurrogate = false := by
  rw [List.any_eq_false]
  intro c member
  have range := mem_intText printed member
  unfold isSurrogate
  simp
  omega

theorem encode?_isSome {text : Text} : text.encode?.isSome = !text.any isSurrogate := by
  unfold Text.encode?
  split <;> simp [*]

end Iems.Core
