import Mathlib.Data.Rat.Floor

/-! Decimal rounding and display of exact rationals. -/
namespace Iems.Lib

/-- Nearest integer, ties to the even one. -/
def roundHalfEven (x : ℚ) : ℤ :=
  let below := ⌊x⌋
  let rest := x - below
  if rest < 1 / 2 then below
  else if 1 / 2 < rest then below + 1
  else if below % 2 = 0 then below
  else below + 1

/-- `round(x, digits)`. -/
def roundTo (digits : Nat) (x : ℚ) : ℚ := (roundHalfEven (x * 10 ^ digits) : ℚ) / 10 ^ digits

/-- `numpy.clip(x, lo, hi)`. -/
def clip (x lo hi : ℚ) : ℚ := min (max x lo) hi

/-- The format specifier `.{digits}f`. -/
def formatFixed (digits : Nat) (x : ℚ) : String :=
  let scaled := (roundHalfEven (x * 10 ^ digits)).natAbs
  let fraction := toString (scaled % 10 ^ digits)
  let padded := String.ofList (List.replicate (digits - fraction.length) '0') ++ fraction
  (if x < 0 then "-" else "") ++ toString (scaled / 10 ^ digits) ++
    (if digits = 0 then "" else "." ++ padded)

/-- The format specifier `+.{digits}f`. -/
def formatSigned (digits : Nat) (x : ℚ) : String := (if x < 0 then "" else "+") ++ formatFixed digits x

end Iems.Lib
