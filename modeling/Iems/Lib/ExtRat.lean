import Iems.Lib.Decimal

/-! Rationals with the special values of floating-point numbers. -/
namespace Iems.Lib

inductive ExtRat where
  | nan
  | infinite (negative : Bool)
  | finite (value : ℚ)
  deriving DecidableEq

namespace ExtRat

def isNan : ExtRat → Bool
  | .nan => true
  | _ => false

def add : ExtRat → ExtRat → ExtRat
  | .finite a, .finite b => .finite (a + b)
  | .infinite s, .infinite t => if s = t then .infinite s else .nan
  | .infinite s, .finite _ => .infinite s
  | .finite _, .infinite t => .infinite t
  | _, _ => .nan

/-- Multiplication by a finite number. -/
def scale (x : ExtRat) (factor : ℚ) : ExtRat :=
  match x with
  | .nan => .nan
  | .infinite negative =>
    if factor = 0 then .nan else .infinite (if factor < 0 then !negative else negative)
  | .finite a => .finite (a * factor)

def clip (x : ExtRat) (lo hi : ℚ) : ExtRat :=
  match x with
  | .nan => .nan
  | .infinite negative => .finite (if negative then min lo hi else hi)
  | .finite a => .finite (Lib.clip a lo hi)

def abs : ExtRat → ExtRat
  | .nan => .nan
  | .infinite _ => .infinite false
  | .finite a => .finite |a|

/-- `x <= bound`; not a number is below nothing. -/
def atMost (x : ExtRat) (bound : ℚ) : Bool :=
  match x with
  | .nan => false
  | .infinite negative => negative
  | .finite a => a ≤ bound

/-- `numpy.mean`: no number for no value. -/
def mean (values : List ExtRat) : ExtRat :=
  if values = [] then .nan else (values.foldl add (.finite 0)).scale (1 / values.length)

def roundTo (digits : Nat) : ExtRat → ExtRat
  | .finite a => .finite (Lib.roundTo digits a)
  | x => x

@[simp] theorem add_finite (a b : ℚ) : (finite a).add (finite b) = finite (a + b) := rfl

@[simp] theorem scale_finite (a factor : ℚ) : (finite a).scale factor = finite (a * factor) := rfl

@[simp] theorem clip_finite (a lo hi : ℚ) : (finite a).clip lo hi = finite (Lib.clip a lo hi) := rfl

@[simp] theorem roundTo_finite (digits : Nat) (a : ℚ) : (finite a).roundTo digits = finite (Lib.roundTo digits a) := rfl

end ExtRat
end Iems.Lib
