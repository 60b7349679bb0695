import Mathlib.Algebra.GroupWithZero.Nat
import Mathlib.Data.Int.Init
import Mathlib.Data.List.Basic
import Mathlib.Order.Basic

/-! UTC datetimes and the reporting period that a reference instant falls into. -/
namespace Iems.Carbon

def isLeap (year : Nat) : Bool := year % 4 == 0 && (year % 100 != 0 || year % 400 == 0)

def daysInMonth (year month : Nat) : Nat :=
  if month = 2 then (if isLeap year then 29 else 28)
  else if month = 4 ∨ month = 6 ∨ month = 9 ∨ month = 11 then 30
  else 31

def microsPerDay : Nat := 86400000000

def ValidParts (year month day clock : Nat) : Prop :=
  1 ≤ year ∧ year ≤ 9999 ∧ 1 ≤ month ∧ month ≤ 12 ∧ 1 ≤ day ∧ day ≤ daysInMonth year month ∧
    clock < microsPerDay

instance (year month day clock : Nat) : Decidable (ValidParts year month day clock) :=
  inferInstanceAs (Decidable (_ ∧ _))

/-- A datetime in UTC; `clock` is the time of day in microseconds. -/
structure Datetime where
  year : Nat
  month : Nat
  day : Nat
  clock : Nat
  valid : ValidParts year month day clock
  deriving DecidableEq

/-- `datetime(...)`: `none` where the constructor raises. -/
def Datetime.make? (year month day : Int) (clock : Nat) : Option Datetime :=
  if h : ValidParts year.toNat month.toNat day.toNat clock then some ⟨_, _, _, _, h⟩ else none

def daysBeforeYear (year : Nat) : Nat :=
  (year - 1) * 365 + (year - 1) / 4 - (year - 1) / 100 + (year - 1) / 400

def daysBeforeMonth (year month : Nat) : Nat :=
  ((List.range (month - 1)).map fun m => daysInMonth year (m + 1)).sum

def Datetime.toOrdinal (dt : Datetime) : Nat :=
  daysBeforeYear dt.year + daysBeforeMonth dt.year dt.month + dt.day

def Datetime.instant (dt : Datetime) : Int := dt.toOrdinal * microsPerDay + dt.clock

/-- `dt + timedelta(days=1)`. -/
def Datetime.addDay (dt : Datetime) : Option Datetime :=
  if dt.day < daysInMonth dt.year dt.month then Datetime.make? dt.year dt.month (dt.day + 1) dt.clock
  else if dt.month < 12 then Datetime.make? dt.year (dt.month + 1) 1 dt.clock
  else Datetime.make? (dt.year + 1) 1 1 dt.clock

/-- `dt - timedelta(days=1)`. -/
def Datetime.subDay (dt : Datetime) : Option Datetime :=
  if 1 < dt.day then Datetime.make? dt.year dt.month (dt.day - 1) dt.clock
  else if 1 < dt.month then
    Datetime.make? dt.year (dt.month - 1) (daysInMonth dt.year (dt.month - 1)) dt.clock
  else Datetime.make? (dt.year - 1) 12 31 dt.clock

def Datetime.midnight (dt : Datetime) : Option Datetime := Datetime.make? dt.year dt.month dt.day 0

def Datetime.firstOfMonth (dt : Datetime) : Option Datetime := Datetime.make? dt.year dt.month 1 0

def Datetime.firstOfYear (dt : Datetime) : Option Datetime := Datetime.make? dt.year 1 1 0

def Datetime.replaceYear (dt : Datetime) (year : Int) : Option Datetime :=
  Datetime.make? year dt.month dt.day dt.clock

def addMonths (dt : Datetime) (months : Int) : Option Datetime :=
  let month := (dt.month : Int) - 1 + months
  Datetime.make? (dt.year + month / 12) (month % 12 + 1) 1 dt.clock

inductive PeriodType where
  | daily | monthly | yearly
  deriving DecidableEq

def PeriodType.text : PeriodType → String
  | .daily => "daily"
  | .monthly => "monthly"
  | .yearly => "yearly"

structure PeriodWindow where
  periodType : PeriodType
  start : Datetime
  end_ : Datetime
  deriving DecidableEq

/-- `none` where a date leaves the years 1 to 9999. -/
def periodWindow (periodType : PeriodType) (ref : Datetime) (completedOnly : Bool) :
    Option PeriodWindow :=
  match periodType with
  | .daily => do
    let today ← ref.midnight
    let end_ ← if completedOnly then some today else today.addDay
    let start ← end_.subDay
    return ⟨.daily, start, end_⟩
  | .monthly => do
    let firstOfMonth ← ref.firstOfMonth
    let end_ ← if completedOnly then some firstOfMonth else addMonths firstOfMonth 1
    let start ← addMonths end_ (-1)
    return ⟨.monthly, start, end_⟩
  | .yearly => do
    let firstOfYear ← ref.firstOfYear
    let end_ ← if completedOnly then some firstOfYear else firstOfYear.replaceYear (firstOfYear.year + 1)
    let start ← end_.replaceYear (end_.year - 1)
    return ⟨.yearly, start, end_⟩

end Iems.Carbon
