import Iems.Carbon.Period

/-! Timestamps with or without a timezone, as the OPC library and the clock deliver them. -/
namespace Iems.Core
open Iems.Carbon

/-- `utcOffset` is in microseconds; `none` for a naive timestamp. -/
structure Timestamp where
  wall : Datetime
  utcOffset : Option Int
  bounded : ∀ offset ∈ utcOffset, -(microsPerDay : Int) < offset ∧ offset < microsPerDay
  deriving DecidableEq

namespace Timestamp

def isAware (stamp : Timestamp) : Bool := stamp.utcOffset.isSome

def utc (wall : Datetime) : Timestamp where
  wall := wall
  utcOffset := some 0
  bounded := by
    intro offset member
    cases member
    decide

/-- `stamp.replace(tzinfo=timezone.utc)` where the timezone is missing. -/
def assumeUtc (stamp : Timestamp) : Timestamp := if stamp.isAware then stamp else utc stamp.wall

/-- The instant in UTC, or the wall clock of a naive timestamp. -/
def instant (stamp : Timestamp) : Int := stamp.wall.instant - stamp.utcOffset.getD 0

/-- `a > b`: `none` where the comparison raises. -/
def greater? (a b : Timestamp) : Option Bool :=
  if a.isAware = b.isAware then some (b.instant < a.instant) else none

/-- `max`, after its first element. -/
def latest? (latest : Timestamp) : List Timestamp → Option Timestamp
  | [] => some latest
  | stamp :: rest =>
    match stamp.greater? latest with
    | none => none
    | some true => latest? stamp rest
    | some false => latest? latest rest

def padZeros (width n : Nat) : String :=
  String.ofList (List.replicate (width - (toString n).length) '0') ++ toString n

def fraction (micros : Nat) : String := if micros = 0 then "" else "." ++ padZeros 6 micros

def isoClock (clock : Nat) : String :=
  let seconds := clock / 1000000
  padZeros 2 (seconds / 3600) ++ ":" ++ padZeros 2 (seconds / 60 % 60) ++ ":" ++
    padZeros 2 (seconds % 60) ++ fraction (clock % 1000000)

def isoDate (wall : Datetime) : String :=
  padZeros 4 wall.year ++ "-" ++ padZeros 2 wall.month ++ "-" ++ padZeros 2 wall.day

/-- The offset shows its seconds only where it has some. -/
def isoOffset (offset : Int) : String :=
  let size := offset.natAbs
  let seconds := size / 1000000
  (if offset < 0 then "-" else "+") ++ padZeros 2 (seconds / 3600) ++ ":" ++ padZeros 2 (seconds / 60 % 60) ++
    (if size % 60000000 = 0 then "" else ":" ++ padZeros 2 (seconds % 60) ++ fraction (size % 1000000))

def isoformat (stamp : Timestamp) : String :=
  isoDate stamp.wall ++ "T" ++ isoClock stamp.wall.clock ++ (stamp.utcOffset.map isoOffset).getD ""

/-! ### The latest of several timestamps -/

theorem assumeUtc_isAware (stamp : Timestamp) : stamp.assumeUtc.isAware = true := by
  unfold assumeUtc
  split
  · rename_i aware
    exact aware
  · rfl

theorem greater?_none {a b : Timestamp} : a.greater? b = none ↔ a.isAware ≠ b.isAware := by
  unfold greater?
  split <;> simp_all

theorem greater?_some {a b : Timestamp} {answer : Bool} (compared : a.greater? b = some answer) :
    a.isAware = b.isAware := by
  by_contra mixed
  rw [greater?_none.mpr mixed] at compared
  cases compared

/-- The scan raises exactly when naive and aware timestamps meet. -/
theorem latest?_isSome {latest : Timestamp} {stamps : List Timestamp} :
    (latest? latest stamps).isSome = true ↔ ∀ stamp ∈ stamps, stamp.isAware = latest.isAware := by
  induction stamps generalizing latest with
  | nil => simp [latest?]
  | cons stamp rest ih =>
    unfold latest?
    rw [List.forall_mem_cons]
    split
    · rename_i raised
      have mixed := greater?_none.mp raised
      simp [mixed]
    · rename_i compared
      have same := greater?_some compared
      rw [ih, same]
      simp
    · rename_i compared
      have same := greater?_some compared
      rw [ih]
      simp [same]

theorem latest?_mem {latest found : Timestamp} {stamps : List Timestamp}
    (scanned : latest? latest stamps = some found) : found ∈ latest :: stamps := by
  induction stamps generalizing latest with
  | nil =>
    cases scanned
    exact List.mem_cons_self
  | cons stamp rest ih =>
    unfold latest? at scanned
    split at scanned
    · cases scanned
    · exact List.mem_cons_of_mem _ (ih scanned)
    · rcases List.mem_cons.mp (ih scanned) with first | later
      · exact List.mem_cons.mpr (Or.inl first)
      · exact List.mem_cons_of_mem _ (List.mem_cons_of_mem _ later)

end Timestamp
end Iems.Core
