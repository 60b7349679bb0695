import Iems.Optimization.Recommendations

/-! Faults in the middle of a persist: all rows are committed before the first of their audit events. -/
namespace Iems.Optimization
open Lib

/-- Where a persist raises: in the schema step, in the commit of the rows, or in the audit loop at one of them. -/
inductive PersistFault where
  | schema
  | commit
  | refresh (row : Nat)
  | auditCommit (row : Nat)
  | auditRefresh (row : Nat)
  deriving DecidableEq

/-- The loop over the committed rows from an index on, and whether it comes to its end. -/
def auditRows (fault : Option PersistFault) (index : Nat) :
    List (Nat × OptimizationRecommendation) → RecStore → Bool × RecStore
  | [], db => (true, db)
  | row :: rest, db =>
    if fault = some (.refresh index) then (false, db)
    else if fault = some (.auditCommit index) then (false, db)
    else
      let audited := appendAudit db (createdEvent row)
      if fault = some (.auditRefresh index) then (false, audited)
      else auditRows fault (index + 1) rest audited

/-- `persist_recommendations` under a fault; no rows come back where it raises. -/
def persistUnder (fault : Option PersistFault) (now : Int) (adviceItems : List SetpointAdvice)
    (simulations : Dict String AdviceSimulation) (db : RecStore) :
    Option (List (Nat × OptimizationRecommendation)) × RecStore :=
  if fault = some .schema then (none, db)
  else if fault = some .commit then (none, db)
  else
    let (rows, recommendations) :=
      db.recommendations.insertAll (adviceItems.map (newRecommendation now simulations))
    let (ended, audited) := auditRows fault 0 rows { db with recommendations := recommendations }
    (if ended then some rows else none, audited)

def AtRow (fault : Option PersistFault) (row : Nat) : Prop :=
  fault = some (.refresh row) ∨ fault = some (.auditCommit row) ∨ fault = some (.auditRefresh row)

/-- A fault of the audit loop, after the commit of the rows. -/
def LateFault (fault : Option PersistFault) (rows : Nat) : Prop := ∃ row < rows, AtRow fault row

def EarlyFault (fault : Option PersistFault) : Prop := fault = some .schema ∨ fault = some .commit

theorem auditRows_recommendations (fault : Option PersistFault) (index : Nat)
    (rows : List (Nat × OptimizationRecommendation)) (db : RecStore) :
    (auditRows fault index rows db).2.recommendations = db.recommendations := by
  induction rows generalizing index db with
  | nil => rfl
  | cons row rest ih =>
    unfold auditRows
    split
    · rfl
    · split
      · rfl
      · dsimp only
        split
        · rfl
        · exact ih (index + 1) (appendAudit db (createdEvent row))

theorem auditRows_ended_iff (fault : Option PersistFault) (index : Nat)
    (rows : List (Nat × OptimizationRecommendation)) (db : RecStore) :
    (auditRows fault index rows db).1 = true ↔ ∀ row, index ≤ row → row < index + rows.length → ¬AtRow fault row := by
  induction rows generalizing index db with
  | nil =>
    refine iff_of_true rfl fun row after before => ?_
    simp only [List.length_nil] at before
    omega
  | cons row rest ih =>
    have parts : (∀ r, index ≤ r → r < index + (row :: rest).length → ¬AtRow fault r) ↔
        ¬AtRow fault index ∧ ∀ r, index + 1 ≤ r → r < index + 1 + rest.length → ¬AtRow fault r := by
      simp only [List.length_cons]
      constructor
      · intro all
        exact ⟨all index le_rfl (by omega), fun r after before => all r (by omega) (by omega)⟩
      · rintro ⟨first, later⟩ r after before
        by_cases same : r = index
        · rw [same]
          exact first
        · exact later r (by omega) (by omega)
    rw [parts]
    unfold auditRows
    by_cases refresh : fault = some (.refresh index)
    · simp [AtRow, refresh]
    · by_cases commit : fault = some (.auditCommit index)
      · simp [AtRow, commit]
      · by_cases reread : fault = some (.auditRefresh index)
        · simp [AtRow, reread]
        · rw [if_neg refresh, if_neg commit]
          dsimp only
          rw [if_neg reread, ih]
          simp [AtRow, refresh, commit, reread]

theorem auditRows_unfaulted (index : Nat) (rows : List (Nat × OptimizationRecommendation)) (db : RecStore) :
    (auditRows none index rows db).2 =
      { db with auditEvents := (db.auditEvents.insertAll (rows.map createdEvent)).2 } := by
  induction rows generalizing index db with
  | nil => rfl
  | cons row rest ih =>
    simp only [auditRows, reduceCtorEq, if_false]
    exact ih (index + 1) (appendAudit db (createdEvent row))

/-- Without a fault this is the persist of the workflow. -/
theorem persistUnder_none (now : Int) (adviceItems : List SetpointAdvice) (simulations : Dict String AdviceSimulation)
    (db : RecStore) : persistUnder none now adviceItems simulations db =
      (some (persistRecommendations now adviceItems simulations db).1,
        (persistRecommendations now adviceItems simulations db).2) := by
  unfold persistUnder persistRecommendations
  simp only [reduceCtorEq, if_false]
  rw [auditRows_unfaulted, if_pos ((auditRows_ended_iff _ _ _ _).mpr fun row _ _ => by simp [AtRow])]

section
variable {fault : Option PersistFault} (now : Int) (adviceItems : List SetpointAdvice)
  (simulations : Dict String AdviceSimulation) (db : RecStore)

theorem persistUnder_early (early : EarlyFault fault) :
    persistUnder fault now adviceItems simulations db = (none, db) := by
  unfold persistUnder
  rcases early with rfl | rfl <;> simp

/-- Past the commit the rows are stored, and come back unless the audit loop raises. -/
theorem persistUnder_committed (past : ¬EarlyFault fault) :
    (persistUnder fault now adviceItems simulations db).2.recommendations =
        (persistRecommendations now adviceItems simulations db).2.recommendations ∧
      (LateFault fault adviceItems.length ∧ (persistUnder fault now adviceItems simulations db).1 = none ∨
        ¬LateFault fault adviceItems.length ∧ (persistUnder fault now adviceItems simulations db).1 =
          some (persistRecommendations now adviceItems simulations db).1) := by
  obtain ⟨schema, commit⟩ := not_or.mp past
  have rows : (persistRecommendations now adviceItems simulations db).1.length = adviceItems.length := by
    have values := congrArg List.length
      (Table.new_insertAll db.recommendations (adviceItems.map (newRecommendation now simulations)))
    rw [List.length_map, List.length_map] at values
    exact values
  have ended := auditRows_ended_iff fault 0 (persistRecommendations now adviceItems simulations db).1
    { db with recommendations := (persistRecommendations now adviceItems simulations db).2.recommendations }
  rw [rows] at ended
  have late : LateFault fault adviceItems.length ↔
      ¬∀ row, 0 ≤ row → row < 0 + adviceItems.length → ¬AtRow fault row := by
    unfold LateFault
    push Not
    simp
  unfold persistUnder
  rw [if_neg schema, if_neg commit]
  refine ⟨auditRows_recommendations _ _ _ _, ?_⟩
  by_cases raised : LateFault fault adviceItems.length
  · exact Or.inl ⟨raised, if_neg (fun done => late.mp raised (ended.mp done))⟩
  · exact Or.inr ⟨raised, if_pos (ended.mpr (not_not.mp (mt late.mpr raised)))⟩

end
end Iems.Optimization
