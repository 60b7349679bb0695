import Iems.Ingestion.Freshness
import Iems.Lib.Newest
import Iems.Lib.Runs
import Iems.Lib.Table

/-! Stream alerts: raised by freshness checks with a cooldown, resolved by operators. -/
namespace Iems.Ingestion
open Lib Iems.Core Iems.Repositories

inductive AlertType where
  | streamStale | streamMissing | dataQuality
  deriving DecidableEq

structure StreamAlert where
  plantCode : String
  alertType : AlertType
  message : String
  ageSeconds : Option ℚ
  createdAt : Int
  resolvedAt : Option Int := none

abbrev AlertTable := Table StreamAlert

def alertType : StreamStatus → AlertType
  | .missing => .streamMissing
  | .badQuality => .dataQuality
  | _ => .streamStale

/-- `ORDER BY created_at DESC`. -/
def newestFirst (alerts : List (Nat × StreamAlert)) : List (Nat × StreamAlert) :=
  orderBy (fun row => -row.2.createdAt) alerts

/-- `WHERE plant_code = ? AND alert_type = ? AND resolved_at IS NULL`. -/
def openAlerts (alerts : AlertTable) (plantCode : String) (type : AlertType) : List (Nat × StreamAlert) :=
  alerts.rows.filter fun row => row.2.plantCode = plantCode ∧ row.2.alertType = type ∧ row.2.resolvedAt = none

/-- The clock is read once for the age of the existing alert and once for the new one. -/
def raiseAlertIfNeeded (cfg : Settings) (status : FreshnessStatus) (asked created : Int) (alerts : AlertTable) :
    Option (Nat × StreamAlert) × AlertTable :=
  if status.status = .ok then (none, alerts)
  else
    let alert : StreamAlert :=
      { plantCode := status.plantCode
        alertType := alertType status.status
        message := status.message
        ageSeconds := status.ageSeconds
        createdAt := created }
    match (newestFirst (openAlerts alerts status.plantCode (alertType status.status))).head? with
    | none => (some (alerts.nextId, alert), alerts.insert alert)
    | some existing =>
      let age : ℚ := ((asked - existing.2.createdAt : Int) : ℚ) / 1000000
      if age < cfg.streamAlertCooldownSeconds then (some existing, alerts)
      else (some (alerts.nextId, alert), alerts.insert alert)

def listOpenAlerts (alerts : AlertTable) (limit : Nat) : List (Nat × StreamAlert) :=
  (newestFirst (alerts.rows.filter fun row => row.2.resolvedAt = none)).take limit

def resolveAlert (alertId : Nat) (now : Int) (alerts : AlertTable) : Option StreamAlert × AlertTable :=
  match alerts.find? alertId with
  | none => (none, alerts)
  | some _ =>
    let resolved := alerts.update alertId fun alert => { alert with resolvedAt := some now }
    (resolved.find? alertId, resolved)

/-- A freshness check over the readings of its moment. -/
structure AlertCheck where
  plants : Dict String Nat
  table : SensorTable
  plantCode : String
  queryFails : Bool
  now : Int
  asked : Int
  created : Int

def AlertCheck.status (cfg : Settings) (check : AlertCheck) : Option FreshnessStatus :=
  checkFreshness cfg check.plants check.table check.plantCode check.now check.queryFails

inductive AlertEvent where
  | check (freshness : AlertCheck)
  | resolve (alertId : Nat) (now : Int)

/-- A check that raises leaves the alerts alone. -/
def alertStep (cfg : Settings) (alerts : AlertTable) : AlertEvent → AlertTable
  | .check freshness =>
    match freshness.status cfg with
    | none => alerts
    | some status => (raiseAlertIfNeeded cfg status freshness.asked freshness.created alerts).2
  | .resolve alertId now => (resolveAlert alertId now alerts).2

def AlertEvent.clock : AlertEvent → List Int
  | .check freshness => [freshness.now, freshness.asked, freshness.created]
  | .resolve _ now => [now]

/-- The events run one after another under a clock that never goes back. -/
def Clocked (events : List AlertEvent) : Prop := (events.flatMap AlertEvent.clock).Pairwise (· ≤ ·)

instance (events : List AlertEvent) : Decidable (Clocked events) :=
  inferInstanceAs (Decidable (List.Pairwise _ _))

def SameStream (a b : StreamAlert) : Prop := a.plantCode = b.plantCode ∧ a.alertType = b.alertType

def Apart (cfg : Settings) (a b : StreamAlert) : Prop :=
  cfg.streamAlertCooldownSeconds ≤ |((a.createdAt - b.createdAt : Int) : ℚ) / 1000000|

/-- Two unresolved alerts of one plant and type are the cooldown apart. -/
def Spaced (cfg : Settings) (alerts : AlertTable) : Prop :=
  ∀ i j a b, i ≠ j → alerts.find? i = some a → alerts.find? j = some b → a.resolvedAt = none → b.resolvedAt = none →
    SameStream a b → Apart cfg a b

/-! ### The newest open alert -/

theorem mem_openAlerts {alerts : AlertTable} {plantCode : String} {type : AlertType} {id : Nat} {a : StreamAlert} :
    (id, a) ∈ openAlerts alerts plantCode type ↔
      alerts.find? id = some a ∧ a.plantCode = plantCode ∧ a.alertType = type ∧ a.resolvedAt = none := by
  unfold openAlerts
  rw [List.mem_filter, Table.mem_rows]
  simp

theorem newestFirst_head {rows : List (Nat × StreamAlert)} {newest : Nat × StreamAlert}
    (found : (newestFirst rows).head? = some newest) :
    newest ∈ rows ∧ ∀ row ∈ rows, row.2.createdAt ≤ newest.2.createdAt := by
  obtain ⟨member, first⟩ := orderBy_head found
  exact ⟨member, fun row listed => by have later := first row listed; omega⟩

/-! ### What a check and a resolution do -/

variable {cfg : Settings}

/-- A check that is not ok finds a young open alert, or inserts one past the cooldown of every open one. -/
theorem raise_cases {status : FreshnessStatus} (unhealthy : status.status ≠ .ok) (asked created : Int) (alerts : AlertTable) :
    (∃ id alert, (id, alert) ∈ openAlerts alerts status.plantCode (alertType status.status) ∧
      (raiseAlertIfNeeded cfg status asked created alerts).2 = alerts) ∨
    (∃ alert, (alert.plantCode = status.plantCode ∧ alert.alertType = alertType status.status ∧ alert.resolvedAt = none) ∧
      alert.createdAt = created ∧ (raiseAlertIfNeeded cfg status asked created alerts).2 = alerts.insert alert ∧
      ∀ id other, (id, other) ∈ openAlerts alerts status.plantCode (alertType status.status) →
        cfg.streamAlertCooldownSeconds ≤ ((asked - other.createdAt : Int) : ℚ) / 1000000) := by
  unfold raiseAlertIfNeeded
  rw [if_neg unhealthy]
  dsimp only
  cases found : (newestFirst (openAlerts alerts status.plantCode (alertType status.status))).head? with
  | none =>
    have empty : openAlerts alerts status.plantCode (alertType status.status) = [] := by
      rw [List.head?_eq_none_iff, ← List.length_eq_zero_iff] at found
      rw [← List.length_eq_zero_iff, ← found]
      exact (length_orderBy _).symm
    refine .inr ⟨_, ⟨rfl, rfl, rfl⟩, rfl, rfl, ?_⟩
    intro id other listed
    rw [empty] at listed
    exact nomatch listed
  | some newest =>
    obtain ⟨member, latest⟩ := newestFirst_head found
    dsimp only
    split
    · exact .inl ⟨newest.1, newest.2, member, rfl⟩
    · rename_i old
      refine .inr ⟨_, ⟨rfl, rfl, rfl⟩, rfl, rfl, ?_⟩
      intro id other listed
      -- the newest open alert is the youngest one, so every other has the age as well
      have younger : ((asked - newest.2.createdAt : Int) : ℚ) ≤ ((asked - other.createdAt : Int) : ℚ) := by
        have order := latest (id, other) listed
        exact_mod_cast Int.sub_le_sub_left order asked
      have reached := not_lt.mp old
      linarith

theorem apart_symm {a b : StreamAlert} (apart : Apart cfg a b) : Apart cfg b a := by
  unfold Apart at apart ⊢
  have swapped : ((b.createdAt - a.createdAt : Int) : ℚ) / 1000000 = -(((a.createdAt - b.createdAt : Int) : ℚ) / 1000000) := by
    push_cast
    ring
  rwa [swapped, abs_neg]

theorem spaced_insert {alerts : AlertTable} {alert : StreamAlert} (spaced : Spaced cfg alerts)
    (new : ∀ id other, alerts.find? id = some other → other.resolvedAt = none → SameStream alert other →
      Apart cfg alert other) : Spaced cfg (alerts.insert alert) := by
  intro i j a b distinct first second openA openB same
  rw [Table.find?_insert] at first second
  split at first
  · cases first
    split at second
    · rename_i here there
      exact absurd (here.trans there.symm) distinct
    · exact new j b second openB same
  · split at second
    · cases second
      exact apart_symm (new i a first openA ⟨same.1.symm, same.2.symm⟩)
    · exact spaced i j a b distinct first second openA openB same

/-- A resolution only takes alerts away from the open ones. -/
theorem spaced_resolve {alerts : AlertTable} (spaced : Spaced cfg alerts) (alertId : Nat) (now : Int) :
    Spaced cfg (resolveAlert alertId now alerts).2 := by
  unfold resolveAlert
  cases alerts.find? alertId with
  | none => exact spaced
  | some _ =>
    have kept : ∀ {id : Nat} {a : StreamAlert}, (alerts.update alertId fun alert =>
        { alert with resolvedAt := some now }).find? id = some a → a.resolvedAt = none → alerts.find? id = some a := by
      intro id a found unresolved
      rw [Table.find?_update] at found
      split at found
      · obtain ⟨before, _, rfl⟩ := Option.map_eq_some_iff.mp found
        exact nomatch unresolved
      · exact found
    intro i j a b distinct first second openA openB same
    exact spaced i j a b distinct (kept first openA) (kept second openB) openA openB same

theorem spaced_check {alerts : AlertTable} (spaced : Spaced cfg alerts) {freshness : AlertCheck}
    (ordered : freshness.asked ≤ freshness.created) : Spaced cfg (alertStep cfg alerts (.check freshness)) := by
  unfold alertStep
  dsimp only
  cases freshness.status cfg with
  | none => exact spaced
  | some status =>
    dsimp only
    by_cases healthy : status.status = .ok
    · unfold raiseAlertIfNeeded
      rwa [if_pos healthy]
    · rcases @raise_cases cfg status healthy freshness.asked freshness.created alerts with
        ⟨_, _, _, unchanged⟩ | ⟨alert, ⟨plant, type, _⟩, clock, inserted, old⟩
      · rwa [unchanged]
      · rw [inserted]
        refine spaced_insert spaced fun id other found unresolved same => ?_
        have listed := mem_openAlerts.mpr ⟨found, same.1.symm.trans plant, same.2.symm.trans type, unresolved⟩
        have reached := old id other listed
        have later : ((freshness.asked - other.createdAt : Int) : ℚ) ≤ ((alert.createdAt - other.createdAt : Int) : ℚ) := by
          rw [clock]
          exact_mod_cast Int.sub_le_sub_right ordered other.createdAt
        have size := le_abs_self (((alert.createdAt - other.createdAt : Int) : ℚ) / 1000000)
        unfold Apart
        linarith

/-- Whatever the check finds, an open alert of its plant and type stands afterwards. -/
theorem check_leaves_alert (alerts : AlertTable) {freshness : AlertCheck} {status : FreshnessStatus}
    (checked : freshness.status cfg = some status) (unhealthy : status.status ≠ .ok) :
    ∃ id alert, (alertStep cfg alerts (.check freshness)).find? id = some alert ∧
      alert.plantCode = status.plantCode ∧ alert.alertType = alertType status.status ∧ alert.resolvedAt = none := by
  unfold alertStep
  dsimp only
  rw [checked]
  dsimp only
  rcases @raise_cases cfg status unhealthy freshness.asked freshness.created alerts with
    ⟨id, alert, listed, unchanged⟩ | ⟨alert, matching, _, inserted, _⟩
  · rw [unchanged]
    exact ⟨id, alert, mem_openAlerts.mp listed⟩
  · rw [inserted]
    exact ⟨alerts.nextId, alert, by rw [Table.find?_insert, if_pos rfl], matching⟩

/-! ### Histories -/

theorem clocked_check {events : List AlertEvent} (clocked : Clocked events) {freshness : AlertCheck}
    (member : .check freshness ∈ events) : freshness.asked ≤ freshness.created := by
  have own := (List.pairwise_flatMap.mp clocked).1 _ member
  simp only [AlertEvent.clock, List.pairwise_cons] at own
  exact own.2.1 _ List.mem_cons_self

/-- A plant without readings, checked at a second of the day. -/
def silentCheck (second : Int) : AlertCheck :=
  ⟨.empty, .empty, "olefin", false, second * 1000000, second * 1000000 + 20, second * 1000000 + 50⟩

end Iems.Ingestion
