import Iems.Ingestion.Alerts
import Iems.Lib.Spacing

/-! The alerts of the operator's console: checked for every configured unit, then listed up to a limit. -/
namespace Iems.Api
open Lib Iems.Core Repositories Ingestion

inductive Severity where
  | critical | warning | info
  deriving DecidableEq

def alertSeverity : AlertType → Severity
  | .streamMissing => .critical
  | .dataQuality => .warning
  | .streamStale => .warning

structure StreamAlertOut where
  id : Nat
  plantCode : String
  alertType : AlertType
  message : String
  ageSeconds : Option ℚ
  createdAt : Int
  resolvedAt : Option Int
  severity : Severity
  deriving DecidableEq

def toOut (row : Nat × StreamAlert) : StreamAlertOut where
  id := row.1
  plantCode := row.2.plantCode
  alertType := row.2.alertType
  message := row.2.message
  ageSeconds := row.2.ageSeconds
  createdAt := row.2.createdAt
  resolvedAt := row.2.resolvedAt
  severity := alertSeverity row.2.alertType

/-- What a unit meets when its turn comes. -/
structure CheckMoment where
  plants : Dict String Nat
  table : SensorTable
  queryFails : Bool
  now : Int
  asked : Int
  created : Int

def checkAt (plantCode : String) (moment : CheckMoment) : AlertCheck where
  plants := moment.plants
  table := moment.table
  plantCode := plantCode
  queryFails := moment.queryFails
  now := moment.now
  asked := moment.asked
  created := moment.created

section
variable (cfg : Settings)

/-- The loop over the units; `false` where a check raises, with the alerts that were committed before it. -/
def checkUnits : List AlertCheck → AlertTable → Bool × AlertTable
  | [], alerts => (true, alerts)
  | check :: rest, alerts =>
    match check.status cfg with
    | none => (false, alerts)
    | some status => checkUnits rest (raiseAlertIfNeeded cfg status check.asked check.created alerts).2

def unitChecks (moments : ℕ → CheckMoment) : List AlertCheck :=
  cfg.unitCodeList.zipIdx.map fun slot => checkAt slot.1 (moments slot.2)

/-- The listing is `none` where a check raises. -/
def getAlerts (moments : ℕ → CheckMoment) (alerts : AlertTable) : Option (List StreamAlertOut) × AlertTable :=
  match checkUnits cfg (unitChecks cfg moments) alerts with
  | (false, checked) => (none, checked)
  | (true, checked) => (some ((listOpenAlerts checked 50).map toOut), checked)

/-- `none` is the 404. -/
def ackAlert (alertId : Nat) (now : Int) (alerts : AlertTable) : Option StreamAlertOut × AlertTable :=
  let (alert, resolved) := resolveAlert alertId now alerts
  (alert.map fun held => toOut (alertId, held), resolved)

end

/-- The streams with an open alert, each a plant and a type. -/
def openStreams (alerts : AlertTable) : List (String × AlertType) :=
  ((alerts.rows.filter fun row => row.2.resolvedAt = none).map fun row => (row.2.plantCode, row.2.alertType)).dedup

/-- The checks of one request are over before the first of them is a cooldown old. -/
def Brief (cfg : Settings) (checks : List AlertCheck) : Prop :=
  ∀ first ∈ checks, ∀ last ∈ checks,
    ((last.created - first.asked : Int) : ℚ) / 1000000 < cfg.streamAlertCooldownSeconds

/-! ### One check among others -/

variable {cfg : Settings}

/-- Whatever a check that is not ok finds, an open alert younger than the cooldown stands afterwards. -/
theorem raise_young {status : FreshnessStatus} (unhealthy : status.status ≠ .ok) {asked created : Int}
    (alerts : AlertTable) (ordered : asked ≤ created) (positive : 0 < cfg.streamAlertCooldownSeconds) :
    ∃ id alert, (raiseAlertIfNeeded cfg status asked created alerts).2.find? id = some alert ∧
      alert.plantCode = status.plantCode ∧ alert.alertType = alertType status.status ∧ alert.resolvedAt = none ∧
      ((asked - alert.createdAt : Int) : ℚ) / 1000000 < cfg.streamAlertCooldownSeconds := by
  have fresh : ((asked - created : Int) : ℚ) / 1000000 < cfg.streamAlertCooldownSeconds := by
    have back : ((asked - created : Int) : ℚ) ≤ 0 := by exact_mod_cast Int.sub_nonpos_of_le ordered
    linarith
  have inserted : ∀ alert, (alerts.insert alert).find? alerts.nextId = some alert := fun alert => by
    rw [Table.find?_insert, if_pos rfl]
  unfold raiseAlertIfNeeded
  rw [if_neg unhealthy]
  dsimp only
  split
  · exact ⟨alerts.nextId, _, inserted _, rfl, rfl, rfl, fresh⟩
  · rename_i existing found
    obtain ⟨member, _⟩ := newestFirst_head found
    split
    · rename_i young
      obtain ⟨stored, plant, type, unresolved⟩ := mem_openAlerts.mp member
      exact ⟨existing.1, existing.2, stored, plant, type, unresolved, young⟩
    · exact ⟨alerts.nextId, _, inserted _, rfl, rfl, rfl, fresh⟩

theorem check_keeps {alerts : AlertTable} {id : Nat} {alert : StreamAlert} (stored : alerts.find? id = some alert)
    (check : AlertCheck) : (alertStep cfg alerts (.check check)).find? id = some alert := by
  unfold alertStep
  dsimp only
  split
  · exact stored
  · rename_i status _
    by_cases healthy : status.status = .ok
    · unfold raiseAlertIfNeeded
      rwa [if_pos healthy]
    · rcases @raise_cases cfg status healthy check.asked check.created alerts with
        ⟨_, _, _, unchanged⟩ | ⟨_, _, _, inserted, _⟩
      · rwa [unchanged]
      · have older := Table.find?_lt stored
        rw [inserted, Table.find?_insert, if_neg (by omega)]
        exact stored

theorem checks_keep {alerts : AlertTable} {id : Nat} {alert : StreamAlert} (stored : alerts.find? id = some alert)
    (checks : List AlertCheck) : (run (alertStep cfg) alerts (checks.map .check)).find? id = some alert := by
  induction checks generalizing alerts with
  | nil => exact stored
  | cons check rest ih => exact ih (check_keeps stored check)

/-- The loop of a request that lists its alerts is a run of its checks. -/
theorem checkUnits_run {checks : List AlertCheck} {alerts checked : AlertTable}
    (passed : checkUnits cfg checks alerts = (true, checked)) :
    checked = run (alertStep cfg) alerts (checks.map .check) := by
  induction checks generalizing alerts with
  | nil => exact (Prod.mk.inj passed).2.symm
  | cons check rest ih =>
    unfold checkUnits at passed
    split at passed
    · exact nomatch passed
    · rename_i status found
      rw [ih passed, List.map_cons, run_cons]
      unfold alertStep
      dsimp only
      rw [found]

/-! ### Histories -/

/-- Every stored alert was created at a reading of the clock. -/
def FromClock (times : List Int) (alerts : AlertTable) : Prop :=
  ∀ id alert, alerts.find? id = some alert → alert.createdAt ∈ times

theorem fromClock_step {times : List Int} {alerts : AlertTable} {event : AlertEvent} (before : FromClock times alerts)
    (within : ∀ time ∈ event.clock, time ∈ times) : FromClock times (alertStep cfg alerts event) := by
  intro id alert found
  cases event with
  | check check =>
    unfold alertStep at found
    dsimp only at found
    split at found
    · exact before id alert found
    · rename_i status _
      by_cases healthy : status.status = .ok
      · unfold raiseAlertIfNeeded at found
        rw [if_pos healthy] at found
        exact before id alert found
      · rcases @raise_cases cfg status healthy check.asked check.created alerts with
          ⟨_, _, _, unchanged⟩ | ⟨_, _, clock, inserted, _⟩
        · rw [unchanged] at found
          exact before id alert found
        · rw [inserted, Table.find?_insert] at found
          split at found
          · cases found
            rw [clock]
            exact within _ (by simp [AlertEvent.clock])
          · exact before id alert found
  | resolve alertId now =>
    unfold alertStep resolveAlert at found
    dsimp only at found
    split at found
    · exact before id alert found
    · dsimp only at found
      rw [Table.find?_update] at found
      split at found
      · obtain ⟨earlier, stored, rfl⟩ := Option.map_eq_some_iff.mp found
        exact before id earlier stored
      · exact before id alert found

/-- What a clocked history leaves behind. -/
structure Recorded (cfg : Settings) (times : List Int) (alerts : AlertTable) : Prop where
  spaced : Spaced cfg alerts
  clock : FromClock times alerts

theorem recorded_run {events : List AlertEvent} (clocked : Clocked events) :
    Recorded cfg (events.flatMap AlertEvent.clock) (run (alertStep cfg) .empty events) := by
  have member : Meets (alertStep cfg) (fun _ event => event ∈ events) .empty events :=
    meets_of_forall fun _ _ listed => listed
  have keep : ∀ alerts event, Recorded cfg (events.flatMap AlertEvent.clock) alerts → event ∈ events →
      Recorded cfg (events.flatMap AlertEvent.clock) (alertStep cfg alerts event) := by
    intro alerts event recorded listed
    refine ⟨?_, fromClock_step recorded.clock fun time own => List.mem_flatMap.mpr ⟨event, listed, own⟩⟩
    cases event with
    | check check => exact spaced_check recorded.spaced (clocked_check clocked listed)
    | resolve alertId now => exact spaced_resolve recorded.spaced alertId now
  exact member.invariant keep ⟨fun _ _ _ _ _ found => (nomatch found), fun _ _ found => nomatch found⟩

/-- An open alert is shown where the alerts created since fit the limit. -/
theorem listed_of_few {alerts : AlertTable} {id : Nat} {alert : StreamAlert} {limit : ℕ}
    (stored : alerts.find? id = some alert) (unresolved : alert.resolvedAt = none)
    (few : (alerts.rows.filter fun row => row.2.resolvedAt = none ∧ alert.createdAt ≤ row.2.createdAt).length ≤ limit) :
    (id, alert) ∈ listOpenAlerts alerts limit := by
  have listed : (id, alert) ∈ alerts.rows.filter fun row => row.2.resolvedAt = none :=
    List.mem_filter.mpr ⟨Table.mem_rows.mpr stored, by simpa using unresolved⟩
  refine mem_take_orderBy listed ?_
  rw [List.countP_eq_length_filter, List.filter_filter]
  refine le_trans (le_of_eq (congrArg List.length (List.filter_congr fun row _ => ?_))) few
  simp [and_comm]

theorem check_created {check : AlertCheck} (clocked : Clocked [.check check]) {time : Int}
    (own : time ∈ (AlertEvent.check check).clock) : time ≤ check.created := by
  have order : [check.now, check.asked, check.created].Pairwise (· ≤ ·) := by
    simpa [Clocked, AlertEvent.clock] using clocked
  simp only [List.pairwise_cons, List.mem_cons, List.not_mem_nil, or_false] at order
  simp only [AlertEvent.clock, List.mem_cons, List.not_mem_nil, or_false] at own
  rcases own with rfl | rfl | rfl
  · exact order.1 _ (.inr rfl)
  · exact order.2.1 _ rfl
  · exact le_refl _

/-- No alert is two cooldowns younger than one that was young at its check. -/
theorem created_within {events : List AlertEvent} {checks : List AlertCheck} {check : AlertCheck}
    (clocked : Clocked (events ++ checks.map AlertEvent.check)) (brief : Brief cfg checks) (member : check ∈ checks)
    {time created : Int} (own : time ∈ (events ++ checks.map AlertEvent.check).flatMap AlertEvent.clock)
    (young : ((check.asked - created : Int) : ℚ) / 1000000 < cfg.streamAlertCooldownSeconds) :
    (time : ℚ) / 1000000 - (created : ℚ) / 1000000 < (2 : ℕ) * cfg.streamAlertCooldownSeconds := by
  have asked : check.asked ∈ (checks.map AlertEvent.check).flatMap AlertEvent.clock :=
    List.mem_flatMap.mpr ⟨_, List.mem_map.mpr ⟨check, member, rfl⟩, by simp [AlertEvent.clock]⟩
  have nonneg := brief check member check member
  unfold Clocked at clocked
  rw [List.flatMap_append] at own clocked
  have orders := List.pairwise_append.mp clocked
  have checkOrder : ∀ other ∈ checks, Clocked [.check other] := by
    intro other listed
    have inner := (List.pairwise_flatMap.mp orders.2.1).1 _ (List.mem_map.mpr ⟨other, listed, rfl⟩)
    simpa [Clocked] using inner
  have ordered : check.asked ≤ check.created := check_created (checkOrder check member) (by simp [AlertEvent.clock])
  have zero : (0 : ℚ) ≤ ((check.created - check.asked : Int) : ℚ) := by exact_mod_cast Int.sub_nonneg_of_le ordered
  push_cast at young nonneg zero ⊢
  rcases List.mem_append.mp own with early | late
  · have before : (time : ℚ) ≤ check.asked := by exact_mod_cast orders.2.2 time early check.asked asked
    linarith
  · obtain ⟨event, listed, inner⟩ := List.mem_flatMap.mp late
    obtain ⟨other, present, rfl⟩ := List.mem_map.mp listed
    have below : (time : ℚ) ≤ other.created := by exact_mod_cast check_created (checkOrder other present) inner
    have short := brief check member other present
    push_cast at short
    linarith

/-- A young open alert has at most two alerts of each stream above it. -/
theorem few_above {events : List AlertEvent} {checks : List AlertCheck} {check : AlertCheck}
    (clocked : Clocked (events ++ checks.map AlertEvent.check)) (brief : Brief cfg checks) (member : check ∈ checks)
    (positive : 0 < cfg.streamAlertCooldownSeconds) {alerts : AlertTable}
    (recorded : Recorded cfg ((events ++ checks.map AlertEvent.check).flatMap AlertEvent.clock) alerts) {created : Int}
    (young : ((check.asked - created : Int) : ℚ) / 1000000 < cfg.streamAlertCooldownSeconds) :
    (alerts.rows.filter fun row => row.2.resolvedAt = none ∧ created ≤ row.2.createdAt).length ≤
      (openStreams alerts).length * 2 := by
  have kept : ∀ row ∈ alerts.rows.filter (fun row => row.2.resolvedAt = none ∧ created ≤ row.2.createdAt),
      alerts.find? row.1 = some row.2 ∧ row.2.resolvedAt = none ∧ created ≤ row.2.createdAt := by
    intro row listed
    obtain ⟨stored, both⟩ := List.mem_filter.mp listed
    exact ⟨Table.mem_rows.mp stored, by simpa using both⟩
  refine @length_le_of_spaced _ _ (fun row : ℕ × StreamAlert => (row.2.createdAt : ℚ) / 1000000) _
    ((created : ℚ) / 1000000) 2 _ _ (fun row => (row.2.plantCode, row.2.alertType)) positive ?_ ?_ ?_ ?_
  · exact (List.Nodup.of_map _ alerts.distinct).filter _
  · intro row listed
    obtain ⟨stored, unresolved, _⟩ := kept row listed
    exact List.mem_dedup.mpr (List.mem_map.mpr
      ⟨row, List.mem_filter.mpr ⟨Table.mem_rows.mpr stored, by simpa using unresolved⟩, rfl⟩)
  · intro row listed other listedToo distinct same
    obtain ⟨stored, unresolved, _⟩ := kept row listed
    obtain ⟨storedToo, unresolvedToo, _⟩ := kept other listedToo
    have ids : row.1 ≠ other.1 := by
      intro sameId
      rw [sameId] at stored
      exact distinct (Prod.ext sameId (Option.some.inj (stored.symm.trans storedToo)))
    have apart := recorded.spaced row.1 other.1 row.2 other.2 ids stored storedToo unresolved unresolvedToo
      (Prod.mk.inj same)
    unfold Apart at apart
    rwa [Int.cast_sub, sub_div] at apart
  · intro row listed
    obtain ⟨stored, _, later⟩ := kept row listed
    refine ⟨by gcongr, ?_⟩
    exact created_within clocked brief member (recorded.clock row.1 row.2 stored) young

/-- A request that lists its alerts has run its checks. -/
theorem getAlerts_run {moments : ℕ → CheckMoment} {alerts : AlertTable} {shown : List StreamAlertOut}
    (answered : (getAlerts cfg moments alerts).1 = some shown) :
    (getAlerts cfg moments alerts).2 = run (alertStep cfg) alerts ((unitChecks cfg moments).map AlertEvent.check) ∧
      shown = (listOpenAlerts (getAlerts cfg moments alerts).2 50).map toOut := by
  unfold getAlerts at answered ⊢
  split at answered
  · exact nomatch answered
  · rename_i passed
    exact ⟨checkUnits_run passed, (Option.some.inj answered).symm⟩

/-- At the end of a request, each unhealthy unit has an open alert that was young at its check. -/
theorem young_at_end {alerts : AlertTable} {checks : List AlertCheck} {check : AlertCheck} (member : check ∈ checks)
    {status : FreshnessStatus} (checked : check.status cfg = some status) (unhealthy : status.status ≠ .ok)
    (ordered : check.asked ≤ check.created) (positive : 0 < cfg.streamAlertCooldownSeconds) :
    ∃ id alert, (run (alertStep cfg) alerts (checks.map AlertEvent.check)).find? id = some alert ∧
      alert.plantCode = check.plantCode ∧ alert.alertType = alertType status.status ∧ alert.resolvedAt = none ∧
      ((check.asked - alert.createdAt : Int) : ℚ) / 1000000 < cfg.streamAlertCooldownSeconds := by
  obtain ⟨before, after, rfl⟩ := List.append_of_mem member
  have stepped : alertStep cfg (run (alertStep cfg) alerts (before.map AlertEvent.check)) (.check check) =
      (raiseAlertIfNeeded cfg status check.asked check.created
        (run (alertStep cfg) alerts (before.map AlertEvent.check))).2 := by
    unfold alertStep
    dsimp only
    rw [checked]
  obtain ⟨id, alert, stored, plant, type, unresolved, young⟩ := raise_young unhealthy
    (run (alertStep cfg) alerts (before.map AlertEvent.check)) ordered positive
  refine ⟨id, alert, ?_, plant.trans (checkFreshness_plantCode checked), type, unresolved, young⟩
  rw [List.map_append, List.map_cons, run_append, run_cons, stepped]
  exact checks_keep stored after

def Acknowledged (alertId : Nat) (alerts : AlertTable) : Prop :=
  ∃ alert, alerts.find? alertId = some alert ∧ alert.resolvedAt ≠ none

theorem acknowledged_ack {alertId : Nat} {now : Int} {alerts : AlertTable} {out : StreamAlertOut}
    (answered : (ackAlert alertId now alerts).1 = some out) : Acknowledged alertId (ackAlert alertId now alerts).2 := by
  unfold ackAlert resolveAlert at answered ⊢
  cases found : alerts.find? alertId with
  | none =>
    rw [found] at answered
    exact nomatch answered
  | some alert =>
    refine ⟨{ alert with resolvedAt := some now }, ?_, Option.some_ne_none _⟩
    dsimp only
    rw [Table.find?_update, if_pos rfl, found, Option.map_some]

theorem acknowledged_step {alertId : Nat} {alerts : AlertTable} (event : AlertEvent) (before : Acknowledged alertId alerts) :
    Acknowledged alertId (alertStep cfg alerts event) := by
  obtain ⟨alert, stored, resolved⟩ := before
  cases event with
  | check check => exact ⟨alert, check_keeps stored check, resolved⟩
  | resolve other now =>
    unfold alertStep resolveAlert
    dsimp only
    split
    · exact ⟨alert, stored, resolved⟩
    · dsimp only
      by_cases same : alertId = other
      · refine ⟨{ alert with resolvedAt := some now }, ?_, Option.some_ne_none _⟩
        rw [Table.find?_update, if_pos same, stored, Option.map_some]
      · refine ⟨alert, ?_, resolved⟩
        rw [Table.find?_update, if_neg same, stored]

/-- An alert is acknowledged where it was ever raised, and no later listing shows it. -/
theorem acknowledged_hidden (cfg : Settings) (events later : List AlertEvent) (alertId : Nat) (now : Int) (limit : ℕ) :
    ((ackAlert alertId now (run (alertStep cfg) .empty events)).1 = none ↔
        (run (alertStep cfg) .empty events).find? alertId = none) ∧
      ((run (alertStep cfg) .empty events).find? alertId ≠ none →
        ∀ row ∈ listOpenAlerts (run (alertStep cfg) (ackAlert alertId now (run (alertStep cfg) .empty events)).2 later) limit,
          row.1 ≠ alertId) := by
  have answers : (ackAlert alertId now (run (alertStep cfg) .empty events)).1 = none ↔
      (run (alertStep cfg) .empty events).find? alertId = none := by
    unfold ackAlert resolveAlert
    cases found : (run (alertStep cfg) .empty events).find? alertId with
    | none => simp
    | some alert => simp [Table.find?_update, found]
  refine ⟨answers, fun raised row shown same => ?_⟩
  obtain ⟨out, answered⟩ := Option.ne_none_iff_exists'.mp (mt answers.mp raised)
  have keep : ∀ alerts event, Acknowledged alertId alerts → Acknowledged alertId (alertStep cfg alerts event) :=
    fun _ event before => acknowledged_step event before
  obtain ⟨alert, stored, resolved⟩ := @run_invariant _ _ _ _ _ later keep (acknowledged_ack answered)
  obtain ⟨listed, unresolved⟩ := List.mem_filter.mp (mem_orderBy.mp (List.mem_of_mem_take shown))
  have found := Table.mem_rows.mp listed
  rw [same, stored] at found
  cases found
  exact resolved (by simpa using unresolved)

end Iems.Api
