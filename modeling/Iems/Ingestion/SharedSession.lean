import Iems.Ingestion.Connection

/-! The session that all tasks share: made at the first use, made anew for another endpoint, dropped when closed. -/
namespace Iems.Ingestion
open Lib Lib.Locks Iems.Core

abbrev LockedConnection := World Connection SessionCall SessionAwait

structure SessionObject where
  cfg : Settings
  locked : LockedConnection := { shared := {} }

/-- Every session made so far, and which of them is `_SESSION`. -/
structure SharedSession where
  sessions : List SessionObject := []
  current : Option Nat := none

inductive SharedAction where
  | ensure (task : Nat) (cfg : Settings)
  | connect (task : Nat) (cfg : Settings)
  | close (task : Nat)
  | leave (session task : Nat)
  | acquire (session task : Nat)
  | resume (session task : Nat) (outcome : Outcome)

/-- `get_plant_session`: its place, and the sessions with it. -/
def getPlantSession (cfg : Settings) (s : SharedSession) : Nat × SharedSession :=
  match s.current.bind fun place => (s.sessions[place]?).map (place, ·) with
  | some (place, session) =>
    if session.cfg.opcUaEndpoint = cfg.opcUaEndpoint then (place, s)
    else (s.sessions.length, ⟨s.sessions ++ [{ cfg := cfg }], some s.sessions.length⟩)
  | none => (s.sessions.length, ⟨s.sessions ++ [{ cfg := cfg }], some s.sessions.length⟩)

def SessionObject.step (missingLibrary : Bool) (session : SessionObject) (action : Action SessionCall Outcome) : SessionObject :=
  { session with locked := Locks.step (sessionSection session.cfg missingLibrary) session.locked action }

def SharedSession.stepAt (missingLibrary : Bool) (s : SharedSession) (place : Nat) (action : Action SessionCall Outcome) :
    SharedSession :=
  { s with sessions := s.sessions.modify place fun session => session.step missingLibrary action }

/-- The task is on its way through `disconnect`. -/
def closing : Task SessionCall SessionAwait → Bool
  | .waiting .disconnect => true
  | .inside .deletingSubscription => true
  | .inside (.disconnecting _) => true
  | _ => false

/-- The step returns from `disconnect` to `close_plant_session`, which then forgets the session. -/
def closes (before after : Option SessionObject) (task : Nat) (outcome : Outcome) : Bool :=
  outcome ≠ .cancelled && (before.bind fun session => session.locked.tasks task).any closing &&
    (after.bind fun session => session.locked.tasks task).isNone

/-- A step of the session at the place, and what `close_plant_session` does after it. -/
def SharedSession.work (missingLibrary : Bool) (s : SharedSession) (place task : Nat) (outcome : Outcome)
    (action : Action SessionCall Outcome) : SharedSession :=
  let next := s.stepAt missingLibrary place action
  if closes s.sessions[place]? next.sessions[place]? task outcome then { next with current := none } else next

def sharedStep (missingLibrary : Bool) (s : SharedSession) : SharedAction → SharedSession
  | .ensure task cfg =>
    let (place, s) := getPlantSession cfg s
    if (s.sessions[place]?).any fun session => session.locked.shared.connected then s
    else s.stepAt missingLibrary place (.start task .connect)
  | .connect task cfg =>
    let (place, s) := getPlantSession cfg s
    s.stepAt missingLibrary place (.start task .connect)
  | .close task =>
    match s.current with
    | none => s
    | some place => s.stepAt missingLibrary place (.start task .disconnect)
  | .leave place task => s.stepAt missingLibrary place (.leave task)
  | .acquire place task => s.work missingLibrary place task .returned (.acquire task)
  | .resume place task outcome => s.work missingLibrary place task outcome (.resume task outcome)

/-- No task is in a call of the session. -/
def SessionObject.Quiet (session : SessionObject) : Prop := ∀ task, session.locked.tasks task = none

def SessionObject.NotClosing (session : SessionObject) : Prop :=
  ∀ task at_, session.locked.tasks task = some at_ → closing at_ = false

def SharedSession.Current (s : SharedSession) (holds : SessionObject → Prop) : Prop :=
  ∀ place session, s.current = some place → s.sessions[place]? = some session → holds session

/-- The session is closed by itself, and the endpoint does not change while there is one. -/
def ClosedAlone (s : SharedSession) : SharedAction → Prop
  | .ensure _ cfg | .connect _ cfg => s.Current fun session => session.cfg.opcUaEndpoint = cfg.opcUaEndpoint ∧ session.NotClosing
  | .close _ => s.Current SessionObject.Quiet
  | _ => True

/-! ### What every step keeps -/

variable {missingLibrary : Bool}

/-- A session that is no longer shared has no client and no task. -/
structure SessionObject.Retired (session : SessionObject) : Prop where
  client : session.locked.shared.client = none
  quiet : session.Quiet

/-- A task that closes the session is the only one in a call of it. -/
def SessionObject.Alone (session : SessionObject) : Prop :=
  ∀ task at_ other again, session.locked.tasks task = some at_ → closing at_ = true →
    session.locked.tasks other = some again → other = task

structure Tidy (s : SharedSession) : Prop where
  guarded : ∀ (place : Nat) session, s.sessions[place]? = some session → Protected Consistent AtAwait session.locked
  retired : ∀ (place : Nat) session, s.sessions[place]? = some session → s.current ≠ some place → session.Retired
  alone : s.Current SessionObject.Alone
  place : ∀ place, s.current = some place → place < s.sessions.length

theorem getElem?_stepAt (s : SharedSession) (place other : Nat) (action : Action SessionCall Outcome) :
    (s.stepAt missingLibrary place action).sessions[other]? =
      if other = place then (s.sessions[other]?).map (·.step missingLibrary action) else s.sessions[other]? := by
  unfold SharedSession.stepAt
  dsimp only
  by_cases same : other = place
  · rw [if_pos same, same, List.getElem?_modify_eq]
    rfl
  · rw [if_neg same, List.getElem?_modify_ne _ _ (Ne.symm same)]

/-! ### The calls of one session -/

theorem stopClient_some {c : Connection} {await : SessionAwait} (next : (stopClient c).2 = some await) :
    closing (.inside await) = true := by
  unfold stopClient at next
  split at next
  · cases next
    rfl
  · exact nomatch next

theorem stopClient_none {c : Connection} (ended : (stopClient c).2 = none) : (stopClient c).1.client = none := by
  unfold stopClient at ended ⊢
  split at ended
  · exact nomatch ended
  · assumption

/-- A call stays on its way in or out of the connection. -/
theorem enter_closing {cfg : Settings} {call : SessionCall} {c : Connection} {await : SessionAwait}
    (next : ((sessionSection cfg missingLibrary).enter call c).2 = some await) :
    closing (.inside await) = closing (.waiting call) := by
  unfold sessionSection at next
  cases call with
  | connect =>
    dsimp only at next
    split at next
    · exact nomatch next
    · cases next
      rfl
  | disconnect =>
    dsimp only at next
    split at next
    · cases next
      rfl
    · exact stopClient_some next

theorem resume_closing {cfg : Settings} {before await : SessionAwait} {outcome : Outcome} {c : Connection}
    (next : ((sessionSection cfg missingLibrary).resume before outcome c).2 = some await) :
    closing (.inside await) = closing (.inside before) := by
  unfold sessionSection at next
  cases before with
  | connecting id =>
    cases outcome with
    | returned =>
      dsimp only at next
      split at next
      · cases next
        rfl
      · exact nomatch next
    | raised | cancelled => exact nomatch next
  | creatingSubscription =>
    cases outcome with
    | returned =>
      cases next
      rfl
    | raised | cancelled => exact nomatch next
  | subscribing => cases outcome <;> exact nomatch next
  | deletingSubscription =>
    cases outcome with
    | returned | raised => exact stopClient_some next
    | cancelled => exact nomatch next
  | disconnecting id => cases outcome <;> exact nomatch next

theorem enter_closed {cfg : Settings} {c : Connection}
    (ended : ((sessionSection cfg missingLibrary).enter .disconnect c).2 = none) :
    ((sessionSection cfg missingLibrary).enter .disconnect c).1.client = none := by
  unfold sessionSection at ended ⊢
  dsimp only at ended ⊢
  split at ended
  · exact nomatch ended
  · rename_i off
    rw [if_neg off]
    exact stopClient_none ended

theorem resume_closed {cfg : Settings} {await : SessionAwait} {outcome : Outcome} {c : Connection}
    (way : closing (.inside await) = true) (returned : outcome ≠ .cancelled)
    (ended : ((sessionSection cfg missingLibrary).resume await outcome c).2 = none) :
    ((sessionSection cfg missingLibrary).resume await outcome c).1.client = none := by
  cases await with
  | connecting _ | creatingSubscription | subscribing => exact nomatch way
  | deletingSubscription =>
    cases outcome with
    | returned | raised => exact stopClient_none ended
    | cancelled => exact absurd rfl returned
  | disconnecting id =>
    cases outcome with
    | returned | raised => rfl
    | cancelled => exact absurd rfl returned

/-- A task that the step leaves in a call was in one before, unless the step starts it, and it keeps its way. -/
theorem step_before {session : SessionObject} {action : Action SessionCall Outcome} {task : Nat} {after : Task SessionCall SessionAwait}
    (found : (session.step missingLibrary action).locked.tasks task = some after) :
    (∃ call, action = .start task call) ∨
      ∃ before, session.locked.tasks task = some before ∧ closing after = closing before := by
  have keeps : ∀ {moved : Nat} {next : Option (Task SessionCall SessionAwait)},
      assign session.locked.tasks moved next task = some after →
      (∀ at_, next = some at_ → ∃ before, session.locked.tasks moved = some before ∧ closing at_ = closing before) →
      ∃ before, session.locked.tasks task = some before ∧ closing after = closing before := by
    intro moved next became way
    by_cases own : task = moved
    · rw [own, assign_same] at became
      rw [own]
      exact way after became
    · rw [assign_other _ _ own] at became
      exact ⟨after, became, rfl⟩
  unfold SessionObject.step at found
  cases action with
  | start other call =>
    by_cases own : task = other
    · exact .inl ⟨call, by rw [own]⟩
    · refine .inr ⟨after, ?_, rfl⟩
      unfold Locks.step at found
      dsimp only at found
      split at found
      · exact (assign_other _ _ own).symm.trans found
      · exact found
  | leave other =>
    refine .inr ?_
    unfold Locks.step at found
    dsimp only at found
    split at found
    · exact keeps found fun _ gone => nomatch gone
    · exact ⟨after, found, rfl⟩
  | acquire other =>
    refine .inr ?_
    unfold Locks.step at found
    dsimp only at found
    split at found
    · rename_i call _ waits
      refine keeps found fun at_ became => ⟨_, waits, ?_⟩
      obtain ⟨await, entered, rfl⟩ := Option.map_eq_some_iff.mp became
      exact enter_closing entered
    · exact ⟨after, found, rfl⟩
  | resume other outcome =>
    refine .inr ?_
    unfold Locks.step at found
    dsimp only at found
    split at found
    · rename_i before inside
      refine keeps found fun at_ became => ⟨_, inside, ?_⟩
      obtain ⟨await, resumed, rfl⟩ := Option.map_eq_some_iff.mp became
      exact resume_closing resumed
    · exact ⟨after, found, rfl⟩

/-- A task that closes the session and returns leaves it without a client. -/
theorem returns_closed {session : SessionObject} {task : Nat} {at_ : Task SessionCall SessionAwait} {outcome : Outcome}
    {action : Action SessionCall Outcome}
    (own : action = .acquire task ∨ action = .resume task outcome ∧ outcome ≠ .cancelled)
    (was : session.locked.tasks task = some at_) (way : closing at_ = true)
    (ended : (session.step missingLibrary action).locked.tasks task = none) :
    (session.step missingLibrary action).locked.shared.client = none := by
  unfold SessionObject.step at ended ⊢
  rcases own with rfl | ⟨rfl, returned⟩
  · unfold Locks.step at ended ⊢
    dsimp only at ended ⊢
    split at ended
    · rename_i call _ waits
      obtain rfl := Option.some.inj (was.symm.trans waits)
      cases call with
      | connect => exact nomatch way
      | disconnect => exact enter_closed (Option.map_eq_none_iff.mp ((assign_same _ _ _).symm.trans ended))
    · exact nomatch ended.symm.trans was
  · unfold Locks.step at ended ⊢
    dsimp only at ended ⊢
    split at ended
    · rename_i await inside
      obtain rfl := Option.some.inj (was.symm.trans inside)
      exact resume_closed way returned (Option.map_eq_none_iff.mp ((assign_same _ _ _).symm.trans ended))
    · exact nomatch ended.symm.trans was

/-- Nothing happens in a session without tasks unless a call starts. -/
theorem step_quiet {session : SessionObject} {action : Action SessionCall Outcome} (quiet : session.Quiet)
    (going : ∀ task call, action ≠ .start task call) : session.step missingLibrary action = session := by
  have same : Locks.step (sessionSection session.cfg missingLibrary) session.locked action = session.locked := by
    unfold Locks.step
    cases action with
    | start task call => exact absurd rfl (going task call)
    | leave task | resume task _ => simp only [quiet task]
    | acquire task =>
      simp only [quiet task]
      cases session.locked.holder <;> rfl
  unfold SessionObject.step
  rw [same]

theorem alone_step {session : SessionObject} {action : Action SessionCall Outcome} (alone : session.Alone)
    (going : ∀ task call, action ≠ .start task call) : (session.step missingLibrary action).Alone := by
  intro task at_ other again found way foundToo
  obtain ⟨call, starts⟩ | ⟨before, was, same⟩ := step_before found
  · exact absurd starts (going task call)
  obtain ⟨call, starts⟩ | ⟨earlier, wasToo, _⟩ := step_before foundToo
  · exact absurd starts (going other call)
  exact alone task before other earlier was (same ▸ way) wasToo

/-- A task may enter when nobody closes the session, and close it when nobody is inside. -/
theorem alone_start {session : SessionObject} {task : Nat} {call : SessionCall}
    (may : call = .connect ∧ session.NotClosing ∨ session.Quiet) :
    (session.step missingLibrary (.start task call)).Alone := by
  intro one at_ other again found way foundToo
  have became : ∀ {which : Nat} {state : Task SessionCall SessionAwait},
      (session.step missingLibrary (.start task call)).locked.tasks which = some state →
      which = task ∧ state = .waiting call ∨ session.locked.tasks which = some state := by
    intro which state moved
    unfold SessionObject.step Locks.step at moved
    dsimp only at moved
    split at moved
    · by_cases own : which = task
      · subst own
        exact .inl ⟨rfl, (Option.some.inj ((assign_same _ _ _).symm.trans moved)).symm⟩
      · exact .inr ((assign_other _ _ own).symm.trans moved)
    · exact .inr moved
  rcases may with ⟨rfl, open_⟩ | quiet
  · obtain ⟨_, rfl⟩ | was := became found
    · exact nomatch way
    · exact nomatch (open_ one at_ was).symm.trans way
  · obtain ⟨rfl, _⟩ | was := became found
    · obtain ⟨rfl, _⟩ | wasToo := became foundToo
      · rfl
      · exact nomatch (quiet other).symm.trans wasToo
    · exact nomatch (quiet one).symm.trans was

/-! ### All sessions -/

theorem tidy_stepAt {s : SharedSession} {place : Nat} {action : Action SessionCall Outcome} (tidy : Tidy s)
    (own : s.current = some place)
    (alone : ∀ session, s.sessions[place]? = some session → (session.step missingLibrary action).Alone) :
    Tidy (s.stepAt missingLibrary place action) where
  guarded other session found := by
    rw [getElem?_stepAt] at found
    split at found
    · obtain ⟨before, was, rfl⟩ := Option.map_eq_some_iff.mp found
      exact protected_step (sessionRule before.cfg missingLibrary) (tidy.guarded other before was) action
    · exact tidy.guarded other session found
  retired other session found away := by
    rw [getElem?_stepAt] at found
    split at found
    · rename_i same
      exact absurd (same ▸ own) away
    · exact tidy.retired other session found away
  alone other session here found := by
    obtain rfl := Option.some.inj (own.symm.trans here)
    rw [getElem?_stepAt, if_pos rfl] at found
    obtain ⟨before, was, rfl⟩ := Option.map_eq_some_iff.mp found
    exact alone before was
  place other here := by
    have below := tidy.place other here
    unfold SharedSession.stepAt
    rwa [List.length_modify]

/-- The steps that are left to a session after it was closed do nothing. -/
theorem stepAt_retired {s : SharedSession} {place : Nat} {action : Action SessionCall Outcome} (tidy : Tidy s)
    (away : s.current ≠ some place) (going : ∀ task call, action ≠ .start task call) :
    s.stepAt missingLibrary place action = s := by
  have same : (s.stepAt missingLibrary place action).sessions = s.sessions := by
    refine List.ext_getElem? fun other => ?_
    rw [getElem?_stepAt]
    split
    · rename_i here
      subst here
      cases found : s.sessions[other]? with
      | none => rfl
      | some session => exact congrArg some (step_quiet (tidy.retired other session found away).quiet going)
    · rfl
  show SharedSession.mk (s.stepAt missingLibrary place action).sessions s.current = s
  rw [same]

theorem tidy_new {s : SharedSession} (tidy : Tidy s) (none_ : s.current = none) (cfg : Settings) :
    Tidy ⟨s.sessions ++ [{ cfg := cfg }], some s.sessions.length⟩ := by
  have fresh : ({ cfg := cfg } : SessionObject).Quiet := fun _ => rfl
  have cases_ : ∀ {place : Nat} {session : SessionObject}, (s.sessions ++ [{ cfg := cfg }])[place]? = some session →
      s.sessions[place]? = some session ∨ place = s.sessions.length ∧ session = { cfg := cfg } := by
    intro place session found
    by_cases below : place < s.sessions.length
    · exact .inl ((List.getElem?_append_left below).symm.trans found)
    · rw [List.getElem?_append_right (Nat.le_of_not_lt below)] at found
      have zero : place - s.sessions.length = 0 := by
        simpa using (List.getElem?_eq_some_iff.mp found).1
      rw [zero] at found
      exact .inr ⟨by omega, (Option.some.inj found).symm⟩
  refine ⟨?_, ?_, ?_, ?_⟩
  · intro place session found
    obtain was | ⟨_, rfl⟩ := cases_ found
    · exact tidy.guarded place session was
    · exact protected_start ({} : Connection) consistent_new
  · intro place session found away
    obtain was | ⟨rfl, _⟩ := cases_ found
    · exact tidy.retired place session was (by rw [none_]; exact (Option.some_ne_none _).symm)
    · exact absurd rfl away
  · intro place session here found task at_ other again inCall
    obtain was | ⟨_, rfl⟩ := cases_ found
    · have below := (List.getElem?_eq_some_iff.mp was).1
      exact absurd (Option.some.inj here) (by omega)
    · exact nomatch (fresh task).symm.trans inCall
  · intro place here
    obtain rfl := Option.some.inj here
    dsimp only
    rw [List.length_append]
    exact Nat.lt_succ_self _

/-- `get_plant_session` gives the current session, new when there was none. -/
theorem getPlantSession_tidy {s : SharedSession} {cfg : Settings} (tidy : Tidy s)
    (may : s.Current fun session => session.cfg.opcUaEndpoint = cfg.opcUaEndpoint ∧ session.NotClosing) :
    Tidy (getPlantSession cfg s).2 ∧ (getPlantSession cfg s).2.current = some (getPlantSession cfg s).1 ∧
      ∀ session, (getPlantSession cfg s).2.sessions[(getPlantSession cfg s).1]? = some session → session.NotClosing := by
  unfold getPlantSession
  cases here : s.current with
  | none =>
    refine ⟨tidy_new tidy here cfg, rfl, ?_⟩
    intro session found
    dsimp only [Option.bind_none] at found
    rw [List.getElem?_concat_length] at found
    cases found
    exact fun _ _ inCall => nomatch inCall
  | some place =>
    obtain ⟨session, found⟩ : ∃ session, s.sessions[place]? = some session :=
      ⟨_, List.getElem?_eq_getElem (tidy.place place here)⟩
    obtain ⟨same, open_⟩ := may place session here found
    simp only [Option.bind_some, found, Option.map_some, same, if_true]
    refine ⟨tidy, here, ?_⟩
    rintro _ ⟨⟩
    exact open_

theorem tidy_forget {s : SharedSession} (tidy : Tidy s)
    (closed : ∀ (place : Nat) session, s.sessions[place]? = some session → s.current = some place → session.Retired) :
    Tidy { s with current := none } where
  guarded := tidy.guarded
  retired place session found _ := by
    by_cases here : s.current = some place
    · exact closed place session found here
    · exact tidy.retired place session found here
  alone _ _ here := nomatch here
  place _ here := nomatch here

theorem not_closes_same (session : Option SessionObject) (task : Nat) (outcome : Outcome) :
    ¬closes session session task outcome = true := by
  unfold closes
  cases session.bind fun session => session.locked.tasks task <;> simp

/-- A session that its only task has closed. -/
theorem retired_closes {s : SharedSession} {place task : Nat} {outcome : Outcome} {action : Action SessionCall Outcome}
    {session : SessionObject} (alone : ∀ before, s.sessions[place]? = some before → before.Alone)
    (own : action = .acquire task ∨ action = .resume task outcome)
    (found : (s.stepAt missingLibrary place action).sessions[place]? = some session)
    (ends : closes s.sessions[place]? (s.stepAt missingLibrary place action).sessions[place]? task outcome = true) :
    session.Retired := by
  have going : ∀ other call, action ≠ .start other call := by
    rintro other call rfl
    rcases own with same | same <;> exact nomatch same
  unfold closes at ends
  rw [found] at ends
  rw [getElem?_stepAt, if_pos rfl] at found
  obtain ⟨before, known, rfl⟩ := Option.map_eq_some_iff.mp found
  rw [known, Option.bind_some, Option.bind_some, Bool.and_eq_true, Bool.and_eq_true, decide_eq_true_eq,
    Option.isNone_iff_eq_none] at ends
  obtain ⟨⟨returned, closed⟩, ended⟩ := ends
  obtain ⟨at_, inCall, way⟩ := (Option.any_eq_true _ _).mp closed
  refine ⟨?_, fun other => ?_⟩
  · exact returns_closed (own.imp_right fun same => ⟨same, returned⟩) inCall way ended
  · by_contra inside
    obtain ⟨after, found⟩ := Option.ne_none_iff_exists'.mp inside
    obtain ⟨call, starts⟩ | ⟨earlier, was, _⟩ := step_before found
    · exact going other call starts
    · obtain rfl := alone before known task at_ other earlier inCall way was
      exact inside ended

/-- A session that was closed by its only task is retired. -/
theorem tidy_work {s : SharedSession} {place task : Nat} {outcome : Outcome} {action : Action SessionCall Outcome}
    (tidy : Tidy s) (own : action = .acquire task ∨ action = .resume task outcome) :
    Tidy (s.work missingLibrary place task outcome action) := by
  have going : ∀ other call, action ≠ .start other call := by
    rintro other call rfl
    rcases own with same | same <;> exact nomatch same
  unfold SharedSession.work
  dsimp only
  by_cases here : s.current = some place
  · have next : Tidy (s.stepAt missingLibrary place action) :=
      tidy_stepAt tidy here fun session found => alone_step (tidy.alone place session here found) going
    split
    · rename_i ends
      refine tidy_forget next fun other session found same => ?_
      obtain rfl := Option.some.inj (here.symm.trans same)
      exact retired_closes (tidy.alone place · here ·) own found ends
    · exact next
  · rw [stepAt_retired tidy here going]
    rw [if_neg (not_closes_same _ task outcome)]
    exact tidy

theorem tidy_start : Tidy {} where
  guarded _ _ found := nomatch found
  retired _ _ found := nomatch found
  alone _ _ here := nomatch here
  place _ here := nomatch here

theorem tidy_step {s : SharedSession} (tidy : Tidy s) {action : SharedAction} (may : ClosedAlone s action) :
    Tidy (sharedStep missingLibrary s action) := by
  cases action with
  | ensure task cfg | connect task cfg =>
    obtain ⟨next, here, open_⟩ := getPlantSession_tidy tidy may
    have started : Tidy ((getPlantSession cfg s).2.stepAt missingLibrary (getPlantSession cfg s).1 (.start task .connect)) :=
      tidy_stepAt next here fun session found => alone_start (.inl ⟨rfl, open_ session found⟩)
    unfold sharedStep
    dsimp only
    first
      | exact started
      | split
        · exact next
        · exact started
  | close task =>
    unfold sharedStep
    dsimp only
    split
    · exact tidy
    · rename_i place here
      exact tidy_stepAt tidy here fun session found => alone_start (.inr (may place session here found))
  | leave place task =>
    have going : ∀ other call, (.leave task : Action SessionCall Outcome) ≠ .start other call := nofun
    unfold sharedStep
    dsimp only
    by_cases here : s.current = some place
    · exact tidy_stepAt tidy here fun session found => alone_step (tidy.alone place session here found) going
    · rwa [stepAt_retired tidy here going]
  | acquire place task => exact tidy_work tidy (.inl rfl)
  | resume place task outcome => exact tidy_work tidy (.inr rfl)

/-- While the shared session is only closed by itself, a session that is no longer shared is disconnected, and the
plant serves no connection but the shared session's and those whose end the sessions have not seen. -/
theorem connections_current (missingLibrary : Bool) (actions : List SharedAction)
    (permitted : Meets (sharedStep missingLibrary) ClosedAlone {} actions) :
    let s := run (sharedStep missingLibrary) {} actions
    ∀ (place : Nat) session, s.sessions[place]? = some session →
      (s.current ≠ some place →
        session.locked.shared.client = none ∧ ∀ task, session.locked.tasks task = none) ∧
      ∀ id ∈ session.locked.shared.live,
        id ∈ session.locked.shared.dropped ∨ s.current = some place ∧ session.locked.shared.client = some id := by
  intro s place session found
  have keep : ∀ s action, Tidy s → ClosedAlone s action → Tidy (sharedStep missingLibrary s action) :=
    fun _ _ tidy may => tidy_step tidy may
  have tidy : Tidy s := permitted.invariant keep tidy_start
  have retired : s.current ≠ some place → session.Retired := tidy.retired place session found
  refine ⟨fun away => ⟨(retired away).client, (retired away).quiet⟩, fun id member => ?_⟩
  refine ((consistent_protected (tidy.guarded place session found)).served id member).imp_right fun own => ⟨?_, own⟩
  by_contra away
  exact nomatch (retired away).client.symm.trans own

/-- A session is opened and closed, and the next caller gets a new one. -/
theorem connections_current_reopened :
    let cfg : Settings := { opcUaEndpoint := "opc.tcp://plant:4840", opcUaUseSubscription := false }
    let s := run (sharedStep false) {} [.connect 0 cfg, .acquire 0 0, .resume 0 0 .returned, .close 0, .acquire 0 0,
      .resume 0 0 .returned, .ensure 1 cfg, .acquire 1 1, .resume 1 1 .returned]
    s.current = some 1 ∧ (s.sessions[0]?).map (·.locked.shared.live) = some [] ∧
      (s.sessions[1]?).map (·.locked.shared.live) = some [0] ∧
      ∀ (place : Nat) session, s.sessions[place]? = some session →
        (s.current ≠ some place → session.locked.shared.client = none ∧ ∀ task, session.locked.tasks task = none) ∧
        ∀ id ∈ session.locked.shared.live,
          id ∈ session.locked.shared.dropped ∨ s.current = some place ∧ session.locked.shared.client = some id := by
  refine ⟨by decide, by decide, by decide, connections_current false _ ⟨?_, trivial, trivial, ?_, trivial, trivial, ?_, trivial, trivial, trivial⟩⟩
  · exact fun _ _ here => nomatch here
  · rintro place session here found task
    cases here
    cases found
    by_cases own : task = 0
    · rw [own]
      rfl
    · exact (assign_other _ _ own).trans ((assign_other _ _ own).trans (assign_other _ _ own))
  · exact fun _ _ here => nomatch here

end Iems.Ingestion
