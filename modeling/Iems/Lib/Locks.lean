import Iems.Lib.Runs

/-!
Tasks that share one state under a lock. The code of a task runs without interruption from one await to the
next, and other tasks run in between; those that need the lock wait until its holder is done.
-/
namespace Iems.Lib.Locks

variable {S C P O : Type}

/-- The blocks of the locked calls: from taking the lock to the first await, and from an await to the next one.
A block that ends the call gives `none`. -/
structure Section (S C P O : Type) where
  enter : C → S → S × Option P
  resume : P → O → S → S × Option P

inductive Task (C P : Type) where
  | waiting (call : C)
  | inside (await : P)

structure World (S C P : Type) where
  shared : S
  holder : Option Nat := none
  tasks : Nat → Option (Task C P) := fun _ => none

inductive Action (C O : Type) where
  | start (task : Nat) (call : C)
  | leave (task : Nat)
  | acquire (task : Nat)
  | resume (task : Nat) (outcome : O)

def assign (tasks : Nat → Option (Task C P)) (task : Nat) (next : Option (Task C P)) : Nat → Option (Task C P) :=
  fun other => if other = task then next else tasks other

/-- The state after a block of the task, which keeps the lock while its call goes on. -/
def settle (w : World S C P) (task : Nat) (next : S × Option P) : World S C P where
  shared := next.1
  holder := next.2.map fun _ => task
  tasks := assign w.tasks task (next.2.map .inside)

/-- A task that waits for the lock may be cancelled and leave; any waiting task may be the next to take it. -/
def step (s : Section S C P O) (w : World S C P) : Action C O → World S C P
  | .start task call =>
    match w.tasks task with
    | none => { w with tasks := assign w.tasks task (some (.waiting call)) }
    | some _ => w
  | .leave task =>
    match w.tasks task with
    | some (.waiting _) => { w with tasks := assign w.tasks task none }
    | _ => w
  | .acquire task =>
    match w.holder, w.tasks task with
    | none, some (.waiting call) => settle w task (s.enter call w.shared)
    | _, _ => w
  | .resume task outcome =>
    match w.tasks task with
    | some (.inside await) => settle w task (s.resume await outcome w.shared)
    | _ => w

@[simp] theorem assign_same (tasks : Nat → Option (Task C P)) (task : Nat) (next : Option (Task C P)) :
    assign tasks task next task = next := if_pos rfl

theorem assign_other (tasks : Nat → Option (Task C P)) {task other : Nat} (next : Option (Task C P))
    (apart : other ≠ task) : assign tasks task next other = tasks other := if_neg apart

/-- The holder is inside and nobody else is. -/
structure Exclusive (w : World S C P) : Prop where
  held : ∀ task await, w.tasks task = some (.inside await) → w.holder = some task
  inside : ∀ task, w.holder = some task → ∃ await, w.tasks task = some (.inside await)

/-- What holds of the state while the lock is free, and what the holder relies on at each of its awaits. -/
structure Rule (s : Section S C P O) (free : S → Prop) (within : P → S → Prop) : Prop where
  enters : ∀ call shared, free shared → ((s.enter call shared).2.elim free within) (s.enter call shared).1
  resumes : ∀ await outcome shared, within await shared →
    ((s.resume await outcome shared).2.elim free within) (s.resume await outcome shared).1

/-- The lock protects the state: it is as the holder left it at its last await, or free. -/
structure Protected (free : S → Prop) (within : P → S → Prop) (w : World S C P) : Prop where
  exclusive : Exclusive w
  free : w.holder = none → free w.shared
  within : ∀ task await, w.tasks task = some (.inside await) → within await w.shared

section
variable {s : Section S C P O} {free : S → Prop} {within : P → S → Prop} {w : World S C P}

theorem Exclusive.unique (exclusive : Exclusive w) {task other : Nat} {await again : P}
    (first : w.tasks task = some (.inside await)) (second : w.tasks other = some (.inside again)) : task = other :=
  Option.some.inj ((exclusive.held task await first).symm.trans (exclusive.held other again second))

/-- What a step can do: nothing, a change among the waiting tasks, or a block of one task. -/
theorem step_cases (s : Section S C P O) (w : World S C P) (action : Action C O) :
    step s w action = w ∨
    (∃ task call, w.tasks task = none ∧ step s w action = { w with tasks := assign w.tasks task (some (.waiting call)) }) ∨
    (∃ task call, w.tasks task = some (.waiting call) ∧ step s w action = { w with tasks := assign w.tasks task none }) ∨
    (∃ task call, action = .acquire task ∧ w.holder = none ∧ w.tasks task = some (.waiting call) ∧
      step s w action = settle w task (s.enter call w.shared)) ∨
    (∃ task outcome await, action = .resume task outcome ∧ w.tasks task = some (.inside await) ∧
      step s w action = settle w task (s.resume await outcome w.shared)) := by
  cases action with
  | start task call =>
    unfold step
    dsimp only
    split
    · rename_i absent
      exact .inr (.inl ⟨task, call, absent, rfl⟩)
    · exact .inl rfl
  | leave task =>
    unfold step
    dsimp only
    split
    · rename_i call waits
      exact .inr (.inr (.inl ⟨task, call, waits, rfl⟩))
    · exact .inl rfl
  | acquire task =>
    unfold step
    dsimp only
    split
    · rename_i call open_ waits
      exact .inr (.inr (.inr (.inl ⟨task, call, rfl, open_, waits, rfl⟩)))
    · exact .inl rfl
  | resume task outcome =>
    unfold step
    dsimp only
    split
    · rename_i await inside
      exact .inr (.inr (.inr (.inr ⟨task, outcome, await, rfl, inside, rfl⟩)))
    · exact .inl rfl

/-- A block of the task leaves the others where they are. -/
theorem protected_settle {task : Nat} {next : S × Option P}
    (others : ∀ other await, other ≠ task → w.tasks other ≠ some (.inside await))
    (kept : (next.2.elim free within) next.1) : Protected free within (settle w task next) := by
  obtain ⟨shared, following⟩ := next
  refine ⟨⟨?_, ?_⟩, ?_, ?_⟩
  · intro other await inside
    by_cases same : other = task
    · subst same
      dsimp only [settle] at inside ⊢
      rw [assign_same] at inside
      obtain ⟨phase, found, _⟩ := Option.map_eq_some_iff.mp inside
      rw [found, Option.map_some]
    · dsimp only [settle] at inside
      rw [assign_other _ _ same] at inside
      exact absurd inside (others other await same)
  · intro other holds
    dsimp only [settle] at holds ⊢
    obtain ⟨phase, found, rfl⟩ := Option.map_eq_some_iff.mp holds
    exact ⟨phase, by rw [assign_same, found, Option.map_some]⟩
  · intro ended
    obtain rfl := Option.map_eq_none_iff.mp ended
    exact kept
  · intro other await inside
    by_cases same : other = task
    · subst same
      dsimp only [settle] at inside ⊢
      rw [assign_same] at inside
      obtain ⟨phase, rfl, same⟩ := Option.map_eq_some_iff.mp inside
      cases same
      exact kept
    · dsimp only [settle] at inside
      rw [assign_other _ _ same] at inside
      exact absurd inside (others other await same)

/-- A change among the tasks outside touches neither the lock nor the state. -/
theorem protected_outside {task : Nat} {next : Option (Task C P)} (guarded : Protected free within w)
    (was : ∀ await, w.tasks task ≠ some (.inside await)) (becomes : ∀ await, next ≠ some (.inside await)) :
    Protected free within { w with tasks := assign w.tasks task next } := by
  have same : ∀ {other : Nat} {await : P}, assign w.tasks task next other = some (.inside await) ↔
      w.tasks other = some (.inside await) := by
    intro other await
    by_cases own : other = task
    · subst own
      rw [assign_same]
      exact iff_of_false (becomes await) (was await)
    · rw [assign_other _ _ own]
  refine ⟨⟨?_, ?_⟩, guarded.free, ?_⟩
  · intro other await inside
    exact guarded.exclusive.held other await (same.mp inside)
  · intro other holds
    obtain ⟨await, inside⟩ := guarded.exclusive.inside other holds
    exact ⟨await, same.mpr inside⟩
  · intro other await inside
    exact guarded.within other await (same.mp inside)

theorem protected_step (rule : Rule s free within) (guarded : Protected free within w) (action : Action C O) :
    Protected free within (step s w action) := by
  rcases step_cases s w action with
    same | ⟨task, call, absent, next⟩ | ⟨task, call, waits, next⟩ | ⟨task, call, _, open_, _, next⟩ |
      ⟨task, outcome, await, _, inside, next⟩
  · rwa [same]
  · rw [next]
    exact protected_outside guarded (by simp [absent]) (by simp)
  · rw [next]
    exact protected_outside guarded (by simp [waits]) (by simp)
  · rw [next]
    refine protected_settle ?_ (rule.enters call w.shared (guarded.free open_))
    intro other await _ inside
    exact nomatch open_.symm.trans (guarded.exclusive.held other await inside)
  · rw [next]
    refine protected_settle ?_ (rule.resumes await outcome w.shared (guarded.within task await inside))
    intro other again apart insideToo
    exact apart (guarded.exclusive.unique insideToo inside)

theorem protected_start (shared : S) (start : free shared) :
    Protected free within ({ shared := shared } : World S C P) where
  exclusive := ⟨fun _ _ inside => (nomatch inside), fun _ holds => nomatch holds⟩
  free _ := start
  within _ _ inside := nomatch inside

/-- The lock rule: what every block keeps holds in every schedule of any number of tasks. -/
theorem protected_run (rule : Rule s free within) {shared : S} (start : free shared) (actions : List (Action C O)) :
    Protected free within (run (step s) { shared := shared } actions) :=
  run_invariant (fun _ action guarded => protected_step rule guarded action) (protected_start shared start)

end

end Iems.Lib.Locks
