import Iems.Lib.Runs

/-!
Concurrent requests over one database at READ COMMITTED: each request reads, performs its external
effects and commits what it computed from the rows it read, and other requests may commit in between.
-/
namespace Iems.Lib.Sessions

variable {R D V E : Type}

/-- `read` is `none` where the request is refused; `commit` works on what the request saw. -/
structure Protocol (R D V E : Type) where
  read : R → D → Option V
  effects : R → V → List E
  commit : R → V → D → D

/-- A request with no other request between its read and its commit. -/
def Protocol.alone (p : Protocol R D V E) (r : R) (db : D) : D :=
  match p.read r db with
  | none => db
  | some seen => p.commit r seen db

structure Session (R V E : Type) where
  request : R
  seen : V
  todo : List E

structure World (R D V E : Type) where
  db : D
  log : List (Nat × E) := []
  sessions : Nat → Option (Session R V E) := fun _ => none
  next : Nat := 0

inductive Action (R : Type) where
  | read (request : R)
  | effect (i : Nat)
  | commit (i : Nat)

def assign (sessions : Nat → Option (Session R V E)) (i : Nat) (s : Option (Session R V E)) :
    Nat → Option (Session R V E) :=
  fun j => if j = i then s else sessions j

def step (p : Protocol R D V E) (w : World R D V E) : Action R → World R D V E
  | .read r =>
    match p.read r w.db with
    | none => w
    | some seen =>
      { w with
        sessions := assign w.sessions w.next (some ⟨r, seen, p.effects r seen⟩)
        next := w.next + 1 }
  | .effect i =>
    match w.sessions i with
    | some ⟨r, seen, e :: rest⟩ =>
      { w with
        log := w.log ++ [(i, e)]
        sessions := assign w.sessions i (some ⟨r, seen, rest⟩) }
    | _ => w
  | .commit i =>
    match w.sessions i with
    | some ⟨r, seen, []⟩ =>
      { w with
        db := p.commit r seen w.db
        sessions := assign w.sessions i none }
    | _ => w

/-- The flush of one column: an `UPDATE` sets it only when the session changed the value it loaded. -/
def column {α : Type} [DecidableEq α] (loaded edited current : α) : α :=
  if edited = loaded then current else edited

@[simp] theorem column_current {α : Type} [DecidableEq α] (loaded edited : α) :
    column loaded edited loaded = edited := by
  unfold column
  split
  · rename_i same
    exact same.symm
  · rfl

@[simp] theorem column_unchanged {α : Type} [DecidableEq α] (loaded current : α) :
    column loaded loaded current = current :=
  if_pos rfl

theorem column_changed {α : Type} [DecidableEq α] {loaded edited : α} (changed : edited ≠ loaded)
    (current : α) : column loaded edited current = edited :=
  if_neg changed

/-! ### What one step does -/

variable {p : Protocol R D V E}

theorem effect_db (w : World R D V E) (i : Nat) : (step p w (.effect i)).db = w.db := by
  simp only [step]
  split <;> rfl

theorem read_db (w : World R D V E) (r : R) : (step p w (.read r)).db = w.db := by
  simp only [step]
  split <;> rfl

theorem commit_cases (p : Protocol R D V E) (w : World R D V E) (i : Nat) :
    step p w (.commit i) = w ∨ ∃ r seen, w.sessions i = some ⟨r, seen, []⟩ ∧
      step p w (.commit i) =
        { w with db := p.commit r seen w.db, sessions := assign w.sessions i none } := by
  simp only [step]
  split
  · rename_i r seen found
    exact Or.inr ⟨r, seen, found, rfl⟩
  · exact Or.inl rfl

theorem effect_cases (p : Protocol R D V E) (w : World R D V E) (i : Nat) :
    step p w (.effect i) = w ∨ ∃ r seen e rest, w.sessions i = some ⟨r, seen, e :: rest⟩ ∧
      step p w (.effect i) =
        { w with
          log := w.log ++ [(i, e)]
          sessions := assign w.sessions i (some ⟨r, seen, rest⟩) } := by
  simp only [step]
  split
  · rename_i r seen e rest found
    exact Or.inr ⟨r, seen, e, rest, found, rfl⟩
  · exact Or.inl rfl

theorem read_cases (p : Protocol R D V E) (w : World R D V E) (r : R) :
    (p.read r w.db = none ∧ step p w (.read r) = w) ∨ ∃ seen, p.read r w.db = some seen ∧
      step p w (.read r) =
        { w with
          sessions := assign w.sessions w.next (some ⟨r, seen, p.effects r seen⟩)
          next := w.next + 1 } := by
  simp only [step]
  split
  · rename_i refused
    exact Or.inl ⟨refused, rfl⟩
  · rename_i seen found
    exact Or.inr ⟨seen, found, rfl⟩

theorem assign_some {sessions : Nat → Option (Session R V E)} {i j : Nat}
    {s : Option (Session R V E)} {t : Session R V E} (found : assign sessions i s j = some t) :
    (j = i ∧ s = some t) ∨ (j ≠ i ∧ sessions j = some t) := by
  unfold assign at found
  split at found
  · rename_i same
    exact Or.inl ⟨same, found⟩
  · rename_i different
    exact Or.inr ⟨different, found⟩

theorem assign_same (sessions : Nat → Option (Session R V E)) (i : Nat)
    (s : Option (Session R V E)) : assign sessions i s i = s :=
  if_pos rfl

theorem assign_other (sessions : Nat → Option (Session R V E)) {i j : Nat}
    (s : Option (Session R V E)) (different : j ≠ i) : assign sessions i s j = sessions j :=
  if_neg different

theorem next_step (p : Protocol R D V E) (w : World R D V E) (action : Action R) :
    w.next ≤ (step p w action).next := by
  cases action with
  | read r =>
    rcases read_cases p w r with ⟨_, same⟩ | ⟨seen, _, next⟩
    · rw [same]
    · rw [next]; exact Nat.le_succ _
  | effect i =>
    rcases effect_cases p w i with same | ⟨r, seen, e, rest, _, next⟩
    · rw [same]
    · rw [next]
  | commit i =>
    rcases commit_cases p w i with same | ⟨r, seen, _, next⟩
    · rw [same]
    · rw [next]

/-- A session that is open after a step was just opened by it, or was open before with the same request
and the same reads. -/
theorem session_step {w : World R D V E} {action : Action R} {i : Nat} {s : Session R V E}
    (present : (step p w action).sessions i = some s) :
    (action = .read s.request ∧ p.read s.request w.db = some s.seen ∧
        s.todo = p.effects s.request s.seen ∧ i < (step p w action).next) ∨
      ∃ t, w.sessions i = some t ∧ t.request = s.request ∧ t.seen = s.seen ∧ s.todo ⊆ t.todo := by
  have kept : w.sessions i = some s →
      ∃ t, w.sessions i = some t ∧ t.request = s.request ∧ t.seen = s.seen ∧ s.todo ⊆ t.todo :=
    fun old => ⟨s, old, rfl, rfl, List.Subset.refl _⟩
  cases action with
  | read r =>
    rcases read_cases p w r with ⟨_, same⟩ | ⟨seen, found, next⟩
    · rw [same] at present
      exact Or.inr (kept present)
    · rw [next] at present ⊢
      rcases assign_some present with ⟨rfl, fresh⟩ | ⟨_, old⟩
      · cases fresh
        exact Or.inl ⟨rfl, found, rfl, Nat.lt_succ_self _⟩
      · exact Or.inr (kept old)
  | effect j =>
    rcases effect_cases p w j with same | ⟨r, seen, e, rest, busy, next⟩
    · rw [same] at present
      exact Or.inr (kept present)
    · rw [next] at present
      rcases assign_some present with ⟨rfl, fresh⟩ | ⟨_, old⟩
      · cases fresh
        exact Or.inr ⟨_, busy, rfl, rfl, fun f member => List.mem_cons_of_mem e member⟩
      · exact Or.inr (kept old)
  | commit j =>
    rcases commit_cases p w j with same | ⟨r, seen, busy, next⟩
    · rw [same] at present
      exact Or.inr (kept present)
    · rw [next] at present
      rcases assign_some present with ⟨_, fresh⟩ | ⟨_, old⟩
      · cases fresh
      · exact Or.inr (kept old)

/-! ### Open sessions -/

/-- Every open session serves a request of the given kind, saw what that request read and has only
effects of that request to do. -/
def Opened (p : Protocol R D V E) (kind : R → Prop) (w : World R D V E) : Prop :=
  ∀ i s, w.sessions i = some s → kind s.request ∧ (∃ db, p.read s.request db = some s.seen) ∧
    s.todo ⊆ p.effects s.request s.seen

theorem opened_start (p : Protocol R D V E) (kind : R → Prop) (db : D) : Opened p kind { db := db } :=
  fun _ _ absent => nomatch absent

theorem opened_step {kind : R → Prop} {w : World R D V E} {action : Action R}
    (opened : Opened p kind w) (kinds : ∀ r, action = .read r → kind r) :
    Opened p kind (step p w action) := by
  intro i s present
  rcases session_step present with ⟨read, found, todo, _⟩ | ⟨t, old, request, seen, todo⟩
  · refine ⟨kinds _ read, ⟨w.db, found⟩, ?_⟩
    rw [todo]
    exact List.Subset.refl _
  · obtain ⟨known, loaded, within⟩ := opened i t old
    rw [← request, ← seen]
    exact ⟨known, loaded, List.Subset.trans todo within⟩

def Numbered (w : World R D V E) : Prop := ∀ i, w.next ≤ i → w.sessions i = none

theorem numbered_step {w : World R D V E} (numbered : Numbered w) (action : Action R) :
    Numbered (step p w action) := by
  intro i above
  rw [Option.eq_none_iff_forall_ne_some]
  intro s present
  rcases session_step present with ⟨_, _, _, within⟩ | ⟨t, old, _⟩
  · omega
  · have grows := next_step p w action
    rw [numbered i (by omega)] at old
    cases old

/-! ### Runs whose commits are still admitted -/

/-- A commit is admitted while what its request saw is still `fresh`. -/
def Admitted (fresh : R → V → D → Prop) (w : World R D V E) : Action R → Prop
  | .commit i => ∀ s, w.sessions i = some s → fresh s.request s.seen w.db
  | _ => True

/-- The request, reading again, would not be refused. -/
def Protocol.Passes (p : Protocol R D V E) (r : R) (_ : V) (db : D) : Prop := (p.read r db).isSome = true

instance (p : Protocol R D V E) (r : R) (seen : V) (db : D) : Decidable (p.Passes r seen db) :=
  inferInstanceAs (Decidable (_ = true))

theorem admitted_of_check {fresh : R → V → D → Prop} [∀ r seen db, Decidable (fresh r seen db)]
    {w : World R D V E} {i : Nat}
    (checked : (w.sessions i).all (fun s => fresh s.request s.seen w.db) = true) :
    Admitted fresh w (.commit i) := by
  intro s busy
  rw [busy] at checked
  exact of_decide_eq_true checked

def Permitted (kind : R → Prop) (fresh : R → V → D → Prop) (w : World R D V E) (action : Action R) :
    Prop :=
  (∀ r, action = .read r → kind r) ∧ Admitted fresh w action

section
variable {kind : R → Prop} {fresh : R → V → D → Prop} {rel : D → D → Prop}

theorem admitted_step {w : World R D V E} {action : Action R} (refl : ∀ db, rel db db)
    (commits : ∀ r seen loaded db, kind r → p.read r loaded = some seen → fresh r seen db →
      rel db (p.commit r seen db))
    (opened : Opened p kind w) (permitted : Permitted kind fresh w action) :
    rel w.db (step p w action).db := by
  cases action with
  | read r => rw [read_db]; exact refl w.db
  | effect i => rw [effect_db]; exact refl w.db
  | commit i =>
    rcases commit_cases p w i with same | ⟨r, seen, busy, next⟩
    · rw [same]; exact refl w.db
    · obtain ⟨known, ⟨loaded, found⟩, _⟩ := opened i ⟨r, seen, []⟩ busy
      rw [next]
      exact commits r seen loaded w.db known found (permitted.2 _ busy)

/-- What every admitted commit does links the databases of a run without stale commits. -/
theorem admitted_chain {w : World R D V E} {actions : List (Action R)} (refl : ∀ db, rel db db)
    (commits : ∀ r seen loaded db, kind r → p.read r loaded = some seen → fresh r seen db →
      rel db (p.commit r seen db))
    (opened : Opened p kind w) (meets : Meets (step p) (Permitted kind fresh) w actions) :
    ((visited (step p) w actions).map (·.db)).IsChain rel := by
  have chain : (visited (step p) w actions).IsChain fun v next => rel v.db next.db :=
    meets.chain (fun v action held allowed => opened_step held allowed.1)
      (fun v action held allowed => admitted_step refl commits held allowed) opened
  rw [List.isChain_map]
  exact chain

theorem opened_run {w : World R D V E} {actions : List (Action R)} (opened : Opened p kind w)
    (meets : Meets (step p) (Permitted kind fresh) w actions) :
    Opened p kind (run (step p) w actions) :=
  meets.invariant (fun _ _ held allowed => opened_step held allowed.1) opened

/-- A fact about the database that every admitted commit keeps holds after every such run. -/
theorem admitted_run {inv : D → Prop} {w : World R D V E} {actions : List (Action R)}
    (commits : ∀ r seen loaded db, kind r → p.read r loaded = some seen → fresh r seen db →
      inv db → inv (p.commit r seen db))
    (opened : Opened p kind w) (meets : Meets (step p) (Permitted kind fresh) w actions)
    (start : inv w.db) : inv (run (step p) w actions).db := by
  have keep : ∀ v action, Opened p kind v ∧ inv v.db → Permitted kind fresh v action →
      Opened p kind (step p v action) ∧ inv (step p v action).db := by
    intro v action held allowed
    refine ⟨opened_step held.1 allowed.1, ?_⟩
    have kept : inv v.db → inv (step p v action).db :=
      @admitted_step R D V E p kind fresh (fun db next => inv db → inv next) v action
        (fun _ same => same) commits held.1 allowed
    exact kept held.2
  exact (meets.invariant keep ⟨opened, start⟩).2

end

end Iems.Lib.Sessions
