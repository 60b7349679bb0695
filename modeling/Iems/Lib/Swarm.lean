import Iems.Lib.Runs
import Mathlib.Algebra.Order.Field.Basic
import Mathlib.Data.List.MinMax
import Mathlib.Tactic.Linarith

/-! Particle swarms: positions moved at random within bounds, each particle keeping the best it has visited. -/
namespace Iems.Lib

/-- A particle over the coordinates `ι`, with the best position it has visited and the score of that. -/
structure Particle (ι K S : Type) where
  position : ι → K
  velocity : ι → K
  best : ι → K
  score : S

structure Swarm (ι K S : Type) where
  particles : List (Particle ι K S)
  globalBest : ι → K
  archive : List (ι → K) := []

structure SwarmRules (ι K S : Type) where
  inertia : K
  cognitive : K
  social : K
  lows : ι → K
  highs : ι → K
  fitness : (ι → K) → S

/-- The random numbers of one iteration, for each particle and coordinate. -/
structure SwarmDraw (ι K : Type) where
  r1 : Nat → ι → K
  r2 : Nat → ι → K

section
variable {ι K S : Type} [Field K] [LinearOrder K] [LinearOrder S] (rules : SwarmRules ι K S)

namespace SwarmRules

def Within (x : ι → K) : Prop := ∀ k, rules.lows k ≤ x k ∧ x k ≤ rules.highs k

def clamp (x : ι → K) (k : ι) : K := min (max (x k) (rules.lows k)) (rules.highs k)

def velocity (globalBest : ι → K) (r1 r2 : ι → K) (p : Particle ι K S) (k : ι) : K :=
  rules.inertia * p.velocity k + rules.cognitive * r1 k * (p.best k - p.position k) +
    rules.social * r2 k * (globalBest k - p.position k)

/-- A particle's share of an iteration: it moves, and a strictly better position becomes its best. -/
def move (globalBest : ι → K) (r1 r2 : ι → K) (p : Particle ι K S) : Particle ι K S :=
  let velocity := rules.velocity globalBest r1 r2 p
  let position := rules.clamp fun k => p.position k + velocity k
  let score := rules.fitness position
  if score < p.score then { position := position, velocity := velocity, best := position, score := score }
  else { p with position := position, velocity := velocity }

/-- The personal best of the first particle with the least score. -/
def leader (particles : List (Particle ι K S)) : Option (ι → K) := (particles.argmin Particle.score).map Particle.best

/-- `none` where there is no particle to lead. -/
def start (placed : List ((ι → K) × (ι → K))) : Option (Swarm ι K S) :=
  let particles := placed.map fun (position, velocity) =>
    { position := position, velocity := velocity, best := position, score := rules.fitness position }
  (leader particles).map fun best => { particles := particles, globalBest := best }

def iterate (s : Swarm ι K S) (draw : SwarmDraw ι K) : Swarm ι K S :=
  let particles := s.particles.mapIdx fun i p => rules.move s.globalBest (draw.r1 i) (draw.r2 i) p
  { particles := particles
    globalBest := (leader particles).getD s.globalBest
    archive := s.archive ++ particles.map Particle.position }

/-- The swarm after some iterations. -/
def after (s : Swarm ι K S) (draws : Nat → SwarmDraw ι K) (n : Nat) : Swarm ι K S :=
  run rules.iterate s ((List.range n).map draws)

/-! ### One particle -/

variable {rules}

omit [Field K] [LinearOrder S] in
theorem clamp_within (ordered : ∀ k, rules.lows k ≤ rules.highs k) (x : ι → K) : rules.Within (rules.clamp x) := by
  intro k
  exact ⟨le_min (le_max_right _ _) (ordered k), min_le_right _ _⟩

section
variable {globalBest r1 r2 : ι → K} {p : Particle ι K S}

variable (rules globalBest r1 r2 p) in
/-- A move visits one position and keeps the better of the two bests. -/
theorem move_cases :
    ((rules.move globalBest r1 r2 p).score = rules.fitness (rules.move globalBest r1 r2 p).position ∧
        (rules.move globalBest r1 r2 p).best = (rules.move globalBest r1 r2 p).position ∧
        rules.fitness (rules.move globalBest r1 r2 p).position < p.score) ∨
      ((rules.move globalBest r1 r2 p).score = p.score ∧ (rules.move globalBest r1 r2 p).best = p.best ∧
        p.score ≤ rules.fitness (rules.move globalBest r1 r2 p).position) := by
  unfold move
  dsimp only
  split
  · rename_i better
    exact Or.inl ⟨rfl, rfl, better⟩
  · rename_i worse
    exact Or.inr ⟨rfl, rfl, not_lt.mp worse⟩

variable (rules globalBest r1 r2 p) in
theorem move_position : ∃ x, (rules.move globalBest r1 r2 p).position = rules.clamp x := by
  unfold move
  dsimp only
  split <;> exact ⟨_, rfl⟩

theorem move_lowered : (rules.move globalBest r1 r2 p).score ≤ p.score := by
  rcases move_cases rules globalBest r1 r2 p with ⟨score, _, better⟩ | ⟨score, _, _⟩
  · rw [score]
    exact better.le
  · exact score.le

theorem move_visited : (rules.move globalBest r1 r2 p).score ≤ rules.fitness (rules.move globalBest r1 r2 p).position := by
  rcases move_cases rules globalBest r1 r2 p with ⟨score, _, _⟩ | ⟨score, _, worse⟩
  · exact score.le
  · rw [score]
    exact worse

theorem move_scored (scored : p.score = rules.fitness p.best) :
    (rules.move globalBest r1 r2 p).score = rules.fitness (rules.move globalBest r1 r2 p).best := by
  rcases move_cases rules globalBest r1 r2 p with ⟨score, best, _⟩ | ⟨score, best, _⟩
  · rw [score, best]
  · rw [score, best, scored]

end

/-! ### The whole swarm -/

/-- Each score is that of the particle's best, and the global best is one of least score. -/
structure Led (rules : SwarmRules ι K S) (s : Swarm ι K S) : Prop where
  scored : ∀ p ∈ s.particles, p.score = rules.fitness p.best
  best : ∃ p ∈ s.particles, s.globalBest = p.best ∧ ∀ q ∈ s.particles, p.score ≤ q.score

omit [Field K] [LinearOrder K] in
theorem leader_least {particles : List (Particle ι K S)} {best : ι → K} (led : leader particles = some best) :
    ∃ p ∈ particles, best = p.best ∧ ∀ q ∈ particles, p.score ≤ q.score := by
  obtain ⟨p, least, rfl⟩ := Option.map_eq_some_iff.mp led
  exact ⟨p, List.argmin_mem least, rfl, fun q member => List.le_of_mem_argmin member least⟩

omit [Field K] [LinearOrder K] in
theorem leader_isSome {particles : List (Particle ι K S)} (some_ : particles ≠ []) : ∃ best, leader particles = some best := by
  unfold leader
  cases least : particles.argmin Particle.score with
  | none => exact absurd (List.argmin_eq_none.mp least) some_
  | some p => exact ⟨p.best, rfl⟩

omit [Field K] [LinearOrder K] in
theorem start_led {placed : List ((ι → K) × (ι → K))} {s : Swarm ι K S} (started : rules.start placed = some s) :
    Led rules s := by
  unfold start at started
  obtain ⟨best, led, rfl⟩ := Option.map_eq_some_iff.mp started
  refine ⟨?_, leader_least led⟩
  intro p member
  obtain ⟨place, _, rfl⟩ := List.mem_map.mp member
  rfl

omit [Field K] [LinearOrder K] in
theorem start_isSome {placed : List ((ι → K) × (ι → K))} (some_ : placed ≠ []) : ∃ s, rules.start placed = some s := by
  unfold start
  have filled : (placed.map fun place : (ι → K) × (ι → K) =>
      ({ position := place.1, velocity := place.2, best := place.1, score := rules.fitness place.1 } : Particle ι K S)) ≠ [] := by
    simpa using some_
  obtain ⟨best, led⟩ := leader_isSome filled
  exact ⟨_, Option.map_eq_some_iff.mpr ⟨best, led, rfl⟩⟩

variable {s : Swarm ι K S} {draw : SwarmDraw ι K}

theorem length_iterate : (rules.iterate s draw).particles.length = s.particles.length := List.length_mapIdx

theorem mem_iterate {q : Particle ι K S} (member : q ∈ (rules.iterate s draw).particles) :
    ∃ i, ∃ p ∈ s.particles, q = rules.move s.globalBest (draw.r1 i) (draw.r2 i) p := by
  obtain ⟨i, inside, same⟩ := List.mem_mapIdx.mp member
  exact ⟨i, _, List.getElem_mem inside, same.symm⟩

theorem iterate_getElem? (i : Nat) :
    (rules.iterate s draw).particles[i]? = s.particles[i]?.map (rules.move s.globalBest (draw.r1 i) (draw.r2 i)) :=
  List.getElem?_mapIdx

theorem iterate_led (held : Led rules s) : Led rules (rules.iterate s draw) := by
  constructor
  · intro q member
    obtain ⟨i, p, present, rfl⟩ := mem_iterate member
    exact move_scored (held.scored p present)
  · obtain ⟨p, present, _⟩ := held.best
    have some_ : (rules.iterate s draw).particles ≠ [] := by
      intro none_
      have empty := congrArg List.length none_
      rw [length_iterate] at empty
      exact absurd (List.length_eq_zero_iff.mp empty) (List.ne_nil_of_mem present)
    obtain ⟨best, led⟩ := leader_isSome some_
    obtain ⟨q, member, same, least⟩ := leader_least led
    refine ⟨q, member, ?_, least⟩
    rw [← same]
    show (leader (rules.iterate s draw).particles).getD s.globalBest = best
    rw [led, Option.getD_some]

/-- The least score does not rise. -/
theorem iterate_globalBest (held : Led rules s) :
    rules.fitness (rules.iterate s draw).globalBest ≤ rules.fitness s.globalBest := by
  obtain ⟨p, present, same, _⟩ := held.best
  have next : Led rules (rules.iterate s draw) := iterate_led held
  obtain ⟨q, member, after, least⟩ := next.best
  obtain ⟨i, inside, rfl⟩ := List.mem_iff_getElem.mp present
  have moved : (rules.iterate s draw).particles[i]? = some (rules.move s.globalBest (draw.r1 i) (draw.r2 i) s.particles[i]) := by
    rw [iterate_getElem?, List.getElem?_eq_getElem inside, Option.map_some]
  calc rules.fitness (rules.iterate s draw).globalBest
      = q.score := by rw [after, next.scored q member]
    _ ≤ (rules.move s.globalBest (draw.r1 i) (draw.r2 i) s.particles[i]).score :=
        least _ (List.mem_of_getElem? moved)
    _ ≤ s.particles[i].score := move_lowered
    _ = rules.fitness s.globalBest := by rw [held.scored _ present, same]

theorem iterate_within (ordered : ∀ k, rules.lows k ≤ rules.highs k) {q : Particle ι K S}
    (member : q ∈ (rules.iterate s draw).particles) : rules.Within q.position := by
  obtain ⟨i, p, _, rfl⟩ := mem_iterate member
  obtain ⟨x, place⟩ := move_position rules s.globalBest (draw.r1 i) (draw.r2 i) p
  rw [place]
  exact clamp_within ordered x

/-! ### Any number of iterations -/

variable {draws : Nat → SwarmDraw ι K}

theorem after_succ (n : Nat) : rules.after s draws (n + 1) = rules.iterate (rules.after s draws n) (draws n) := by
  unfold after
  rw [List.range_succ, List.map_append]
  exact run_snoc _ _ _

theorem after_led (held : Led rules s) (n : Nat) : Led rules (rules.after s draws n) := by
  induction n with
  | zero => exact held
  | succ n ih =>
    rw [after_succ]
    exact iterate_led ih

theorem length_after (n : Nat) : (rules.after s draws n).particles.length = s.particles.length := by
  induction n with
  | zero => rfl
  | succ n ih => rw [after_succ, length_iterate, ih]

theorem after_globalBest (held : Led rules s) {k n : Nat} (earlier : k ≤ n) :
    rules.fitness (rules.after s draws n).globalBest ≤ rules.fitness (rules.after s draws k).globalBest := by
  induction n, earlier using Nat.le_induction with
  | base => exact le_rfl
  | succ n _ ih =>
    rw [after_succ]
    exact (iterate_globalBest (after_led held n)).trans ih

/-- Particle `i` over the iterations: where it was, and what it remembers. -/
theorem after_getElem? (i n : Nat) :
    (rules.after s draws (n + 1)).particles[i]? =
      (rules.after s draws n).particles[i]?.map
        (rules.move (rules.after s draws n).globalBest ((draws n).r1 i) ((draws n).r2 i)) := by
  rw [after_succ, iterate_getElem?]

theorem after_lowered {i k n : Nat} (earlier : k ≤ n) {p q : Particle ι K S}
    (now : (rules.after s draws n).particles[i]? = some p) (before : (rules.after s draws k).particles[i]? = some q) :
    p.score ≤ q.score := by
  induction n, earlier using Nat.le_induction generalizing p with
  | base =>
    rw [now] at before
    cases before
    exact le_rfl
  | succ n _ ih =>
    rw [after_getElem?] at now
    obtain ⟨last, held, rfl⟩ := Option.map_eq_some_iff.mp now
    exact move_lowered.trans (ih held)

/-- The best is a visited position, and no visited one is better. -/
theorem after_visited (fresh : ∀ p ∈ s.particles, p.best = p.position ∧ p.score = rules.fitness p.position) {i n : Nat}
    {p : Particle ι K S} (now : (rules.after s draws n).particles[i]? = some p) :
    (∀ k ≤ n, ∀ q, (rules.after s draws k).particles[i]? = some q → p.score ≤ rules.fitness q.position) ∧
      ∃ k ≤ n, ∃ q, (rules.after s draws k).particles[i]? = some q ∧ p.best = q.position := by
  induction n generalizing p with
  | zero =>
    obtain ⟨best, score⟩ := fresh p (List.mem_of_getElem? now)
    refine ⟨?_, 0, le_rfl, p, now, best⟩
    intro k first q before
    obtain rfl := Nat.le_zero.mp first
    rw [now] at before
    cases before
    exact score.le
  | succ n ih =>
    have moved := now
    rw [after_getElem?] at moved
    obtain ⟨last, held, rfl⟩ := Option.map_eq_some_iff.mp moved
    obtain ⟨least, k, earlier, q, place, best⟩ := ih held
    constructor
    · intro k within q before
      rcases Nat.le_succ_iff.mp within with older | rfl
      · exact move_lowered.trans (least k older q before)
      · rw [now] at before
        cases before
        exact move_visited
    · rcases move_cases rules (rules.after s draws n).globalBest ((draws n).r1 i) ((draws n).r2 i) last with ⟨_, here, _⟩ | ⟨_, kept, _⟩
      · exact ⟨n + 1, le_rfl, _, now, here⟩
      · exact ⟨k, by omega, q, place, by rw [kept, best]⟩

theorem after_archive (empty : s.archive = []) (n : Nat) :
    (rules.after s draws n).archive =
      (List.range n).flatMap fun k => (rules.after s draws (k + 1)).particles.map Particle.position := by
  induction n with
  | zero => exact empty
  | succ n ih =>
    rw [List.range_succ, List.flatMap_append, ← ih, List.flatMap_singleton, after_succ]
    rfl

/-- What holds after `n` iterations. -/
structure Sound (rules : SwarmRules ι K S) (s : Swarm ι K S) (draws : Nat → SwarmDraw ι K) (n : Nat) : Prop where
  within : 1 ≤ n → ∀ p ∈ (rules.after s draws n).particles, rules.Within p.position
  archived : ∀ x ∈ (rules.after s draws n).archive, rules.Within x
  scored : ∀ p ∈ (rules.after s draws n).particles, p.score = rules.fitness p.best
  visited : ∀ (i : Nat) (p : Particle ι K S), (rules.after s draws n).particles[i]? = some p →
    (∀ k ≤ n, ∀ q, (rules.after s draws k).particles[i]? = some q → p.score ≤ rules.fitness q.position) ∧
      ∃ k ≤ n, ∃ q, (rules.after s draws k).particles[i]? = some q ∧ p.best = q.position
  lowered : ∀ (i : Nat) (p : Particle ι K S), (rules.after s draws n).particles[i]? = some p →
    ∀ k ≤ n, ∀ q, (rules.after s draws k).particles[i]? = some q → p.score ≤ q.score
  best : ∃ p ∈ (rules.after s draws n).particles, (rules.after s draws n).globalBest = p.best ∧
    ∀ q ∈ (rules.after s draws n).particles, p.score ≤ q.score
  bestLowered : ∀ k ≤ n, rules.fitness (rules.after s draws n).globalBest ≤ rules.fitness (rules.after s draws k).globalBest
  archive : (rules.after s draws n).archive =
    (List.range n).flatMap fun k => (rules.after s draws (k + 1)).particles.map Particle.position
  counted : (rules.after s draws n).archive.length = s.particles.length * n

theorem after_within (ordered : ∀ k, rules.lows k ≤ rules.highs k) (n : Nat) :
    ∀ p ∈ (rules.after s draws (n + 1)).particles, rules.Within p.position := by
  intro p member
  rw [after_succ] at member
  exact iterate_within ordered member

omit [Field K] [LinearOrder K] in
theorem start_fresh {placed : List ((ι → K) × (ι → K))} (started : rules.start placed = some s) :
    s.particles.length = placed.length ∧ s.archive = [] ∧
      ∀ p ∈ s.particles, p.best = p.position ∧ p.score = rules.fitness p.position := by
  unfold start at started
  obtain ⟨best, _, rfl⟩ := Option.map_eq_some_iff.mp started
  refine ⟨List.length_map _, rfl, ?_⟩
  intro p member
  obtain ⟨place, _, rfl⟩ := List.mem_map.mp member
  exact ⟨rfl, rfl⟩

/-- A started swarm is sound after any number of iterations, whatever the draws. -/
theorem started_sound (ordered : ∀ k, rules.lows k ≤ rules.highs k) {placed : List ((ι → K) × (ι → K))}
    (started : rules.start placed = some s) (draws : Nat → SwarmDraw ι K) (n : Nat) : Sound rules s draws n := by
  have led := start_led started
  obtain ⟨_, empty, fresh⟩ := start_fresh started
  have archive : (rules.after s draws n).archive =
      (List.range n).flatMap fun k => (rules.after s draws (k + 1)).particles.map Particle.position := after_archive empty n
  refine
    { within := ?_
      archived := ?_
      scored := (after_led led n).scored
      visited := fun i p now => after_visited fresh now
      lowered := fun i p now k earlier q before => after_lowered earlier now before
      best := (after_led led n).best
      bestLowered := fun k earlier => after_globalBest led earlier
      archive := archive
      counted := ?_ }
  · intro positive p member
    obtain ⟨m, rfl⟩ := Nat.exists_eq_add_of_le' positive
    exact after_within ordered m p member
  · intro x member
    rw [archive] at member
    obtain ⟨k, _, visited⟩ := List.mem_flatMap.mp member
    obtain ⟨p, present, rfl⟩ := List.mem_map.mp visited
    exact after_within ordered k p present
  · rw [archive, List.length_flatMap]
    simp [length_after, Nat.mul_comm]

end SwarmRules
end
end Iems.Lib
