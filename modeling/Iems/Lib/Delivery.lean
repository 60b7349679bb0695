import Iems.Lib.LastWriter
import Iems.Lib.Runs

/-! At-least-once delivery from partitioned logs into a last-writer-wins table. A consumer takes the messages of each
partition in order, in any interleaving of the partitions, and may go back in one of them at any time. -/
namespace Iems.Lib.Delivery

variable {K V M P : Type} [DecidableEq K] [DecidableEq P]

structure Consumer (K V P : Type) where
  table : Dict K V
  position : P → ℕ

inductive Action (P : Type) where
  | handle (partition : P)
  | lose (partition : P)
  | resume (partition : P) (offset : ℕ)

def moveTo (position : P → ℕ) (partition : P) (offset : ℕ) : P → ℕ :=
  fun other => if other = partition then offset else position other

section
variable (logs : P → List M) (keyOf : M → Option K) (value : M → V)

/-- A message that is lost is passed over without a write. -/
def step (c : Consumer K V P) : Action P → Consumer K V P
  | .handle p =>
    match (logs p)[c.position p]? with
    | none => c
    | some message => ⟨writeRow keyOf value c.table message, moveTo c.position p (c.position p + 1)⟩
  | .lose p =>
    match (logs p)[c.position p]? with
    | none => c
    | some _ => { c with position := moveTo c.position p (c.position p + 1) }
  | .resume p offset => { c with position := moveTo c.position p offset }

/-- The consumer goes back, never forth, and loses only messages that write nothing. -/
def Safe (c : Consumer K V P) : Action P → Prop
  | .handle _ => True
  | .lose p => ∀ message, (logs p)[c.position p]? = some message → keyOf message = none
  | .resume p offset => offset ≤ c.position p

/-- Each key has a partition of its own, which all its messages are in. -/
def Owned (owner : K → P) : Prop := ∀ p, ∀ message ∈ logs p, ∀ key, keyOf message = some key → owner key = p

/-- A row whose messages have all been passed holds the last of them. -/
def Settled (owner : K → P) (start : Dict K V) (c : Consumer K V P) : Prop :=
  ∀ key, lastFor keyOf key ((logs (owner key)).drop (c.position (owner key))) = none →
    c.table.get? key = ((lastFor keyOf key (logs (owner key))).map value).or (start.get? key)

end

section
variable {logs : P → List M} {keyOf : M → Option K} {value : M → V} {owner : K → P} {start : Dict K V} {c : Consumer K V P}

theorem lastFor_none {key : K} {log : List M} :
    lastFor keyOf key log = none ↔ ∀ message ∈ log, keyOf message ≠ some key := by
  unfold lastFor
  rw [List.getLast?_eq_none_iff, List.filter_eq_nil_iff]
  simp

/-- Passing one message: what remains is the rest, and the row of another key is not its concern. -/
theorem settled_pass (settled : Settled logs keyOf value owner start c) {p : P} {message : M}
    (found : (logs p)[c.position p]? = some message) {table : Dict K V}
    (own : ∀ key, keyOf message = some key → table.get? key = some (value message))
    (others : ∀ key, keyOf message ≠ some key → table.get? key = c.table.get? key)
    (owned : Owned logs keyOf owner) :
    Settled logs keyOf value owner start ⟨table, moveTo c.position p (c.position p + 1)⟩ := by
  intro key passed
  dsimp only at passed ⊢
  obtain ⟨below, here⟩ := List.getElem?_eq_some_iff.mp found
  have rest : (logs p).drop (c.position p) = message :: (logs p).drop (c.position p + 1) := by
    rw [← here]
    exact List.drop_eq_getElem_cons below
  by_cases written : keyOf message = some key
  · have place : owner key = p := owned p message (List.mem_of_getElem? found) key written
    rw [place, moveTo, if_pos rfl] at passed
    have last : lastFor keyOf key (logs p) = some message := by
      rw [← List.take_append_drop (c.position p) (logs p), rest, lastFor_append, ← List.singleton_append, lastFor_append,
        passed, lastFor_singleton, if_pos written]
      rfl
    rw [own key written, place, last]
    rfl
  · rw [others key written]
    refine settled key ?_
    by_cases place : owner key = p
    · rw [place, moveTo, if_pos rfl] at passed
      rw [place, rest, lastFor_none]
      rw [lastFor_none] at passed
      intro other member
      rcases List.mem_cons.mp member with rfl | later
      · exact written
      · exact passed other later
    · rwa [moveTo, if_neg place] at passed

theorem settled_step (owned : Owned logs keyOf owner) (settled : Settled logs keyOf value owner start c) {action : Action P}
    (safe : Safe logs keyOf c action) : Settled logs keyOf value owner start (step logs keyOf value c action) := by
  cases action with
  | handle p =>
    unfold step
    dsimp only
    split
    · exact settled
    · rename_i message found
      refine settled_pass settled found (fun key written => ?_) (fun key other => ?_) owned
      · rw [get?_writeRow, if_pos written]
      · rw [get?_writeRow, if_neg other]
  | lose p =>
    unfold step
    dsimp only
    split
    · exact settled
    · rename_i message found
      have empty := safe message found
      refine settled_pass settled found (fun key written => ?_) (fun _ _ => rfl) owned
      exact nomatch empty.symm.trans written
  | resume p offset =>
    intro key passed
    refine settled key ?_
    unfold step at passed
    dsimp only at passed
    by_cases place : owner key = p
    · rw [place, moveTo, if_pos rfl, lastFor_none] at passed
      rw [place, lastFor_none]
      intro message member
      exact passed message ((List.drop_sublist_drop_left _ safe).subset member)
    · rwa [moveTo, if_neg place] at passed

/-- Wherever the consumer went back, once it has passed every message the table is that of the logs. -/
theorem converged (owned : Owned logs keyOf owner) {actions : List (Action P)}
    (safe : Meets (step logs keyOf value) (Safe logs keyOf) ⟨start, fun _ => 0⟩ actions)
    (done : ∀ p, (logs p).length ≤ (run (step logs keyOf value) ⟨start, fun _ => 0⟩ actions).position p) (key : K) :
    (run (step logs keyOf value) ⟨start, fun _ => 0⟩ actions).table.get? key =
      ((lastFor keyOf key (logs (owner key))).map value).or (start.get? key) := by
  have keep : ∀ c action, Settled logs keyOf value owner start c → Safe logs keyOf c action →
      Settled logs keyOf value owner start (step logs keyOf value c action) :=
    fun _ _ settled allowed => settled_step owned settled allowed
  have settled : Settled logs keyOf value owner start (run (step logs keyOf value) ⟨start, fun _ => 0⟩ actions) := by
    refine safe.invariant keep fun key none_ => ?_
    rw [List.drop_zero] at none_
    rw [none_]
    rfl
  refine settled key ?_
  rw [List.drop_eq_nil_of_le (done (owner key))]
  rfl

end

end Iems.Lib.Delivery
