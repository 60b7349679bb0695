import Mathlib.Data.List.Induction

/-! Partial automata: replaying a trail of events, and shapes of the trails that reach a state. -/
namespace Iems.Lib

variable {Q E : Type} {advance : Q → E → Option Q}

def replay (advance : Q → E → Option Q) (q : Q) (events : List E) : Option Q :=
  events.foldlM advance q

theorem replay_append (q : Q) (before after : List E) :
    replay advance q (before ++ after) =
      (replay advance q before).bind fun reached => replay advance reached after :=
  List.foldlM_append

theorem replay_snoc (q : Q) (events : List E) (e : E) :
    replay advance q (events ++ [e]) = (replay advance q events).bind fun reached => advance reached e := by
  rw [replay_append]
  congr 1
  funext reached
  simp [replay]

/-- The shape rule: what holds of the empty trail and is kept by every event holds of every trail
that replays. -/
theorem replay_shape {shape : Q → List E → Prop} {q reached : Q} {events : List E}
    (start : shape q [])
    (keep : ∀ s trail e next, shape s trail → advance s e = some next → shape next (trail ++ [e]))
    (replayed : replay advance q events = some reached) : shape reached events := by
  induction events using List.reverseRecOn generalizing reached with
  | nil =>
    cases replayed
    exact start
  | append_singleton events e ih =>
    rw [replay_snoc] at replayed
    obtain ⟨before, earlier, last⟩ := Option.bind_eq_some_iff.mp replayed
    exact keep before events e reached (ih earlier) last

end Iems.Lib
