import Mathlib.Order.Nat

/-! Records that a counter numbers: what stays true of their ids while the numbers only go up. -/
namespace Iems.Lib

/-- From one counter to the next, a new record takes a number from the first on and below the second. -/
structure NumbersUp (counter next : Nat) (before after : Nat → Prop) : Prop where
  counter_le : counter ≤ next
  new : ∀ id, after id → before id ∨ counter ≤ id ∧ id < next

namespace NumbersUp
variable {counter middle next base : Nat} {before between after : Nat → Prop}

theorem refl (counter : Nat) (before : Nat → Prop) : NumbersUp counter counter before before :=
  ⟨le_rfl, fun _ present => Or.inl present⟩

theorem trans (first : NumbersUp counter middle before between) (second : NumbersUp middle next between after) :
    NumbersUp counter next before after := by
  refine ⟨first.counter_le.trans second.counter_le, fun id present => ?_⟩
  rcases second.new id present with earlier | ⟨after, below⟩
  · rcases first.new id earlier with old | ⟨after, below⟩
    · exact Or.inl old
    · exact Or.inr ⟨after, below.trans_le second.counter_le⟩
  · exact Or.inr ⟨first.counter_le.trans after, below⟩

theorem below (up : NumbersUp counter next before after) (fresh : ∀ id, before id → id < counter) :
    ∀ id, after id → id < next := by
  intro id present
  rcases up.new id present with old | ⟨_, bound⟩
  · exact (fresh id old).trans_le up.counter_le
  · exact bound

theorem above (up : NumbersUp counter next before after) (from_ : base ≤ counter ∧ ∀ id, before id → base ≤ id) :
    base ≤ next ∧ ∀ id, after id → base ≤ id := by
  refine ⟨from_.1.trans up.counter_le, fun id present => ?_⟩
  rcases up.new id present with old | ⟨bound, _⟩
  · exact from_.2 id old
  · exact from_.1.trans bound

end NumbersUp
end Iems.Lib
