import Iems.Lib.Runs

/-! Two systems that serve the same requests: when they answer alike and end alike. -/
namespace Iems.Lib

variable {S T A O V : Type}

def answers (step : S → A → S) (answer : S → A → O) : S → List A → List O
  | _, [] => []
  | s, action :: rest => answer s action :: answers step answer (step s action) rest

/-- States that match go on matching under harmless requests, and a request that is not harmless is answered
differently or parts them; states once parted are answered differently or stay parted. -/
structure Parting (stepS : S → A → S) (stepT : T → A → T) (answerS : S → A → O) (answerT : T → A → O)
    (viewS : S → V) (viewT : T → V) (harmless : T → A → Prop) (matched parted : S → T → Prop) : Prop where
  keep : ∀ s t action, matched s t → harmless t action →
    answerS s action = answerT t action ∧ matched (stepS s action) (stepT t action)
  part : ∀ s t action, matched s t → ¬harmless t action →
    answerS s action = answerT t action → parted (stepS s action) (stepT t action)
  stay : ∀ s t action, parted s t → answerS s action = answerT t action → parted (stepS s action) (stepT t action)
  alike : ∀ s t, matched s t → viewS s = viewT t
  unlike : ∀ s t, parted s t → viewS s ≠ viewT t

variable {stepS : S → A → S} {stepT : T → A → T} {answerS : S → A → O} {answerT : T → A → O} {viewS : S → V}
  {viewT : T → V} {harmless : T → A → Prop} {matched parted : S → T → Prop}

theorem Parting.parted_forever
    (parting : Parting stepS stepT answerS answerT viewS viewT harmless matched parted) {s : S} {t : T}
    {actions : List A} (apart : parted s t) (same : answers stepS answerS s actions = answers stepT answerT t actions) :
    viewS (run stepS s actions) ≠ viewT (run stepT t actions) := by
  induction actions generalizing s t with
  | nil => exact parting.unlike s t apart
  | cons action rest ih =>
    simp only [answers, List.cons.injEq] at same
    exact ih (parting.stay s t action apart same.1) same.2

/-- Matching systems answer a run alike and end alike exactly when every request of it is harmless. -/
theorem Parting.agree_iff (parting : Parting stepS stepT answerS answerT viewS viewT harmless matched parted)
    {s : S} {t : T} {actions : List A} (start : matched s t) :
    (answers stepS answerS s actions = answers stepT answerT t actions ∧
        viewS (run stepS s actions) = viewT (run stepT t actions)) ↔ Meets stepT harmless t actions := by
  induction actions generalizing s t with
  | nil => simp [answers, Meets, parting.alike s t start]
  | cons action rest ih =>
    simp only [answers, List.cons.injEq, run_cons, Meets]
    by_cases safe : harmless t action
    · obtain ⟨same, next⟩ := parting.keep s t action start safe
      rw [← ih next]
      simp [same, safe]
    · constructor
      · rintro ⟨⟨same, later⟩, final⟩
        exact absurd final (parting.parted_forever (parting.part s t action start safe same) later)
      · rintro ⟨harmlessHere, _⟩
        exact absurd harmlessHere safe

/-! ### Two systems against one machine -/

variable {M : Type}

/-- What is legal for the machine is answered alike and keeps the three in step; what is not is answered differently. -/
structure Lockstep (stepS : S → A → S) (stepT : T → A → T) (answerS : S → A → O) (answerT : T → A → O)
    (next : M → A → M) (legal : M → A → Prop) (matched : M → S → T → Prop) : Prop where
  keep : ∀ m s t action, matched m s t → legal m action →
    answerS s action = answerT t action ∧ matched (next m action) (stepS s action) (stepT t action)
  differ : ∀ m s t action, matched m s t → ¬legal m action → answerS s action ≠ answerT t action

variable {next : M → A → M} {legal : M → A → Prop} {inStep : M → S → T → Prop}

theorem Lockstep.answers_iff (lockstep : Lockstep stepS stepT answerS answerT next legal inStep) {m : M} {s : S} {t : T}
    {actions : List A} (start : inStep m s t) :
    answers stepS answerS s actions = answers stepT answerT t actions ↔ Meets next legal m actions := by
  induction actions generalizing m s t with
  | nil => simp [answers, Meets]
  | cons action rest ih =>
    simp only [answers, List.cons.injEq, Meets]
    by_cases allowed : legal m action
    · obtain ⟨same, kept⟩ := lockstep.keep m s t action start allowed
      rw [ih kept]
      simp [same, allowed]
    · exact iff_of_false (fun both => lockstep.differ m s t action start allowed both.1) fun both => allowed both.1

theorem Lockstep.run_matched (lockstep : Lockstep stepS stepT answerS answerT next legal inStep) {m : M} {s : S} {t : T}
    {actions : List A} (meets : Meets next legal m actions) (start : inStep m s t) :
    inStep (run next m actions) (run stepS s actions) (run stepT t actions) := by
  induction actions generalizing m s t with
  | nil => exact start
  | cons action rest ih => exact ih meets.2 (lockstep.keep m s t action start meets.1).2

end Iems.Lib
