import Iems.Lib.Dict
import Iems.Lib.Runs

/-! Tickets that are issued with a value and redeemed at most once. -/
namespace Iems.Lib

variable {K V : Type} [DecidableEq K]

structure Tickets (K V : Type) where
  pending : Dict K V
  spent : List (K × V)

inductive TicketOp (K V : Type) where
  | issue (key : K) (value : V)
  | redeem (key : K)

namespace Tickets

def empty : Tickets K V := ⟨Dict.empty, []⟩

def step (tickets : Tickets K V) : TicketOp K V → Tickets K V
  | .issue key value => { tickets with pending := tickets.pending.set key value }
  | .redeem key =>
    match tickets.pending.get? key with
    | none => tickets
    | some value => { pending := tickets.pending.erase key, spent := tickets.spent ++ [(key, value)] }

theorem redeem_missing {tickets : Tickets K V} {key : K} (missing : tickets.pending.get? key = none) :
    tickets.step (.redeem key) = tickets := by
  simp only [step, missing]

theorem redeem_held {tickets : Tickets K V} {key : K} {value : V} (held : tickets.pending.get? key = some value) :
    tickets.step (.redeem key) =
      { pending := tickets.pending.erase key, spent := tickets.spent ++ [(key, value)] } := by
  simp only [step, held]

def issued (ops : List (TicketOp K V)) : List (K × V) :=
  ops.filterMap fun
    | .issue key value => some (key, value)
    | .redeem _ => none

omit [DecidableEq K] in
theorem issued_append (before after : List (TicketOp K V)) : issued (before ++ after) = issued before ++ issued after :=
  List.filterMap_append

/-- Every ticket is pending or spent, with the value it was issued with. -/
structure Sound (ops : List (TicketOp K V)) (tickets : Tickets K V) : Prop where
  pending_issued : ∀ key value, tickets.pending.get? key = some value → (key, value) ∈ issued ops
  spent_issued : ∀ ticket ∈ tickets.spent, ticket ∈ issued ops
  spent_once : (tickets.spent.map Prod.fst).Nodup
  spent_gone : ∀ key ∈ tickets.spent.map Prod.fst, tickets.pending.get? key = none
  accounted : ∀ key ∈ (issued ops).map Prod.fst, (tickets.pending.get? key).isSome ∨ key ∈ tickets.spent.map Prod.fst

theorem sound_issue {ops : List (TicketOp K V)} {tickets : Tickets K V} {key : K} {value : V}
    (sound : Sound ops tickets) (fresh : key ∉ (issued ops).map Prod.fst) :
    Sound (ops ++ [.issue key value]) (tickets.step (.issue key value)) := by
  have grown : issued (ops ++ [TicketOp.issue key value]) = issued ops ++ [(key, value)] := issued_append ops _
  refine ⟨?_, ?_, sound.spent_once, ?_, ?_⟩
  · intro other held found
    rw [grown]
    simp only [step, Dict.get?_set] at found
    split at found
    · rename_i same
      subst same
      simp [Option.some.inj found]
    · exact List.mem_append_left _ (sound.pending_issued other held found)
  · intro ticket member
    rw [grown]
    exact List.mem_append_left _ (sound.spent_issued ticket member)
  · intro other member
    have apart : other ≠ key := by
      rintro rfl
      obtain ⟨ticket, spent, rfl⟩ := List.mem_map.mp member
      exact fresh (List.mem_map_of_mem (sound.spent_issued ticket spent))
    rw [step, Dict.get?_set_other _ _ apart]
    exact sound.spent_gone other member
  · intro other member
    rw [grown, List.map_append, List.mem_append] at member
    simp only [step, Dict.get?_set]
    rcases member with earlier | same
    · refine (sound.accounted other earlier).imp_left fun present => ?_
      split
      · rfl
      · exact present
    · left
      rw [if_pos (by simpa using same)]
      rfl

theorem Sound.unspent {ops : List (TicketOp K V)} {tickets : Tickets K V} {key : K} {value : V}
    (sound : Sound ops tickets) (held : tickets.pending.get? key = some value) : key ∉ tickets.spent.map Prod.fst := by
  intro spent
  rw [sound.spent_gone key spent] at held
  cases held

theorem Sound.spend {ops : List (TicketOp K V)} {tickets : Tickets K V} {key : K} {value : V}
    (sound : Sound ops tickets) (held : tickets.pending.get? key = some value) :
    Sound ops { pending := tickets.pending.erase key, spent := tickets.spent ++ [(key, value)] } := by
  have keys : (tickets.spent ++ [(key, value)]).map Prod.fst = tickets.spent.map Prod.fst ++ [key] := List.map_append
  refine ⟨?_, ?_, ?_, ?_, ?_⟩
  · intro other value found
    rw [Dict.get?_erase] at found
    split at found
    · cases found
    · exact sound.pending_issued other value found
  · intro ticket member
    rcases List.mem_append.mp member with earlier | now
    · exact sound.spent_issued ticket earlier
    · rw [List.mem_singleton.mp now]
      exact sound.pending_issued key value held
  · rw [keys, ← List.concat_eq_append]
    exact sound.spent_once.concat (sound.unspent held)
  · intro other member
    rw [keys, List.mem_append] at member
    rw [Dict.get?_erase]
    split
    · rfl
    · rename_i apart
      exact sound.spent_gone other (member.resolve_right (by simpa using apart))
  · intro other member
    rw [keys, Dict.get?_erase, List.mem_append]
    by_cases here : other = key
    · exact Or.inr (Or.inr (by simp [here]))
    · rw [if_neg here]
      exact (sound.accounted other member).imp_right Or.inl

theorem sound_redeem {ops : List (TicketOp K V)} {tickets : Tickets K V} {key : K} (sound : Sound ops tickets) :
    Sound (ops ++ [.redeem key]) (tickets.step (.redeem key)) := by
  have same : issued (ops ++ [TicketOp.redeem key]) = issued ops := by simp [issued]
  have kept : Sound ops (tickets.step (.redeem key)) := by
    cases held : tickets.pending.get? key with
    | none =>
      rw [redeem_missing held]
      exact sound
    | some value =>
      rw [redeem_held held]
      exact sound.spend held
  exact ⟨same ▸ kept.pending_issued, same ▸ kept.spent_issued, kept.spent_once, kept.spent_gone, same ▸ kept.accounted⟩

/-- Where no key is issued twice, every run of issues and redemptions is sound. -/
theorem run_sound (ops : List (TicketOp K V)) (distinct : ((issued ops).map Prod.fst).Nodup) :
    Sound ops (run step empty ops) := by
  have history := @run_history _ _ step
    (fun ops tickets => ((issued ops).map Prod.fst).Nodup → Sound ops tickets) (empty : Tickets K V)
  refine history ?_ ?_ ops distinct
  · intro before op held distinct
    rw [issued_append, List.map_append, List.nodup_append] at distinct
    cases op with
    | issue key value =>
      refine sound_issue (held distinct.1) fun earlier => ?_
      exact distinct.2.2 key earlier key (by simp [issued]) rfl
    | redeem key => exact sound_redeem (held distinct.1)
  · intro _
    refine ⟨?_, ?_, List.nodup_nil, ?_, ?_⟩
    · intro _ _ found
      cases found
    · intro _ member
      cases member
    · intro _ _
      rfl
    · intro _ member
      cases member

theorem spent_step (tickets : Tickets K V) (op : TicketOp K V) : tickets.spent <+: (tickets.step op).spent := by
  cases op with
  | issue key value => exact List.prefix_rfl
  | redeem key =>
    cases held : tickets.pending.get? key with
    | none => simp [redeem_missing held]
    | some value =>
      rw [redeem_held held]
      exact List.prefix_append _ _

theorem spent_run (tickets : Tickets K V) (ops : List (TicketOp K V)) : tickets.spent <+: (run step tickets ops).spent := by
  induction ops generalizing tickets with
  | nil => exact List.prefix_rfl
  | cons op rest ih => exact (spent_step tickets op).trans (ih _)

/-- A key that nothing issued is not pending, and neither is one that was redeemed after its issue. -/
theorem refused {ops : List (TicketOp K V)} {key : K} (distinct : ((issued ops).map Prod.fst).Nodup)
    (stale : key ∉ (issued ops).map Prod.fst ∨
      ∃ before after, ops = before ++ .redeem key :: after ∧ key ∈ (issued before).map Prod.fst) :
    (run step empty ops).pending.get? key = none := by
  have sound := run_sound ops distinct
  rcases stale with unknown | ⟨before, after, rfl, known⟩
  · cases found : (run step empty ops).pending.get? key with
    | none => rfl
    | some value => exact absurd (List.mem_map_of_mem (sound.pending_issued key value found)) unknown
  · apply sound.spent_gone
    rw [issued_append, List.map_append, List.nodup_append] at distinct
    have earlier := run_sound before distinct.1
    have spentNow : key ∈ ((run step empty before).step (.redeem key)).spent.map Prod.fst := by
      rcases earlier.accounted key known with pending | spent
      · obtain ⟨value, held⟩ := Option.isSome_iff_exists.mp pending
        simp [redeem_held held]
      · exact ((spent_step _ _).map Prod.fst).subset spent
    rw [run_append, run_cons]
    exact ((spent_run _ after).map Prod.fst).subset spentNow

end Tickets
end Iems.Lib
