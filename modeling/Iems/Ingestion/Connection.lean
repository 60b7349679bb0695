import Iems.Core.Config
import Iems.Lib.Locks
import Mathlib.Data.List.Perm.Subperm

/-!
The connection of a plant session under its lock: tasks connect and disconnect it in any interleaving, and every
await may also raise or be cancelled.
-/
namespace Iems.Ingestion
open Lib Lib.Locks Iems.Core

/-- Clients are numbered. `live` are those that the plant may still serve, `dropped` those that the session let go
without having seen them disconnect. -/
structure Connection where
  client : Option Nat := none
  connected : Bool := false
  subscribed : Bool := false
  made : Nat := 0
  live : List Nat := []
  dropped : List Nat := []

inductive SessionCall where
  | connect
  | disconnect
  deriving DecidableEq

/-- The call of the OPC library that the holder of the lock waits for. -/
inductive SessionAwait where
  | connecting (id : Nat)
  | creatingSubscription
  | subscribing
  | deletingSubscription
  | disconnecting (id : Nat)

inductive Outcome where
  | returned
  | raised
  | cancelled
  deriving DecidableEq

/-- `disconnect` from the client on. -/
def stopClient (c : Connection) : Connection × Option SessionAwait :=
  match c.client with
  | some id => (c, some (.disconnecting id))
  | none => ({ c with connected := false }, none)

/-- The two locked methods of the session. `except Exception` does not catch a cancellation. -/
def sessionSection (cfg : Settings) (missingLibrary : Bool) : Section Connection SessionCall SessionAwait Outcome where
  enter
    | .connect, c =>
      if c.connected || cfg.opcUaEndpoint = "" || missingLibrary then (c, none)
      else ({ c with made := c.made + 1 }, some (.connecting c.made))
    | .disconnect, c => if c.subscribed then (c, some .deletingSubscription) else stopClient c
  resume
    | .connecting id, .returned, c =>
      let opened := { c with client := some id, connected := true, live := id :: c.live }
      (opened, if cfg.opcUaUseSubscription then some .creatingSubscription else none)
    | .connecting _, .raised, c => (c, none)
    | .connecting id, .cancelled, c => ({ c with live := id :: c.live, dropped := id :: c.dropped }, none)
    | .creatingSubscription, .returned, c => ({ c with subscribed := true }, some .subscribing)
    | .creatingSubscription, _, c => (c, none)
    | .subscribing, _, c => (c, none)
    | .deletingSubscription, .cancelled, c => (c, none)
    | .deletingSubscription, _, c => stopClient { c with subscribed := false }
    | .disconnecting id, .returned, c => ({ c with client := none, connected := false, live := c.live.erase id }, none)
    | .disconnecting id, .raised, c => ({ c with client := none, connected := false, dropped := id :: c.dropped }, none)
    | .disconnecting _, .cancelled, c => (c, none)

/-- The flag says whether there is a client, and the plant serves no client but this one and the dropped ones. -/
structure Consistent (c : Connection) : Prop where
  flag : c.connected = true ↔ c.client ≠ none
  subscribed : c.subscribed = true → c.connected = true
  served : ∀ id ∈ c.live, id ∈ c.dropped ∨ c.client = some id
  numbered : ∀ id, id ∈ c.live ∨ c.client = some id → id < c.made
  distinct : c.live.Nodup

/-- What the holder of the lock knows at each await. -/
def AtAwait : SessionAwait → Connection → Prop
  | .connecting id, c => Consistent c ∧ c.connected = false ∧ id ∉ c.live ∧ id < c.made
  | .creatingSubscription, c => Consistent c ∧ c.connected = true
  | .subscribing, c => Consistent c
  | .deletingSubscription, c => Consistent c
  | .disconnecting id, c => Consistent c ∧ c.client = some id ∧ c.subscribed = false

theorem consistent_new : Consistent {} where
  flag := by simp
  subscribed off := nomatch off
  served _ member := nomatch member
  numbered id either := by simp at either
  distinct := List.nodup_nil

theorem atAwait_stopClient {c : Connection} (consistent : Consistent c) (off : c.subscribed = false) :
    ((stopClient c).2.elim Consistent AtAwait) (stopClient c).1 := by
  unfold stopClient
  split
  · rename_i id present
    exact ⟨consistent, present, off⟩
  · rename_i absent
    have closed : c.connected = false := by
      rw [← Bool.not_eq_true, consistent.flag, absent]
      simp
    show Consistent { c with connected := false }
    rwa [← closed]

theorem consistent_open {c : Connection} {id : Nat} (consistent : Consistent c) (absent : c.client = none)
    (fresh : id ∉ c.live) (below : id < c.made) :
    Consistent { c with client := some id, connected := true, live := id :: c.live } where
  flag := by simp
  subscribed _ := rfl
  served other member := by
    rcases List.mem_cons.mp member with rfl | older
    · exact .inr rfl
    · refine .inl ((consistent.served other older).resolve_right fun own => ?_)
      exact nomatch absent.symm.trans own
  numbered other either := by
    rcases either with member | own
    · rcases List.mem_cons.mp member with rfl | older
      · exact below
      · exact consistent.numbered other (.inl older)
    · cases own
      exact below
  distinct := List.nodup_cons.mpr ⟨fresh, consistent.distinct⟩

theorem consistent_dropClient {c : Connection} (consistent : Consistent c)
    (off : c.subscribed = false) {live dropped : List Nat} (kept : live.Sublist c.live)
    (served : ∀ other ∈ live, other ∈ dropped) :
    Consistent { c with client := none, connected := false, live := live, dropped := dropped } where
  flag := by simp
  subscribed on := nomatch off.symm.trans on
  served other member := .inl (served other member)
  numbered other either := by
    rcases either with member | gone
    · exact consistent.numbered other (.inl (kept.subset member))
    · exact nomatch gone
  distinct := consistent.distinct.sublist kept

theorem sessionRule (cfg : Settings) (missingLibrary : Bool) :
    Rule (sessionSection cfg missingLibrary) Consistent AtAwait where
  enters := by
    intro call c consistent
    cases call with
    | connect =>
      unfold sessionSection
      dsimp only
      split
      · exact consistent
      · rename_i closed
        have off : c.connected = false := by simp_all
        refine ⟨⟨consistent.flag, consistent.subscribed, consistent.served, ?_, consistent.distinct⟩, off, ?_, by simp⟩
        · intro id either
          exact Nat.lt_succ_of_lt (consistent.numbered id either)
        · intro member
          exact absurd (consistent.numbered _ (.inl member)) (Nat.lt_irrefl _)
    | disconnect =>
      unfold sessionSection
      dsimp only
      split
      · exact consistent
      · rename_i off
        exact atAwait_stopClient consistent (by simpa using off)
  resumes := by
    intro await outcome c
    cases await with
    | connecting id =>
      rintro ⟨consistent, off, fresh, below⟩
      have absent : c.client = none := by
        by_contra present
        exact absurd (consistent.flag.mpr present) (by simp [off])
      cases outcome with
      | returned =>
        have opened := consistent_open consistent absent fresh below
        unfold sessionSection
        dsimp only
        split
        · exact ⟨opened, rfl⟩
        · exact opened
      | raised => exact consistent
      | cancelled =>
        refine ⟨consistent.flag, consistent.subscribed, ?_, ?_, List.nodup_cons.mpr ⟨fresh, consistent.distinct⟩⟩
        · intro other member
          rcases List.mem_cons.mp member with rfl | older
          · exact .inl List.mem_cons_self
          · exact (consistent.served other older).imp_left (List.mem_cons_of_mem _)
        · intro other either
          rcases either with member | own
          · rcases List.mem_cons.mp member with rfl | older
            · exact below
            · exact consistent.numbered other (.inl older)
          · exact consistent.numbered other (.inr own)
    | creatingSubscription =>
      rintro ⟨consistent, on⟩
      cases outcome with
      | returned => exact ⟨consistent.flag, fun _ => on, consistent.served, consistent.numbered, consistent.distinct⟩
      | raised | cancelled => exact consistent
    | subscribing =>
      intro consistent
      cases outcome <;> exact consistent
    | deletingSubscription =>
      intro consistent
      have off : Consistent { c with subscribed := false } :=
        ⟨consistent.flag, fun on => (nomatch on), consistent.served, consistent.numbered, consistent.distinct⟩
      cases outcome with
      | returned | raised => exact atAwait_stopClient off rfl
      | cancelled => exact consistent
    | disconnecting id =>
      rintro ⟨consistent, own, off⟩
      cases outcome with
      | returned =>
        refine consistent_dropClient consistent off List.erase_sublist fun other member => ?_
        obtain ⟨apart, older⟩ := consistent.distinct.mem_erase_iff.mp member
        exact (consistent.served other older).resolve_right fun same => apart (Option.some.inj (same.symm.trans own))
      | raised =>
        refine consistent_dropClient consistent off (.refl _) fun other member => ?_
        rcases consistent.served other member with dropped | same
        · exact List.mem_cons_of_mem _ dropped
        · rw [Option.some.inj (same.symm.trans own)]
          exact List.mem_cons_self
      | cancelled => exact consistent

theorem consistent_protected {w : World Connection SessionCall SessionAwait} (guarded : Protected Consistent AtAwait w) :
    Consistent w.shared := by
  cases free : w.holder with
  | none => exact guarded.free free
  | some task =>
    obtain ⟨await, inside⟩ := guarded.exclusive.inside task free
    have known := guarded.within task await inside
    cases await with
    | connecting _ | creatingSubscription | disconnecting _ => exact known.1
    | subscribing | deletingSubscription => exact known

/-- However connects and disconnects interleave, at most one task works on the connection, the flag says whether there
is a client, and the plant serves only this client and those whose end the session has not seen. -/
theorem one_connection (cfg : Settings) (missingLibrary : Bool) (actions : List (Action SessionCall Outcome)) :
    let w := run (step (sessionSection cfg missingLibrary)) { shared := {} } actions
    (∀ task other await again, w.tasks task = some (.inside await) → w.tasks other = some (.inside again) → task = other) ∧
      (w.shared.connected = true ↔ w.shared.client ≠ none) ∧
      (∀ id ∈ w.shared.live, id ∈ w.shared.dropped ∨ w.shared.client = some id) ∧
      (w.shared.dropped = [] → w.shared.live.length ≤ 1) := by
  intro w
  have guarded : Protected Consistent AtAwait w := protected_run (sessionRule cfg missingLibrary) consistent_new actions
  have consistent := consistent_protected guarded
  refine ⟨fun _ _ _ _ => guarded.exclusive.unique, consistent.flag, consistent.served, fun none_ => ?_⟩
  have own : w.shared.live ⊆ w.shared.client.toList := by
    intro id member
    have served := consistent.served id member
    rw [none_] at served
    exact Option.mem_toList.mpr (served.resolve_left (List.not_mem_nil))
  have few := List.Nodup.subperm consistent.distinct own
  exact few.length_le.trans (by cases w.shared.client <;> simp)

end Iems.Ingestion
