import Iems.Api.IdRouting
import Iems.Optimization.PersistFaults
import Iems.Optimization.PlannedFields

/-! Queueing advice: into the database, or into the memory where the database gives no rows back. -/
namespace Iems.Api
open Lib Iems.Core Iems.Optimization Iems.Demo

/-- The id and the plant of a queued row. -/
abbrev QueuedRow := Nat × String

/-- Whatever the persist raises is taken for no rows. -/
def queueAdvice (cfg : Settings) (fault : Option PersistFault) (now : Int) (adviceItems : List SetpointAdvice)
    (simulations : Dict String AdviceSimulation) (server : RecServer) : List QueuedRow × RecServer :=
  let (persisted, db) := persistUnder fault now adviceItems simulations server.db
  let rows := (persisted.getD []).map fun row => (row.1, row.2.plantCode)
  if rows = [] ∧ cfg.allowDemoMemory then
    (adviceItems.zipIdx.map fun (advice, i) => (server.memory.nextId + i, advice.plantCode),
      ⟨server.memory.persist now adviceItems simulations, db⟩)
  else (rows, { server with db := db })

/-- What `analyze` does with the advice that it has computed. -/
def analyzeQueue (cfg : Settings) (fault : Option PersistFault) (now : Int) (persist : Bool)
    (adviceItems : List SetpointAdvice) (simulations : Dict String AdviceSimulation) (server : RecServer) :
    List QueuedRow × RecServer :=
  if persist ∧ adviceItems ≠ [] then queueAdvice cfg fault now adviceItems simulations server else ([], server)

/-- The advice of all recommendations, in the database and in the memory. -/
def queued (server : RecServer) : List SetpointAdvice :=
  server.db.recommendations.values.map rowAdvice ++ server.memory.recs.values.map memoryAdvice

/-- A batch has added each of its items to the queue at most once. -/
def QueuedOnce (before after : RecServer) (adviceItems : List SetpointAdvice) : Prop :=
  (queued after).Subperm (queued before ++ adviceItems)

theorem queuedOnce_refl (server : RecServer) (adviceItems : List SetpointAdvice) :
    QueuedOnce server server adviceItems := (List.sublist_append_left _ _).subperm

theorem persist_queued {memory : MemoryRecStore} (fresh : memory.Fresh) (now : Int) (adviceItems : List SetpointAdvice)
    (simulations : Dict String AdviceSimulation) :
    (memory.persist now adviceItems simulations).recs.values.map memoryAdvice =
      memory.recs.values.map memoryAdvice ++ adviceItems := by
  unfold MemoryRecStore.persist
  induction adviceItems generalizing memory with
  | nil => simp
  | cons advice rest ih =>
    rw [List.foldl_cons, ih ((memory.persistOne_extends now simulations advice).below fresh),
      MemoryRecStore.persistOne_values fresh]
    simp [memoryAdvice, MemoryRecStore.newRecommendation]

theorem persistRecommendations_queued (now : Int) (adviceItems : List SetpointAdvice)
    (simulations : Dict String AdviceSimulation) (db : RecStore) :
    (persistRecommendations now adviceItems simulations db).2.recommendations.values.map rowAdvice =
      db.recommendations.values.map rowAdvice ++ adviceItems := by
  unfold persistRecommendations
  dsimp only
  rw [Table.values_insertAll, List.map_append, List.map_map]
  have own : (rowAdvice ∘ newRecommendation now simulations) = id := funext fun advice => rowAdvice_new now simulations advice
  rw [own, List.map_id]

section
variable {cfg : Settings} {fault : Option PersistFault} {now : Int} {adviceItems : List SetpointAdvice}
  {simulations : Dict String AdviceSimulation} {server : RecServer}

theorem persisted_empty_iff (db : RecStore) :
    ((persistRecommendations now adviceItems simulations db).1.map fun row => (row.1, row.2.plantCode)) = [] ↔
      adviceItems = [] := by
  have values := Table.new_insertAll db.recommendations (adviceItems.map (newRecommendation now simulations))
  rw [List.map_eq_nil_iff]
  constructor
  · intro none
    have made : (db.recommendations.insertAll (adviceItems.map (newRecommendation now simulations))).1 = [] := none
    rw [made] at values
    exact List.map_eq_nil_iff.mp values.symm
  · rintro rfl
    rfl

theorem queueAdvice_extends (cfg : Settings) (fault : Option PersistFault) (now : Int) (adviceItems : List SetpointAdvice)
    (simulations : Dict String AdviceSimulation) (server : RecServer) :
    server.memory.Extends (queueAdvice cfg fault now adviceItems simulations server).2.memory := by
  unfold queueAdvice
  dsimp only
  split
  · exact server.memory.persist_extends now adviceItems simulations
  · exact .refl _ _

theorem queuedOnce_stored {db : RecStore}
    (stored : db.recommendations = (persistRecommendations now adviceItems simulations server.db).2.recommendations) :
    QueuedOnce server { server with db := db } adviceItems := by
  unfold QueuedOnce queued
  rw [stored, persistRecommendations_queued, List.append_assoc, List.append_assoc]
  exact (List.perm_append_comm.append_left _).subperm

theorem queuedOnce_remembered (fresh : server.memory.Fresh) :
    QueuedOnce server { server with memory := server.memory.persist now adviceItems simulations } adviceItems := by
  unfold QueuedOnce queued
  rw [persist_queued fresh, ← List.append_assoc]

theorem not_queuedOnce_both (fresh : server.memory.Fresh) (some_ : adviceItems ≠ []) {db : RecStore}
    (stored : db.recommendations = (persistRecommendations now adviceItems simulations server.db).2.recommendations) :
    ¬QueuedOnce server ⟨server.memory.persist now adviceItems simulations, db⟩ adviceItems := by
  intro once
  have room := List.Subperm.length_le once
  unfold queued at room
  simp only [stored, persistRecommendations_queued, persist_queued fresh, List.length_append] at room
  have items := List.length_pos_of_ne_nil some_
  omega

/-- A batch is queued once, unless the rows are stored and the fallback stores them again. -/
theorem queueAdvice_once_iff (fresh : server.memory.Fresh) (some_ : adviceItems ≠ []) :
    QueuedOnce server (queueAdvice cfg fault now adviceItems simulations server).2 adviceItems ↔
      ¬(cfg.allowDemoMemory = true ∧ LateFault fault adviceItems.length) := by
  unfold queueAdvice
  by_cases early : EarlyFault fault
  · have punctual : ¬LateFault fault adviceItems.length := by
      rintro ⟨row, _, late⟩
      rcases early with rfl | rfl <;> simp [AtRow] at late
    rw [persistUnder_early now adviceItems simulations server.db early]
    dsimp only
    refine iff_of_true ?_ fun both => punctual both.2
    split
    · exact queuedOnce_remembered fresh
    · exact queuedOnce_refl server adviceItems
  · obtain ⟨committed, outcome⟩ := persistUnder_committed now adviceItems simulations server.db early
    rcases outcome with ⟨late, raised⟩ | ⟨punctual, returned⟩
    · dsimp only
      rw [raised]
      by_cases demo : cfg.allowDemoMemory = true
      · rw [if_pos ⟨rfl, demo⟩]
        exact iff_of_false (not_queuedOnce_both fresh some_ committed) fun once => once ⟨demo, late⟩
      · rw [if_neg fun both => demo both.2]
        exact iff_of_true (queuedOnce_stored committed) fun both => demo both.1
    · dsimp only
      rw [returned, Option.getD_some, if_neg fun both => some_ ((persisted_empty_iff server.db).mp both.1)]
      exact iff_of_true (queuedOnce_stored committed) fun both => punctual both.2

/-- The same of an analysis, which queues nothing where it is asked not to. -/
theorem analyzeQueue_once_iff (fresh : server.memory.Fresh) (persist : Bool) :
    QueuedOnce server (analyzeQueue cfg fault now persist adviceItems simulations server).2 adviceItems ↔
      ¬(persist = true ∧ cfg.allowDemoMemory = true ∧ LateFault fault adviceItems.length) := by
  unfold analyzeQueue
  by_cases queues : persist = true ∧ adviceItems ≠ []
  · rw [if_pos queues, queueAdvice_once_iff fresh queues.2]
    simp [queues.1]
  · rw [if_neg queues]
    refine iff_of_true (queuedOnce_refl server adviceItems) ?_
    rintro ⟨asked, _, row, bound, _⟩
    refine queues ⟨asked, ?_⟩
    rintro rfl
    simp at bound

end
end Iems.Api
