import Iems.Api.Queueing

/-! The real-time optimizer: on its own cadence it queues the advice of a cycle. -/
namespace Iems.Rto
open Lib Iems.Core Iems.Optimization Iems.Demo Iems.Api

structure RtoCycleResult where
  computedAt : Int
  units : List UnitBenchmark
  advice : List SetpointAdvice

structure RtoStatus where
  lastCycleAt : Option Int := none
  lastPersistedAt : Option Int := none
  lastPersistedCount : Nat := 0

structure RtoScheduler where
  lastPersist : Option Int := none
  status : RtoStatus := {}

def RtoScheduler.due (cfg : Settings) (scheduler : RtoScheduler) (now : Int) : Bool :=
  match scheduler.lastPersist with
  | none => true
  | some last => cfg.rtoPersistIntervalSeconds * 1000000 ≤ now - last

/-- `run_once` on the result of its cycle; it returns the number of queued rows. -/
def runOnce (cfg : Settings) (fault : Option PersistFault) (result : RtoCycleResult) (scheduler : RtoScheduler)
    (server : RecServer) : Nat × RtoScheduler × RecServer :=
  let now := result.computedAt
  let seen := { scheduler.status with lastCycleAt := some now }
  if scheduler.due cfg now = false ∨ result.advice = [] then (0, { scheduler with status := seen }, server)
  else
    let (rows, queued) := queueAdvice cfg fault now result.advice .empty server
    let status := { seen with lastPersistedAt := some now, lastPersistedCount := rows.length }
    (rows.length, ⟨some now, status⟩, queued)

section
variable {cfg : Settings} {fault : Option PersistFault} {server : RecServer}

/-- The same of a cycle, which queues nothing before its time. -/
theorem runOnce_once_iff (fresh : server.memory.Fresh) (result : RtoCycleResult) (scheduler : RtoScheduler) :
    QueuedOnce server (runOnce cfg fault result scheduler server).2.2 result.advice ↔
      ¬(scheduler.due cfg result.computedAt = true ∧ cfg.allowDemoMemory = true ∧
        LateFault fault result.advice.length) := by
  unfold runOnce
  by_cases idle : scheduler.due cfg result.computedAt = false ∨ result.advice = []
  · rw [if_pos idle]
    refine iff_of_true (queuedOnce_refl server result.advice) ?_
    rintro ⟨due, _, row, bound, _⟩
    rcases idle with early | nothing
    · rw [early] at due
      cases due
    · rw [nothing] at bound
      simp at bound
  · obtain ⟨due, some_⟩ := not_or.mp idle
    rw [if_neg idle]
    dsimp only
    rw [queueAdvice_once_iff fresh some_]
    simp [Bool.not_eq_false _ ▸ due]

end

/-! ### Runs -/

structure QueueWorld where
  scheduler : RtoScheduler
  server : RecServer

def QueueWorld.start : QueueWorld := ⟨{}, ⟨.empty, .empty⟩⟩

/-- A request on a recommendation, an analysis, or a cycle of the scheduler, each under whatever fault it meets. -/
inductive QueueAction where
  | request (id : Nat) (request : RouteRequest)
  | analyze (cfg : Settings) (fault : Option PersistFault) (now : Int) (persist : Bool)
      (adviceItems : List SetpointAdvice) (simulations : Dict String AdviceSimulation)
  | cycle (cfg : Settings) (fault : Option PersistFault) (result : RtoCycleResult)

def QueueWorld.step (w : QueueWorld) : QueueAction → QueueWorld
  | .request id request => { w with server := (handle w.server id request).2 }
  | .analyze cfg fault now persist adviceItems simulations =>
    { w with server := (analyzeQueue cfg fault now persist adviceItems simulations w.server).2 }
  | .cycle cfg fault result =>
    let (_, scheduler, server) := runOnce cfg fault result w.scheduler w.server
    ⟨scheduler, server⟩

theorem step_extends (w : QueueWorld) (action : QueueAction) : w.server.memory.Extends (w.step action).server.memory := by
  cases action with
  | request id request => exact handle_extends w.server id request
  | analyze cfg fault now persist adviceItems simulations =>
    show w.server.memory.Extends (analyzeQueue cfg fault now persist adviceItems simulations w.server).2.memory
    unfold analyzeQueue
    split
    · exact queueAdvice_extends cfg fault now adviceItems simulations w.server
    · exact .refl _ _
  | cycle cfg fault result =>
    show w.server.memory.Extends (runOnce cfg fault result w.scheduler w.server).2.2.memory
    unfold runOnce
    dsimp only
    split
    · exact .refl _ _
    · exact queueAdvice_extends cfg fault result.computedAt result.advice .empty w.server

theorem run_fresh (actions : List QueueAction) : (run QueueWorld.step .start actions).server.memory.Fresh := by
  have keep : ∀ (w : QueueWorld) (action : QueueAction), w.server.memory.Fresh → (w.step action).server.memory.Fresh :=
    fun w action fresh => (step_extends w action).below fresh
  exact run_invariant keep MemoryRecStore.empty_fresh

/-- In every reachable state both callers take a fault of the audit loop for a persist that stored nothing: a batch is
queued at most once exactly when no such fault meets it, or it is not queued, or there is no memory to fall back to. -/
theorem queued_once_iff (actions : List QueueAction) (cfg : Settings) (fault : Option PersistFault) :
    let w := run QueueWorld.step .start actions
    (∀ now persist adviceItems simulations,
      QueuedOnce w.server (analyzeQueue cfg fault now persist adviceItems simulations w.server).2 adviceItems ↔
        ¬(persist = true ∧ cfg.allowDemoMemory = true ∧ LateFault fault adviceItems.length)) ∧
    ∀ result, QueuedOnce w.server (runOnce cfg fault result w.scheduler w.server).2.2 result.advice ↔
      ¬(w.scheduler.due cfg result.computedAt = true ∧ cfg.allowDemoMemory = true ∧
        LateFault fault result.advice.length) := by
  intro w
  have fresh := run_fresh actions
  exact ⟨fun _ persist _ _ => analyzeQueue_once_iff fresh persist,
    fun result => runOnce_once_iff fresh result w.scheduler⟩

/-- The commit of the first audit event fails, and the advice is queued in both stores. -/
theorem audit_fault_queues_twice : ¬ ∀ (cfg : Settings) (fault : Option PersistFault) (now : Int) (persist : Bool)
    (adviceItems : List SetpointAdvice) (simulations : Dict String AdviceSimulation),
    QueuedOnce ⟨.empty, .empty⟩ (analyzeQueue cfg fault now persist adviceItems simulations ⟨.empty, .empty⟩).2
      adviceItems := by
  intro once
  have single := (analyzeQueue_once_iff MemoryRecStore.empty_fresh true).mp
    (once {} (some (.auditCommit 0)) 0 true [sampleAdvice] .empty)
  exact single ⟨rfl, by decide, 0, by decide, Or.inr (Or.inl rfl)⟩

end Iems.Rto
