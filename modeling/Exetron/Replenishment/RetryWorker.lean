import Exetron.Lib.Trace
import Exetron.Replenishment.DueRetries

/-!
# The retry worker

`InventoryRetryWorkerService`: a timer and an endpoint start sweeps of due retries, and an operator
pauses and resumes them. A sweep is under way while other calls are served.
-/

namespace Exetron.Replenishment.Worker

open Lib

structure InventorySupplierRetryWorkerStatus where
  enabled : Bool := true
  paused : Bool := false
  running : Bool := false
  (tenantId storeId : Option Id)
  source : Option SupplierSource
  limit : Nat
  lastRunAt : Option Instant := none
  lastSuccessAt : Option Instant := none
  lastResult : Option InventorySupplierRetryRunResult := none
  lastError : Option String := none
  pauseReason : Option String := none
  lastPausedAt : Option Instant := none
  lastResumedAt : Option Instant := none

structure RunNowDto where
  (tenantId storeId : Option Id)
  source : Option SupplierSource
  note : Option String
  limit : Option Nat

structure Sweep where
  context : RequestContext
  dto : SweepDto

structure RetryWorker where
  status : InventorySupplierRetryWorkerStatus
  scheduleEnabled : Bool
  sweeps : List Sweep := []

inductive WorkerEvent where
  | pause (reason : Option String)
  | resume (reason : Option String)
  | runNow (context : RequestContext) (input : RunNowDto)
  | tick
  /-- A sweep that is under way comes to its end. -/
  | settle (sweep : Nat) (answer : Except String InventorySupplierRetryRunResult)

variable {w : RetryWorker}

structure WorkerEnv where
  scheduleEnabled : Bool
  (tenantId storeId : Option Id)
  source : Option SupplierSource
  limit : Nat

/-- The constructor and `onModuleInit`. -/
def boot (env : WorkerEnv) : RetryWorker where
  scheduleEnabled := env.scheduleEnabled
  status :=
    { tenantId := env.tenantId, storeId := env.storeId, source := env.source, limit := env.limit
      lastError := if env.scheduleEnabled ∧ env.tenantId = none then
        some "INVENTORY_SUPPLIER_RETRY_WORKER_TENANT_ID is required when worker is enabled."
        else none }

def note : String := "Inventory retry worker processed due retries."

def tenantOf (w : RetryWorker) (context : RequestContext) (input : RunNowDto) : Option Id :=
  input.tenantId.or (w.status.tenantId.or context.tenantId)

/-- The sweep that `executeRun` starts. Without one it answers zeros, or throws for want of a
tenant. -/
def executeRun (w : RetryWorker) (context : RequestContext) (input : RunNowDto) : Option Sweep :=
  if w.status.running ∨ ¬w.status.enabled then none
  else (tenantOf w context input).map fun tenantId =>
    { context
      dto :=
        { tenantId
          storeId := input.storeId.or w.status.storeId
          source := input.source.or w.status.source
          note := some (input.note.getD note)
          limit := some (input.limit.getD w.status.limit) } }

def buildWorkerContext (status : InventorySupplierRetryWorkerStatus) : RequestContext where
  userId := "inventory-retry-worker"
  tenantId := status.tenantId
  scope := .tenantMember
  storeIds := status.storeId.toList
  deviceId := none

def tickScheduledRun (w : RetryWorker) : Option Sweep :=
  if w.status.running ∨ ¬w.scheduleEnabled ∨ w.status.tenantId = none ∨ w.status.paused then none
  else executeRun w (buildWorkerContext w.status)
    { tenantId := w.status.tenantId
      storeId := w.status.storeId
      source := w.status.source
      note := some note
      limit := some w.status.limit }

/-- The sweep that an event starts. -/
def starts (w : RetryWorker) : WorkerEvent → Option Sweep
  | .runNow context input => executeRun w context input
  | .tick => tickScheduledRun w
  | _ => none

def begun (now : Instant) (sweep : Sweep) (w : RetryWorker) : RetryWorker :=
  { w with
    status := { w.status with running := true, lastRunAt := some now }
    sweeps := w.sweeps ++ [sweep] }

/-- The `finally` of `executeRun` clears the flag whatever the answer. -/
def settled (now : Instant) (answer : Except String InventorySupplierRetryRunResult)
    (status : InventorySupplierRetryWorkerStatus) : InventorySupplierRetryWorkerStatus :=
  match answer with
  | .ok result =>
    { status with running := false, lastSuccessAt := some now, lastResult := some result
                  lastError := none }
  | .error message => { status with running := false, lastError := some message }

def step (w : RetryWorker) : Instant × WorkerEvent → RetryWorker
  | (now, .pause reason) =>
    { w with status := { w.status with
        enabled := false, paused := true, lastPausedAt := some now
        pauseReason := some (reason.getD "Paused by operator.") } }
  | (now, .resume reason) =>
    { w with status := { w.status with
        enabled := true, paused := false, lastResumedAt := some now
        pauseReason := reason, lastError := none } }
  | (now, .settle i answer) =>
    if i < w.sweeps.length then
      { w with status := settled now answer w.status, sweeps := w.sweeps.eraseIdx i }
    else w
  | (now, e) => (starts w e).elim w fun sweep => begun now sweep w

/-- One sweep at most is under way, and the flags say which calls may start one. -/
structure Sane (w : RetryWorker) : Prop where
  one : w.sweeps.length ≤ 1
  running : w.status.running = true ↔ w.sweeps ≠ []
  enabled : w.status.enabled = !w.status.paused

theorem sane_begun (sane : Sane w) (idle : w.status.running = false) (now : Instant)
    (sweep : Sweep) : Sane (begun now sweep w) := by
  have none : w.sweeps = [] := by
    by_contra some
    rw [sane.running.mpr some] at idle
    cases idle
  exact ⟨by simp [begun, none], by simp [begun], sane.enabled⟩

theorem executeRun_idle {context : RequestContext} {input : RunNowDto} {sweep : Sweep}
    (started : executeRun w context input = some sweep) :
    w.status.running = false ∧ w.status.enabled = true := by
  unfold executeRun at started
  split at started
  next => cases started
  next free => simpa using free

theorem starts_idle {e : WorkerEvent} {sweep : Sweep} (started : starts w e = some sweep) :
    w.status.running = false ∧ w.status.enabled = true := by
  cases e with
  | runNow context input => exact executeRun_idle started
  | tick =>
    simp only [starts, tickScheduledRun] at started
    split at started
    next => cases started
    next => exact executeRun_idle started
  | _ => cases started

theorem settled_flags (now : Instant) (answer : Except String InventorySupplierRetryRunResult)
    (status : InventorySupplierRetryWorkerStatus) :
    (settled now answer status).running = false ∧
      (settled now answer status).enabled = status.enabled ∧
      (settled now answer status).paused = status.paused := by
  cases answer <;> exact ⟨rfl, rfl, rfl⟩

theorem sane_step (w : RetryWorker) (e : Instant × WorkerEvent) (sane : Sane w) :
    Sane (step w e) := by
  obtain ⟨now, e⟩ := e
  have starting (e : WorkerEvent) :
      Sane ((starts w e).elim w fun sweep => begun now sweep w) := by
    cases started : starts w e with
    | none => exact sane
    | some sweep => exact sane_begun sane (starts_idle started).1 now sweep
  cases e with
  | pause reason => exact ⟨sane.one, sane.running, rfl⟩
  | resume reason => exact ⟨sane.one, sane.running, rfl⟩
  | runNow context input => exact starting (.runNow context input)
  | tick => exact starting .tick
  | settle i answer =>
    simp only [step]
    split
    next under =>
      obtain ⟨cleared, enabled, paused⟩ := settled_flags now answer w.status
      have none : w.sweeps.eraseIdx i = [] := by
        rw [← List.length_eq_zero_iff, List.length_eraseIdx_of_lt under]
        have one := sane.one
        omega
      exact ⟨by simp [none], by simp [none, cleared], by rw [enabled, paused, sane.enabled]⟩
    next => exact sane

/-- However pauses, runs by hand, ticks and ends of sweeps follow each other, two sweeps of the
worker are never under way together, and a run by hand starts one just when none is under way, the
worker is not paused and a tenant is known. -/
theorem one_sweep_at_a_time (env : WorkerEnv) (events : List (Instant × WorkerEvent))
    (context : RequestContext) (input : RunNowDto) :
    let w := Trace.run step (boot env) events
    w.sweeps.length ≤ 1 ∧ ((starts w (.runNow context input)).isSome ↔
      w.sweeps = [] ∧ ¬w.status.paused ∧ (tenantOf w context input).isSome) := by
  intro w
  have sane : Sane w := Trace.run_always sane_step ⟨Nat.zero_le _, by simp [boot], rfl⟩ events
  refine ⟨sane.one, ?_⟩
  have busy := sane.running
  have off := sane.enabled
  cases running : w.status.running <;> cases paused : w.status.paused <;>
    simp_all [starts, executeRun]

def isResume : WorkerEvent → Bool
  | .resume _ => true
  | _ => false

theorem disabled_step {e : Instant × WorkerEvent} (off : w.status.enabled = false)
    (other : isResume e.2 = false) : starts w e.2 = none ∧ (step w e).status.enabled = false := by
  have idle : starts w e.2 = none := by
    cases started : starts w e.2 with
    | none => rfl
    | some sweep =>
      rw [(starts_idle started).2] at off
      cases off
  refine ⟨idle, ?_⟩
  obtain ⟨now, e⟩ := e
  cases e with
  | pause reason => rfl
  | resume reason => cases other
  | settle i answer =>
    simp only [step]
    split
    · exact (settled_flags now answer w.status).2.1.trans off
    · exact off
  | _ =>
    simp only [step]
    rw [idle]
    exact off

/-- Whatever is asked of a paused worker, no sweep starts before it is resumed. -/
theorem paused_until_resumed (w : RetryWorker) (now : Instant) (reason : Option String)
    (later : List (Instant × WorkerEvent)) :
    Trace.Along step (fun w e => starts w e.2 = none) (step w (now, .pause reason))
      (later.takeWhile fun e => !isResume e.2) := by
  have off : (step w (now, .pause reason)).status.enabled = false := rfl
  generalize step w (now, .pause reason) = w at off
  induction later generalizing w with
  | nil => trivial
  | cons e later ih =>
    cases resumes : isResume e.2 with
    | true => simp [resumes, Trace.Along]
    | false =>
      obtain ⟨idle, off⟩ := disabled_step off resumes
      rw [List.takeWhile_cons_of_pos (by simp [resumes])]
      exact ⟨idle, ih _ off⟩

end Exetron.Replenishment.Worker
