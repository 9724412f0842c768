import Exetron.Lib.Sorting
import Exetron.Replenishment.Duplicates
import Exetron.Replenishment.RetryLimit

/-!
# Due retries behind other jobs

A sweep takes the jobs written last, as many as its limit allows, and only then looks which of them
are due. A due job waits while enough jobs that are not due were written after it.
-/

namespace Exetron.Replenishment

open Lib Inventory.Service InventoryReplenishmentJob

structure InventorySupplierRetryRunResult where
  considered : Nat
  (processedJobIds skippedJobIds : List Id)

/-- An update was made; a job that is not due and one whose retry throws are skipped. -/
def Delivered.isUpdated (handled : Delivered) : Bool :=
  match handled.answer with
  | .ok updated => updated
  | .error _ => false

def runDueReplenishmentSupplierRetries (env : SupplierEnv) (context : RequestContext)
    (dto : SweepDto) (jobs : List InventoryReplenishmentJob) :
    Except ApiException InventorySupplierRetryRunResult := do
  let _ ← Inventory.Service.resolveTenantId context dto.tenantId
  let candidates := sweepCandidates jobs dto
  let isProcessed (candidate : InventoryReplenishmentJob) : Bool :=
    (runForSweep env dto candidate).isUpdated
  pure
    { considered := candidates.length
      processedJobIds := (candidates.filter isProcessed).map (·.id)
      skippedJobIds := (candidates.filter fun job => !isProcessed job).map (·.id) }

/-- `where`. -/
def inSweep (dto : SweepDto) (job : InventoryReplenishmentJob) : Bool :=
  job.tenantId = dto.tenantId ∧ (dto.storeId.all fun id => job.storeId = some id) = true ∧
    (job.status = .dispatched ∨ job.status = .receiving ∨ job.status = .received)

/-- `orderBy: { updatedAt: "desc" }`. -/
abbrev writtenLastFirst (left right : InventoryReplenishmentJob) : Prop :=
  right.updatedAt ≤ left.updatedAt

theorem sweepCandidates_eq (jobs : List InventoryReplenishmentJob) (dto : SweepDto) :
    sweepCandidates jobs dto =
      ((jobs.filter (inSweep dto)).insertionSort writtenLastFirst).take dto.take := rfl

/-- A job of the sweep that waits for a retry whose time has come, on a connector that may be
called. -/
def isDueFor (env : SupplierEnv) (dto : SweepDto) (job : InventoryReplenishmentJob) : Bool :=
  inSweep dto job && match dueRetry env { source := dto.source, note := dto.note } job with
    | .ok (some _) => true
    | _ => false

def CrowdedOut (jobs : List InventoryReplenishmentJob) (dto : SweepDto)
    (job : InventoryReplenishmentJob) : Prop :=
  ∃ earlier later, jobs.filter (inSweep dto) = earlier ++ job :: later ∧
    dto.take ≤ Sorting.rank writtenLastFirst earlier job later

def LosesRetry (env : SupplierEnv) (dto : SweepDto) (job : InventoryReplenishmentJob) : Prop :=
  ∃ connector runtime,
    dueRetry env { source := dto.source, note := dto.note } job =
      .ok (some (connector, runtime, .httpPush)) ∧
    (pushRetry env connector runtime job).status = .failed ∧
    (resolveHttpPushRetryDecision (failRetry env.now (pushRetry env connector runtime job)
      job).getReplenishmentSupplier runtime (pushRetry env connector runtime job)).shouldRetry ∧
    isTerminal job = true

def ServesDue (env : SupplierEnv) (context : RequestContext) (dto : SweepDto)
    (jobs : List InventoryReplenishmentJob) : Prop :=
  (jobs.filter (isDueFor env dto)).length ≤ dto.take →
    ∀ result, runDueReplenishmentSupplierRetries env context dto jobs = .ok result →
      ∀ job ∈ jobs, isDueFor env dto job = true → job.id ∈ result.processedJobIds

section
variable {env : SupplierEnv} {context : RequestContext} {dto : SweepDto}
  {jobs : List InventoryReplenishmentJob} {job : InventoryReplenishmentJob}

theorem isDueFor_iff : isDueFor env dto job = true ↔ inSweep dto job = true ∧
    ∃ due, dueRetry env { source := dto.source, note := dto.note } job = .ok (some due) := by
  unfold isDueFor
  cases dueRetry env { source := dto.source, note := dto.note } job with
  | error e => simp
  | ok due => cases due <;> simp

theorem isTerminal_failRetry (now : Instant) (execution : TransportHandoffExecution) :
    isTerminal (failRetry now execution job) = isTerminal job := by
  have kept (key : String) (other : key ∈ ["reconciliation", "deadLetterAt", "deadLetteredAt"]) :
      (failRetry now execution job).supplier key = job.supplier key := by
    simp only [List.mem_cons, List.not_mem_nil, or_false] at other
    rcases other with rfl | rfl | rfl <;>
      simp [failRetry, supplier_patchSupplier, Record.get_cons]
  rw [isTerminal, isTerminal, reconciliationStatus, reconciliation, isTextAt, isTextAt,
    kept "reconciliation" (by simp), kept "deadLetterAt" (by simp),
    kept "deadLetteredAt" (by simp)]
  rfl

theorem connectorKeyOf_failRetry (execution : TransportHandoffExecution) :
    connectorKeyOf (failRetry env.now execution job) = connectorKeyOf job := by
  simp [connectorKeyOf, failRetry, supplier_patchSupplier, Record.get_cons]

theorem queue_failRetry_iff {connector : IntegrationRegistryEntry}
    {execution : TransportHandoffExecution} {input : QueueRetryInput}
    (keyed : ∃ key, connectorKeyOf job = some key ∧
      requireSupplierConnectorTx env.integrationRegistry job.tenantId key = .ok connector)
    (undelivered : execution.status = .failed) (push : input.source = some .httpPush)
    (strict : input.allowTerminalReopen = false) :
    (∃ job', queueSupplierRetryTx env input (failRetry env.now execution job) = .ok job') ↔
      ¬isTerminal job = true := by
  rw [← isTerminal_failRetry env.now execution]
  constructor
  · rintro ⟨job', queued⟩ marked
    simp only [queueSupplierRetryTx, admitRetry, except_bind_ok_iff, rejectIf_ok_iff] at queued
    obtain ⟨_, ⟨_, _, _, open', _⟩, _⟩ := queued
    exact open' ⟨strict, marked⟩
  · intro open'
    rw [isTerminal, decide_eq_true_iff, not_or, not_or] at open'
    have failed : PushFailed env (failRetry env.now execution job) := by
      refine ⟨?_, ?_, open'.1, by simpa [isTextAt] using open'.2⟩
      · obtain ⟨key, named, offered⟩ := keyed
        exact ⟨key, connector, (connectorKeyOf_failRetry execution).trans named, offered⟩
      · simp [lastTransportStatus, failRetry, supplier_patchSupplier, Record.get_cons, undelivered,
          TransportStatus.text]
    exact ⟨_, failed.queues push⟩

/-- A due job that is taken up is updated, unless its retry is lost. -/
theorem isUpdated_iff (due : isDueFor env dto job = true) :
    (runForSweep env dto job).isUpdated = true ↔ ¬LosesRetry env dto job := by
  obtain ⟨_, ⟨connector, runtime, source⟩, ready⟩ := isDueFor_iff.mp due
  have same {connector' : IntegrationRegistryEntry} {runtime' : SupplierConnectorRuntime}
      (ready' : dueRetry env { source := dto.source, note := dto.note } job =
        .ok (some (connector', runtime', .httpPush))) :
      connector' = connector ∧ runtime' = runtime ∧ source = .httpPush := by
    cases Option.some.inj (Except.ok.inj (ready.symm.trans ready'))
    exact ⟨rfl, rfl, rfl⟩
  unfold runForSweep processDueSupplierRetryTx
  simp only [ready]
  by_cases push : source = .httpPush
  · subst push
    rw [if_pos rfl]
    cases @deliverRetry_cases env job connector runtime with
    | completed done is =>
      rw [is]
      refine iff_of_true rfl ?_
      rintro ⟨_, _, ready', failed, _⟩
      obtain ⟨rfl, rfl, _⟩ := same ready'
      rw [done] at failed
      cases failed
    | decided job' failed next is =>
      rw [is]
      refine iff_of_true rfl ?_
      rintro ⟨_, _, ready', _, again, marked⟩
      obtain ⟨rfl, rfl, _⟩ := same ready'
      simp only [afterFailedRetry, again, if_true] at next
      obtain ⟨keyed, _⟩ := dueRetry_some ready
      refine absurd marked ((queue_failRetry_iff keyed failed ?_ ?_).mp ⟨job', next⟩) <;> rfl
    | undecided e failed next is =>
      rw [is]
      refine iff_of_false (by simp [Delivered.isUpdated]) (not_not.mpr ?_)
      simp only [afterFailedRetry] at next
      split at next
      · rename_i again
        refine ⟨connector, runtime, ready, failed, again, ?_⟩
        by_contra open'
        have queues (input : QueueRetryInput) (push : input.source = some .httpPush)
            (strict : input.allowTerminalReopen = false) :
            queueSupplierRetryTx env input (failRetry env.now (pushRetry env connector runtime job)
              job) ≠ .error e := by
          obtain ⟨job', queued⟩ :=
            (queue_failRetry_iff (dueRetry_some ready).1 failed push strict).mpr open'
          simp [queued]
        exact queues _ rfl rfl next
      · cases next
  · rw [if_neg push]
    refine iff_of_true rfl ?_
    rintro ⟨_, _, ready', _⟩
    exact push (same ready').2.2

theorem mem_sweepCandidates_iff (unique : (jobs.map (·.id)).Nodup) (stored : job ∈ jobs)
    (inside : inSweep dto job = true) :
    job ∈ sweepCandidates jobs dto ↔ ¬CrowdedOut jobs dto job := by
  have total : Std.Total writtenLastFirst := ⟨fun a b => le_total b.updatedAt a.updatedAt⟩
  have trans : IsTrans InventoryReplenishmentJob writtenLastFirst :=
    ⟨fun _ _ _ first second => le_trans second first⟩
  have placed (earlier later : List InventoryReplenishmentJob)
      (parts : jobs.filter (inSweep dto) = earlier ++ job :: later) :
      job ∈ sweepCandidates jobs dto ↔
        Sorting.rank writtenLastFirst earlier job later < dto.take := by
    have distinct : (earlier ++ job :: later).Nodup := parts ▸ (unique.of_map _).filter _
    rw [sweepCandidates_eq, parts]
    exact Sorting.mem_take_iff (List.nodup_cons.mp (List.nodup_middle.mp distinct)).1 dto.take
  constructor
  · rintro shown ⟨earlier, later, parts, full⟩
    exact absurd ((placed earlier later parts).mp shown) (not_lt.mpr full)
  · intro room
    obtain ⟨earlier, later, parts⟩ := List.append_of_mem (List.mem_filter.mpr ⟨stored, inside⟩)
    refine (placed earlier later parts).mpr (not_le.mp fun full => ?_)
    exact room ⟨earlier, later, parts, full⟩

theorem mem_of_mem_sweepCandidates (listed : job ∈ sweepCandidates jobs dto) : job ∈ jobs := by
  rw [sweepCandidates_eq] at listed
  exact List.mem_of_mem_filter ((List.mem_insertionSort _).mp (List.mem_of_mem_take listed))

theorem mem_processed_iff {result : InventorySupplierRetryRunResult}
    (unique : (jobs.map (·.id)).Nodup) (stored : job ∈ jobs)
    (swept : runDueReplenishmentSupplierRetries env context dto jobs = .ok result) :
    job.id ∈ result.processedJobIds ↔
      job ∈ sweepCandidates jobs dto ∧ (runForSweep env dto job).isUpdated = true := by
  simp only [runDueReplenishmentSupplierRetries, except_bind_ok_iff, except_pure_ok_iff] at swept
  obtain ⟨_, _, rfl⟩ := swept
  rw [List.mem_map]
  constructor
  · rintro ⟨other, listed, same⟩
    obtain ⟨shown, updated⟩ := List.mem_filter.mp listed
    obtain rfl := Rows.eq_of_key unique (mem_of_mem_sweepCandidates shown) stored same
    exact ⟨shown, updated⟩
  · rintro ⟨shown, updated⟩
    exact ⟨job, List.mem_filter.mpr ⟨shown, updated⟩, rfl⟩

/-- With room for all that is due, a sweep processes it all just when no due job is crowded out by
jobs written later, and none loses its retry to a dead letter. -/
theorem servesDue_iff (unique : (jobs.map (·.id)).Nodup)
    (seen : ∃ tenantId, Inventory.Service.resolveTenantId context dto.tenantId = .ok tenantId) :
    ServesDue env context dto jobs ↔
      ((jobs.filter (isDueFor env dto)).length ≤ dto.take →
        ∀ job ∈ jobs, isDueFor env dto job = true →
          ¬CrowdedOut jobs dto job ∧ ¬LosesRetry env dto job) := by
  obtain ⟨tenantId, seen⟩ := seen
  obtain ⟨result, swept⟩ : ∃ result,
      runDueReplenishmentSupplierRetries env context dto jobs = .ok result := by
    simp only [runDueReplenishmentSupplierRetries, except_bind_ok_iff, except_pure_ok_iff]
    exact ⟨_, tenantId, seen, rfl⟩
  have each (job : InventoryReplenishmentJob) (stored : job ∈ jobs)
      (due : isDueFor env dto job = true) :
      job.id ∈ result.processedJobIds ↔ ¬CrowdedOut jobs dto job ∧ ¬LosesRetry env dto job := by
    rw [mem_processed_iff unique stored swept, isUpdated_iff due,
      mem_sweepCandidates_iff unique stored (isDueFor_iff.mp due).1]
  refine forall_congr' fun _ => ⟨fun served job stored due => ?_, fun holds result' swept' => ?_⟩
  · exact (each job stored due).mp (served result swept job stored due)
  · obtain rfl := Except.ok.inj (swept.symm.trans swept')
    exact fun job stored due => (each job stored due).mpr (holds job stored due)

end

def overdueJob : InventoryReplenishmentJob where
  id := 1
  tenantId := 7
  storeId := none
  warehouseId := none
  status := .dispatched
  summary := .null
  artifact := .obj [("workflow", .obj [("supplier", .obj
    [("connectorKey", .str "dairy"),
      ("lastFailureSource", .str "WEBHOOK"),
      ("nextRetryAt", isoText 5),
      ("reconciliation", .obj [("status", .str "RETRY_QUEUED")])])])]
  updatedAt := 5

def idleJob : InventoryReplenishmentJob :=
  { overdueJob with id := 2, artifact := .obj [], updatedAt := 6 }

def sweepOfOne : SweepDto where
  tenantId := 7
  limit := some 1

theorem sweepOfOne_servesDue_iff : ServesDue callingEnv clerk sweepOfOne [overdueJob, idleJob] ↔
      (([overdueJob, idleJob].filter (isDueFor callingEnv sweepOfOne)).length ≤ sweepOfOne.take →
        ∀ job ∈ [overdueJob, idleJob], isDueFor callingEnv sweepOfOne job = true →
          ¬CrowdedOut [overdueJob, idleJob] sweepOfOne job ∧
            ¬LosesRetry callingEnv sweepOfOne job) :=
  servesDue_iff (by decide) ⟨7, rfl⟩

/-- One job is due, one may be taken, and the other one is. -/
theorem overdueJob_not_processed :
    ¬ServesDue callingEnv clerk sweepOfOne [overdueJob, idleJob] := by
  intro served
  have processed := served (by decide +kernel) _ rfl overdueJob (by simp) (by decide +kernel)
  revert processed
  decide +kernel

end Exetron.Replenishment
