import Exetron.JsonText
import Exetron.Lib.WriteBack
import Exetron.Replenishment.Receipts
import Exetron.Replenishment.RetryLimit

/-!
# Sweeps among other calls

A sweep of the due retries reads a batch of jobs, delivers their retries one after another, and
writes whole artifacts made from the rows it read. The callbacks of the supplier, the polls and the
receipts do the same with one job. No lock is taken when a job is read, and the flag of the retry
worker keeps back only the worker's own sweeps.
-/

namespace Exetron.Replenishment.Races

open Lib Sessions WriteBack Inventory.Service InventoryReplenishmentJob

def receiptWarehouse (context : RequestContext) (current : InventoryReplenishmentJob) :
    Except ApiException Id := do
  let _ ← Inventory.Service.resolveTenantId context current.tenantId
  let warehouseId ← required current.warehouseId
    (.badRequest "Replenishment job warehouse is required for receiving.")
  rejectIf (current.status ≠ .dispatched ∧ current.status ≠ .receiving ∧ current.status ≠ .received)
    (.badRequest "Only dispatched replenishment jobs can be received.")
  rejectIf (textOf (current.supplier "supplierStatus") = some "CANCELLED")
    (.badRequest "Cancelled supplier handoff cannot be received.")
  pure warehouseId

/-- A receipt comes with the receiving record that its statements on the stock make of the job. -/
inductive RacingCall where
  | runDueRetries (dto : SweepDto)
  | webhook (jobId : Id) (dto : ProcessWebhookDto)
  | importUpdate (jobId : Id) (dto : ImportSupplierUpdateDto)
  | syncStatus (jobId : Id) (note : Option String)
  | receive (jobId : Id) (dto : ReceiveReplenishmentJobDto)
      (stocked : InventoryReplenishmentJob → Except ApiException ReceivingRecord)

structure RacingRequest where
  env : SupplierEnv
  context : RequestContext
  call : RacingCall

namespace RacingRequest

/-- The rows that a request reads and then takes up. -/
def batch (r : RacingRequest) (jobs : List InventoryReplenishmentJob) :
    List InventoryReplenishmentJob :=
  match r.call with
  | .runDueRetries dto => SupplyRequest.handled ⟨r.env, r.context, .runDueRetries dto⟩ jobs
  | .webhook jobId _ | .importUpdate jobId _ | .syncStatus jobId _ | .receive jobId _ _ =>
    (Rows.find InventoryReplenishmentJob.id jobs jobId).toList

def sweptJob (p : Delivered) : Option InventoryReplenishmentJob :=
  match p.delivery, p.answer with
  | none, .ok false | none, .error _ => none
  | _, _ => some p.job

/-- A message is written that is accepted, came before or is refused for a recorded failure. -/
def receivedJob {α : Type} (reception : Except ApiException α) (job : InventoryReplenishmentJob) :
    Option InventoryReplenishmentJob :=
  match reception with
  | .ok _ => some job
  | .error _ => none

def receiptJob (env : SupplierEnv) (context : RequestContext) (dto : ReceiveReplenishmentJobDto)
    (stocked : InventoryReplenishmentJob → Except ApiException ReceivingRecord)
    (current : InventoryReplenishmentJob) : Option InventoryReplenishmentJob :=
  match receiptWarehouse context current, existingReceiving current, stocked current with
  | .ok _, none, .ok record =>
    some (current.patchWorkflow env.now
      (if dto.autoComplete = some false then .receiving else .received)
      (receiptPatch env.now context record))
  | _, _, _ => none

/-- What a request makes of a job as it read it, if it writes the job. -/
def change (r : RacingRequest) (current : InventoryReplenishmentJob) :
    Option InventoryReplenishmentJob :=
  match r.call with
  | .runDueRetries dto => sweptJob (runForSweep r.env dto current)
  | .webhook _ dto =>
    receivedJob (receiveWebhook r.env r.context dto current)
      (processReplenishmentSupplierWebhook r.env r.context dto current).job
  | .importUpdate _ dto =>
    receivedJob (receiveImport r.env r.context dto current)
      (importReplenishmentSupplierUpdate r.env r.context dto current).job
  | .syncStatus _ note =>
    (syncReplenishmentSupplierStatus r.env r.context note current).toOption
  | .receive _ dto stocked => receiptJob r.env r.context dto stocked current

def assign (r : RacingRequest) (new row : InventoryReplenishmentJob) : InventoryReplenishmentJob :=
  match r.call with
  | .receive _ _ _ =>
    { row with status := new.status, artifact := new.artifact, updatedAt := new.updatedAt }
  | _ => { row with artifact := new.artifact, updatedAt := new.updatedAt }

def delivers (r : RacingRequest) (current : InventoryReplenishmentJob) : Bool :=
  match r.call with
  | .runDueRetries dto => (runForSweep r.env dto current).delivery.isSome
  | _ => false

end RacingRequest

section
variable {env : SupplierEnv} {context : RequestContext} {job new : InventoryReplenishmentJob}

theorem sweptJob_some {p : Delivered} (is : RacingRequest.sweptJob p = some new) : new = p.job := by
  unfold RacingRequest.sweptJob at is
  split at is
  · cases is
  · cases is
  · exact (Option.some.inj is).symm

theorem sweptJob_of_delivered {p : Delivered} (delivered : p.delivery.isSome = true) :
    (RacingRequest.sweptJob p).isSome = true := by
  unfold RacingRequest.sweptJob
  split
  · rename_i none _
    rw [none] at delivered
    cases delivered
  · rename_i none _
    rw [none] at delivered
    cases delivered
  · rfl

theorem receivedJob_some {α : Type} {reception : Except ApiException α}
    (is : RacingRequest.receivedJob reception job = some new) : new = job := by
  unfold RacingRequest.receivedJob at is
  split at is
  · exact (Option.some.inj is).symm
  · cases is

theorem receiptJob_some {dto : ReceiveReplenishmentJobDto}
    {stocked : InventoryReplenishmentJob → Except ApiException ReceivingRecord}
    (is : RacingRequest.receiptJob env context dto stocked job = some new) :
    ∃ warehouseId record, receiptWarehouse context job = .ok warehouseId ∧
      existingReceiving job = none ∧ stocked job = .ok record ∧
      new = job.patchWorkflow env.now
        (if dto.autoComplete = some false then .receiving else .received)
        (receiptPatch env.now context record) := by
  unfold RacingRequest.receiptJob at is
  split at is
  · rename_i warehouseId record admitted unreceived made
    exact ⟨warehouseId, record, admitted, unreceived, made, (Option.some.inj is).symm⟩
  · cases is

theorem change_assign {r : RacingRequest} (is : r.change job = some new) :
    r.assign new job = new := by
  obtain ⟨env, context, call⟩ := r
  cases call with
  | runDueRetries dto =>
    rw [sweptJob_some is]
    exact (processDue_only _).row.symm
  | webhook jobId dto =>
    rw [receivedJob_some is]
    exact (webhook_only dto).row.symm
  | importUpdate jobId dto =>
    rw [receivedJob_some is]
    exact (import_only dto).row.symm
  | syncStatus jobId note =>
    have synced :
        (SupplierCall.syncStatus note).handle env context job = ⟨.ok true, new, none⟩ := by
      rw [SupplierCall.handle, toOption_eq_some_iff.mp is]
      rfl
    have only : SupplierOnly job ((SupplierCall.syncStatus note).handle env context job).job :=
      handle_only _
    rw [synced] at only
    exact only.row.symm
  | receive jobId dto stocked =>
    obtain ⟨warehouseId, record, _, _, _, rfl⟩ := receiptJob_some is
    rfl

end

theorem batch_distinct (r : RacingRequest) {jobs : List InventoryReplenishmentJob}
    (unique : (jobs.map InventoryReplenishmentJob.id).Nodup) :
    ((r.batch jobs).map InventoryReplenishmentJob.id).Nodup := by
  have single (jobId : Id) : ((Rows.find InventoryReplenishmentJob.id jobs jobId).toList.map
        InventoryReplenishmentJob.id).Nodup := by
    cases Rows.find InventoryReplenishmentJob.id jobs jobId with
    | none => exact List.nodup_nil
    | some job => exact List.nodup_singleton _
  obtain ⟨env, context, call⟩ := r
  cases call with
  | runDueRetries dto => exact (handled_unique unique ⟨env, context, .runDueRetries dto⟩).2
  | webhook jobId dto => exact single jobId
  | importUpdate jobId dto => exact single jobId
  | syncStatus jobId note => exact single jobId
  | receive jobId dto stocked => exact single jobId

/-- The statements of a request: it reads its batch, and takes up one job after another. For each it
reads the registries, and a sweep delivers a due retry; then it writes the job. -/
def RacingRequest.toCall (r : RacingRequest) : WriteBack.Call InventoryReplenishmentJob.id where
  batch := r.batch
  change := r.change
  assign := r.assign
  sends := r.delivers
  distinct _ unique := batch_distinct r unique
  keyed new row := by
    obtain ⟨env, context, call⟩ := r
    cases call <;> rfl
  changed _ _ is := change_assign is
  noted row sends := by
    obtain ⟨env, context, call⟩ := r
    cases call with
    | runDueRetries dto => exact sweptJob_of_delivered sends
    | _ => cases sends

/-- The request that has the tables to itself. -/
def RacingRequest.toSupply (r : RacingRequest) : SupplyRequest where
  env := r.env
  context := r.context
  call :=
    match r.call with
    | .runDueRetries dto => .runDueRetries dto
    | .webhook jobId dto => .supplier jobId (.webhook dto)
    | .importUpdate jobId dto => .supplier jobId (.importUpdate dto)
    | .syncStatus jobId note => .supplier jobId (.syncStatus note)
    | .receive jobId dto _ => .receive jobId dto

section
variable {r : RacingRequest} {jobs : List InventoryReplenishmentJob}
  {job new : InventoryReplenishmentJob}

/-- A job that a request does not write it leaves as it is. -/
theorem handler_unwritten (handles : r.toSupply.call.handles = true) (is : r.change job = none) :
    (r.toSupply.handler job).job = job := by
  obtain ⟨env, context, call⟩ := r
  cases call with
  | runDueRetries dto =>
    show (runForSweep env dto job).job = job
    have unwritten : RacingRequest.sweptJob (runForSweep env dto job) = none := is
    rw [runForSweep] at unwritten ⊢
    cases @processDue_cases env job { source := dto.source, note := dto.note } with
    | left answer is => rw [is]
    | dispatched source due is =>
      rw [is] at unwritten
      cases unwritten
    | delivered connector runtime due is =>
      have delivered : (deliverRetry env connector runtime job).delivery.isSome = true := by
        cases @deliverRetry_cases env job connector runtime with
        | completed done is => rw [is]; rfl
        | decided job' failed next is => rw [is]; rfl
        | undecided e failed next is => rw [is]; rfl
      have written := sweptJob_of_delivered delivered
      rw [← is, unwritten] at written
      cases written
  | webhook jobId dto =>
    show (processReplenishmentSupplierWebhook env context dto job).job = job
    have unwritten : RacingRequest.receivedJob (receiveWebhook env context dto job) _ = none := is
    unfold RacingRequest.receivedJob at unwritten
    unfold processReplenishmentSupplierWebhook
    split
    · rfl
    all_goals
      rename_i received
      rw [received] at unwritten
      cases unwritten
  | importUpdate jobId dto =>
    show (importReplenishmentSupplierUpdate env context dto job).job = job
    have unwritten : RacingRequest.receivedJob (receiveImport env context dto job) _ = none := is
    unfold RacingRequest.receivedJob at unwritten
    unfold importReplenishmentSupplierUpdate
    split
    · rfl
    all_goals
      rename_i received
      rw [received] at unwritten
      cases unwritten
  | syncStatus jobId note =>
    show (ofUpdate job (syncReplenishmentSupplierStatus env context note job)).job = job
    have unwritten : (syncReplenishmentSupplierStatus env context note job).toOption = none := is
    cases synced : syncReplenishmentSupplierStatus env context note job with
    | error e => rfl
    | ok job' =>
      rw [synced] at unwritten
      cases unwritten
  | receive jobId dto stocked => cases handles

theorem handler_written (handles : r.toSupply.call.handles = true) (is : r.change job = some new) :
    (r.toSupply.handler job).job = new := by
  obtain ⟨env, context, call⟩ := r
  cases call with
  | runDueRetries dto => exact (sweptJob_some is).symm
  | webhook jobId dto | importUpdate jobId dto => exact (receivedJob_some is).symm
  | syncStatus jobId note =>
    show (ofUpdate job (syncReplenishmentSupplierStatus env context note job)).job = new
    rw [toOption_eq_some_iff.mp is]
    rfl
  | receive jobId dto stocked => cases handles

theorem overlay_handleEach (handles : r.toSupply.call.handles = true)
    {candidates : List InventoryReplenishmentJob}
    (distinct : (candidates.map InventoryReplenishmentJob.id).Nodup)
    (unique : (jobs.map InventoryReplenishmentJob.id).Nodup)
    (listed : ∀ candidate ∈ candidates, candidate ∈ jobs) :
    r.toCall.overlay candidates.reverse jobs = handleEach r.toSupply.handler candidates jobs := by
  induction candidates generalizing jobs with
  | nil => rfl
  | cons candidate candidates ih =>
    obtain ⟨apart, distinct⟩ := List.nodup_cons.mp distinct
    have stored := listed candidate List.mem_cons_self
    have first : r.toCall.overlay [candidate] jobs =
        Rows.modify InventoryReplenishmentJob.id candidate.id
          (fun _ => (r.toSupply.handler candidate).job) jobs := by
      cases is : r.change candidate with
      | none =>
        have same := Rows.modify_stored (f := fun row => row) unique stored
        rw [handler_unwritten handles is, ← same, Rows.modify, Rows.updateWhere]
        have change : r.toCall.change candidate = none := is
        simp only [Call.overlay, change, ite_self, List.map_id']
      | some new =>
        have change : r.toCall.change candidate = some new := is
        rw [handler_written handles is]
        simp only [Call.overlay, change]
        rw [Rows.modify_stored unique stored, r.toCall.changed candidate new change]
    have keyed : (r.toSupply.handler candidate).job.id = candidate.id := handler_id _ _
    rw [List.reverse_cons, overlay_append, first]
    refine ih distinct (by rw [Rows.map_put keyed]; exact unique) fun other later => ?_
    have elsewhere : ¬other.id = candidate.id := fun same =>
      apart (same ▸ List.mem_map_of_mem later)
    exact Rows.mem_modify.mpr ⟨other, listed other (List.mem_cons_of_mem _ later), if_neg elsewhere⟩

theorem handled_alone {s : Supply} (handles : r.toSupply.call.handles = true)
    (unique : (s.jobs.map InventoryReplenishmentJob.id).Nodup) :
    (alone r.toCall.statements s.jobs s.jobs).1 = (step s r.toSupply).jobs := by
  have batch : r.toCall.batch s.jobs = r.toSupply.handled s.jobs := by
    obtain ⟨env, context, call⟩ := r
    cases call <;> first | rfl | cases handles
  obtain ⟨listed, distinct⟩ := handled_unique unique r.toSupply
  rw [alone_statements, step_handles s handles, batch]
  exact overlay_handleEach handles distinct unique listed

end

theorem admitReceipt_ok {context : RequestContext} {id warehouseId : Id} {s : Supply}
    {current : InventoryReplenishmentJob}
    (admitted : admitReceipt context id s = .ok (current, warehouseId)) :
    jobOf s id = some current ∧ receiptWarehouse context current = .ok warehouseId := by
  simp only [admitReceipt, except_bind_ok_iff, except_pure_ok_iff] at admitted
  obtain ⟨job, found, place, placed, _, dispatched, _, live, is⟩ := admitted
  obtain ⟨rfl, rfl⟩ := Prod.mk.inj is
  refine ⟨admitJob_ok found, ?_⟩
  simp only [admitJob, except_bind_ok_iff, except_pure_ok_iff] at found
  obtain ⟨_, _, tenantId, resolved, rfl⟩ := found
  simp only [receiptWarehouse, except_bind_ok_iff, except_pure_ok_iff]
  exact ⟨tenantId, resolved, place, placed, _, dispatched, _, live, rfl⟩

theorem receive_alone {r : RacingRequest} {id : Id} {dto : ReceiveReplenishmentJobDto}
    {s t : Supply} {received : ReceivingRecord × List ReceivingLine}
    (receives : r.call = .receive id dto fun _ => .ok received.1)
    (unique : (s.jobs.map InventoryReplenishmentJob.id).Nodup)
    (done : receiveReplenishmentJobTx r.env.now r.context id dto s = .ok (received, t)) :
    (alone r.toCall.statements s.jobs s.jobs).1 = t.jobs := by
  obtain ⟨current, warehouseId, admitted, made⟩ := receiveReplenishmentJobTx_ok done
  obtain ⟨found, warehouse⟩ := admitReceipt_ok admitted
  have batch : r.toCall.batch s.jobs = [current] := by
    show r.batch s.jobs = _
    simp only [RacingRequest.batch, receives]
    rw [show Rows.find InventoryReplenishmentJob.id s.jobs id = some current from found]
    rfl
  have change : r.toCall.change current =
      RacingRequest.receiptJob r.env r.context dto (fun _ => .ok received.1) current := by
    show r.change current = _
    rw [RacingRequest.change, receives]
  obtain ⟨stored, keyed⟩ := Rows.find_some found
  rw [alone_statements, batch]
  rcases made with ⟨⟨recordId, existing⟩, rfl⟩ | ⟨none, record, m, n, opened, completed, rfl⟩
  · have left : r.toCall.change current = none := by
      rw [change, RacingRequest.receiptJob, warehouse, existing]
    simp only [List.reverse_singleton, Call.overlay, left]
  · have only : DbOnly s n := by
      rcases completed with ⟨_, rfl⟩ | ⟨_, completed⟩
      · exact openReceiptTx_dbOnly opened
      · exact .trans _ _ _ (openReceiptTx_dbOnly opened)
          (completeReceivingRecordTx_dbOnly completed)
    have written : r.toCall.change current = some (current.patchWorkflow r.env.now
        (if dto.autoComplete = some false then .receiving else .received)
        (receiptPatch r.env.now r.context received.1)) := by
      rw [change, RacingRequest.receiptJob, warehouse, none]
    have jobs : n.jobs = s.jobs := by rw [only.rest]
    show _ = Rows.modify InventoryReplenishmentJob.id id _ n.jobs
    rw [jobs, ← keyed, Rows.modify_stored unique stored]
    simp only [List.reverse_singleton, Call.overlay, written]
    rw [Rows.modify_stored unique stored, r.toCall.changed current _ written]

def processedCount (job : InventoryReplenishmentJob) : ℚ :=
  max 0 (toNumber (job.supplier "retryProcessedCount"))

section
variable {env : SupplierEnv} {context : RequestContext} {job new : InventoryReplenishmentJob}
  {now : Instant}

theorem processedCount_patch {patch : InventoryRecord} (distinct : (patch.map Prod.fst).Nodup)
    (other : patch.get "retryProcessedCount" = none) :
    processedCount (job.patchSupplier now patch) = processedCount job := by
  rw [processedCount, supplier_patchSupplier job now patch distinct, other]
  rfl

theorem processedCount_processed {patch : InventoryRecord} (distinct : (patch.map Prod.fst).Nodup)
    (count : patch.get "retryProcessedCount" = some (.num (counted job "retryProcessedCount"))) :
    processedCount (job.patchSupplier now patch) = processedCount job + 1 := by
  have positive : (0 : ℚ) ≤ processedCount job + 1 :=
    le_trans (le_max_left 0 _) (le_add_of_nonneg_right zero_le_one)
  rw [processedCount, supplier_patchSupplier job now patch distinct, count]
  exact max_eq_right positive

theorem processedCount_failRetry (execution : TransportHandoffExecution) :
    processedCount (failRetry now execution job) = processedCount job + 1 :=
  processedCount_processed (by simp) (by simp [Record.get_cons])

theorem processedCount_afterFailedRetry {runtime : SupplierConnectorRuntime}
    {execution : TransportHandoffExecution}
    (decided : afterFailedRetry env runtime execution job = .ok new) :
    processedCount new = processedCount job := by
  simp only [afterFailedRetry] at decided
  split at decided
  · obtain ⟨source, _, rfl⟩ := queueSupplierRetryTx_ok_iff.mp decided
    exact processedCount_patch (by simp) (by simp [Record.get_cons])
  · obtain rfl := Except.ok.inj decided
    exact processedCount_patch (by simp) (by simp [Record.get_cons])

theorem processedCount_deliverRetry (connector : IntegrationRegistryEntry)
    (runtime : SupplierConnectorRuntime) :
    processedCount (deliverRetry env connector runtime job).job = processedCount job + 1 := by
  cases @deliverRetry_cases env job connector runtime with
  | completed done is =>
    rw [is]
    exact processedCount_processed (by simp) (by simp [Record.get_cons])
  | decided job' failed next is =>
    rw [is]
    exact (processedCount_afterFailedRetry next).trans (processedCount_failRetry _)
  | undecided e failed next is =>
    rw [is]
    exact processedCount_failRetry _

theorem processedCount_processDue (input : RunDueInput) :
    let p := processDueSupplierRetryTx env input job
    p.delivery = none ∧ processedCount job ≤ processedCount p.job ∨
      processedCount p.job = processedCount job + 1 := by
  cases @processDue_cases env job input with
  | left answer is =>
    rw [is]
    exact .inl ⟨rfl, le_refl _⟩
  | dispatched source due is =>
    rw [is]
    exact .inr (processedCount_processed (by simp) (by simp [Record.get_cons]))
  | delivered connector runtime due is =>
    rw [is]
    exact .inr (processedCount_deliverRetry connector runtime)

theorem processedCount_webhook (dto : ProcessWebhookDto) :
    processedCount (processReplenishmentSupplierWebhook env context dto job).job =
      processedCount job := by
  unfold processReplenishmentSupplierWebhook
  split
  · rfl
  all_goals exact processedCount_patch (by simp) (by simp [Record.get_cons])

theorem processedCount_import (dto : ImportSupplierUpdateDto) :
    processedCount (importReplenishmentSupplierUpdate env context dto job).job =
      processedCount job := by
  unfold importReplenishmentSupplierUpdate
  split
  · rfl
  all_goals exact processedCount_patch (by simp) (by simp [Record.get_cons])

theorem processedCount_sync {note : Option String}
    (synced : syncReplenishmentSupplierStatus env context note job = .ok new) :
    processedCount new = processedCount job := by
  simp only [syncReplenishmentSupplierStatus, except_bind_ok_iff] at synced
  obtain ⟨_, _, synced⟩ := synced
  obtain rfl := Except.ok.inj synced
  exact processedCount_patch (by simp) (by simp [Record.get_cons])

theorem processedCount_receipt (status : ReplenishmentJobStatus) (record : ReceivingRecord) :
    processedCount (job.patchWorkflow now status (receiptPatch now context record)) =
      processedCount job := by
  rw [processedCount, supplier, getReplenishmentSupplier_patchWorkflow job now status
    (by simp [receiptPatch]) (by simp [receiptPatch, Record.get_cons])]
  rfl

theorem counts_retries (r : RacingRequest) : Counts processedCount r.toCall where
  kept row new is := by
    obtain ⟨env, context, call⟩ := r
    cases call with
    | runDueRetries dto =>
      rw [sweptJob_some is]
      rcases @processedCount_processDue env row
        { source := dto.source, note := dto.note } with ⟨_, kept⟩ | more
      · exact kept
      · exact le_trans (le_add_of_nonneg_right zero_le_one) (le_of_eq more.symm)
    | webhook jobId dto =>
      rw [receivedJob_some is]
      exact le_of_eq (processedCount_webhook dto).symm
    | importUpdate jobId dto =>
      rw [receivedJob_some is]
      exact le_of_eq (processedCount_import dto).symm
    | syncStatus jobId note =>
      exact le_of_eq (processedCount_sync (toOption_eq_some_iff.mp is)).symm
    | receive jobId dto stocked =>
      obtain ⟨warehouseId, record, _, _, _, rfl⟩ := receiptJob_some is
      exact le_of_eq (processedCount_receipt _ record).symm
  raised row new is sends := by
    obtain ⟨env, context, call⟩ := r
    cases call with
    | runDueRetries dto =>
      rw [sweptJob_some is]
      have delivered : (runForSweep env dto row).delivery.isSome = true := sends
      rcases @processedCount_processDue env row
        { source := dto.source, note := dto.note } with ⟨none, _⟩ | more
      · rw [runForSweep, none] at delivered
        cases delivered
      · exact lt_of_lt_of_eq (lt_add_of_pos_right _ zero_lt_one) more.symm
    | _ => cases sends

end

deriving instance DecidableEq for InventoryReplenishmentJob

abbrev SupplyDesk (ι : Type) := Desk ι InventoryReplenishmentJob Id

section
variable {ι : Type}

def waiting (r : ι → RacingRequest) (jobs : List InventoryReplenishmentJob) : SupplyDesk ι :=
  start (fun i => (r i).toCall.statements) jobs

variable [DecidableEq ι] [Fintype ι]

def requestsAfter (r : ι → RacingRequest) (jobs : List InventoryReplenishmentJob)
    (schedule : List ι) : SupplyDesk ι := Trace.run Sessions.step (waiting r jobs) schedule

def timesDelivered (r : ι → RacingRequest) (w : SupplyDesk ι) (jobId : Id) (processed : ℚ) : Nat :=
  timesSent processedCount (fun i => (r i).toCall) w jobId processed

/-- No due retry was delivered twice, and each job is what the requests that have written it and
committed make of it, one after another. -/
structure NoRace (r : ι → RacingRequest) (jobs : List InventoryReplenishmentJob)
    (schedule : List ι) : Prop where
  delivered : ∀ jobId processed,
    timesDelivered r (requestsAfter r jobs schedule) jobId processed ≤ 1
  reflected : ∀ jobId,
    Rows.find InventoryReplenishmentJob.id (requestsAfter r jobs schedule).committed jobId =
      (Rows.find InventoryReplenishmentJob.id jobs jobId).bind
        (replay (fun i => (r i).toCall) (committedWrites (waiting r jobs) schedule) jobId)

/-- Sweeps and other calls do not race in a run in which a retry is delivered, and a job written,
only while the job is as it was read, and a retry only while no other sweep has one of the job to
write down. -/
theorem sweeps_do_not_race {r : ι → RacingRequest} {jobs : List InventoryReplenishmentJob}
    (unique : (jobs.map InventoryReplenishmentJob.id).Nodup) {schedule : List ι}
    (along : Trace.Along Sessions.step (Undisturbed fun i => (r i).toCall) (waiting r jobs)
      schedule) :
    ∀ before, before <+: schedule → NoRace r jobs before := by
  intro before prior
  have counts : ∀ i, Counts processedCount (r i).toCall := fun i => counts_retries (r i)
  obtain ⟨once, replayed⟩ := run_undisturbed counts unique (Trace.along_prefix prior along)
  exact ⟨once, replayed⟩

end

def dairyJobs : List InventoryReplenishmentJob :=
  (run dairy (dairyOrder pushes (.failed "fetch failed"))).jobs

def atDairy (call : RacingCall) : RacingRequest where
  env := (dairySweep 5 (.answered 200 (.obj []))).env
  context := (dairySweep 5 (.answered 200 (.obj []))).context
  call := call

def dairyReceipt : RacingCall :=
  .receive 100 {} fun _ => .ok
    { id := 200
      tenantId := 1
      warehouseId := 30
      reference := "REPL-100"
      status := .completed
      receivedBy := none
      completedAt := some 5 }

def inTurn : Fin 3 → RacingRequest
  | 0 => atDairy (.runDueRetries { tenantId := 1 })
  | 1 => atDairy (.runDueRetries { tenantId := 1 })
  | 2 => atDairy dairyReceipt

theorem dairy_handled : (alone (inTurn 0).toCall.statements dairyJobs dairyJobs).1 =
    (step (run dairy (dairyOrder pushes (.failed "fetch failed"))) (inTurn 0).toSupply).jobs :=
  handled_alone rfl (by decide +kernel)

theorem inTurn_do_not_race : NoRace inTurn dairyJobs [0, 0, 0, 0, 1, 1, 1, 2, 2, 2, 2] :=
  @sweeps_do_not_race _ _ _ inTurn dairyJobs (by decide +kernel)
    [0, 0, 0, 0, 1, 1, 1, 2, 2, 2, 2] (by decide +kernel) _ (List.prefix_refl _)

/-- Two sweeps read the job before either has delivered its retry. -/
theorem sweeps_race : ¬∀ (r : Fin 2 → RacingRequest) (jobs : List InventoryReplenishmentJob)
      (schedule : List (Fin 2)), (jobs.map InventoryReplenishmentJob.id).Nodup →
        NoRace r jobs schedule := by
  intro always
  let r : Fin 2 → RacingRequest := fun _ => atDairy (.runDueRetries { tenantId := 1 })
  have once := (always r dairyJobs [0, 1, 0, 0, 0, 1, 1, 1] (by decide +kernel)).delivered 100 0
  revert once
  decide +kernel

end Exetron.Replenishment.Races
