import Exetron.Replenishment.Steps

/-!
# Orders that were delivered

A sweep delivers the jobs that wait in the retry queue. A delivered order leaves the queue, and goes
back to it only where a retry is queued for it again.
-/

namespace Exetron.Replenishment

open Lib Inventory.Service InventoryReplenishmentJob Record

variable {h : List JobEvent}

def latestDelivery : List JobEvent → Option TransportStatus
  | [] => none
  | .handedOff :: _ => none
  | .delivered status :: _ => some status
  | _ :: h => latestDelivery h

def pushActions : List String :=
  ["replenishment_supplier_http_push_handoff", "replenishment_supplier_retry_due"]

def isDelivered (record : InventoryRecord) : Prop :=
  textOf (record.get "lastTransportStatus") = some "COMPLETED" ∧
    ∃ action ∈ pushActions, textOf (record.get "lastTransportAction") = some action

def isWaiting (record : InventoryRecord) : Prop :=
  textOf ((asRecord (record.get "reconciliation")).get "status") = some "RETRY_QUEUED"

/-- The order was delivered and waits for nothing. -/
structure Settled (record : InventoryRecord) : Prop where
  delivered : isDelivered record
  idle : ¬isWaiting record

section
variable {env : SupplierEnv} {context : RequestContext} {job : InventoryReplenishmentJob}
  {now : Instant}

theorem isQueued_iff : isQueued job = true ↔ isWaiting job.getReplenishmentSupplier := by
  rw [isQueued, decide_eq_true_iff]
  rfl

theorem isWaiting_of_due (due : isDue now job = true) : isWaiting job.getReplenishmentSupplier := by
  rw [isDue, decide_eq_true_iff] at due
  exact due.1

theorem settled_patch {patch : InventoryRecord} (distinct : (patch.map Prod.fst).Nodup)
    (status : patch.get "lastTransportStatus" = none)
    (action : patch.get "lastTransportAction" = none)
    (reconciled : ∀ fields ∈ patch.get "reconciliation",
      textOf ((asRecord (some fields)).get "status") ≠ some "RETRY_QUEUED")
    (settled : Settled job.getReplenishmentSupplier) :
    Settled (job.patchSupplier now patch).getReplenishmentSupplier := by
  have read (key : String) : (job.patchSupplier now patch).getReplenishmentSupplier.get key =
      (patch.get key).or (job.getReplenishmentSupplier.get key) :=
    supplier_patchSupplier job now patch distinct key
  obtain ⟨⟨completed, name, listed, acted⟩, idle⟩ := settled
  refine ⟨⟨?_, name, listed, ?_⟩, ?_⟩
  · rw [read, status, Option.none_or, completed]
  · rw [read, action, Option.none_or, acted]
  · rw [isWaiting, read]
    cases new : patch.get "reconciliation" with
    | none => exact idle
    | some fields => exact reconciled fields new

theorem settled_completeRetry {execution : TransportHandoffExecution}
    (done : execution.status = .completed) :
    Settled (completeRetry now execution job).getReplenishmentSupplier := by
  have read (key : String) : (completeRetry now execution job).getReplenishmentSupplier.get key =
      (completeRetry now execution job).supplier key := rfl
  refine ⟨⟨?_, "replenishment_supplier_retry_due", by simp [pushActions], ?_⟩, ?_⟩
  · rw [read]
    simp [completeRetry, supplier_patchSupplier, get_cons, done, TransportStatus.text]
  · rw [read]
    simp [completeRetry, supplier_patchSupplier, get_cons]
  · rw [isWaiting, read]
    simp [completeRetry, supplier_patchSupplier, get_cons]

theorem settled_madeRecord {input : HandoffReplenishmentJobDto}
    {connector : IntegrationRegistryEntry}
    (push : (resolveSupplierConnectorRuntime connector).mode = .httpPush)
    (done : (executeHandoff env connector (resolveSupplierConnectorRuntime connector) input
      job).status = .completed) : Settled (madeRecord env context input connector job) := by
  refine ⟨⟨?_, "replenishment_supplier_http_push_handoff", by simp [pushActions], ?_⟩, ?_⟩
  · simp [madeRecord, handedOff, get_cons, done, TransportStatus.text, ofText, Json.ofOption]
  · simp [madeRecord, handedOff, get_cons, push, handoffAction]
  · simp [isWaiting, madeRecord, handedOff, get_cons, asRecord, textOf]

theorem settled_webhook {input : ProcessWebhookDto}
    (settled : Settled job.getReplenishmentSupplier) :
    Settled
      (processReplenishmentSupplierWebhook env context input job).job.getReplenishmentSupplier := by
  unfold processReplenishmentSupplierWebhook
  split
  · exact settled
  · exact settled_patch (by simp) (by simp [get_cons]) (by simp [get_cons])
      (by simp [get_cons, duplicateReconciliation]) settled
  · exact settled_patch (by simp) (by simp [get_cons]) (by simp [get_cons])
      (by simp [get_cons]) settled
  · exact settled_patch (by simp) (by simp [get_cons]) (by simp [get_cons])
      (by simp [get_cons]) settled

theorem settled_import {input : ImportSupplierUpdateDto}
    (settled : Settled job.getReplenishmentSupplier) :
    Settled
      (importReplenishmentSupplierUpdate env context input job).job.getReplenishmentSupplier := by
  unfold importReplenishmentSupplierUpdate
  split
  · exact settled
  · exact settled_patch (by simp) (by simp [get_cons]) (by simp [get_cons])
      (by simp [get_cons, duplicateReconciliation]) settled
  · exact settled_patch (by simp) (by simp [get_cons]) (by simp [get_cons])
      (by simp [get_cons]) settled
  · exact settled_patch (by simp) (by simp [get_cons]) (by simp [get_cons])
      (by simp [get_cons]) settled

def SettledWhenDelivered (h : List JobEvent) (record : InventoryRecord) : Prop :=
  latestDelivery h = some .completed → Settled record

def LeavesDelivered (r : SupplyRequest) (job : InventoryReplenishmentJob) : Prop :=
  isDelivered job.getReplenishmentSupplier →
    JobEvent.queued ∉ eventsOf r job ∧ JobEvent.reopened ∉ eventsOf r job

instance (r : SupplyRequest) (job : InventoryReplenishmentJob) :
    Decidable (LeavesDelivered r job) := by
  unfold LeavesDelivered isDelivered
  infer_instance

theorem settled_deliverRetry (connector : IntegrationRegistryEntry)
    (runtime : SupplierConnectorRuntime) (h : List JobEvent) :
    SettledWhenDelivered (deliveredEvents (deliverRetry env connector runtime job).delivery ++ h)
      (deliverRetry env connector runtime job).job.getReplenishmentSupplier := by
  intro latest
  cases @deliverRetry_cases env job connector runtime with
  | completed done is =>
    rw [is]
    exact settled_completeRetry done
  | decided job' failed next is =>
    rw [is] at latest
    simp [deliveredEvents, failed, latestDelivery] at latest
  | undecided e failed next is =>
    rw [is] at latest
    simp [deliveredEvents, failed, latestDelivery] at latest

theorem settled_processDue {input : RunDueInput}
    (settled : SettledWhenDelivered h job.getReplenishmentSupplier) :
    SettledWhenDelivered
      (deliveredEvents (processDueSupplierRetryTx env input job).delivery ++ h)
      (processDueSupplierRetryTx env input job).job.getReplenishmentSupplier := by
  cases @processDue_cases env job input with
  | left answer is =>
    rw [is]
    exact settled
  | dispatched source due is =>
    rw [is]
    exact fun latest => absurd (isWaiting_of_due due) (settled latest).idle
  | delivered connector runtime due is =>
    rw [is]
    exact settled_deliverRetry connector runtime h

theorem settled_dispatch {input : RunDueInput} {jobId : Id}
    (leaves : LeavesDelivered ⟨env, context, .supplier jobId (.dispatchRetry input)⟩ job)
    (settled : SettledWhenDelivered h job.getReplenishmentSupplier) :
    SettledWhenDelivered
      (eventsOf ⟨env, context, .supplier jobId (.dispatchRetry input)⟩ job ++ h)
      (dispatchReplenishmentSupplierRetry env context input job).job.getReplenishmentSupplier := by
  have events : eventsOf ⟨env, context, .supplier jobId (.dispatchRetry input)⟩ job =
      deliveredEvents (dispatchReplenishmentSupplierRetry env context input job).delivery ++
        takenUp job (dispatchReplenishmentSupplierRetry env context input job).answer.isOk := rfl
  rw [LeavesDelivered, events] at leaves
  rw [events]
  cases @dispatch_cases env context job input with
  | refused e is =>
    rw [is]
    exact settled
  | processed queued input' prepared done answered is =>
    rw [answered] at leaves ⊢
    rw [is] at leaves ⊢
    -- without a delivery the job was delivered before, so it waits only if it is queued now
    have undelivered (none : (processDueSupplierRetryTx env input' queued).delivery = none)
        (latest : latestDelivery ((deliveredEvents (processDueSupplierRetryTx env input'
          queued).delivery ++ takenUp job true) ++ h) = some .completed) : False := by
      rw [none] at latest leaves
      have before : latestDelivery h = some .completed := by
        rw [← latest, takenUp]
        split_ifs <;> rfl
      cases waits : isQueued job with
      | true => exact (settled before).idle (isQueued_iff.mp waits)
      | false =>
        refine (leaves (settled before).delivered).1 ?_
        simp [deliveredEvents, takenUp, waits, Except.isOk, Except.toBool]
    intro latest
    cases @processDue_cases env queued input' with
    | left answer processed => exact absurd latest (undelivered (by rw [processed]))
    | dispatched source due processed => exact absurd latest (undelivered (by rw [processed]))
    | delivered connector runtime due processed =>
      rw [processed, List.append_assoc] at latest
      rw [processed]
      exact settled_deliverRetry connector runtime _ latest
  | takenBack queued input' prepared e failed is =>
    rw [is]
    intro latest
    have untaken := processDue_error failed
    cases delivery : (processDueSupplierRetryTx env input' queued).delivery with
    | none =>
      rw [delivery] at latest
      exact settled latest
    | some execution =>
      simp [delivery, deliveredEvents, untaken execution delivery, latestDelivery] at latest

theorem settled_handoff {input : HandoffReplenishmentJobDto} {jobId : Id}
    (settled : SettledWhenDelivered h job.getReplenishmentSupplier) :
    SettledWhenDelivered (eventsOf ⟨env, context, .supplier jobId (.handoff input)⟩ job ++ h)
      (handoffReplenishmentJob env context input job).job.getReplenishmentSupplier := by
  have events : eventsOf ⟨env, context, .supplier jobId (.handoff input)⟩ job =
      if (handoffReplenishmentJob env context input job).answer.isOk then
        ((handoffReplenishmentJob env context input job).delivery.map fun execution =>
          JobEvent.delivered execution.status).toList ++ [.handedOff] else [] := rfl
  rw [events]
  intro latest
  cases @handoff_cases env context job input with
  | refused e delivery is =>
    rw [is] at latest ⊢
    exact settled latest
  | byHand is =>
    rw [is] at latest
    cases latest
  | prepared connector found other is =>
    rw [is] at latest
    cases latest
  | completed connector found push execution executed done is =>
    rw [is, getReplenishmentSupplier_putSupplier]
    exact settled_madeRecord push (executed ▸ done)
  | failed connector found push execution executed undelivered job' next is =>
    rw [is] at latest
    simp [Except.isOk, Except.toBool, undelivered, latestDelivery] at latest

theorem settled_queue {updated : Except ApiException InventoryReplenishmentJob} {event : JobEvent}
    (silent : latestDelivery (event :: h) = latestDelivery h)
    (leaves : isDelivered job.getReplenishmentSupplier →
      event ∉ if (ofUpdate job updated).answer.isOk then [event] else [])
    (settled : SettledWhenDelivered h job.getReplenishmentSupplier) :
    SettledWhenDelivered ((if (ofUpdate job updated).answer.isOk then [event] else []) ++ h)
      (ofUpdate job updated).job.getReplenishmentSupplier := by
  intro latest
  cases updated with
  | error e => exact settled latest
  | ok job' =>
    have before : latestDelivery h = some .completed := silent ▸ latest
    exact absurd List.mem_cons_self (leaves (settled before).delivered)

theorem settled_update {updated : Except ApiException InventoryReplenishmentJob}
    (kept : ∀ job', updated = .ok job' → Settled job.getReplenishmentSupplier →
      Settled job'.getReplenishmentSupplier) (settled : Settled job.getReplenishmentSupplier) :
    Settled (ofUpdate job updated).job.getReplenishmentSupplier := by
  cases updated with
  | ok job' => exact kept job' rfl settled
  | error e => exact settled

theorem latestDelivery_reported (reports : Option SupplierStatus) (h : List JobEvent) :
    latestDelivery ((reports.map JobEvent.reported).toList ++ h) = latestDelivery h := by
  cases reports <;> rfl

end

/-- What a request does to a job keeps a delivered order out of the retry queue. -/
theorem settled_handler {r : SupplyRequest} {job : InventoryReplenishmentJob}
    (leaves : LeavesDelivered r job)
    (settled : SettledWhenDelivered h job.getReplenishmentSupplier) :
    SettledWhenDelivered (eventsOf r job ++ h) (r.handler job).job.getReplenishmentSupplier := by
  obtain ⟨env, context, call⟩ := r
  cases call with
  | supplier jobId call =>
    cases call with
    | handoff dto => exact settled_handoff settled
    | updateStatus dto =>
      intro latest
      refine settled_update (fun job' updated => ?_) (settled ?_)
      · simp only [updateReplenishmentSupplierStatus, except_bind_ok_iff] at updated
        obtain ⟨_, _, _, _, updated⟩ := updated
        obtain rfl := Except.ok.inj updated
        exact settled_patch (by simp) (by simp [get_cons]) (by simp [get_cons]) (by simp [get_cons])
      · exact (latestDelivery_reported _ h).symm.trans latest
    | syncStatus note =>
      intro latest
      refine settled_update (fun job' updated => ?_) (settled ?_)
      · simp only [syncReplenishmentSupplierStatus, except_bind_ok_iff] at updated
        obtain ⟨_, _, updated⟩ := updated
        obtain rfl := Except.ok.inj updated
        exact settled_patch (by simp) (by simp [get_cons]) (by simp [get_cons]) (by simp [get_cons])
      · exact (latestDelivery_reported _ h).symm.trans latest
    | webhook dto =>
      exact fun latest => settled_webhook
        (settled ((latestDelivery_reported _ h).symm.trans latest))
    | importUpdate dto =>
      exact fun latest => settled_import (settled ((latestDelivery_reported _ h).symm.trans latest))
    | dropFile dto =>
      intro latest
      have before := settled ((latestDelivery_reported _ h).symm.trans latest)
      show Settled (dropReplenishmentSupplierFile env context dto job).job.getReplenishmentSupplier
      unfold dropReplenishmentSupplierFile
      split
      · exact before
      · exact settled_import before
    | replay dto =>
      intro latest
      refine settled_update (fun job' updated => ?_) (settled latest)
      simp only [replayReplenishmentSupplierReconciliation, except_bind_ok_iff] at updated
      obtain ⟨⟨runtime, source, processed⟩, _, updated⟩ := updated
      obtain rfl := Except.ok.inj updated
      cases source <;>
        exact settled_patch (by simp [pendingKey]) (by simp [pendingKey, get_cons])
          (by simp [pendingKey, get_cons]) (by simp [pendingKey, get_cons])
    | reopen dto => exact settled_queue rfl (fun delivered => (leaves delivered).2) settled
    | queueRetry dto => exact settled_queue rfl (fun delivered => (leaves delivered).1) settled
    | dispatchRetry dto => exact settled_dispatch leaves settled
  | queueRetrySweep dto => exact settled_queue rfl (fun delivered => (leaves delivered).1) settled
  | runDueRetries dto => exact settled_processDue settled
  | _ => exact settled

theorem settled_along {id : Id} {s : Supply} (start : s.jobs = []) {rs : List SupplyRequest}
    (along : Trace.Along step
      (fun s r => ∀ job ∈ r.handled s.jobs, job.id = id → LeavesDelivered r job) s rs) :
    JobKeys (run s rs) ∧ ∀ job, jobOf (run s rs) id = some job →
      SettledWhenDelivered (history id s rs) job.getReplenishmentSupplier :=
  history_along (fun latest => by cases latest)
    (fun _ _ _ leaves settled => settled_handler leaves settled) start along

/-- Once the latest delivery of a handoff has succeeded, no sweep delivers the job again before the
next handoff, in a run along which no retry is queued for an order that is delivered. -/
theorem delivered_not_resent {id : Id} {s : Supply} (start : s.jobs = []) {rs : List SupplyRequest}
    (along : Trace.Along step
      (fun s r => ∀ job ∈ r.handled s.jobs, job.id = id → LeavesDelivered r job) s rs)
    (delivered : latestDelivery (history id s rs) = some .completed) (env : SupplierEnv)
    (context : RequestContext) (dto : SweepDto) (status : TransportStatus) :
    .delivered status ∉ eventsAt id (run s rs) ⟨env, context, .runDueRetries dto⟩ := by
  obtain ⟨keys, settled⟩ := settled_along start along
  intro resent
  rw [eventsAt] at resent
  split at resent
  · rename_i job found
    obtain ⟨listed, here⟩ := Rows.find_some found
    have stored : jobOf (run s rs) id = some job := by
      rw [jobOf, ← here]
      exact Rows.find_of_mem keys.unique ((handled_unique keys.unique _).1 job listed)
    have idle := (settled job stored delivered).idle
    change JobEvent.delivered status ∈
      deliveredEvents (processDueSupplierRetryTx env ⟨dto.source, dto.note⟩ job).delivery at resent
    cases @processDue_cases env job ⟨dto.source, dto.note⟩ with
    | left answer is => simp [is, deliveredEvents] at resent
    | dispatched source due is => exact idle (isWaiting_of_due due)
    | delivered connector runtime due is => exact idle (isWaiting_of_due (dueRetry_some due).2.2.1)
  · simp at resent

def deliveredOrder : List SupplyRequest :=
  dairyOrder pushes (.failed "fetch failed") ++
    [dairySweep 5 (.failed "fetch failed"), dairySweep 6 (.answered 200 (.obj []))]

theorem deliveredOrder_not_resent :
    .delivered .completed ∉ eventsAt 100 (run dairy deliveredOrder)
      (dairySweep 7 (.answered 200 (.obj []))) := by
  have start : dairy.jobs = [] := rfl
  have along : Trace.Along step
      (fun s r => ∀ job ∈ r.handled s.jobs, job.id = 100 → LeavesDelivered r job) dairy
      deliveredOrder := by decide +kernel
  exact delivered_not_resent start along (by decide +kernel) _ _ _ .completed

/-- A retry is queued for the delivered order, and the next sweep delivers it again. -/
theorem deliveredOrder_resent :
    let rs := deliveredOrder ++
      [dairyAt pushes 7 (.failed "fetch failed") (.supplier 100 (.queueRetry {}))]
    latestDelivery (history 100 dairy rs) = some .completed ∧
      .delivered .completed ∈ eventsAt 100 (run dairy rs)
        (dairySweep 8 (.answered 200 (.obj []))) := by
  decide +kernel

end Exetron.Replenishment
