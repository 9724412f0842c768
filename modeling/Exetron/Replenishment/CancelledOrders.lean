import Exetron.Replenishment.Steps

/-!
# Cancelled supplier orders

A receipt is refused for a job whose supplier order stands as cancelled. What stands is the status
reported last, so a later report lets a receipt in again.
-/

namespace Exetron.Replenishment

open Lib Inventory.Service InventoryReplenishmentJob Record

variable {job' : InventoryReplenishmentJob}

def isCancelledSince : List JobEvent → Bool
  | [] => false
  | .handedOff :: _ => false
  | .reported .cancelled :: _ => true
  | _ :: h => isCancelledSince h

def isCancelled (record : InventoryRecord) : Prop :=
  textOf (record.get "supplierStatus") = some "CANCELLED"

def StandsReported (events : List JobEvent) (before after : Option Json) : Prop :=
  (∀ status, .reported status ∉ events) ∧ after = before ∨
    ∃ status, (∀ other, .reported other ∈ events ↔ other = status) ∧
      after = some (.str status.text)

section
variable {env : SupplierEnv} {context : RequestContext} {job : InventoryReplenishmentJob}

theorem standsReported_none {status : Option Json} : StandsReported [] status status :=
  .inl ⟨fun _ => by simp, rfl⟩

theorem standsReported_one {before : Option Json} (status : SupplierStatus) :
    StandsReported [.reported status] before (some (.str status.text)) :=
  .inr ⟨status, fun other => by simp, rfl⟩

theorem supplierStatus_queueRetry (now : Instant) (input : QueueRetryInput)
    (source : SupplierSource) (job : InventoryReplenishmentJob) :
    (queueRetry now input source job).supplier "supplierStatus" = job.supplier "supplierStatus" := by
  simp [queueRetry, supplier_patchSupplier, get_cons]

theorem supplierStatus_markDeadLetter (now : Instant) (input : DeadLetter)
    (job : InventoryReplenishmentJob) :
    (markSupplierDeadLetterTx now input job).supplier "supplierStatus" =
      job.supplier "supplierStatus" := by
  simp [markSupplierDeadLetterTx, supplier_patchSupplier, get_cons]

theorem supplierStatus_failRetry (now : Instant) (execution : TransportHandoffExecution)
    (job : InventoryReplenishmentJob) :
    (failRetry now execution job).supplier "supplierStatus" = job.supplier "supplierStatus" := by
  simp [failRetry, supplier_patchSupplier, get_cons]

theorem supplierStatus_queued {input : QueueRetryInput}
    (queued : queueSupplierRetryTx env input job = .ok job') :
    job'.supplier "supplierStatus" = job.supplier "supplierStatus" := by
  obtain ⟨source, _, rfl⟩ := queueSupplierRetryTx_ok_iff.mp queued
  exact supplierStatus_queueRetry ..

theorem supplierStatus_afterFailedRetry {runtime : SupplierConnectorRuntime}
    {execution : TransportHandoffExecution}
    (decided : afterFailedRetry env runtime execution job = .ok job') :
    job'.supplier "supplierStatus" = job.supplier "supplierStatus" := by
  simp only [afterFailedRetry] at decided
  split at decided
  · exact supplierStatus_queued decided
  · obtain rfl := Except.ok.inj decided
    exact supplierStatus_markDeadLetter ..

theorem processDue_stands (input : RunDueInput) :
    let processed := processDueSupplierRetryTx env input job
    StandsReported (deliveredEvents processed.delivery) (job.supplier "supplierStatus")
      (processed.job.supplier "supplierStatus") := by
  cases @processDue_cases env job input with
  | left answer is =>
    rw [is]
    exact standsReported_none
  | dispatched source due is =>
    rw [is]
    refine .inl ⟨fun _ => by simp [deliveredEvents], ?_⟩
    simp [dispatchRetry, supplier_patchSupplier, get_cons]
  | delivered connector runtime due is =>
    rw [is]
    cases @deliverRetry_cases env job connector runtime with
    | completed done is =>
      rw [is]
      refine .inr ⟨(pushRetry env connector runtime job).supplierStatus, fun other => ?_, ?_⟩
      · simp [deliveredEvents, done]
      · simp [completeRetry, supplier_patchSupplier, get_cons]
    | decided job' failed next is =>
      rw [is]
      refine .inl ⟨fun _ => by simp [deliveredEvents, failed], ?_⟩
      exact (supplierStatus_afterFailedRetry next).trans (supplierStatus_failRetry ..)
    | undecided e failed next is =>
      rw [is]
      exact .inl ⟨fun _ => by simp [deliveredEvents, failed], supplierStatus_failRetry ..⟩

theorem prepareDispatch_stands {input : RunDueInput}
    (prepared : prepareDispatch env context input job = .ok job') :
    job'.supplier "supplierStatus" = job.supplier "supplierStatus" := by
  obtain ⟨_, queued, queueing, rfl⟩ := prepareDispatch_ok prepared
  have first : queued.supplier "supplierStatus" = job.supplier "supplierStatus" := by
    rcases queueing with ⟨_, rfl⟩ | ⟨_, queueing⟩
    · rfl
    · exact supplierStatus_queued queueing
  rw [← first]
  split
  · simp [makeDue, supplier_patchSupplier, get_cons]
  · rfl

theorem dispatchRetry_stands (input : RunDueInput) :
    let dispatched := dispatchReplenishmentSupplierRetry env context input job
    StandsReported (deliveredEvents dispatched.delivery) (job.supplier "supplierStatus")
      (dispatched.job.supplier "supplierStatus") := by
  cases @dispatch_cases env context job input with
  | refused e is =>
    rw [is]
    exact standsReported_none
  | processed queued input' prepared done answered is =>
    rw [is, ← prepareDispatch_stands prepared]
    exact processDue_stands _
  | takenBack queued input' prepared e failed is =>
    rw [is]
    refine .inl ⟨fun status => ?_, rfl⟩
    have untaken := processDue_error failed
    cases delivery : (processDueSupplierRetryTx env input' queued).delivery with
    | none => simp [deliveredEvents]
    | some execution => simp [deliveredEvents, untaken execution delivery]

theorem webhook_stands (dto : ProcessWebhookDto) :
    StandsReported ((((SupplierCall.webhook dto).reported env context job).map
        JobEvent.reported).toList) (job.supplier "supplierStatus")
      ((processReplenishmentSupplierWebhook env context dto job).job.supplier "supplierStatus") := by
  cases received : receiveWebhook env context dto job with
  | error e =>
    simp only [processReplenishmentSupplierWebhook, SupplierCall.reported, received]
    exact standsReported_none
  | ok found =>
    obtain ⟨runtime, reception⟩ := found
    simp only [processReplenishmentSupplierWebhook, SupplierCall.reported, received]
    cases reception with
    | duplicate =>
      refine .inl ⟨fun _ => by simp, ?_⟩
      simp [duplicateWebhook, supplier_patchSupplier, get_cons]
    | failed failure =>
      refine .inl ⟨fun _ => by simp, ?_⟩
      simp [recordSupplierReconciliationFailure, supplier_patchSupplier, get_cons]
    | accepted acceptance =>
      have stands : (applyWebhook env context runtime dto acceptance job).supplier
          "supplierStatus" = some (.str (webhookStatus runtime dto).1.text) := by
        simp [applyWebhook, supplier_patchSupplier, get_cons]
      dsimp only
      rw [stands]
      exact standsReported_one _

theorem import_stands (dto : ImportSupplierUpdateDto) :
    StandsReported (((importReported env context dto job).map JobEvent.reported).toList)
      (job.supplier "supplierStatus")
      ((importReplenishmentSupplierUpdate env context dto job).job.supplier "supplierStatus") := by
  cases received : receiveImport env context dto job with
  | error e =>
    simp only [importReplenishmentSupplierUpdate, importReported, received]
    exact standsReported_none
  | ok found =>
    obtain ⟨runtime, reception⟩ := found
    simp only [importReplenishmentSupplierUpdate, importReported, received]
    cases reception with
    | duplicate =>
      refine .inl ⟨fun _ => by simp, ?_⟩
      simp [duplicateImport, supplier_patchSupplier, get_cons]
    | failed failure =>
      refine .inl ⟨fun _ => by simp, ?_⟩
      simp [recordSupplierReconciliationFailure, supplier_patchSupplier, get_cons]
    | accepted verified =>
      have stands : (applyImport env context runtime dto verified job).supplier
          "supplierStatus" = some (.str (importStatus runtime dto).1.text) := by
        simp [applyImport, supplier_patchSupplier, get_cons]
      dsimp only
      rw [stands]
      exact standsReported_one _

theorem drop_stands (dto : DropSupplierFileDto) :
    StandsReported ((((SupplierCall.dropFile dto).reported env context job).map
        JobEvent.reported).toList) (job.supplier "supplierStatus")
      ((dropReplenishmentSupplierFile env context dto job).job.supplier "supplierStatus") := by
  unfold dropReplenishmentSupplierFile SupplierCall.reported
  dsimp only
  cases prepared : prepareFileDrop env context dto job with
  | error e => exact standsReported_none
  | ok input => exact import_stands input

theorem ofUpdate_stands {updated : Except ApiException InventoryReplenishmentJob}
    {reports : Option SupplierStatus} (failed : ∀ e, updated = .error e → reports = none)
    (done : ∀ job', updated = .ok job' → StandsReported ((reports.map JobEvent.reported).toList)
      (job.supplier "supplierStatus") (job'.supplier "supplierStatus")) :
    StandsReported ((reports.map JobEvent.reported).toList) (job.supplier "supplierStatus")
      ((ofUpdate job updated).job.supplier "supplierStatus") := by
  cases result : updated with
  | ok job' => exact done job' result
  | error e =>
    rw [failed e result]
    exact standsReported_none

theorem updateStatus_stands (dto : UpdateSupplierStatusDto) :
    StandsReported ((((SupplierCall.updateStatus dto).reported env context job).map
        JobEvent.reported).toList) (job.supplier "supplierStatus")
      ((ofUpdate job (updateReplenishmentSupplierStatus env context dto job)).job.supplier
        "supplierStatus") := by
  refine ofUpdate_stands (fun e failed => ?_) fun job' updated => ?_
  · simp [SupplierCall.reported, failed, Except.toOption]
  · simp only [SupplierCall.reported, updated, Except.toOption, Option.map_some]
    simp only [updateReplenishmentSupplierStatus, except_bind_ok_iff] at updated
    obtain ⟨_, _, _, _, updated⟩ := updated
    obtain rfl := Except.ok.inj updated
    rw [supplier_patchSupplier _ _ _ (by simp)]
    exact standsReported_one _

theorem syncStatus_stands (note : Option String) :
    StandsReported ((((SupplierCall.syncStatus note).reported env context job).map
        JobEvent.reported).toList) (job.supplier "supplierStatus")
      ((ofUpdate job (syncReplenishmentSupplierStatus env context note job)).job.supplier
        "supplierStatus") := by
  refine ofUpdate_stands (fun e failed => ?_) fun job' updated => ?_
  · cases polled : pollSupplier env context job with
    | error _ => simp [SupplierCall.reported, polled, Except.toOption]
    | ok status =>
      rw [syncReplenishmentSupplierStatus, polled] at failed
      cases failed
  · simp only [syncReplenishmentSupplierStatus, except_bind_ok_iff] at updated
    obtain ⟨status, polled, updated⟩ := updated
    obtain rfl := Except.ok.inj updated
    simp only [SupplierCall.reported, polled, Except.toOption, Option.map_some]
    rw [supplier_patchSupplier _ _ _ (by simp)]
    exact standsReported_one _

theorem replay_stands {dto : ReplayReconciliationDto}
    (replayed : replayReplenishmentSupplierReconciliation env context dto job = .ok job') :
    job'.supplier "supplierStatus" = job.supplier "supplierStatus" := by
  simp only [replayReplenishmentSupplierReconciliation, except_bind_ok_iff] at replayed
  obtain ⟨⟨runtime, source, processed⟩, _, replayed⟩ := replayed
  obtain rfl := Except.ok.inj replayed
  cases source <;> simp [pendingKey, supplier_patchSupplier, get_cons]

end

/-- A request that is no handoff leaves the status that stands, or reports the one it leaves. -/
theorem handler_stands (r : SupplyRequest) (job : InventoryReplenishmentJob)
    (other : r.call.isHandoff = false) :
    StandsReported (eventsOf r job) (job.supplier "supplierStatus")
      ((r.handler job).job.supplier "supplierStatus") := by
  have quiet {events : List JobEvent} {p : Prop} [Decidable p]
      (silent : ∀ status, .reported status ∉ events) :
      ∀ status, .reported status ∉ if p then events else [] := by
    split
    · exact silent
    · simp
  have queued {updated : Except ApiException InventoryReplenishmentJob}
      (kept : ∀ job', updated = .ok job' →
        job'.supplier "supplierStatus" = job.supplier "supplierStatus") :
      (ofUpdate job updated).job.supplier "supplierStatus" = job.supplier "supplierStatus" := by
    cases updated with
    | ok job' => exact kept job' rfl
    | error e => rfl
  obtain ⟨env, context, call⟩ := r
  cases call with
  | supplier jobId call =>
    cases call with
    | handoff dto => cases other
    | updateStatus dto => exact updateStatus_stands dto
    | syncStatus note => exact syncStatus_stands note
    | webhook dto => exact webhook_stands dto
    | importUpdate dto => exact import_stands dto
    | dropFile dto => exact drop_stands dto
    | replay dto => exact .inl ⟨fun _ => by simp [eventsOf, SupplierCall.reported],
        queued fun _ => replay_stands⟩
    | reopen dto =>
      refine .inl ⟨quiet (by simp), queued fun job' reopened => ?_⟩
      simp only [reopenReplenishmentSupplierDeadLetter, except_bind_ok_iff] at reopened
      obtain ⟨_, _, _, _, reopened⟩ := reopened
      exact supplierStatus_queued reopened
    | queueRetry dto =>
      refine .inl ⟨quiet (by simp), queued fun job' retried => ?_⟩
      simp only [queueReplenishmentSupplierRetry, except_bind_ok_iff] at retried
      obtain ⟨_, _, retried⟩ := retried
      exact supplierStatus_queued retried
    | dispatchRetry dto =>
      have silent : ∀ status, .reported status ∉
          takenUp job (dispatchReplenishmentSupplierRetry env context dto job).answer.isOk :=
        quiet fun status => by
          split
          · exact quiet (by simp) status
          · simp
      rcases @dispatchRetry_stands env context job dto with
        ⟨unreported, same⟩ | ⟨status, only, stands⟩
      · refine .inl ⟨fun status listed => ?_, same⟩
        rcases List.mem_append.mp listed with listed | listed
        · exact unreported status listed
        · exact silent status listed
      · refine .inr ⟨status, fun other => ?_, stands⟩
        rw [← only other]
        exact ⟨fun listed => (List.mem_append.mp listed).resolve_right (silent other),
          fun listed => List.mem_append_left _ listed⟩
  | queueRetrySweep dto =>
    exact .inl ⟨quiet (by simp), queued fun _ => supplierStatus_queued⟩
  | runDueRetries dto => exact processDue_stands _
  | _ => exact standsReported_none

/-- The statuses that a request reports for a job, the latest first. -/
def reportsOf (r : SupplyRequest) (job : InventoryReplenishmentJob) : List SupplierStatus :=
  (eventsOf r job).filterMap fun
    | .reported status => some status
    | _ => none

theorem mem_reportsOf {r : SupplyRequest} {job : InventoryReplenishmentJob}
    {status : SupplierStatus} : status ∈ reportsOf r job ↔ .reported status ∈ eventsOf r job := by
  rw [reportsOf, List.mem_filterMap]
  constructor
  · rintro ⟨event, listed, is⟩
    cases event <;> simp_all
  · exact fun listed => ⟨_, listed, rfl⟩

/-- While the order stands as cancelled, only a handoff ends that. -/
def KeepsCancelled (r : SupplyRequest) (job : InventoryReplenishmentJob) : Prop :=
  r.call.isHandoff = true ∨ (isCancelled job.getReplenishmentSupplier →
    ∀ status ∈ reportsOf r job, status = .cancelled)

instance (r : SupplyRequest) (job : InventoryReplenishmentJob) : Decidable (KeepsCancelled r job) := by
  unfold KeepsCancelled isCancelled
  infer_instance

theorem isCancelledSince_append {events h : List JobEvent}
    (since : isCancelledSince (events ++ h) = true) :
    .reported .cancelled ∈ events ∨ isCancelledSince h = true := by
  induction events with
  | nil => exact .inr since
  | cons event events ih =>
    have later (since : isCancelledSince (events ++ h) = true) :
        .reported .cancelled ∈ event :: events ∨ isCancelledSince h = true :=
      (ih since).imp_left fun listed => List.mem_cons_of_mem _ listed
    cases event with
    | handedOff => cases since
    | reported status =>
      by_cases here : status = .cancelled
      · exact .inl (by simp [here])
      · cases status <;> first | exact absurd rfl here | exact later since
    | delivered status => exact later since
    | queued => exact later since
    | reopened => exact later since

theorem handoff_ends {r : SupplyRequest} {job : InventoryReplenishmentJob}
    (handoff : r.call.isHandoff = true) (h : List JobEvent) :
    isCancelledSince (eventsOf r job ++ h) = false ∨
      eventsOf r job = [] ∧ (r.handler job).job = job := by
  obtain ⟨env, context, call⟩ := r
  cases call with
  | supplier jobId call =>
    cases call with
    | handoff dto =>
      cases answer : (handoffReplenishmentJob env context dto job).answer with
      | error e =>
        refine .inr ⟨?_, handoff_error answer⟩
        simp [eventsOf, SupplyRequest.handler, SupplierCall.handle, answer, Except.isOk,
          Except.toBool]
      | ok done =>
        left
        simp only [eventsOf, SupplyRequest.handler, SupplierCall.handle, answer, Except.isOk,
          Except.toBool, if_true]
        cases (handoffReplenishmentJob env context dto job).delivery <;> rfl
    | _ => cases handoff
  | _ => cases handoff

theorem cancelled_along {id : Id} {s : Supply} (start : s.jobs = []) {rs : List SupplyRequest}
    (along : Trace.Along step
      (fun s r => ∀ job ∈ r.handled s.jobs, job.id = id → KeepsCancelled r job) s rs) :
    ∀ job, jobOf (run s rs) id = some job → isCancelledSince (history id s rs) = true →
      isCancelled job.getReplenishmentSupplier := by
  refine (history_along (C := KeepsCancelled)
    (Q := fun h record => isCancelledSince h = true → isCancelled record) ?_ ?_ start along).2
  · intro since
    cases since
  · intro h r job keeps cancelled since
    cases handoff : r.call.isHandoff with
    | true =>
      rcases handoff_ends handoff h with ended | ⟨none, same⟩
      · rw [ended] at since
        cases since
      · rw [none] at since
        rw [same]
        exact cancelled since
    | false =>
      have only := keeps.resolve_left (by simp [handoff])
      rcases handler_stands r job handoff with ⟨unreported, same⟩ | ⟨status, listed, stands⟩
      · have before : isCancelled job.getReplenishmentSupplier :=
          cancelled ((isCancelledSince_append since).resolve_left (unreported _))
        rw [isCancelled] at before ⊢
        rw [← before]
        exact congrArg textOf same
      · have is : status = .cancelled := by
          rcases isCancelledSince_append since with reported | earlier
          · exact ((listed _).mp reported).symm
          · exact only (cancelled earlier) status (mem_reportsOf.mpr ((listed status).mpr rfl))
        rw [isCancelled]
        show textOf ((r.handler job).job.supplier "supplierStatus") = _
        rw [stands, is]
        rfl

theorem receive_refuses {s : Supply} {id : Id}
    (cancelled : ∀ job, jobOf s id = some job → isCancelled job.getReplenishmentSupplier)
    (now : Instant) (context : RequestContext) (dto : ReceiveReplenishmentJobDto) :
    Call.Refuses (Call.transact (receiveReplenishmentJobTx now context id dto)) s := by
  refine Call.refuses_transact fun received t done => ?_
  obtain ⟨current, warehouseId, admitted, _⟩ := receiveReplenishmentJobTx_ok done
  simp only [admitReceipt, admitJob, getReplenishmentJobModelTx, except_bind_ok_iff,
    required_ok_iff, rejectIf_ok_iff] at admitted
  obtain ⟨_, ⟨job, found, _, _, here⟩, _, _, _, _, _, open', _⟩ := admitted
  obtain rfl := Except.ok.inj here
  exact open' (cancelled job found)

/-- Once a cancellation was reported for a handoff, no receipt of the job succeeds before the next
handoff, in a run along which no other status is reported for an order that stands as cancelled. -/
theorem cancelled_not_received {id : Id} {s : Supply} (start : s.jobs = [])
    {rs : List SupplyRequest} (along : Trace.Along step
      (fun s r => ∀ job ∈ r.handled s.jobs, job.id = id → KeepsCancelled r job) s rs)
    (since : isCancelledSince (history id s rs) = true) (now : Instant) (context : RequestContext)
    (dto : ReceiveReplenishmentJobDto) :
    Call.Refuses (Call.transact (receiveReplenishmentJobTx now context id dto)) (run s rs) :=
  receive_refuses (fun job found => cancelled_along start along job found since) now context dto

def callbacks : InventoryRecord := [("mode", .str "WEBHOOK"), ("allowsPolling", .bool true)]

def dairyReports (now : Instant) (deliveryId : String) (supplierStatus : SupplierStatus) :
    SupplyRequest :=
  dairyAt callbacks now (.failed "fetch failed")
    (.supplier 100 (.webhook { deliveryId, supplierStatus }))

def cancelledOrder : List SupplyRequest :=
  dairyOrder callbacks (.failed "fetch failed") ++ [dairyReports 5 "d1" .cancelled]

theorem cancelledOrder_not_received :
    Call.Refuses (Call.transact (receiveReplenishmentJobTx 7 ⟨"manager", some 1, .tenantMember, [],
      none⟩ 100 {})) (run dairy cancelledOrder) := by
  have start : dairy.jobs = [] := rfl
  have along : Trace.Along step
      (fun s r => ∀ job ∈ r.handled s.jobs, job.id = 100 → KeepsCancelled r job) dairy
      cancelledOrder := by decide +kernel
  exact cancelled_not_received start along (by decide +kernel) 7 _ {}

/-- A poll takes the cancelled order for a delivered one, and the job is received. -/
theorem cancelledOrder_received : let rs := cancelledOrder ++
      [dairyAt callbacks 6 (.failed "fetch failed") (.supplier 100 (.syncStatus none))]
    isCancelledSince (history 100 dairy rs) = true ∧
      (Call.exec (Call.transact (receiveReplenishmentJobTx 7 ⟨"manager", some 1, .tenantMember, [],
        none⟩ 100 {})) (run dairy rs)).1.isOk = true := by
  decide +kernel

end Exetron.Replenishment
