import Exetron.Inventory.Runs
import Exetron.Replenishment.Calls

/-!
# The step of a job

A request touches a job in one of three ways: it handles the job, it moves the job on without its
supplier record, or it leaves it. What the handling of a job keeps of its supplier record and of what
has happened to it holds after every run.
-/

namespace Exetron.Replenishment

open Lib Inventory.Service InventoryReplenishmentJob List Tx Record

variable {input : RunDueInput} {s t : Supply} {id : Id} {now : Instant} {r : SupplyRequest}
  {runtime : SupplierConnectorRuntime} {received : ReceivingRecord × List ReceivingLine}

/-- Only the supplier record of the job is changed, and the stamp of the row. -/
structure SupplierOnly (job job' : InventoryReplenishmentJob) : Prop where
  row : job' = { job with artifact := job'.artifact, updatedAt := job'.updatedAt }
  artifact : ∀ key ≠ "workflow",
    (asRecord (some job'.artifact)).get key = (asRecord (some job.artifact)).get key
  workflow : ∀ key ≠ "supplier",
    job'.getReplenishmentWorkflow.get key = job.getReplenishmentWorkflow.get key

namespace SupplierOnly

variable {a b c : InventoryReplenishmentJob}

theorem refl (job : InventoryReplenishmentJob) : SupplierOnly job job :=
  ⟨rfl, fun _ _ => rfl, fun _ _ => rfl⟩

theorem trans (hab : SupplierOnly a b) (hbc : SupplierOnly b c) : SupplierOnly a c where
  row := by rw [hbc.row, hab.row]
  artifact key other := (hbc.artifact key other).trans (hab.artifact key other)
  workflow key other := (hbc.workflow key other).trans (hab.workflow key other)

theorem putSupplier (job : InventoryReplenishmentJob) (now : Instant) (record : InventoryRecord) :
    SupplierOnly job (job.putSupplier now record) where
  row := rfl
  artifact _ other := artifact_putSupplier job now record other
  workflow key other := by rw [workflow_putSupplier, get_set, if_neg other.symm]

theorem patchSupplier (job : InventoryReplenishmentJob) (now : Instant) (patch : InventoryRecord) :
    SupplierOnly job (job.patchSupplier now patch) :=
  putSupplier job now _

theorem id_eq (only : SupplierOnly a b) : b.id = a.id := by rw [only.row]

theorem tenantId_eq (only : SupplierOnly a b) : b.tenantId = a.tenantId := by rw [only.row]

theorem status_eq (only : SupplierOnly a b) : b.status = a.status := by rw [only.row]

end SupplierOnly

section
variable {env : SupplierEnv} {context : RequestContext} {job job' : InventoryReplenishmentJob}

theorem webhook_only (input : ProcessWebhookDto) :
    SupplierOnly job (processReplenishmentSupplierWebhook env context input job).job := by
  unfold processReplenishmentSupplierWebhook
  split
  · exact .refl job
  all_goals exact .patchSupplier ..

theorem import_only (input : ImportSupplierUpdateDto) :
    SupplierOnly job (importReplenishmentSupplierUpdate env context input job).job := by
  unfold importReplenishmentSupplierUpdate
  split
  · exact .refl job
  all_goals exact .patchSupplier ..

theorem drop_only (input : DropSupplierFileDto) :
    SupplierOnly job (dropReplenishmentSupplierFile env context input job).job := by
  unfold dropReplenishmentSupplierFile
  split
  · exact .refl job
  · exact import_only _

theorem queueSupplierRetryTx_ok_iff {input : QueueRetryInput} :
    queueSupplierRetryTx env input job = .ok job' ↔
      ∃ source, admitRetry env input job = .ok source ∧ job' = queueRetry env.now input source job := by
  simp only [queueSupplierRetryTx, except_bind_ok_iff, except_pure_ok_iff]
  exact exists_congr fun _ => and_congr_right fun _ => eq_comm

theorem queue_only {input : QueueRetryInput} (queued : queueSupplierRetryTx env input job = .ok job') :
    SupplierOnly job job' := by
  obtain ⟨source, _, rfl⟩ := queueSupplierRetryTx_ok_iff.mp queued
  exact .patchSupplier ..

theorem afterFailedRetry_only {execution : TransportHandoffExecution}
    (decided : afterFailedRetry env runtime execution job = .ok job') : SupplierOnly job job' := by
  simp only [afterFailedRetry] at decided
  split at decided
  · exact queue_only decided
  · obtain rfl := Except.ok.inj decided
    exact .patchSupplier ..

theorem afterFailedHandoff_only {execution : TransportHandoffExecution}
    (decided : afterFailedHandoff env runtime execution job = .ok job') :
    SupplierOnly job job' := by
  simp only [afterFailedHandoff] at decided
  split at decided
  · exact queue_only decided
  · split at decided
    · obtain rfl := Except.ok.inj decided
      exact .patchSupplier ..
    · obtain rfl := Except.ok.inj decided
      exact .refl _

theorem dueRetry_some {connector : IntegrationRegistryEntry} {source : SupplierSource}
    (due : dueRetry env input job = .ok (some (connector, runtime, source))) :
    (∃ key, connectorKeyOf job = some key ∧
      requireSupplierConnectorTx env.integrationRegistry job.tenantId key = .ok connector) ∧
    runtime = resolveSupplierConnectorRuntime connector ∧ isDue env.now job = true ∧
    (source = .httpPush → runtime.mode = .httpPush) := by
  cases keyed : connectorKeyOf job with
  | none =>
    simp only [dueRetry, keyed] at due
    cases due
  | some key =>
    simp only [dueRetry, keyed, except_bind_ok_iff] at due
    obtain ⟨found, offered, due⟩ := due
    split at due
    · cases due
    · split at due
      · cases due
      · rename_i waits
        have isDue' : isDue env.now job = true := by simpa using waits
        split at due
        · rename_i notPush
          obtain ⟨rfl, rfl, rfl⟩ := by simpa [pure, Except.pure] using due
          exact ⟨⟨key, rfl, offered⟩, rfl, isDue', fun push => absurd push notPush⟩
        · split at due
          · cases due
          · split at due
            · cases due
            · rename_i push
              obtain ⟨_, _, due⟩ := except_bind_ok_iff.mp due
              obtain ⟨rfl, rfl, rfl⟩ := by simpa [pure, Except.pure] using due
              exact ⟨⟨key, rfl, offered⟩, rfl, isDue', fun _ => not_not.mp push⟩

/-- A retry that a sweep looks at is left, is sent to a channel on which the supplier calls back, or
is delivered. -/
inductive RetryProcessed (env : SupplierEnv) (input : RunDueInput) (job : InventoryReplenishmentJob)
    (p : Delivered) : Prop
  | left (answer : Except ApiException Bool) (is : p = ⟨answer, job, none⟩)
  | dispatched (source : SupplierSource) (due : isDue env.now job = true)
      (is : p = ⟨.ok true, dispatchRetry env.now source input job, none⟩)
  | delivered (connector : IntegrationRegistryEntry) (runtime : SupplierConnectorRuntime)
      (due : dueRetry env input job = .ok (some (connector, runtime, .httpPush)))
      (is : p = deliverRetry env connector runtime job)

theorem processDue_cases (input : RunDueInput) :
    RetryProcessed env input job (processDueSupplierRetryTx env input job) := by
  unfold processDueSupplierRetryTx
  split
  · exact .left _ rfl
  · exact .left _ rfl
  · rename_i connector runtime source due
    split
    · rename_i push
      obtain rfl := push
      exact .delivered connector runtime due rfl
    · exact .dispatched source (dueRetry_some due).2.2.1 rfl

/-- A delivery of a retry succeeds, or it fails and the failure is decided upon. -/
inductive RetryDelivered (env : SupplierEnv) (runtime : SupplierConnectorRuntime)
    (job : InventoryReplenishmentJob) (execution : TransportHandoffExecution) (p : Delivered) : Prop
  | completed (done : execution.status = .completed)
      (is : p = ⟨.ok true, completeRetry env.now execution job, some execution⟩)
  | decided (job' : InventoryReplenishmentJob) (failed : execution.status = .failed)
      (next : afterFailedRetry env runtime execution (failRetry env.now execution job) = .ok job')
      (is : p = ⟨.ok true, job', some execution⟩)
  | undecided (e : ApiException) (failed : execution.status = .failed)
      (next : afterFailedRetry env runtime execution (failRetry env.now execution job) = .error e)
      (is : p = ⟨.error e, failRetry env.now execution job, some execution⟩)

theorem deliverRetry_cases (connector : IntegrationRegistryEntry)
    (runtime : SupplierConnectorRuntime) :
    RetryDelivered env runtime job (pushRetry env connector runtime job)
      (deliverRetry env connector runtime job) := by
  unfold deliverRetry
  dsimp only
  split
  · exact .completed ‹_› rfl
  · split
    · exact .decided _ ‹_› ‹_› rfl
    · exact .undecided _ ‹_› ‹_› rfl

theorem deliverRetry_only (connector : IntegrationRegistryEntry)
    (runtime : SupplierConnectorRuntime) :
    SupplierOnly job (deliverRetry env connector runtime job).job := by
  cases @deliverRetry_cases env job connector runtime with
  | completed done is => exact is ▸ .patchSupplier ..
  | decided job' failed next is =>
    rw [is]
    exact .trans (.patchSupplier ..) (afterFailedRetry_only next)
  | undecided e failed next is => exact is ▸ .patchSupplier ..

theorem processDue_only (input : RunDueInput) :
    SupplierOnly job (processDueSupplierRetryTx env input job).job := by
  cases @processDue_cases env job input with
  | left answer is => exact is ▸ .refl job
  | dispatched source due is => exact is ▸ .patchSupplier ..
  | delivered connector runtime due is => exact is ▸ deliverRetry_only connector runtime

def madeRecord (env : SupplierEnv) (context : RequestContext) (input : HandoffReplenishmentJobDto)
    (connector : IntegrationRegistryEntry) (job : InventoryReplenishmentJob) : InventoryRecord :=
  handedOff env context input (some connector)
    (some (executeHandoff env connector (resolveSupplierConnectorRuntime connector) input job))

/-- A handoff is refused, is made by hand, is made to a connector that takes no pushes, or is pushed,
and then a failure is decided upon. -/
inductive HandoffMade (env : SupplierEnv) (context : RequestContext)
    (input : HandoffReplenishmentJobDto) (job : InventoryReplenishmentJob) (p : Delivered) : Prop
  | refused (e : ApiException) (delivery : Option TransportHandoffExecution)
      (is : p = ⟨.error e, job, delivery⟩)
  | byHand (is : p = ⟨.ok true,
      job.putSupplier env.now (handedOff env context input none none), none⟩)
  | prepared (connector : IntegrationRegistryEntry)
      (found : handoffConnector env input job = .ok (some connector))
      (other : (resolveSupplierConnectorRuntime connector).mode ≠ .httpPush)
      (is : p = ⟨.ok true,
        job.putSupplier env.now (madeRecord env context input connector job), none⟩)
  | completed (connector : IntegrationRegistryEntry)
      (found : handoffConnector env input job = .ok (some connector))
      (push : (resolveSupplierConnectorRuntime connector).mode = .httpPush)
      (execution : TransportHandoffExecution)
      (executed : execution =
        executeHandoff env connector (resolveSupplierConnectorRuntime connector) input job)
      (done : execution.status = .completed)
      (is : p = ⟨.ok true, job.putSupplier env.now (madeRecord env context input connector job),
        some execution⟩)
  | failed (connector : IntegrationRegistryEntry)
      (found : handoffConnector env input job = .ok (some connector))
      (push : (resolveSupplierConnectorRuntime connector).mode = .httpPush)
      (execution : TransportHandoffExecution)
      (executed : execution =
        executeHandoff env connector (resolveSupplierConnectorRuntime connector) input job)
      (undelivered : execution.status = .failed) (job' : InventoryReplenishmentJob)
      (next : afterFailedHandoff env (resolveSupplierConnectorRuntime connector) execution
        (job.putSupplier env.now (madeRecord env context input connector job)) = .ok job')
      (is : p = ⟨.ok true, job', some execution⟩)

theorem admitHandoff_some {input : HandoffReplenishmentJobDto} {connector : IntegrationRegistryEntry}
    (admitted : admitHandoff env context input job = .ok (some connector)) :
    handoffConnector env input job = .ok (some connector) := by
  simp only [admitHandoff, except_bind_ok_iff] at admitted
  obtain ⟨_, _, _, _, found, offered, admitted⟩ := admitted
  cases found with
  | none => cases admitted
  | some found =>
    obtain ⟨_, _, admitted⟩ := except_bind_ok_iff.mp admitted
    obtain rfl := Option.some.inj (Except.ok.inj admitted)
    exact offered

theorem handoff_cases (input : HandoffReplenishmentJobDto) :
    HandoffMade env context input job (handoffReplenishmentJob env context input job) := by
  unfold handoffReplenishmentJob
  split
  · exact .refused _ _ rfl
  · exact .byHand rfl
  · rename_i connector admitted
    have found := admitHandoff_some admitted
    unfold deliverHandoff
    dsimp only
    split
    · rename_i push
      split
      · rename_i undelivered
        split
        · rename_i job' decided
          exact .failed connector found push _ rfl undelivered job' decided rfl
        · exact .refused _ _ rfl
      · rename_i delivered
        refine .completed connector found push _ rfl ?_ rfl
        cases status : (executeHandoff env connector (resolveSupplierConnectorRuntime connector)
            input job).status with
        | completed => rfl
        | failed => exact absurd status delivered
    · rename_i other
      exact .prepared connector found other rfl

theorem handoff_only (input : HandoffReplenishmentJobDto) :
    SupplierOnly job (handoffReplenishmentJob env context input job).job := by
  cases @handoff_cases env context job input with
  | refused e delivery is => exact is ▸ .refl job
  | byHand is | prepared connector found other is => exact is ▸ .putSupplier ..
  | completed connector found push execution executed done is => exact is ▸ .putSupplier ..
  | failed connector found push execution executed undelivered job' next is =>
    rw [is]
    exact .trans (.putSupplier ..) (afterFailedHandoff_only next)

theorem handoff_error {input : HandoffReplenishmentJobDto} {e : ApiException}
    (failed : (handoffReplenishmentJob env context input job).answer = .error e) :
    (handoffReplenishmentJob env context input job).job = job := by
  cases @handoff_cases env context job input with
  | refused e delivery is => rw [is]
  | byHand is | prepared connector found other is => rw [is] at failed; cases failed
  | completed connector found push execution executed done is => rw [is] at failed; cases failed
  | failed connector found push execution executed undelivered job' next is =>
    rw [is] at failed
    cases failed

theorem prepareDispatch_ok (prepared : prepareDispatch env context input job = .ok job') :
    (∃ found, connectorOf env job "Supplier connector handoff is required before retry dispatch." =
      .ok found ∧ executable env job found.1 = .ok ()) ∧
    ∃ queued, (isQueued job = true ∧ queued = job ∨
        isQueued job = false ∧ queueSupplierRetryTx env (dispatchInput input job) job = .ok queued) ∧
      job' = if isQueued queued then makeDue env.now queued else queued := by
  simp only [prepareDispatch, except_bind_ok_iff] at prepared
  obtain ⟨_, _, found, connected, _, ready, rest⟩ := prepared
  refine ⟨⟨found, connected, ready⟩, ?_⟩
  split at rest
  · rename_i waiting
    exact ⟨job, .inl ⟨waiting, rfl⟩, (Except.ok.inj rest).symm⟩
  · rename_i idle
    obtain ⟨queued, queueing, rest⟩ := except_bind_ok_iff.mp rest
    exact ⟨queued, .inr ⟨by simpa using idle, queueing⟩, (Except.ok.inj rest).symm⟩

theorem prepareDispatch_only (prepared : prepareDispatch env context input job = .ok job') :
    SupplierOnly job job' := by
  obtain ⟨_, queued, queueing, rfl⟩ := prepareDispatch_ok prepared
  have first : SupplierOnly job queued := by
    rcases queueing with ⟨_, rfl⟩ | ⟨_, queueing⟩
    · exact .refl _
    · exact queue_only queueing
  split
  · exact .trans first (.patchSupplier ..)
  · exact first

theorem processDue_error {e : ApiException}
    (failed : (processDueSupplierRetryTx env input job).answer = .error e) :
    ∀ execution ∈ (processDueSupplierRetryTx env input job).delivery, execution.status = .failed := by
  cases @processDue_cases env job input with
  | left answer is => simp [is]
  | dispatched source due is => simp [is]
  | delivered connector runtime due is =>
    rw [is] at failed ⊢
    cases @deliverRetry_cases env job connector runtime with
    | completed done is =>
      rw [is] at failed
      cases failed
    | decided job' refused next is => simp [is, refused]
    | undecided e refused next is => simp [is, refused]

/-- A forced dispatch is refused, or it processes the job that was made due, and is taken back where
that fails. -/
inductive DispatchMade (env : SupplierEnv) (context : RequestContext) (input : RunDueInput)
    (job : InventoryReplenishmentJob) (p : Delivered) : Prop
  | refused (e : ApiException) (is : p = ⟨.error e, job, none⟩)
  | processed (queued : InventoryReplenishmentJob) (input' : RunDueInput)
      (prepared : prepareDispatch env context input job = .ok queued) (done : Bool)
      (answered : p.answer = .ok done) (is : p = processDueSupplierRetryTx env input' queued)
  | takenBack (queued : InventoryReplenishmentJob) (input' : RunDueInput)
      (prepared : prepareDispatch env context input job = .ok queued) (e : ApiException)
      (failed : (processDueSupplierRetryTx env input' queued).answer = .error e)
      (is : p = ⟨.error e, job, (processDueSupplierRetryTx env input' queued).delivery⟩)

theorem dispatch_cases (input : RunDueInput) : DispatchMade env context input job
      (dispatchReplenishmentSupplierRetry env context input job) := by
  unfold dispatchReplenishmentSupplierRetry
  split
  · exact .refused _ rfl
  · rename_i queued prepared
    dsimp only
    generalize is : processDueSupplierRetryTx env _ queued = processed
    split
    · rename_i done answered
      exact .processed queued { input with note := some _ } prepared done answered is.symm
    · rename_i e failed
      rw [← is] at failed
      exact .takenBack queued { input with note := some _ } prepared e failed (by rw [is])

theorem dispatchRetry_only (input : RunDueInput) :
    SupplierOnly job (dispatchReplenishmentSupplierRetry env context input job).job := by
  cases @dispatch_cases env context job input with
  | refused e is => exact is ▸ .refl job
  | processed queued input' prepared done answered is =>
    rw [is]
    exact .trans (prepareDispatch_only prepared) (processDue_only _)
  | takenBack queued input' prepared e failed is => exact is ▸ .refl job

theorem ofUpdate_only {updated : Except ApiException InventoryReplenishmentJob}
    (only : ∀ job', updated = .ok job' → SupplierOnly job job') :
    SupplierOnly job (ofUpdate job updated).job := by
  cases updated with
  | ok job' => exact only job' rfl
  | error e => exact .refl job

/-- A call on a job changes nothing of it but its supplier record. -/
theorem handle_only (call : SupplierCall) : SupplierOnly job (call.handle env context job).job := by
  cases call with
  | handoff dto => exact handoff_only dto
  | updateStatus dto =>
    refine ofUpdate_only fun job' updated => ?_
    simp only [updateReplenishmentSupplierStatus, except_bind_ok_iff] at updated
    obtain ⟨_, _, _, _, updated⟩ := updated
    obtain rfl := Except.ok.inj updated
    exact .patchSupplier ..
  | syncStatus note =>
    refine ofUpdate_only fun job' updated => ?_
    simp only [syncReplenishmentSupplierStatus, except_bind_ok_iff] at updated
    obtain ⟨_, _, updated⟩ := updated
    obtain rfl := Except.ok.inj updated
    exact .patchSupplier ..
  | webhook dto => exact webhook_only dto
  | importUpdate dto => exact import_only dto
  | dropFile dto => exact drop_only dto
  | replay dto =>
    refine ofUpdate_only fun job' updated => ?_
    simp only [replayReplenishmentSupplierReconciliation, except_bind_ok_iff] at updated
    obtain ⟨_, _, updated⟩ := updated
    obtain rfl := Except.ok.inj updated
    exact .patchSupplier ..
  | reopen dto =>
    refine ofUpdate_only fun job' updated => ?_
    simp only [reopenReplenishmentSupplierDeadLetter, except_bind_ok_iff] at updated
    obtain ⟨_, _, _, _, updated⟩ := updated
    exact queue_only updated
  | queueRetry dto =>
    refine ofUpdate_only fun job' updated => ?_
    simp only [queueReplenishmentSupplierRetry, except_bind_ok_iff] at updated
    obtain ⟨_, _, updated⟩ := updated
    exact queue_only updated
  | dispatchRetry dto => exact dispatchRetry_only dto

theorem handler_only (r : SupplyRequest) (job : InventoryReplenishmentJob) :
    SupplierOnly job (r.handler job).job := by
  obtain ⟨env, context, call⟩ := r
  cases call with
  | supplier jobId call => exact handle_only call
  | queueRetrySweep dto => exact ofUpdate_only fun _ => queue_only
  | runDueRetries dto => exact processDue_only _
  | _ => exact .refl job

end

theorem getReplenishmentSupplier_patchWorkflow (job : InventoryReplenishmentJob) (now : Instant)
    (status : ReplenishmentJobStatus) {patch : InventoryRecord}
    (distinct : (patch.map Prod.fst).Nodup) (other : patch.get "supplier" = none) :
    (job.patchWorkflow now status patch).getReplenishmentSupplier = job.getReplenishmentSupplier := by
  have workflow : (job.patchWorkflow now status patch).getReplenishmentWorkflow =
      job.getReplenishmentWorkflow.spread patch := by
    show asRecord (get (set _ "workflow" _) "workflow") = _
    rw [get_set, if_pos rfl]
    rfl
  rw [getReplenishmentSupplier, workflow, get_spread distinct, other]
  rfl

def jobOf (s : Supply) (id : Id) : Option InventoryReplenishmentJob :=
  Rows.find InventoryReplenishmentJob.id s.jobs id

/-- Only the rest of the database is changed, and its ids go on. -/
structure DbOnly (s t : Supply) : Prop where
  rest : t = { s with db := t.db }
  grows : s.db.nextId ≤ t.db.nextId

namespace DbOnly

theorem refl (s : Supply) : DbOnly s s := ⟨rfl, le_refl _⟩

theorem trans (s t u : Supply) (hst : DbOnly s t) (htu : DbOnly t u) : DbOnly s u :=
  ⟨by rw [htu.rest, hst.rest], le_trans hst.grows htu.grows⟩

theorem onDb {α : Type} {x : Transaction α} {a : α}
    (grows : ∀ db, x s.db = .ok (a, db) → s.db.nextId ≤ db.nextId)
    (h : Replenishment.onDb x s = .ok (a, t)) : DbOnly s t := by
  obtain ⟨db, done, rfl⟩ := onDb_ok_iff.mp h
  exact ⟨rfl, grows db done⟩

end DbOnly

theorem freshId_dbOnly (h : onDb freshId s = .ok (id, t)) :
    id = s.db.nextId ∧ DbOnly s t ∧ s.db.nextId < t.db.nextId := by
  obtain ⟨db, fresh, rfl⟩ := onDb_ok_iff.mp h
  obtain ⟨rfl, rfl⟩ := freshId_ok_iff.mp fresh
  exact ⟨rfl, ⟨rfl, Nat.le_succ _⟩, Nat.lt_succ_self _⟩

theorem createLineTx_dbOnly {tenantId recordId : Id} {row : ExportRow} {u : PUnit}
    (h : createLineTx tenantId recordId row s = .ok (u, t)) : DbOnly s t := by
  simp only [createLineTx, bind_ok_iff, read_ok_iff, pure_ok_iff] at h
  obtain ⟨_, _, ⟨_, rfl⟩, id, m, fresh, _, n, created, _, rfl⟩ := h
  refine .trans _ _ _ (freshId_dbOnly fresh).2.1 (.onDb (fun db done => ?_) created)
  obtain ⟨_, rfl⟩ := Table.create_ok_iff.mp done
  exact le_refl _

theorem openReceiptTx_dbOnly {current : InventoryReplenishmentJob} {warehouseId : Id}
    {input : ReceiveReplenishmentJobDto} {record : ReceivingRecord}
    (h : openReceiptTx current warehouseId input s = .ok (record, t)) : DbOnly s t := by
  simp only [openReceiptTx, bind_ok_iff, lift_ok_iff, pure_ok_iff] at h
  obtain ⟨_, _, ⟨_, rfl⟩, id, m, fresh, opened, n, created, _, o, lines, rfl, rfl⟩ := h
  refine .trans _ _ _ (freshId_dbOnly fresh).2.1 (.trans _ _ _ (.onDb (fun db done => ?_) created) ?_)
  · obtain ⟨_, rfl⟩ := Table.create_ok_iff.mp done
    exact le_refl _
  · exact forM_related (R := DbOnly) .refl .trans (fun _ _ _ _ _ => createLineTx_dbOnly) lines

theorem completeReceivingRecordTx_dbOnly {receivedBy : Option String}
    (h : onDb (completeReceivingRecordTx now id receivedBy) s = .ok (received, t)) : DbOnly s t :=
  .onDb (fun _ done => (Inventory.completeReceivingRecordTx_paymentsKept done).grows) h

def receiptPatch (now : Instant) (context : RequestContext) (record : ReceivingRecord) :
    InventoryRecord :=
  [("receivingRecordId", idText record.id),
    ("receivingReference", .str record.reference),
    ("receivingStatus", .str (receiptText record.status)),
    ("receivedAt", isoText now),
    ("receivedByActorId", actorOf context)]

/-- A receipt answers the record there is, or opens one, completes it unless it is told not to, and
moves the job on. -/
theorem receiveReplenishmentJobTx_ok {context : RequestContext} {input : ReceiveReplenishmentJobDto}
    (h : receiveReplenishmentJobTx now context id input s = .ok (received, t)) :
    ∃ current warehouseId, admitReceipt context id s = .ok (current, warehouseId) ∧
      ((∃ recordId, existingReceiving current = some recordId) ∧ t = s ∨
        existingReceiving current = none ∧ ∃ record m n,
          openReceiptTx current warehouseId input s = .ok (record, m) ∧
          (input.autoComplete = some false ∧ n = m ∨
            input.autoComplete ≠ some false ∧
              onDb (completeReceivingRecordTx now record.id input.receivedBy) m =
                .ok (received, n)) ∧
          t = inventoryReplenishmentJobs.put (Rows.modify InventoryReplenishmentJob.id id
            (fun row => row.patchWorkflow now
              (if input.autoComplete = some false then .receiving else .received)
              (receiptPatch now context received.1)) n.jobs) n) := by
  simp only [receiveReplenishmentJobTx, bind_ok_iff, read_ok_iff] at h
  obtain ⟨⟨current, warehouseId⟩, _, ⟨admitted, rfl⟩, h⟩ := h
  refine ⟨current, warehouseId, admitted, ?_⟩
  cases existing : existingReceiving current with
  | some recordId =>
    rw [existing] at h
    exact .inl ⟨⟨recordId, rfl⟩, (read_ok_iff.mp h).2.symm⟩
  | none =>
    rw [existing] at h
    obtain ⟨record, m, opened, h⟩ := bind_ok h
    refine .inr ⟨rfl, record, m, ?_⟩
    by_cases kept : input.autoComplete = some false
    · simp only [if_pos kept, bind_ok_iff, read_ok_iff, Table.update_ok_iff, pure_ok_iff] at h
      obtain ⟨finalized, _, ⟨_, rfl⟩, _, _, ⟨row, found, rfl, rfl⟩, rfl, rfl⟩ := h
      exact ⟨m, opened, .inl ⟨kept, rfl⟩, by rw [if_pos kept]; rfl⟩
    · simp only [if_neg kept, bind_ok_iff, Table.update_ok_iff, pure_ok_iff] at h
      obtain ⟨finalized, n, done, _, _, ⟨row, found, rfl, rfl⟩, rfl, rfl⟩ := h
      exact ⟨n, opened, .inr ⟨kept, done⟩, by rw [if_neg kept]; rfl⟩

/-- What a request that handles no job does to the jobs. -/
inductive JobsMoved (s t : Supply) : Prop
  | kept (jobs : t.jobs = s.jobs)
  | moved (jobId : Id) (f : InventoryReplenishmentJob → InventoryReplenishmentJob)
      (ids : ∀ job, (f job).id = job.id)
      (suppliers : ∀ job, (f job).getReplenishmentSupplier = job.getReplenishmentSupplier)
      (jobs : t.jobs = Rows.modify InventoryReplenishmentJob.id jobId f s.jobs)
  | generated (job : InventoryReplenishmentJob) (fresh : job.id = s.db.nextId)
      (given : job.id < t.db.nextId) (supplier : job.getReplenishmentSupplier = [])
      (jobs : t.jobs = s.jobs ++ [job])

/-- The jobs are moved on, and the ids go on. -/
structure MovesJobs (s t : Supply) : Prop where
  jobs : JobsMoved s t
  grows : s.db.nextId ≤ t.db.nextId

theorem movesJobs_refl (s : Supply) : MovesJobs s s := ⟨.kept rfl, le_refl _⟩

theorem update_movesJobs (status : InventoryReplenishmentJob → ReplenishmentJobStatus)
    {row : InventoryReplenishmentJob} {patch : InventoryRecord}
    (distinct : (patch.map Prod.fst).Nodup) (other : patch.get "supplier" = none)
    (h : inventoryReplenishmentJobs.update id (fun row => row.patchWorkflow now (status row) patch)
      s = .ok (row, t)) : MovesJobs s t := by
  obtain ⟨_, _, _, rfl⟩ := Table.update_ok_iff.mp h
  refine ⟨.moved id _ (fun job => ?_) (fun job => ?_) rfl, le_refl _⟩
  · rfl
  · exact getReplenishmentSupplier_patchWorkflow job now _ distinct other

theorem createIngredientTx_movesJobs {context : RequestContext} {dto : CreateIngredientDto}
    {row : Ingredient} (h : createIngredientTx context dto s = .ok (row, t)) : MovesJobs s t := by
  simp only [createIngredientTx, bind_ok_iff, lift_ok_iff, read_ok_iff, Table.create_ok_iff] at h
  obtain ⟨_, _, ⟨_, rfl⟩, _, m, fresh, _, _, ⟨_, rfl⟩, _, rfl⟩ := h
  obtain ⟨_, only, _⟩ := freshId_dbOnly fresh
  exact ⟨.kept (by rw [only.rest]; rfl), only.grows⟩

theorem updateIngredientTx_movesJobs {context : RequestContext} {dto : UpdateIngredientDto}
    {row : Ingredient} (h : updateIngredientTx context id dto s = .ok (row, t)) :
    MovesJobs s t := by
  simp only [updateIngredientTx, bind_ok_iff, lift_ok_iff, read_ok_iff, Table.update_ok_iff] at h
  obtain ⟨_, _, ⟨_, rfl⟩, _, _, ⟨_, rfl⟩, _, _, ⟨_, rfl⟩, _, _, _, rfl⟩ := h
  exact ⟨.kept rfl, le_refl _⟩

theorem createReplenishmentJobTx_ok {context : RequestContext} {query : ReplenishmentReportQuery}
    {job : InventoryReplenishmentJob}
    (h : createReplenishmentJobTx now context query s = .ok (job, t)) :
    ∃ tenantId, reportTenant context query.tenantId = .ok tenantId ∧
      job = { id := s.db.nextId
              tenantId
              storeId := query.storeId
              warehouseId := query.warehouseId
              status := .generated
              summary := .obj (summaryOf (recommendations s tenantId query.warehouseId))
              artifact := .obj
                [("tenantId", idText tenantId),
                  ("storeId", ofId query.storeId),
                  ("warehouseId", ofId query.warehouseId),
                  ("generatedAt", isoText now),
                  ("summary", .obj (summaryOf (recommendations s tenantId query.warehouseId))),
                  ("recommendations", .arr ((recommendations s tenantId query.warehouseId).map
                    fun row => .obj row.toRecord))]
              updatedAt := now } ∧
      t = { s with db := { s.db with nextId := s.db.nextId + 1 }, jobs := s.jobs ++ [job] } := by
  simp only [createReplenishmentJobTx, bind_ok_iff, lift_ok_iff, read_ok_iff,
    Table.create_ok_iff, onDb_ok_iff, freshId_ok_iff] at h
  obtain ⟨tenantId, _, ⟨resolved, rfl⟩, _, _, ⟨rows, rfl⟩, _, _, ⟨_, ⟨rfl, rfl⟩, rfl⟩, rfl, rfl⟩ := h
  obtain rfl := Except.ok.inj rows
  exact ⟨tenantId, resolved, rfl, rfl⟩

theorem createReplenishmentJobTx_movesJobs {context : RequestContext}
    {query : ReplenishmentReportQuery} {job : InventoryReplenishmentJob}
    (h : createReplenishmentJobTx now context query s = .ok (job, t)) : MovesJobs s t := by
  obtain ⟨_, _, rfl, rfl⟩ := createReplenishmentJobTx_ok h
  exact ⟨.generated _ rfl (Nat.lt_succ_self _) rfl rfl, Nat.le_succ _⟩

theorem approveReplenishmentJobTx_movesJobs {context : RequestContext}
    {job : InventoryReplenishmentJob}
    (h : approveReplenishmentJobTx now context id s = .ok (job, t)) : MovesJobs s t := by
  simp only [approveReplenishmentJobTx, bind_ok_iff, read_ok_iff, lift_ok_iff] at h
  obtain ⟨_, _, ⟨_, rfl⟩, _, _, ⟨_, rfl⟩, h⟩ := h
  exact update_movesJobs (fun _ => .approved) (by simp) (by simp [get_cons]) h

theorem dispatchReplenishmentJobTx_movesJobs {context : RequestContext}
    {job : InventoryReplenishmentJob}
    (h : dispatchReplenishmentJobTx now context id s = .ok (job, t)) : MovesJobs s t := by
  simp only [dispatchReplenishmentJobTx, bind_ok_iff, read_ok_iff, lift_ok_iff] at h
  obtain ⟨_, _, ⟨_, rfl⟩, _, _, ⟨_, rfl⟩, h⟩ := h
  exact update_movesJobs (fun _ => .dispatched) (by simp) (by simp [get_cons]) h

theorem exportReplenishmentJobTx_movesJobs {context : RequestContext} {format : String}
    {job : InventoryReplenishmentJob}
    (h : exportReplenishmentJobTx now context id format s = .ok (job, t)) : MovesJobs s t := by
  simp only [exportReplenishmentJobTx, bind_ok_iff, read_ok_iff] at h
  obtain ⟨_, _, ⟨_, rfl⟩, h⟩ := h
  exact update_movesJobs InventoryReplenishmentJob.status (by simp) (by simp [get_cons]) h

theorem archiveReplenishmentJobTx_movesJobs {context : RequestContext}
    {job : InventoryReplenishmentJob}
    (h : archiveReplenishmentJobTx now context id s = .ok (job, t)) : MovesJobs s t := by
  simp only [archiveReplenishmentJobTx, bind_ok_iff, read_ok_iff] at h
  obtain ⟨_, _, ⟨_, rfl⟩, h⟩ := h
  exact update_movesJobs (fun _ => .archived) (by simp) (by simp [get_cons]) h

theorem receiveReplenishmentJobTx_movesJobs {context : RequestContext}
    {input : ReceiveReplenishmentJobDto}
    (h : receiveReplenishmentJobTx now context id input s = .ok (received, t)) : MovesJobs s t := by
  obtain ⟨current, warehouseId, _, ⟨_, rfl⟩ | ⟨_, record, m, n, opened, completed, rfl⟩⟩ :=
    receiveReplenishmentJobTx_ok h
  · exact movesJobs_refl _
  · have only : DbOnly s n := by
      rcases completed with ⟨_, rfl⟩ | ⟨_, completed⟩
      · exact openReceiptTx_dbOnly opened
      · exact .trans _ _ _ (openReceiptTx_dbOnly opened) (completeReceivingRecordTx_dbOnly completed)
    have jobs : n.jobs = s.jobs := by rw [only.rest]
    refine ⟨.moved id _ (fun job => ?_) (fun job => ?_) (by rw [← jobs]; rfl), only.grows⟩
    · rfl
    · exact getReplenishmentSupplier_patchWorkflow job now _ (by simp [receiptPatch])
        (by simp [receiptPatch, get_cons])

/-- The request handles jobs one by one. -/
def SupplyCall.handles : SupplyCall → Bool
  | .supplier .. | .queueRetrySweep _ | .runDueRetries _ => true
  | _ => false

theorem step_movesJobs (s : Supply) (other : r.call.handles = false) : MovesJobs s (step s r) := by
  obtain ⟨env, context, call⟩ := r
  have related {α : Type} {x : SupplyTransaction α}
      (body : ∀ a t, x s = .ok (a, t) → MovesJobs s t) : MovesJobs s (after x s) :=
    Call.transact_related (movesJobs_refl s) body
  cases call with
  | inventory call =>
    exact ⟨.kept rfl, (Inventory.perform_paymentsKept env.now context call s.db).grows⟩
  | createIngredient dto => exact related fun _ _ => createIngredientTx_movesJobs
  | updateIngredient ingredientId dto => exact related fun _ _ => updateIngredientTx_movesJobs
  | generate query => exact related fun _ _ => createReplenishmentJobTx_movesJobs
  | approve jobId => exact related fun _ _ => approveReplenishmentJobTx_movesJobs
  | dispatch jobId => exact related fun _ _ => dispatchReplenishmentJobTx_movesJobs
  | exportJob jobId format => exact related fun _ _ => exportReplenishmentJobTx_movesJobs
  | archive jobId => exact related fun _ _ => archiveReplenishmentJobTx_movesJobs
  | receive jobId dto => exact related fun _ _ => receiveReplenishmentJobTx_movesJobs
  | supplier jobId call => cases other
  | queueRetrySweep dto => cases other
  | runDueRetries dto => cases other

theorem handled_of_other (jobs : List InventoryReplenishmentJob) (other : r.call.handles = false) :
    r.handled jobs = [] := by
  obtain ⟨env, context, call⟩ := r
  cases call <;> first | rfl | cases other

theorem step_handles (s : Supply) (handles : r.call.handles = true) :
    step s r = { s with jobs := handleEach r.handler (r.handled s.jobs) s.jobs } := by
  obtain ⟨env, context, call⟩ := r
  cases call <;> first | rfl | cases handles

/-- The ids of the jobs are distinct and have been given out. -/
structure JobKeys (s : Supply) : Prop where
  unique : (s.jobs.map InventoryReplenishmentJob.id).Nodup
  given : ∀ job ∈ s.jobs, job.id < s.db.nextId

theorem sweepCandidates_sublist (jobs : List InventoryReplenishmentJob) (dto : SweepDto) :
    ∃ listed, sweepCandidates jobs dto <+: listed ∧ ∃ kept, listed.Perm kept ∧ List.Sublist kept jobs := by
  refine ⟨_, take_prefix _ _, _, perm_insertionSort _ _, filter_sublist⟩

theorem handled_unique {jobs : List InventoryReplenishmentJob}
    (unique : (jobs.map InventoryReplenishmentJob.id).Nodup) (r : SupplyRequest) :
    (∀ job ∈ r.handled jobs, job ∈ jobs) ∧
      ((r.handled jobs).map InventoryReplenishmentJob.id).Nodup := by
  obtain ⟨env, context, call⟩ := r
  have sweep (dto : SweepDto) : (∀ job ∈ sweepCandidates jobs dto, job ∈ jobs) ∧
      ((sweepCandidates jobs dto).map InventoryReplenishmentJob.id).Nodup := by
    obtain ⟨listed, first, kept, same, part⟩ := sweepCandidates_sublist jobs dto
    refine ⟨fun job mem => part.subset (same.subset (first.subset mem)), ?_⟩
    have all : (listed.map InventoryReplenishmentJob.id).Nodup :=
      (same.map _).nodup_iff.mpr ((part.map _).nodup unique)
    exact (first.sublist.map _).nodup all
  have none : (∀ job ∈ ([] : List InventoryReplenishmentJob), job ∈ jobs) ∧
      (([] : List InventoryReplenishmentJob).map InventoryReplenishmentJob.id).Nodup := by simp
  cases call with
  | supplier jobId call =>
    show (∀ job ∈ (Rows.find _ jobs jobId).toList, job ∈ jobs) ∧
      ((Rows.find _ jobs jobId).toList.map InventoryReplenishmentJob.id).Nodup
    cases found : Rows.find InventoryReplenishmentJob.id jobs jobId with
    | none => exact none
    | some job =>
      refine ⟨fun other mem => ?_, by simp⟩
      rw [Option.toList_some, mem_singleton] at mem
      exact mem ▸ (Rows.find_some found).1
  | queueRetrySweep dto | runDueRetries dto =>
    unfold SupplyRequest.handled
    dsimp only
    split
    · exact sweep dto
    · exact none
  | _ => exact none

theorem find_handleEach {handler : InventoryReplenishmentJob → Delivered}
    (keeps : ∀ job, (handler job).job.id = job.id) {candidates : List InventoryReplenishmentJob}
    (unique : (candidates.map InventoryReplenishmentJob.id).Nodup)
    (rows : List InventoryReplenishmentJob) (id : Id) :
    Rows.find InventoryReplenishmentJob.id (handleEach handler candidates rows) id =
      match Rows.find InventoryReplenishmentJob.id candidates id with
      | some job => (Rows.find InventoryReplenishmentJob.id rows id).map fun _ => (handler job).job
      | none => Rows.find InventoryReplenishmentJob.id rows id := by
  induction candidates generalizing rows with
  | nil => rfl
  | cons candidate candidates ih =>
    obtain ⟨first, unique⟩ := nodup_cons.mp unique
    rw [handleEach, foldl_cons, ← handleEach, ih unique, Rows.find_put (keeps candidate)]
    by_cases here : id = candidate.id
    · have later : Rows.find InventoryReplenishmentJob.id candidates id = none := by
        rw [Rows.find, find?_eq_none]
        intro job listed same
        refine first (mem_map.mpr ⟨job, listed, ?_⟩)
        rw [← here]
        simpa using same
      rw [later, here]
      simp [Rows.find]
    · rw [if_neg here]
      simp [Rows.find, Ne.symm here]

theorem ids_handleEach {handler : InventoryReplenishmentJob → Delivered}
    (keeps : ∀ job, (handler job).job.id = job.id) (candidates rows : List InventoryReplenishmentJob) :
    (handleEach handler candidates rows).map InventoryReplenishmentJob.id =
      rows.map InventoryReplenishmentJob.id := by
  induction candidates generalizing rows with
  | nil => rfl
  | cons candidate candidates ih =>
    rw [handleEach, foldl_cons, ← handleEach, ih, Rows.map_put (keeps candidate)]

theorem handler_id (r : SupplyRequest) (job : InventoryReplenishmentJob) :
    (r.handler job).job.id = job.id := (handler_only r job).id_eq

theorem step_jobKeys (keys : JobKeys s) (r : SupplyRequest) : JobKeys (step s r) := by
  have given {ids : List Id} (old : ∀ n ∈ ids, n < s.db.nextId) {m : Id} (grows : s.db.nextId ≤ m) :
      ∀ n ∈ ids, n < m := fun n listed => lt_of_lt_of_le (old n listed) grows
  have old : ∀ n ∈ s.jobs.map InventoryReplenishmentJob.id, n < s.db.nextId := by
    intro n listed
    obtain ⟨job, stored, rfl⟩ := mem_map.mp listed
    exact keys.given job stored
  have same {t : Supply} (ids : t.jobs.map InventoryReplenishmentJob.id =
      s.jobs.map InventoryReplenishmentJob.id) (grows : s.db.nextId ≤ t.db.nextId) : JobKeys t := by
    refine ⟨ids ▸ keys.unique, fun job stored => given old grows _ ?_⟩
    rw [← ids]
    exact mem_map_of_mem stored
  cases handles : r.call.handles with
  | true =>
    rw [step_handles s handles]
    exact same (ids_handleEach (handler_id r) _ _) (le_refl _)
  | false =>
    obtain ⟨moved, grows⟩ := step_movesJobs s handles
    cases moved with
    | kept jobs => exact same (by rw [jobs]) grows
    | moved jobId f ids suppliers jobs =>
      exact same (by rw [jobs, Rows.map_modify ids]) grows
    | generated job fresh bound supplier jobs =>
      have other : job.id ∉ s.jobs.map InventoryReplenishmentJob.id := fun listed =>
        absurd (old _ listed) (by rw [fresh]; exact lt_irrefl _)
      refine ⟨jobs ▸ Rows.nodup_append_key keys.unique other, fun job' stored => ?_⟩
      rw [jobs, mem_append, mem_singleton] at stored
      rcases stored with stored | rfl
      · exact lt_of_lt_of_le (keys.given job' stored) grows
      · exact bound

/-- What a request does to the job with an id: it handles the job, moves it on without its supplier
record, or finds none, and then leaves at most a new one. -/
inductive JobStep (r : SupplyRequest) (id : Id) (s t : Supply) : Prop
  | handled (job : InventoryReplenishmentJob) (before : jobOf s id = some job)
      (events : eventsAt id s r = eventsOf r job)
      (found : Rows.find InventoryReplenishmentJob.id (r.handled s.jobs) id = some job)
      (after : jobOf t id = some (r.handler job).job)
  | moved (job job' : InventoryReplenishmentJob) (before : jobOf s id = some job)
      (events : eventsAt id s r = []) (after : jobOf t id = some job')
      (supplier : job'.getReplenishmentSupplier = job.getReplenishmentSupplier)
  | absent (before : jobOf s id = none) (events : eventsAt id s r = [])
      (after : ∀ job, jobOf t id = some job → job.getReplenishmentSupplier = [])

theorem jobStep_of_same (events : eventsAt id s r = []) (same : jobOf t id = jobOf s id) :
    JobStep r id s t := by
  cases before : jobOf s id with
  | none =>
    refine .absent before events fun job after => ?_
    rw [same, before] at after
    cases after
  | some job => exact .moved job job before events (same.trans before) rfl

theorem step_jobStep (keys : JobKeys s) (r : SupplyRequest) (id : Id) :
    JobStep r id s (step s r) := by
  cases handles : r.call.handles with
  | true =>
    obtain ⟨listed, unique⟩ := handled_unique keys.unique r
    have after := find_handleEach (handler_id r) unique s.jobs id
    have stepped : jobOf (step s r) id = Rows.find InventoryReplenishmentJob.id
        (handleEach r.handler (r.handled s.jobs) s.jobs) id := by
      rw [step_handles s handles]
      rfl
    cases found : Rows.find InventoryReplenishmentJob.id (r.handled s.jobs) id with
    | some job =>
      have before : jobOf s id = some job := by
        obtain ⟨mem, keyed⟩ := Rows.find_some found
        rw [jobOf, ← keyed]
        exact Rows.find_of_mem keys.unique (listed job mem)
      refine .handled job before (by rw [eventsAt, found]) found ?_
      rw [stepped, after, found]
      show (jobOf s id).map _ = _
      rw [before]
      rfl
    | none =>
      refine jobStep_of_same (by rw [eventsAt, found]) ?_
      rw [stepped, after, found]
      rfl
  | false =>
    have events : eventsAt id s r = [] := by
      rw [eventsAt, handled_of_other s.jobs handles]
      rfl
    obtain ⟨moved, _⟩ := step_movesJobs s handles
    cases moved with
    | kept jobs => exact jobStep_of_same events (by rw [jobOf, jobs]; rfl)
    | moved jobId f ids suppliers jobs =>
      have after : jobOf (step s r) id = if id = jobId then (jobOf s id).map f else jobOf s id := by
        rw [jobOf, jobs, Rows.find_modify ids]
        rfl
      by_cases here : id = jobId
      · rw [if_pos here] at after
        cases before : jobOf s id with
        | none => exact jobStep_of_same events (by rw [after, before]; rfl)
        | some job =>
          exact .moved job (f job) before events (by rw [after, before]; rfl) (suppliers job)
      · exact jobStep_of_same events (by rw [after, if_neg here])
    | generated job fresh bound supplier jobs =>
      have others : ∀ job' ∈ s.jobs, job'.id ≠ job.id := fun job' stored =>
        ne_of_lt (fresh ▸ keys.given job' stored)
      by_cases here : job.id = id
      · have before : jobOf s id = none := by
          rw [jobOf, Rows.find, find?_eq_none]
          intro job' stored
          simpa [← here] using others job' stored
        refine .absent before events fun job' after => ?_
        rw [jobOf, jobs, ← here, Rows.find_append_new others] at after
        obtain rfl := Option.some.inj after
        exact supplier
      · exact jobStep_of_same events (by rw [jobOf, jobs, Rows.find_append_old here]; rfl)

/-- What the handling of a job keeps of what has happened to it and of its supplier record, from a
record without anything on, holds of them after every run without jobs at the start. -/
theorem history_along {C : SupplyRequest → InventoryReplenishmentJob → Prop}
    {Q : List JobEvent → InventoryRecord → Prop} (new : Q [] [])
    (handled : ∀ h r job, C r job → Q h job.getReplenishmentSupplier →
      Q (eventsOf r job ++ h) (r.handler job).job.getReplenishmentSupplier) (start : s.jobs = [])
    {rs : List SupplyRequest}
    (along : Trace.Along step (fun s r => ∀ job ∈ r.handled s.jobs, job.id = id → C r job) s rs) :
    JobKeys (run s rs) ∧ ∀ job, jobOf (run s rs) id = some job →
      Q (history id s rs) job.getReplenishmentSupplier := by
  have extend : ∀ h s r, (JobKeys s ∧ (jobOf s id = none → h = []) ∧
        ∀ job, jobOf s id = some job → Q h job.getReplenishmentSupplier) →
      (∀ job ∈ r.handled s.jobs, job.id = id → C r job) →
      JobKeys (step s r) ∧ (jobOf (step s r) id = none → eventsAt id s r ++ h = []) ∧
        ∀ job, jobOf (step s r) id = some job →
          Q (eventsAt id s r ++ h) job.getReplenishmentSupplier := by
    rintro h s r ⟨keys, unborn, kept⟩ meets
    refine ⟨step_jobKeys keys r, ?_⟩
    cases step_jobStep keys r id with
    | handled job before events found after =>
      obtain ⟨listed, keyed⟩ := Rows.find_some found
      rw [events]
      refine ⟨fun none => absurd (after.symm.trans none) (by simp), fun job' after' => ?_⟩
      obtain rfl := Option.some.inj (after.symm.trans after')
      exact handled h r job (meets job listed keyed) (kept job before)
    | moved job job' before events after supplier =>
      rw [events]
      refine ⟨fun none => absurd (after.symm.trans none) (by simp), fun job'' after' => ?_⟩
      obtain rfl := Option.some.inj (after.symm.trans after')
      rw [supplier]
      exact kept job before
    | absent before events after =>
      rw [events, unborn before]
      exact ⟨fun _ => rfl, fun job after' => by rw [after job after']; exact new⟩
  have empty : JobKeys s ∧ (jobOf s id = none → ([] : List JobEvent) = []) ∧
      ∀ job, jobOf s id = some job → Q [] job.getReplenishmentSupplier := by
    refine ⟨⟨by simp [start], by simp [start]⟩, fun _ => rfl, fun job found => ?_⟩
    rw [jobOf, start] at found
    cases found
  obtain ⟨keys, _, kept⟩ := Trace.run_recorded_along extend empty along
  exact ⟨keys, kept⟩

def dairy : Supply where
  db := shop
  ingredients := [⟨40, 1, "MILK", 600000⟩]
  jobs := []

def dairyConnector (transport : InventoryRecord) : IntegrationRegistryEntry :=
  ⟨1, none, "dairy", "1", "ACTIVE", .obj [("runtime", .obj [("transport", .obj transport)])], 1, 1⟩

/-- A call of the shop's manager at an instant, with the supplier's answer to a push. -/
def dairyAt (transport : InventoryRecord) (now : Instant) (answer : HttpAnswer)
    (call : SupplyCall) : SupplyRequest where
  env :=
    { now
      randomUUID := "u"
      integrationRegistry := [dairyConnector transport]
      secretRegistry := []
      ensureReadyForHandoff _ _ := .ok ()
      canExecute _ _ := .ok ()
      createHmac _ text := text
      createHash text := text
      parseJson _ := none
      fetch _ := answer }
  context := ⟨"manager", some 1, .tenantMember, [], none⟩
  call := call

def dairyOrder (transport : InventoryRecord) (answer : HttpAnswer) : List SupplyRequest :=
  [dairyAt transport 1 answer (.generate { tenantId := some 1, warehouseId := some 30 }),
    dairyAt transport 2 answer (.approve 100),
    dairyAt transport 3 answer (.dispatch 100),
    dairyAt transport 4 answer (.supplier 100 (.handoff
      { supplierName := "Dairy", connectorKey := some "dairy" }))]

def pushes : InventoryRecord :=
  [("mode", .str "HTTP_PUSH"),
    ("endpoint", .str "https://dairy"),
    ("retryPolicy", .obj [("enabled", .bool true), ("initialDelayMs", .num 0)])]

def dairySweep (now : Instant) (answer : HttpAnswer) : SupplyRequest :=
  dairyAt pushes now answer (.runDueRetries { tenantId := 1 })

end Exetron.Replenishment
