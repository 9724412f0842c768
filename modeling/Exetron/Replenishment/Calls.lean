import Exetron.Lib.Trace
import Exetron.Replenishment.FileDrops
import Exetron.Replenishment.Receiving
import Exetron.Replenishment.Retries

/-!
# The calls of replenishment

The replenishment tables under the calls of the service, one request after another. A request
brings its own environment, so the registries and the suppliers' answers may change at any time.
-/

namespace Exetron.Replenishment

open Lib Inventory.Service InventoryReplenishmentJob

inductive SupplierCall where
  | handoff (dto : HandoffReplenishmentJobDto)
  | updateStatus (dto : UpdateSupplierStatusDto)
  | syncStatus (note : Option String)
  | webhook (dto : ProcessWebhookDto)
  | importUpdate (dto : ImportSupplierUpdateDto)
  | dropFile (dto : DropSupplierFileDto)
  | replay (dto : ReplayReconciliationDto)
  | reopen (dto : ReopenDeadLetterDto)
  | queueRetry (dto : QueueSupplierRetryDto)
  | dispatchRetry (dto : RunDueInput)

def ofUpdate (current : InventoryReplenishmentJob)
    (updated : Except ApiException InventoryReplenishmentJob) : Delivered :=
  match updated with
  | .ok job => ⟨.ok true, job, none⟩
  | .error e => ⟨.error e, current, none⟩

def ofHandled (handled : Handled) : Delivered :=
  ⟨handled.answer.map fun _ => true, handled.job, none⟩

def SupplierCall.handle (env : SupplierEnv) (context : RequestContext) (call : SupplierCall)
    (current : InventoryReplenishmentJob) : Delivered :=
  match call with
  | .handoff dto => handoffReplenishmentJob env context dto current
  | .updateStatus dto =>
    ofUpdate current (updateReplenishmentSupplierStatus env context dto current)
  | .syncStatus note =>
    ofUpdate current (syncReplenishmentSupplierStatus env context note current)
  | .webhook dto => ofHandled (processReplenishmentSupplierWebhook env context dto current)
  | .importUpdate dto => ofHandled (importReplenishmentSupplierUpdate env context dto current)
  | .dropFile dto => ofHandled (dropReplenishmentSupplierFile env context dto current)
  | .replay dto =>
    ofUpdate current (replayReplenishmentSupplierReconciliation env context dto current)
  | .reopen dto => ofUpdate current (reopenReplenishmentSupplierDeadLetter env context dto current)
  | .queueRetry dto => ofUpdate current (queueReplenishmentSupplierRetry env context dto current)
  | .dispatchRetry dto => dispatchReplenishmentSupplierRetry env context dto current

structure SweepDto where
  tenantId : Id
  storeId : Option Id := none
  source : Option SupplierSource := none
  note : Option String := none
  delayMinutes : Option ℚ := none
  limit : Option Nat := none

/-- `Math.max(1, Math.min(100, Number(input.limit ?? 25) || 25))`. -/
def SweepDto.take (dto : SweepDto) : Nat :=
  max 1 (min 100 ((dto.limit.filter (· ≠ 0)).getD 25))

def sweepCandidates (jobs : List InventoryReplenishmentJob) (dto : SweepDto) :
    List InventoryReplenishmentJob :=
  ((jobs.filter fun job =>
    job.tenantId = dto.tenantId ∧ (dto.storeId.all fun id => job.storeId = some id) = true ∧
      (job.status = .dispatched ∨ job.status = .receiving ∨ job.status = .received)).insertionSort
        fun left right => right.updatedAt ≤ left.updatedAt).take dto.take

def queueForSweep (env : SupplierEnv) (dto : SweepDto) (candidate : InventoryReplenishmentJob) :
    Delivered :=
  ofUpdate candidate (queueSupplierRetryTx env
    { source := dto.source
      note := some (dto.note.getD "Retry sweep queued reconciliation retry.")
      delayMinutes := dto.delayMinutes } candidate)

def runForSweep (env : SupplierEnv) (dto : SweepDto) (candidate : InventoryReplenishmentJob) :
    Delivered :=
  processDueSupplierRetryTx env { source := dto.source, note := dto.note } candidate

inductive SupplyCall where
  | inventory (call : InventoryCall)
  | createIngredient (dto : CreateIngredientDto)
  | updateIngredient (id : Id) (dto : UpdateIngredientDto)
  | generate (query : ReplenishmentReportQuery)
  | approve (id : Id)
  | dispatch (id : Id)
  | exportJob (id : Id) (format : String)
  | archive (id : Id)
  | receive (id : Id) (dto : ReceiveReplenishmentJobDto)
  | supplier (id : Id) (call : SupplierCall)
  | queueRetrySweep (dto : SweepDto)
  | runDueRetries (dto : SweepDto)

structure SupplyRequest where
  env : SupplierEnv
  context : RequestContext
  call : SupplyCall

/-- What a request does to a job it handles, for the requests that handle jobs one by one. -/
def SupplyRequest.handler (r : SupplyRequest) : InventoryReplenishmentJob → Delivered :=
  match r.call with
  | .supplier _ call => call.handle r.env r.context
  | .queueRetrySweep dto => queueForSweep r.env dto
  | .runDueRetries dto => runForSweep r.env dto
  | _ => fun job => ⟨.ok false, job, none⟩

/-- The jobs that a request handles one by one. -/
def SupplyRequest.handled (r : SupplyRequest) (jobs : List InventoryReplenishmentJob) :
    List InventoryReplenishmentJob :=
  match r.call with
  | .supplier jobId _ => (Rows.find InventoryReplenishmentJob.id jobs jobId).toList
  | .queueRetrySweep dto | .runDueRetries dto =>
    match Inventory.Service.resolveTenantId r.context dto.tenantId with
    | .ok _ => sweepCandidates jobs dto
    | .error _ => []
  | _ => []

/-- The rows after each of the jobs was handled in the state the request found it in. -/
def handleEach (handler : InventoryReplenishmentJob → Delivered)
    (candidates jobs : List InventoryReplenishmentJob) : List InventoryReplenishmentJob :=
  candidates.foldl (fun rows candidate =>
    Rows.modify InventoryReplenishmentJob.id candidate.id (fun _ => (handler candidate).job) rows)
    jobs

def after {α : Type} (x : SupplyTransaction α) (s : Supply) : Supply :=
  (Call.exec (Call.transact x) s).2

/-- The store after a request, whatever its answer. -/
def step (s : Supply) (r : SupplyRequest) : Supply :=
  match r.call with
  | .inventory call => { s with db := perform r.env.now r.context call s.db }
  | .createIngredient dto => after (createIngredientTx r.context dto) s
  | .updateIngredient ingredientId dto =>
    after (updateIngredientTx r.context ingredientId dto) s
  | .generate query => after (createReplenishmentJobTx r.env.now r.context query) s
  | .approve jobId => after (approveReplenishmentJobTx r.env.now r.context jobId) s
  | .dispatch jobId => after (dispatchReplenishmentJobTx r.env.now r.context jobId) s
  | .exportJob jobId format =>
    after (exportReplenishmentJobTx r.env.now r.context jobId format) s
  | .archive jobId => after (archiveReplenishmentJobTx r.env.now r.context jobId) s
  | .receive jobId dto =>
    after (receiveReplenishmentJobTx r.env.now r.context jobId dto) s
  | .supplier .. | .queueRetrySweep _ | .runDueRetries _ =>
    { s with jobs := handleEach r.handler (r.handled s.jobs) s.jobs }

abbrev run : Supply → List SupplyRequest → Supply := Trace.run step

inductive JobEvent where
  | handedOff
  | delivered (status : TransportStatus)
  | reported (status : SupplierStatus)
  | queued
  | reopened
  deriving DecidableEq

def importReported (env : SupplierEnv) (context : RequestContext) (dto : ImportSupplierUpdateDto)
    (current : InventoryReplenishmentJob) : Option SupplierStatus :=
  match receiveImport env context dto current with
  | .ok (runtime, .accepted _) => some (importStatus runtime dto).1
  | _ => none

def SupplierCall.reported (env : SupplierEnv) (context : RequestContext) (call : SupplierCall)
    (current : InventoryReplenishmentJob) : Option SupplierStatus :=
  match call with
  | .updateStatus dto =>
    (updateReplenishmentSupplierStatus env context dto current).toOption.map fun _ =>
      dto.supplierStatus
  | .syncStatus _ => (pollSupplier env context current).toOption
  | .webhook dto =>
    match receiveWebhook env context dto current with
    | .ok (runtime, .accepted _) => some (webhookStatus runtime dto).1
    | _ => none
  | .importUpdate dto => importReported env context dto current
  | .dropFile dto =>
    (prepareFileDrop env context dto current).toOption.bind fun prepared =>
      importReported env context prepared current
  | .handoff _ | .replay _ | .reopen _ | .queueRetry _ | .dispatchRetry _ => none

/-- A delivery is recorded; the answer to one that succeeds reports a status as well. -/
def deliveredEvents (delivery : Option TransportHandoffExecution) : List JobEvent :=
  match delivery with
  | none => []
  | some execution =>
    if execution.status = .completed then
      [.reported execution.supplierStatus, .delivered .completed]
    else [.delivered .failed]

def SupplyCall.isHandoff : SupplyCall → Bool
  | .supplier _ (.handoff _) => true
  | _ => false

def takenUp (job : InventoryReplenishmentJob) (answered : Bool) : List JobEvent :=
  if answered then
    if isQueued job then if isTextAt job "deadLetterAt" then [.reopened] else []
    else [.queued]
  else []

/-- What a request does to a job it handles, the latest first. -/
def eventsOf (r : SupplyRequest) (job : InventoryReplenishmentJob) : List JobEvent :=
  let handled := r.handler job
  let whenOk (events : List JobEvent) : List JobEvent :=
    if handled.answer.isOk then events else []
  match r.call with
  | .supplier _ (.handoff _) =>
    whenOk ((handled.delivery.map fun execution => .delivered execution.status).toList ++
      [.handedOff])
  | .supplier _ (.reopen _) => whenOk [.reopened]
  | .supplier _ (.queueRetry _) | .queueRetrySweep _ => whenOk [.queued]
  | .supplier _ (.dispatchRetry _) =>
    deliveredEvents handled.delivery ++ takenUp job handled.answer.isOk
  | .runDueRetries _ => deliveredEvents handled.delivery
  | .supplier _ call => ((call.reported r.env r.context job).map JobEvent.reported).toList
  | _ => []

/-- What a request does to the job with the id. -/
def eventsAt (id : Id) (s : Supply) (r : SupplyRequest) : List JobEvent :=
  match Rows.find InventoryReplenishmentJob.id (r.handled s.jobs) id with
  | some job => eventsOf r job
  | none => []

def history (id : Id) (s : Supply) (rs : List SupplyRequest) : List JobEvent :=
  Trace.recorded step (eventsAt id) [] s rs

end Exetron.Replenishment
