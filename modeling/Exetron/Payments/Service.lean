import Exetron.Orders.Service
import Exetron.Payments.Runtime

/-!
# Payments service

`PaymentsService`: intents and their allocations, the attempts to capture them, refunds and
voids, and the providers' webhooks.
-/

namespace Exetron.Payments

open Lib

structure LoadedPaymentIntent where
  intent : PaymentIntent
  allocations : List PaymentAllocation
  order : Order

def allocationsOf (p : PaymentTables) (intentId : Id) : List PaymentAllocation :=
  p.allocations.filter fun a => a.paymentIntentId = intentId

def loadIntent (intentId : Id) (db : Db) : Except ApiException LoadedPaymentIntent := do
  let intent ← paymentIntents.findUniqueOrThrow intentId db
  let order ← orders.findUniqueOrThrow intent.orderId db
  pure ⟨intent, allocationsOf db.payments intent.id, order⟩

def getIntent (context : RequestContext) (intentId : Id) : ServiceCall LoadedPaymentIntent :=
  Call.transact <| Tx.read fun db => do
    let loaded ← loadIntent intentId db
    authorize context loaded.intent.tenantId loaded.intent.storeId
    pure loaded

def allocationState (a : PaymentAllocation) : AllocationState := ⟨a.amount, a.status⟩

def refreshIntent (intentId : Id) : Transaction LoadedPaymentIntent := do
  let refreshed ← Tx.read (loadIntent intentId)
  let nextState := resolvePaymentIntentState refreshed.intent.totalAmount
    (refreshed.allocations.map allocationState)
  let intent ← paymentIntents.update refreshed.intent.id fun row =>
    { row with status := nextState.1, paidAmount := nextState.2 }
  pure { refreshed with intent }

def recordPayment (context : RequestContext) (tenantId storeId : Id) (name entityType : String)
    (entityId : Id) : Transaction Unit := do
  recordAudit
    { tenantId
      storeId
      actorType := resolveActorType context
      actorId := resolveActorId context
      action := name
      entityType
      entityId }
  recordDomainEvent ⟨tenantId, name, entityType, entityId⟩

/-- `deviceId` and `shiftId` may be absent or `null`. -/
structure CreatePaymentIntentDto where
  tenantId : Option Id := none
  (storeId orderId : Id)
  channel : Option OrderChannel := none
  deviceId : Option (Option Id) := none
  posSessionId : Option Id := none
  shiftId : Option (Option Id) := none
  allocations : List PaymentAllocationInput

structure AdmittedIntent where
  tenantId : Id
  order : Order
  channel : OrderChannel
  session : Option PosSession
  (shiftId deviceId : Option Id)
  totalAmount : Money
  allocations : List PaymentAllocationInput

def findReferenced {α : Type} (key : α → Id) (rows : List α) (model : String) (id : Option Id) :
    Except ApiException (Option α) :=
  match id with
  | none => .ok none
  | some id => (required (Rows.find key rows id) (.recordNotFound model)).map some

/-- The reads and checks of `createIntent`. -/
def admitIntent (context : RequestContext) (dto : CreatePaymentIntentDto) (db : Db) :
    Except ApiException AdmittedIntent := do
  let order ← orders.findUniqueOrThrow dto.orderId db
  let tenantId ← resolveTenantId context (some (dto.tenantId.getD order.tenantId))
  enforceStoreAccess context dto.storeId
  rejectIf (order.tenantId ≠ tenantId ∨ order.storeId ≠ dto.storeId)
    (.badRequest "Payment intent context mismatch.")
  let channel := dto.channel.getD order.channel
  rejectIf (channel ≠ order.channel)
    (.badRequest "Payment channel must match the order channel.")
  let session ← findReferenced PosSession.id db.setup.posSessions "PosSession" dto.posSessionId
  rejectIf
    (session.any fun session =>
      session.tenantId ≠ tenantId ∨ session.storeId ≠ dto.storeId ∨ session.status ≠ .active)
    (.badRequest "POS payment intent requires an active matching session.")
  let shiftId := dto.shiftId.getD (session.map PosSession.shiftId)
  let shift ← findReferenced PosShift.id db.setup.posShifts "PosShift" shiftId
  rejectIf
    (shift.any fun shift =>
      shift.tenantId ≠ tenantId ∨ shift.storeId ≠ dto.storeId ∨
        session.any fun session => shift.id ≠ session.shiftId)
    (.badRequest "Payment shift context mismatch.")
  let deviceId := dto.deviceId.getD (session.map PosSession.deviceId)
  let device ← findReferenced Device.id db.setup.devices "Device" deviceId
  rejectIf
    (device.any fun device => device.tenantId ≠ tenantId ∨ device.storeId ≠ dto.storeId)
    (.badRequest "Payment device context mismatch.")
  rejectIf (db.payments.intents.any fun intent => intent.orderId = order.id ∧ isActive intent.status)
    (.badRequest "An active payment intent already exists for this order.")
  let (totalAmount, allocations) ← validatePaymentAllocations dto.allocations order.total
  pure { tenantId, order, channel, session, shiftId, deviceId, totalAmount, allocations }

def newIntent (context : RequestContext) (dto : CreatePaymentIntentDto) (a : AdmittedIntent)
    (intentId : Id) : PaymentIntent where
  id := intentId
  tenantId := a.tenantId
  storeId := dto.storeId
  orderId := a.order.id
  channel := a.channel
  deviceId := a.deviceId
  posSessionId := a.session.map PosSession.id
  shiftId := a.shiftId
  status := .pending
  totalAmount := a.totalAmount
  paidAmount := 0
  createdByUserId := resolveCreatedByUserId context

def newAllocation (tenantId intentId id : Id) (input : PaymentAllocationInput) :
    PaymentAllocation where
  id := id
  tenantId := tenantId
  paymentIntentId := intentId
  method := input.method
  amount := input.amount
  status := .pending
  providerKey := none
  externalReference := none
  completedAt := none
  failedAt := none
  failureReason := none

def createIntentTx (context : RequestContext) (dto : CreatePaymentIntentDto) :
    Transaction LoadedPaymentIntent := do
  let a ← Tx.read (admitIntent context dto)
  let intentId ← freshId
  let allocationIds ← freshIds a.allocations.length
  let intent ← paymentIntents.create (newIntent context dto a intentId)
  let allocations :=
    List.zipWith (newAllocation a.tenantId intentId) allocationIds a.allocations
  paymentAllocations.createMany allocations
  recordPayment context intent.tenantId intent.storeId "payment.intent_created" "payment_intent"
    intent.id
  pure ⟨intent, allocations, a.order⟩

def createIntent (context : RequestContext) (dto : CreatePaymentIntentDto) :
    ServiceCall LoadedPaymentIntent :=
  Call.transact (createIntentTx context dto)

structure LegacyProviderConfig where
  providerKey : String
  providerType : PaymentProviderType
  autoConfirmOrderOnSuccess : Bool
  settings : Option Fields
  resolvedSecrets : Option (List (String × String))

/-- `left` does not come after `right` in the order of `resolveProviderConfigTx`. -/
def precedes (storeId : Id) (left right : PaymentProviderConfig) : Prop :=
  let own (config : PaymentProviderConfig) : Bool := config.storeId = some storeId
  if own left ∧ ¬own right then True
  else if ¬own left ∧ own right then False
  else if left.priority ≠ right.priority then left.priority < right.priority
  else left.createdAt ≤ right.createdAt

instance (storeId : Id) : DecidableRel (precedes storeId) := fun left right => by
  unfold precedes
  infer_instance

/-- The empty text counts as no key. -/
def resolveProviderConfigTx (env : Env) (intent : PaymentIntent) (method : PaymentMethodKind)
    (explicitProviderKey : Option String) (db : Db) : Except ApiException LegacyProviderConfig :=
  let explicitProviderKey := explicitProviderKey.filter (· ≠ "")
  let persistedConfigs := db.setup.paymentProviderConfigs.filter fun config =>
    config.tenantId = intent.tenantId ∧ config.method = method ∧ config.enabled ∧
      explicitProviderKey.all (config.providerKey = ·)
  let matchingConfigs := (persistedConfigs.filter fun config =>
    intent.channel ∈ config.allowedChannels ∧
      (config.storeId = none ∨ config.storeId = some intent.storeId)).insertionSort
        (precedes intent.storeId)
  match matchingConfigs.head? with
  | some selected => do
    let resolved ← resolveProviderConfigSettings env.decryptSecrets selected.settings
    pure
      { providerKey := selected.providerKey
        providerType := selected.providerType
        autoConfirmOrderOnSuccess := selected.autoConfirmOrderOnSuccess
        settings := resolved.publicSettings
        resolvedSecrets := resolved.resolvedSecrets }
  | none =>
    if explicitProviderKey.isSome then
      .error (.badRequest "Requested payment provider config was not found.")
    else .ok
      { providerKey := Text.toLowerCase intent.channel.text ++ "-" ++
          Text.toLowerCase method.text ++ "-default"
        providerType := resolveDefaultProviderType method
        autoConfirmOrderOnSuccess := resolveDefaultAutoConfirm intent.channel
        settings := none
        resolvedSecrets := none }

def adapterConfig (config : LegacyProviderConfig) (method : PaymentMethodKind) :
    PaymentAdapterConfig :=
  ⟨config.providerKey, config.providerType, method, config.settings, config.resolvedSecrets⟩

def executionLog (intent : PaymentIntent) (providerKey action : String)
    (execution : PaymentAdapterExecutionResult) (now : Instant) : ConnectorExecutionLog where
  tenantId := intent.tenantId
  storeId := some intent.storeId
  connectorKind := "PAYMENT_PROVIDER"
  connectorKey := providerKey
  action := action
  status := match execution.status with
    | .pending => .pending
    | .succeeded => .completed
    | .failed => .failed
  errorMessage := execution.errorMessage
  finishedAt := if execution.status = .pending then none else some now

structure AdmittedAllocation where
  loaded : LoadedPaymentIntent
  allocation : PaymentAllocation
  providerConfig : LegacyProviderConfig
  execution : PaymentAdapterExecutionResult

/-- The reads and checks of `processAllocation`, and the adapter's answer. -/
def admitAllocation (env : Env) (context : RequestContext) (intentId allocationId : Id)
    (providerKey : Option String) (db : Db) : Except ApiException AdmittedAllocation := do
  let loaded ← loadIntent intentId db
  authorize context loaded.intent.tenantId loaded.intent.storeId
  rejectIf (loaded.intent.status = .completed ∨ loaded.intent.status = .cancelled)
    (.badRequest "This payment intent is already closed.")
  let allocation ← required (loaded.allocations.find? fun item => item.id = allocationId)
    (.badRequest "Payment allocation was not found.")
  rejectIf (allocation.status = .completed ∨ allocation.status = .cancelled)
    (.badRequest "This allocation cannot be processed again.")
  let providerConfig ← resolveProviderConfigTx env loaded.intent allocation.method providerKey db
  let execution ← env.executePaymentProviderAttempt
    (adapterConfig providerConfig allocation.method)
  pure { loaded, allocation, providerConfig, execution }

def openedAttempt (a : AdmittedAllocation) (attemptId : Id) : PaymentAttempt where
  id := attemptId
  paymentIntentId := a.loaded.intent.id
  paymentAllocationId := a.allocation.id
  tenantId := a.loaded.intent.tenantId
  storeId := a.loaded.intent.storeId
  orderId := a.loaded.intent.orderId
  providerKey := a.providerConfig.providerKey
  providerType := a.providerConfig.providerType
  method := a.allocation.method
  status := .pending
  externalReference := none
  errorCode := none
  errorMessage := none
  finishedAt := none

def attemptStatusOf : ExecutionOutcome → PaymentAttemptStatus
  | .pending => .pending
  | .succeeded => .succeeded
  | .failed => .failed

def answerAttempt (execution : PaymentAdapterExecutionResult) (now : Instant)
    (attempt : PaymentAttempt) : PaymentAttempt :=
  { attempt with
    status := attemptStatusOf execution.status
    externalReference := execution.externalReference
    errorCode := execution.errorCode
    errorMessage := execution.errorMessage
    finishedAt := if execution.status = .pending then none else some now }

def allocationStatusOf : ExecutionOutcome → PaymentAllocationStatus
  | .pending => .pending
  | .succeeded => .completed
  | .failed => .failed

def answerAllocation (providerKey : String) (execution : PaymentAdapterExecutionResult)
    (now : Instant) (allocation : PaymentAllocation) : PaymentAllocation :=
  { allocation with
    status := allocationStatusOf execution.status
    providerKey := some providerKey
    externalReference := execution.externalReference
    completedAt := if execution.status = .succeeded then some now else none
    failedAt := if execution.status = .failed then some now else none
    failureReason := if execution.status = .pending then none else execution.errorMessage }

def attemptEventName : ExecutionOutcome → String
  | .pending => "payment.attempt_pending_external"
  | .succeeded => "payment.attempt_succeeded"
  | .failed => "payment.attempt_failed"

/-- A pending answer leaves the intent as it is stored. -/
def intentAfterAnswer (intentId : Id) (outcome : ExecutionOutcome) :
    Transaction LoadedPaymentIntent :=
  if outcome = .pending then Tx.read (loadIntent intentId) else refreshIntent intentId

def processAllocationTx (env : Env) (context : RequestContext) (intentId allocationId : Id)
    (providerKey : Option String) : Transaction (LoadedPaymentIntent × LegacyProviderConfig) := do
  let a ← Tx.read (admitAllocation env context intentId allocationId providerKey)
  let attemptId ← freshId
  let attempt ← paymentAttempts.create (openedAttempt a attemptId)
  let _ ← paymentAttempts.update attempt.id (answerAttempt a.execution env.now)
  recordConnectorExecution (executionLog a.loaded.intent a.providerConfig.providerKey
    "process_allocation" a.execution env.now)
  let _ ← paymentAllocations.update a.allocation.id
    (answerAllocation a.providerConfig.providerKey a.execution env.now)
  let updatedIntent ← intentAfterAnswer a.loaded.intent.id a.execution.status
  recordPayment context updatedIntent.intent.tenantId updatedIntent.intent.storeId
    (attemptEventName a.execution.status) "payment_attempt" attempt.id
  pure (updatedIntent, a.providerConfig)

def processAllocation (env : Env) (context : RequestContext) (intentId allocationId : Id)
    (providerKey : Option String) : ServiceCall LoadedPaymentIntent := do
  let (loaded, providerConfig) ←
    Call.transact (processAllocationTx env context intentId allocationId providerKey)
  if loaded.intent.status = .completed ∧ providerConfig.autoConfirmOrderOnSuccess ∧
      loaded.order.status = .placed then
    let _ ← Orders.transitionOrder env context loaded.intent.orderId { toStatus := .confirmed }
  getIntent context intentId

def admitCancel (context : RequestContext) (intentId : Id) (db : Db) :
    Except ApiException LoadedPaymentIntent := do
  let loaded ← loadIntent intentId db
  authorize context loaded.intent.tenantId loaded.intent.storeId
  rejectIf (loaded.intent.status = .completed)
    (.badRequest "Completed payment intents cannot be cancelled.")
  rejectIf (loaded.intent.paidAmount ≠ 0)
    (.badRequest "Partially paid payment intents cannot be cancelled.")
  pure loaded

def cancelIntentTx (context : RequestContext) (intentId : Id) : Transaction LoadedPaymentIntent := do
  let loaded ← Tx.read (admitCancel context intentId)
  let _ ← paymentAllocations.updateMany
    (fun a => a.paymentIntentId = loaded.intent.id ∧ a.status ∈ [.pending, .failed])
    (fun a => { a with status := .cancelled })
  let updated ← paymentIntents.update loaded.intent.id fun row => { row with status := .cancelled }
  let allocations ← Tx.read fun db => .ok (allocationsOf db.payments updated.id)
  recordPayment context updated.tenantId updated.storeId "payment.intent_cancelled"
    "payment_intent" updated.id
  pure ⟨updated, allocations, loaded.order⟩

def cancelIntent (context : RequestContext) (intentId : Id) : ServiceCall LoadedPaymentIntent :=
  Call.transact (cancelIntentTx context intentId)

structure CreatePaymentOperationDto where
  paymentIntentId : Id
  paymentAllocationId : Option Id := none
  kind : PaymentOperationKind
  amount : Money
  reason : Option String := none

structure AdmittedOperation where
  loaded : LoadedPaymentIntent
  allocation : PaymentAllocation
  providerConfig : LegacyProviderConfig
  execution : PaymentAdapterExecutionResult

/-- The reads and checks of `createOperation`, and the adapter's answer. -/
def admitOperation (env : Env) (context : RequestContext) (dto : CreatePaymentOperationDto)
    (db : Db) : Except ApiException AdmittedOperation := do
  let loaded ← loadIntent dto.paymentIntentId db
  authorize context loaded.intent.tenantId loaded.intent.storeId
  let allocation ← required
    ((loaded.allocations.find? fun item => some item.id = dto.paymentAllocationId).or
      (loaded.allocations.find? fun item => item.status = .completed))
    (.badRequest "A completed payment allocation is required for refund or void operations.")
  let providerConfig ←
    resolveProviderConfigTx env loaded.intent allocation.method allocation.providerKey db
  let execution ← env.executePaymentOperation (adapterConfig providerConfig allocation.method)
    dto.kind dto.amount
  pure { loaded, allocation, providerConfig, execution }

def openedOperation (context : RequestContext) (dto : CreatePaymentOperationDto)
    (a : AdmittedOperation) (operationId : Id) : PaymentOperation where
  id := operationId
  tenantId := a.loaded.intent.tenantId
  storeId := a.loaded.intent.storeId
  paymentIntentId := a.loaded.intent.id
  paymentAllocationId := some a.allocation.id
  orderId := a.loaded.intent.orderId
  kind := dto.kind
  status := .pending
  amount := dto.amount
  providerKey := a.providerConfig.providerKey
  externalReference := none
  reason := dto.reason
  createdByUserId := resolveCreatedByUserId context
  processedAt := none

def operationStatusOf : ExecutionOutcome → PaymentOperationStatus
  | .pending => .pending
  | .succeeded => .succeeded
  | .failed => .failed

def answerOperation (execution : PaymentAdapterExecutionResult) (now : Instant)
    (operation : PaymentOperation) : PaymentOperation :=
  { operation with
    status := operationStatusOf execution.status
    externalReference := execution.externalReference
    processedAt := if execution.status = .pending then none else some now }

def createOperationTx (env : Env) (context : RequestContext) (dto : CreatePaymentOperationDto) :
    Transaction PaymentOperation := do
  let a ← Tx.read (admitOperation env context dto)
  let operationId ← freshId
  let operation ← paymentOperations.create (openedOperation context dto a operationId)
  let updated ← paymentOperations.update operation.id (answerOperation a.execution env.now)
  recordConnectorExecution (executionLog a.loaded.intent a.providerConfig.providerKey
    (Text.toLowerCase dto.kind.text) a.execution env.now)
  let _ ← orders.update a.loaded.intent.orderId fun row =>
    { row with
      refundStatus := if a.execution.status = .pending then .pendingManual else .notRequired }
  recordPayment context a.loaded.intent.tenantId a.loaded.intent.storeId
    ("payment." ++ Text.toLowerCase dto.kind.text ++ "_requested") "payment_operation" operation.id
  pure updated

def createOperation (env : Env) (context : RequestContext) (dto : CreatePaymentOperationDto) :
    ServiceCall PaymentOperation :=
  Call.transact (createOperationTx env context dto)

structure ReceivePaymentWebhookDto where
  tenantId : Option Id := none
  storeId : Option Id := none
  (deliveryId eventType : String)
  signature : Option String := none
  payload : Fields

def buildWebhookContext (dto : ReceivePaymentWebhookDto) : RequestContext where
  userId := "system:webhook"
  tenantId := dto.tenantId
  scope := .platformAdmin
  storeIds := dto.storeId.toList
  deviceId := none

def findDelivery (providerKey deliveryId : String) (db : Db) : Option PaymentWebhookEvent :=
  db.payments.webhookEvents.find? fun event =>
    event.providerKey = providerKey ∧ event.deliveryId = deliveryId

/-- `orderBy: [{ storeId: "desc" }, { priority: "asc" }]`: Postgres puts no store first. -/
def webhookPrecedes (left right : PaymentProviderConfig) : Prop :=
  match left.storeId, right.storeId with
  | none, some _ => True
  | some _, none => False
  | some l, some r => if l = r then left.priority ≤ right.priority else r < l
  | none, none => left.priority ≤ right.priority

instance : DecidableRel webhookPrecedes := fun left right => by
  unfold webhookPrecedes
  split <;> infer_instance

/-- The reads of `receiveWebhook` up to the meaning of the delivery. -/
def readDelivery (env : Env) (providerKey : String) (dto : ReceivePaymentWebhookDto) (db : Db) :
    Except ApiException (PaymentProviderConfig × PaymentWebhookResolution) := do
  let candidates := db.setup.paymentProviderConfigs.filter fun config =>
    config.providerKey = providerKey ∧ dto.tenantId.all (config.tenantId = ·) ∧ config.enabled
  let providerConfig ← required (candidates.insertionSort webhookPrecedes).head?
    (.recordNotFound "PaymentProviderConfig")
  let resolved ← resolveProviderConfigSettings env.decryptSecrets providerConfig.settings
  pure (providerConfig, resolvePaymentWebhook
    { providerKey
      providerType := providerConfig.providerType
      method := providerConfig.method
      settings := resolved.publicSettings
      secrets := resolved.resolvedSecrets } dto.signature dto.payload)

def receivedEvent (providerKey : String) (dto : ReceivePaymentWebhookDto)
    (config : PaymentProviderConfig) (webhook : PaymentWebhookResolution) (id : Id) :
    PaymentWebhookEvent where
  id := id
  tenantId := some config.tenantId
  storeId := config.storeId
  providerKey := providerKey
  deliveryId := dto.deliveryId
  eventType := dto.eventType
  status := if webhook.signatureValid then .received else .failed
  signatureValid := webhook.signatureValid
  failureReason := if webhook.signatureValid then none else some "Invalid webhook signature"
  processedAt := none

def findAttempt (providerKey externalReference : String) (db : Db) : Option PaymentAttempt :=
  db.payments.attempts.find? fun attempt =>
    attempt.providerKey = providerKey ∧ attempt.externalReference = some externalReference

def findOperation (providerKey externalReference : String) (db : Db) : Option PaymentOperation :=
  db.payments.operations.find? fun operation =>
    operation.providerKey = providerKey ∧ operation.externalReference = some externalReference

def settleAttempt (webhook : PaymentWebhookResolution) (now : Instant) (attempt : PaymentAttempt) :
    PaymentAttempt :=
  { attempt with
    status := if webhook.outcome = .succeeded then .succeeded else .failed
    errorCode := webhook.errorCode
    errorMessage := webhook.errorMessage
    finishedAt := some now }

def settleAllocation (providerKey externalReference : String) (webhook : PaymentWebhookResolution)
    (now : Instant) (allocation : PaymentAllocation) : PaymentAllocation :=
  { allocation with
    status := if webhook.outcome = .succeeded then .completed else .failed
    providerKey := some providerKey
    externalReference := some externalReference
    completedAt := if webhook.outcome = .succeeded then some now else none
    failedAt := if webhook.outcome = .failed then some now else none
    failureReason := webhook.errorMessage }

def settleOperation (webhook : PaymentWebhookResolution) (now : Instant)
    (operation : PaymentOperation) : PaymentOperation :=
  { operation with
    status := if webhook.outcome = .succeeded then .completed else .failed
    processedAt := some now }

/-- Writes the outcome of a delivery to the attempt, its allocation and its intent; answers
the intent. -/
def applyToAttempt (env : Env) (providerKey externalReference : String)
    (webhook : PaymentWebhookResolution) (attempt : PaymentAttempt) :
    Transaction LoadedPaymentIntent := do
  let _ ← paymentAttempts.update attempt.id (settleAttempt webhook env.now)
  let _ ← paymentAllocations.update attempt.paymentAllocationId
    (settleAllocation providerKey externalReference webhook env.now)
  refreshIntent attempt.paymentIntentId

def applyToOperation (env : Env) (webhook : PaymentWebhookResolution)
    (operation : PaymentOperation) : Transaction Unit := do
  let _ ← paymentOperations.update operation.id (settleOperation webhook env.now)
  let _ ← orders.update operation.orderId fun row =>
    { row with
      refundStatus := if webhook.outcome = .succeeded then .notRequired else .pendingManual }
  pure ()

def finishDelivery (env : Env) (providerKey : String) (config : PaymentProviderConfig)
    (webhook : PaymentWebhookResolution) (eventId : Id) : Transaction PaymentWebhookEvent := do
  recordConnectorExecution
    { tenantId := config.tenantId
      storeId := config.storeId
      connectorKind := "PAYMENT_PROVIDER"
      connectorKey := providerKey
      action := "webhook"
      status := if webhook.outcome = .succeeded then .completed else .failed
      errorMessage := webhook.errorMessage
      finishedAt := some env.now }
  paymentWebhookEvents.update eventId fun event =>
    { event with status := .processed, processedAt := some env.now }

def failDelivery (eventId : Id) (reason : String) : Transaction PaymentWebhookEvent :=
  paymentWebhookEvents.update eventId fun event =>
    { event with status := .failed, failureReason := some reason }

/-- The row that a signed delivery settles. -/
inductive Delivery where
  | attempt (externalReference : String) (attempt : PaymentAttempt)
  | operation (operation : PaymentOperation)

/-- The row a signed delivery is for, or why it is refused. -/
def addressee (providerKey : String) (webhook : PaymentWebhookResolution) (db : Db) :
    Except String Delivery :=
  match webhook.externalReference.filter (· ≠ ""), webhook.entityType with
  | none, _ => .error "Webhook externalReference is required"
  | some externalReference, .paymentAttempt =>
    match findAttempt providerKey externalReference db with
    | none => .error "Payment attempt was not found for webhook."
    | some attempt => .ok (.attempt externalReference attempt)
  | some externalReference, .paymentOperation =>
    match findOperation providerKey externalReference db with
    | none => .error "Payment operation was not found for webhook."
    | some operation => .ok (.operation operation)

def deliver (env : Env) (providerKey : String) (config : PaymentProviderConfig)
    (webhook : PaymentWebhookResolution) (eventId : Id) :
    Transaction (PaymentWebhookEvent × Option Id) := do
  match ← Tx.read fun db => .ok (addressee providerKey webhook db) with
  | .error reason =>
    let failed ← failDelivery eventId reason
    pure (failed, none)
  | .ok (.attempt externalReference attempt) =>
    let loaded ← applyToAttempt env providerKey externalReference webhook attempt
    let processed ← finishDelivery env providerKey config webhook eventId
    pure (processed,
      if loaded.intent.status = .completed ∧ config.autoConfirmOrderOnSuccess ∧
          loaded.order.status = .placed then some loaded.intent.orderId
      else none)
  | .ok (.operation operation) =>
    applyToOperation env webhook operation
    let processed ← finishDelivery env providerKey config webhook eventId
    pure (processed, none)

def receiveWebhookTx (env : Env) (providerKey : String) (dto : ReceivePaymentWebhookDto) :
    Transaction (PaymentWebhookEvent × Option Id) := do
  match ← Tx.read fun db => .ok (findDelivery providerKey dto.deliveryId db) with
  | some existing => pure (existing, none)
  | none =>
    let (config, webhook) ← Tx.read (readDelivery env providerKey dto)
    let id ← freshId
    let event ← paymentWebhookEvents.create (receivedEvent providerKey dto config webhook id)
    if webhook.signatureValid then deliver env providerKey config webhook event.id
    else pure (event, none)

def receiveWebhook (env : Env) (providerKey : String) (dto : ReceivePaymentWebhookDto) :
    ServiceCall PaymentWebhookEvent := do
  let (event, autoConfirmOrderId) ← Call.transact (receiveWebhookTx env providerKey dto)
  match autoConfirmOrderId with
  | none => pure event
  | some orderId =>
    let _ ← Orders.transitionOrder env (buildWebhookContext dto) orderId { toStatus := .confirmed }
    pure event

end Exetron.Payments
