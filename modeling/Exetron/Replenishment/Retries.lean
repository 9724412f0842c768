import Exetron.Replenishment.Messages

/-!
# Handoffs and retries

The handoff of a job to a supplier, and what follows a failed delivery: the job is queued for a
retry or moved to the dead letters, and a sweep delivers the ones that are due.
-/

namespace Exetron.Replenishment

open Lib Inventory.Service InventoryReplenishmentJob

structure QueueRetryInput where
  source : Option SupplierSource := none
  note : Option String := none
  delayMinutes : Option ℚ := none
  delayMs : Option ℚ := none
  autoQueued : Bool := false
  code : Option String := none
  reason : Option String := none
  allowTerminalReopen : Bool := false

def reconciliationStatus (job : InventoryReplenishmentJob) : Option String :=
  textOf (job.reconciliation "status")

def lastTransportStatus (job : InventoryReplenishmentJob) : Option String :=
  textOf (job.supplier "lastTransportStatus")

def isTextAt (job : InventoryReplenishmentJob) (key : String) : Bool :=
  (textOf (job.supplier key)).isSome

def isTerminal (job : InventoryReplenishmentJob) : Bool :=
  reconciliationStatus job = some "DEAD_LETTER" ∨ isTextAt job "deadLetterAt" = true ∨
    isTextAt job "deadLetteredAt" = true

def sourceNamed (text : Option String) : Option SupplierSource :=
  [.webhook, .fileImport, .httpPush].find? fun source : SupplierSource => some source.text = text

def lastFailureSource (job : InventoryReplenishmentJob) : Option SupplierSource :=
  sourceNamed (textOf (job.supplier "lastFailureSource"))

def hasFailure (job : InventoryReplenishmentJob) : Bool :=
  reconciliationStatus job = some "FAILED" ∨ reconciliationStatus job = some "DEAD_LETTER" ∨
    lastTransportStatus job = some "FAILED" ∨ (lastFailureSource job).isSome = true

def sourceOfMode : InventorySupplierTransportMode → Option SupplierSource
  | .webhook => some .webhook
  | .fileImport => some .fileImport
  | .httpPush => some .httpPush
  | .simulated => none

def resolveSupplierRetrySource (job : InventoryReplenishmentJob)
    (runtimeMode : InventorySupplierTransportMode) (requestedSource : Option SupplierSource) :
    Option SupplierSource :=
  if hasFailure job then
    (requestedSource.or (lastFailureSource job)).or (sourceOfMode runtimeMode)
  else none

/-- The checks of `queueSupplierRetryTx`, and the channel the retry is for. -/
def admitRetry (env : SupplierEnv) (input : QueueRetryInput) (current : InventoryReplenishmentJob) :
    Except ApiException SupplierSource := do
  let (_, runtime) ← connectorOf env current
    "Supplier connector handoff is required before retry queueing."
  rejectIf (input.allowTerminalReopen = false ∧ isTerminal current = true)
    (.badRequest "Terminal supplier artifacts cannot be queued for retry.")
  required (resolveSupplierRetrySource current runtime.mode input.source)
    (.badRequest "No failed supplier reconciliation is available for retry queueing.")

def retryDelayMs (input : QueueRetryInput) : ℚ :=
  match input.delayMs with
  | some delayMs => clamp 0 86400000 delayMs
  | none => clamp 0 1440 (input.delayMinutes.getD 0) * 60 * 1000

def phaseOf : SupplierSource → String
  | .httpPush => "RETRY"
  | .webhook => "WEBHOOK"
  | .fileImport => "FILE_DROP"

/-- A text that was given, the row's own otherwise. -/
def givenOr (given : Option String) (current : InventoryReplenishmentJob) (key : String) : Json :=
  ofText (given.or (textOf (current.supplier key)))

def counted (current : InventoryReplenishmentJob) (key : String) : ℚ :=
  max 0 (toNumber (current.supplier key)) + 1

def queueRetry (now : Instant) (input : QueueRetryInput) (source : SupplierSource)
    (current : InventoryReplenishmentJob) : InventoryReplenishmentJob :=
  let nextRetryAt := isoText (now + ⌊retryDelayMs input⌋₊)
  let replay := replayOf current
  current.patchSupplier now
    [("pendingCallback", .bool (source = .webhook)),
      ("pendingImport", .bool (source = .fileImport)),
      ("pendingPush", .bool (source = .httpPush)),
      ("retryAttemptCount", .num (counted current "retryAttemptCount")),
      ("retryQueuedCount", .num (counted current "retryQueuedCount")),
      ("lastRetryQueuedAt", isoText now),
      ("lastRetryQueuedSource", .str source.text),
      ("retryClass", .str "RETRYABLE"),
      ("providerExecutionPhase", .str (phaseOf source)),
      ("nextRetryAt", nextRetryAt),
      ("lastStatusNote", Json.orElse (some (ofText input.note))
        (Json.orElse (current.supplier "lastStatusNote") .null)),
      ("lastFailureCode", givenOr input.code current "lastFailureCode"),
      ("lastFailureReason", givenOr input.reason current "lastFailureReason"),
      ("deadLetterAt", .null),
      ("deadLetteredAt", .null),
      ("deadLetterCode", .null),
      ("deadLetterReason", .null),
      ("deadLetterStatus", .null),
      ("replay", .obj (replay.set "retryQueue"
        (appendReplayMarker (replay.get "retryQueue")
          [("source", .str source.text),
            ("queuedAt", isoText now),
            ("nextRetryAt", nextRetryAt),
            ("retryAttemptCount", .num (counted current "retryAttemptCount")),
            ("autoQueued", .bool input.autoQueued)] 20))),
      ("reconciliation", .obj
        [("source", .str source.text),
          ("status", .str "RETRY_QUEUED"),
          ("processedAt", isoText now),
          ("nextRetryAt", nextRetryAt),
          ("retryAttemptCount", .num (counted current "retryAttemptCount")),
          ("retryClass", .str "RETRYABLE"),
          ("code", ofText input.code),
          ("reason", ofText input.reason)])]

def queueSupplierRetryTx (env : SupplierEnv) (input : QueueRetryInput)
    (current : InventoryReplenishmentJob) : Except ApiException InventoryReplenishmentJob := do
  let source ← admitRetry env input current
  pure (queueRetry env.now input source current)

structure DeadLetter where
  (code reason : String)
  attempt : ℚ
  (deadLetterStatus note : String)
  execution : TransportHandoffExecution

def markSupplierDeadLetterTx (now : Instant) (input : DeadLetter)
    (current : InventoryReplenishmentJob) : InventoryReplenishmentJob :=
  let replay := replayOf current
  let errorClass : ProviderErrorClass :=
    (input.execution.report.bind (·.providerErrorClass)).getD .unknown
  let phase := if input.execution.report.isSome then "HANDOFF" else "RETRY"
  current.patchSupplier now
    [("pendingPush", .bool false),
      ("nextRetryAt", .null),
      ("lastFailureAt", isoText now),
      ("lastFailureSource", .str "HTTP_PUSH"),
      ("lastFailureReason", .str input.reason),
      ("lastFailureCode", .str input.code),
      ("providerErrorClass", .str errorClass.text),
      ("retryClass", .str "TERMINAL"),
      ("providerExecutionPhase", .str phase),
      ("retryAttemptCount",
        .num (max (toNumber (current.supplier "retryAttemptCount")) input.attempt)),
      ("deadLetterAt", isoText now),
      ("deadLetteredAt", isoText now),
      ("deadLetterCode", .str input.code),
      ("deadLetterReason", .str input.reason),
      ("deadLetterStatus", .str input.deadLetterStatus),
      ("lastStatusNote", .str input.note),
      ("deliveryArtifact", match input.execution.deliveryArtifact with
        | some artifact => .obj artifact
        | none => match current.supplier "deliveryArtifact" with
          | some (.obj fields) => .obj fields
          | some (.arr items) => .arr items
          | _ => .null),
      ("replay", .obj (replay.set "deadLetters"
        (appendReplayMarker (replay.get "deadLetters")
          [("source", .str "HTTP_PUSH"),
            ("code", .str input.code),
            ("reason", .str input.reason),
            ("processedAt", isoText now)] 20))),
      ("reconciliation", .obj
        [("source", .str "HTTP_PUSH"),
          ("status", .str input.deadLetterStatus),
          ("processedAt", isoText now),
          ("code", .str input.code),
          ("reason", .str input.reason),
          ("providerErrorClass", .str errorClass.text),
          ("retryClass", .str "TERMINAL"),
          ("providerExecutionPhase", .str phase)])]

/-- The answer of a call that may deliver, the job's row after it and the delivery it made. A
delivery is made even when the call fails after it. -/
structure Delivered where
  answer : Except ApiException Bool
  job : InventoryReplenishmentJob
  delivery : Option TransportHandoffExecution

def resolveSupplierConnectorHttpPushAuthTx (env : SupplierEnv) (tenantId : Id)
    (runtime : SupplierConnectorRuntime) : Except ApiException Unit :=
  match runtime.mode, runtime.auth with
  | .httpPush, some auth => do
    let secretKey ← required auth.secretKey
      (.badRequest "Supplier HTTP push auth secret reference is not configured.")
    let _ ← required (resolveSupplierConnectorSecretTx env tenantId secretKey)
      (.badRequest "Supplier HTTP push auth secret was not found.")
    pure ()
  | _, _ => .ok ()

def summaryNumber (job : InventoryReplenishmentJob) (key : String) : ℚ :=
  toNumber ((asRecord (some job.summary)).get key)

def retryHandoff (job : InventoryReplenishmentJob) (connector : IntegrationRegistryEntry) :
    TransportHandoffInput where
  replenishmentJobId := job.id
  connectorKey := connector.connectorKey
  supplierReference := filledTextOf (job.supplier "supplierReference")
  channel := (filledTextOf (job.supplier "channel")).getD "API"
  recommendationCount := summaryNumber job "recommendationCount"
  totalRecommendedOrderQuantity := summaryNumber job "totalRecommendedOrderQuantity"

structure RunDueInput where
  source : Option SupplierSource := none
  note : Option String := none

def nextRetryAt (job : InventoryReplenishmentJob) : Option Instant :=
  ((textOf (job.supplier "nextRetryAt")).filter fun text => Text.trim text ≠ "").bind dateOf?

def isDue (now : Instant) (job : InventoryReplenishmentJob) : Bool :=
  reconciliationStatus job = some "RETRY_QUEUED" ∧ (nextRetryAt job).any (· ≤ now)

/-- The checks of `processDueSupplierRetryTx`: the connector and the channel of a due retry. -/
def dueRetry (env : SupplierEnv) (input : RunDueInput) (current : InventoryReplenishmentJob) :
    Except ApiException
      (Option (IntegrationRegistryEntry × SupplierConnectorRuntime × SupplierSource)) :=
  match connectorKeyOf current with
  | none => .ok none
  | some connectorKey => do
    let connector ← requireSupplierConnectorTx env.integrationRegistry current.tenantId connectorKey
    let runtime := resolveSupplierConnectorRuntime connector
    match resolveSupplierRetrySource current runtime.mode input.source with
    | none => pure none
    | some source =>
      if isDue env.now current = false then pure none
      else if source ≠ .httpPush then pure (some (connector, runtime, source))
      else
        match env.canExecute current connector with
        | .error _ => pure none
        | .ok () =>
          if runtime.mode ≠ .httpPush then pure none
          else
            resolveSupplierConnectorHttpPushAuthTx env current.tenantId runtime
            pure (some (connector, runtime, source))

def retryMarker (now : Instant) (current : InventoryReplenishmentJob) (source : SupplierSource)
    (rest : InventoryRecord) : Json :=
  .obj ((replayOf current).set "retryDispatches"
    (appendReplayMarker ((replayOf current).get "retryDispatches")
      ([("source", .str source.text),
        ("processedAt", isoText now),
        ("retryProcessedCount", .num (counted current "retryProcessedCount"))] ++ rest) 20))

def artifactOf (execution : TransportHandoffExecution) : Json :=
  Json.ofOption .obj execution.deliveryArtifact

def completeRetry (now : Instant) (execution : TransportHandoffExecution)
    (current : InventoryReplenishmentJob) : InventoryReplenishmentJob :=
  current.patchSupplier now
    [("supplierReference", ofText (execution.externalReference.or (currentReference current))),
      ("supplierStatus", .str execution.supplierStatus.text),
      ("pendingPush", .bool false),
      ("nextRetryAt", .null),
      ("lastRetryProcessedAt", isoText now),
      ("lastRetryProcessedSource", .str "HTTP_PUSH"),
      ("retryProcessedCount", .num (counted current "retryProcessedCount")),
      ("lastTransportAction", .str "replenishment_supplier_retry_due"),
      ("lastTransportStatus", .str execution.status.text),
      ("deliveryArtifact", artifactOf execution),
      ("replay", retryMarker now current .httpPush
        [("status", .str execution.supplierStatus.text)]),
      ("reconciliation", .obj
        [("source", .str "HTTP_PUSH"),
          ("status", .str "RETRY_COMPLETED"),
          ("processedAt", isoText now),
          ("retryProcessedCount", .num (counted current "retryProcessedCount"))])]

def failRetry (now : Instant) (execution : TransportHandoffExecution)
    (current : InventoryReplenishmentJob) : InventoryReplenishmentJob :=
  current.patchSupplier now
    [("pendingPush", .bool true),
      ("lastRetryProcessedAt", isoText now),
      ("lastRetryProcessedSource", .str "HTTP_PUSH"),
      ("retryProcessedCount", .num (counted current "retryProcessedCount")),
      ("lastTransportAction", .str "replenishment_supplier_retry_due"),
      ("lastTransportStatus", .str execution.status.text),
      ("lastFailureAt", isoText now),
      ("lastFailureSource", .str "HTTP_PUSH"),
      ("lastFailureReason", .str (execution.errorMessage.getD "HTTP push retry failed.")),
      ("lastFailureCode", .str "HTTP_PUSH_RETRY_FAILED"),
      ("deliveryArtifact", artifactOf execution)]

def dispatchRetry (now : Instant) (source : SupplierSource) (input : RunDueInput)
    (current : InventoryReplenishmentJob) : InventoryReplenishmentJob :=
  current.patchSupplier now
    [("pendingCallback", .bool (source = .webhook)),
      ("pendingImport", .bool (source = .fileImport)),
      ("pendingPush", .bool false),
      ("nextRetryAt", .null),
      ("lastRetryProcessedAt", isoText now),
      ("lastRetryProcessedSource", .str source.text),
      ("retryProcessedCount", .num (counted current "retryProcessedCount")),
      ("lastStatusNote", Json.orElse (some (ofText input.note))
        (Json.orElse (current.supplier "lastStatusNote") .null)),
      ("replay", retryMarker now current source []),
      ("reconciliation", .obj
        [("source", .str source.text),
          ("status", .str "RETRY_DISPATCHED"),
          ("processedAt", isoText now),
          ("retryProcessedCount", .num (counted current "retryProcessedCount"))])]

def deadLetterStatusOf (runtime : SupplierConnectorRuntime) : String :=
  (runtime.retryPolicy.map (·.deadLetterStatus)).getD "DEAD_LETTER"

def pushRetry (env : SupplierEnv) (connector : IntegrationRegistryEntry)
    (runtime : SupplierConnectorRuntime) (current : InventoryReplenishmentJob) :
    TransportHandoffExecution :=
  executeInventorySupplierHttpPushDelivery env.now (env.fetch current.id)
    (executeInventorySupplierTransportHandoff (retryHandoff current connector) runtime) runtime

/-- What follows a failed delivery of a retry: the job, marked as failed, is queued again or becomes
a dead letter. -/
def afterFailedRetry (env : SupplierEnv) (runtime : SupplierConnectorRuntime)
    (execution : TransportHandoffExecution) (failedState : InventoryReplenishmentJob) :
    Except ApiException InventoryReplenishmentJob :=
  let decision :=
    resolveHttpPushRetryDecision failedState.getReplenishmentSupplier runtime execution
  if decision.shouldRetry then
    queueSupplierRetryTx env
      { source := some .httpPush
        note := some ("Auto-queued HTTP push retry after due-run failure. " ++ decision.reason)
        delayMs := some decision.delayMs
        autoQueued := true
        code := some decision.code
        reason := some decision.reason } failedState
  else
    .ok (markSupplierDeadLetterTx env.now
      { code := decision.code
        reason := decision.reason
        attempt := decision.attempt
        deadLetterStatus := deadLetterStatusOf runtime
        note := "HTTP push retry moved to dead letter. " ++ decision.reason
        execution } failedState)

def deliverRetry (env : SupplierEnv) (connector : IntegrationRegistryEntry)
    (runtime : SupplierConnectorRuntime) (current : InventoryReplenishmentJob) : Delivered :=
  let execution := pushRetry env connector runtime current
  match execution.status with
  | .completed => ⟨.ok true, completeRetry env.now execution current, some execution⟩
  | .failed =>
    let failedState := failRetry env.now execution current
    match afterFailedRetry env runtime execution failedState with
    | .ok job => ⟨.ok true, job, some execution⟩
    | .error e => ⟨.error e, failedState, some execution⟩

/-- Inside its transaction: the row is the one the transaction goes on with, also after an error. -/
def processDueSupplierRetryTx (env : SupplierEnv) (input : RunDueInput)
    (current : InventoryReplenishmentJob) : Delivered :=
  match dueRetry env input current with
  | .error e => ⟨.error e, current, none⟩
  | .ok none => ⟨.ok false, current, none⟩
  | .ok (some (connector, runtime, source)) =>
    if source = .httpPush then deliverRetry env connector runtime current
    else ⟨.ok true, dispatchRetry env.now source input current, none⟩

structure HandoffReplenishmentJobDto where
  supplierName : String
  supplierReference : Option String := none
  channel : Option String := none
  connectorKey : Option String := none
  notes : Option String := none

def handoffInput (job : InventoryReplenishmentJob) (connector : IntegrationRegistryEntry)
    (input : HandoffReplenishmentJobDto) : TransportHandoffInput where
  replenishmentJobId := job.id
  connectorKey := connector.connectorKey
  supplierReference := filled input.supplierReference
  channel := (filled input.channel).getD "MANUAL"
  recommendationCount := summaryNumber job "recommendationCount"
  totalRecommendedOrderQuantity := summaryNumber job "totalRecommendedOrderQuantity"

def handoffConnector (env : SupplierEnv) (input : HandoffReplenishmentJobDto)
    (current : InventoryReplenishmentJob) : Except ApiException (Option IntegrationRegistryEntry) :=
  match filled input.connectorKey with
  | none => .ok none
  | some connectorKey => do
    let connector ← requireSupplierConnectorTx env.integrationRegistry current.tenantId connectorKey
    env.ensureReadyForHandoff current.tenantId connector
    executable env current connector
    pure (some connector)

def admitHandoff (env : SupplierEnv) (context : RequestContext) (input : HandoffReplenishmentJobDto)
    (current : InventoryReplenishmentJob) : Except ApiException (Option IntegrationRegistryEntry) := do
  let _ ← Inventory.Service.resolveTenantId context current.tenantId
  rejectIf (current.status ≠ .dispatched ∧ current.status ≠ .receiving ∧ current.status ≠ .received)
    (.badRequest "Only dispatched replenishment jobs can be handed off to a supplier.")
  let connector ← handoffConnector env input current
  match connector with
  | none => pure none
  | some connector =>
    resolveSupplierConnectorHttpPushAuthTx env current.tenantId
      (resolveSupplierConnectorRuntime connector)
    pure (some connector)

def executeHandoff (env : SupplierEnv) (connector : IntegrationRegistryEntry)
    (runtime : SupplierConnectorRuntime) (input : HandoffReplenishmentJobDto)
    (current : InventoryReplenishmentJob) : TransportHandoffExecution :=
  let baseHandoffExecution :=
    executeInventorySupplierTransportHandoff (handoffInput current connector input) runtime
  if runtime.mode = .httpPush then
    executeInventorySupplierHttpPushDelivery env.now (env.fetch current.id) baseHandoffExecution
      runtime
  else baseHandoffExecution

def handoffAction : Option InventorySupplierTransportMode → String
  | some .webhook => "replenishment_supplier_webhook_handoff"
  | some .fileImport => "replenishment_supplier_file_handoff"
  | some .httpPush => "replenishment_supplier_http_push_handoff"
  | some .simulated | none => "replenishment_handoff"

def handedOff (env : SupplierEnv) (context : RequestContext) (input : HandoffReplenishmentJobDto)
    (connector : Option IntegrationRegistryEntry) (execution : Option TransportHandoffExecution) :
    InventoryRecord :=
  let runtime := connector.map resolveSupplierConnectorRuntime
  let mode := runtime.map (·.mode)
  [("supplierName", .str (Text.trim input.supplierName)),
    ("supplierReference", ofText ((execution.bind (·.externalReference)).or
      (input.supplierReference.map Text.trim))),
    ("channel", .str ((filled input.channel).getD "MANUAL")),
    ("connectorKey", ofText (connector.map (·.connectorKey))),
    ("connectorVersion", ofText (connector.map (·.version))),
    ("notes", ofText input.notes),
    ("handedOffAt", isoText env.now),
    ("handedOffByActorId", actorOf context),
    ("supplierStatus", .str ((execution.map fun execution : TransportHandoffExecution =>
      execution.supplierStatus).getD SupplierStatus.submitted).text),
    ("transportMode", .str ((mode.map (·.text)).getD "MANUAL")),
    ("providerAdapterKey", ofText ((runtime.bind (·.providerAdapter)).map (·.key))),
    ("requireSignature", .bool (runtime.any (·.requireSignature))),
    ("requireChecksum", .bool (runtime.any (·.requireChecksum))),
    ("pendingCallback", .bool (mode = some .webhook)),
    ("pendingImport", .bool (mode = some .fileImport)),
    ("pendingPush", .bool (mode = some .httpPush ∧
      execution.map (·.status) = some .failed)),
    ("deliveryArtifact", Json.ofOption .obj (execution.bind (·.deliveryArtifact))),
    ("lastTransportAction", .str (handoffAction mode)),
    ("lastTransportStatus", ofText (execution.map (·.status.text)))]

def afterFailedHandoff (env : SupplierEnv) (runtime : SupplierConnectorRuntime)
    (execution : TransportHandoffExecution) (updated : InventoryReplenishmentJob) :
    Except ApiException InventoryReplenishmentJob :=
  let decision := resolveHttpPushRetryDecision updated.getReplenishmentSupplier runtime execution
  if decision.shouldRetry then
    queueSupplierRetryTx env
      { source := some .httpPush
        note := some ("Auto-queued HTTP push retry after failed handoff. " ++ decision.reason)
        delayMs := some decision.delayMs
        autoQueued := true
        code := some decision.code
        reason := some decision.reason } updated
  else if decision.terminal then
    .ok (markSupplierDeadLetterTx env.now
      { code := decision.code
        reason := decision.reason
        attempt := decision.attempt
        deadLetterStatus := deadLetterStatusOf runtime
        note := "HTTP push failure moved to dead letter. " ++ decision.reason
        execution } updated)
  else .ok updated

def deliverHandoff (env : SupplierEnv) (context : RequestContext)
    (input : HandoffReplenishmentJobDto) (connector : IntegrationRegistryEntry)
    (current : InventoryReplenishmentJob) : Delivered :=
  let runtime := resolveSupplierConnectorRuntime connector
  let execution := executeHandoff env connector runtime input current
  let updated :=
    current.putSupplier env.now (handedOff env context input (some connector) (some execution))
  if runtime.mode = .httpPush then
    if execution.status = .failed then
      match afterFailedHandoff env runtime execution updated with
      | .ok job => ⟨.ok true, job, some execution⟩
      | .error e => ⟨.error e, current, some execution⟩
    else ⟨.ok true, updated, some execution⟩
  else ⟨.ok true, updated, none⟩

def handoffReplenishmentJob (env : SupplierEnv) (context : RequestContext)
    (input : HandoffReplenishmentJobDto) (current : InventoryReplenishmentJob) : Delivered :=
  match admitHandoff env context input current with
  | .error e => ⟨.error e, current, none⟩
  | .ok none => ⟨.ok true, current.putSupplier env.now (handedOff env context input none none), none⟩
  | .ok (some connector) => deliverHandoff env context input connector current

structure ReopenDeadLetterDto where
  source : Option SupplierSource := none
  note : Option String := none
  delayMinutes : Option ℚ := none

def isDeadLetter (job : InventoryReplenishmentJob) : Bool :=
  isTextAt job "deadLetterAt" = true ∨ isTextAt job "deadLetteredAt" = true ∨
    reconciliationStatus job = some "DEAD_LETTER" ∨ reconciliationStatus job = some "DEAD_LETTERED"

def reopenInput (input : ReopenDeadLetterDto) (current : InventoryReplenishmentJob) :
    QueueRetryInput where
  source := input.source
  note := some (input.note.getD "Reopened dead-letter supplier artifact.")
  delayMinutes := input.delayMinutes
  code := (textOf (current.supplier "deadLetterCode")).or
    (textOf (current.supplier "lastFailureCode"))
  reason := (textOf (current.supplier "deadLetterReason")).or
    (textOf (current.supplier "lastFailureReason"))
  allowTerminalReopen := true

def reopenReplenishmentSupplierDeadLetter (env : SupplierEnv) (context : RequestContext)
    (input : ReopenDeadLetterDto) (current : InventoryReplenishmentJob) :
    Except ApiException InventoryReplenishmentJob := do
  let _ ← Inventory.Service.resolveTenantId context current.tenantId
  rejectIf (isDeadLetter current = false)
    (.badRequest "Replenishment job is not in dead-letter state.")
  queueSupplierRetryTx env (reopenInput input current) current

structure QueueSupplierRetryDto where
  source : Option SupplierSource := none
  note : Option String := none
  delayMinutes : Option ℚ := none

def QueueSupplierRetryDto.toInput (input : QueueSupplierRetryDto) : QueueRetryInput where
  source := input.source
  note := input.note
  delayMinutes := input.delayMinutes

def queueReplenishmentSupplierRetry (env : SupplierEnv) (context : RequestContext)
    (input : QueueSupplierRetryDto) (current : InventoryReplenishmentJob) :
    Except ApiException InventoryReplenishmentJob := do
  let _ ← Inventory.Service.resolveTenantId context current.tenantId
  queueSupplierRetryTx env input.toInput current

def dispatchInput (input : RunDueInput) (current : InventoryReplenishmentJob) :
    QueueRetryInput where
  source := input.source
  note := some (input.note.getD "Forced provider retry dispatch requested by operator.")
  delayMs := some 0
  code := (normalizeProviderErrorClass (current.supplier "providerErrorClass")).bind fun _ =>
    textOf (current.supplier "providerErrorClass")
  reason := some ((textOf (current.supplier "lastFailureReason")).getD
    "Forced provider retry dispatch requested by operator.")

def isQueued (job : InventoryReplenishmentJob) : Bool :=
  reconciliationStatus job = some "RETRY_QUEUED"

def makeDue (now : Instant) (job : InventoryReplenishmentJob) : InventoryReplenishmentJob :=
  job.patchSupplier now
    [("nextRetryAt", isoText now),
      ("reconciliation", .obj
        ((asRecord (job.supplier "reconciliation")).set "nextRetryAt" (isoText now)))]

def prepareDispatch (env : SupplierEnv) (context : RequestContext) (input : RunDueInput)
    (current : InventoryReplenishmentJob) : Except ApiException InventoryReplenishmentJob := do
  let _ ← Inventory.Service.resolveTenantId context current.tenantId
  let (connector, _) ← connectorOf env current
    "Supplier connector handoff is required before retry dispatch."
  executable env current connector
  let queued ←
    if isQueued current then pure current
    else queueSupplierRetryTx env (dispatchInput input current) current
  pure (if isQueued queued then makeDue env.now queued else queued)

def dispatchReplenishmentSupplierRetry (env : SupplierEnv) (context : RequestContext)
    (input : RunDueInput) (current : InventoryReplenishmentJob) : Delivered :=
  match prepareDispatch env context input current with
  | .error e => ⟨.error e, current, none⟩
  | .ok queued =>
    let note := input.note.getD "Forced provider retry dispatch executed by operator."
    let processed := processDueSupplierRetryTx env { input with note := some note } queued
    match processed.answer with
    | .ok _ => processed
    | .error e => ⟨.error e, current, processed.delivery⟩

end Exetron.Replenishment
