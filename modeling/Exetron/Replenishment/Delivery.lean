import Exetron.Replenishment.Runtime
import Mathlib.Data.List.Infix

/-!
# Deliveries to a supplier

`inventory-supplier-connector.util.ts` and the push of an order over HTTP: what a transport makes of
a handoff, how an answer is classified, and what is decided after a failure.
-/

namespace Exetron.Replenishment

open Lib

inductive SupplierStatus where
  | submitted | acknowledged | inTransit | delivered | cancelled
  deriving DecidableEq

def SupplierStatus.text : SupplierStatus → String
  | .submitted => "SUBMITTED"
  | .acknowledged => "ACKNOWLEDGED"
  | .inTransit => "IN_TRANSIT"
  | .delivered => "DELIVERED"
  | .cancelled => "CANCELLED"

/-- The status that a text spells, in any case and with white space around it. -/
def SupplierStatus.named (text : String) : Option SupplierStatus :=
  [.submitted, .acknowledged, .inTransit, .delivered, .cancelled].find? fun status =>
    status.text = Text.toUpperCase (Text.trim text)

inductive ProviderErrorClass where
  | network | auth | signature | checksum | reference | providerRejected | configuration | replay
  | governance | state | unknown
  deriving DecidableEq

def ProviderErrorClass.text : ProviderErrorClass → String
  | .network => "NETWORK"
  | .auth => "AUTH"
  | .signature => "SIGNATURE"
  | .checksum => "CHECKSUM"
  | .reference => "REFERENCE"
  | .providerRejected => "PROVIDER_REJECTED"
  | .configuration => "CONFIGURATION"
  | .replay => "REPLAY"
  | .governance => "GOVERNANCE"
  | .state => "STATE"
  | .unknown => "UNKNOWN"

def normalizeProviderErrorClass (value : Option Json) : Option ProviderErrorClass :=
  (textOf value).bind fun text =>
    [.network, .auth, .signature, .checksum, .reference, .providerRejected, .configuration, .replay,
      .governance, .state, .unknown].find? fun errorClass : ProviderErrorClass =>
        errorClass.text = Text.toUpperCase (Text.trim text)

inductive RetryClass where
  | none | retryable | terminal
  deriving DecidableEq

def RetryClass.text : RetryClass → String
  | .none => "NONE"
  | .retryable => "RETRYABLE"
  | .terminal => "TERMINAL"

inductive TransportStatus where
  | completed | failed
  deriving DecidableEq

def TransportStatus.text : TransportStatus → String
  | .completed => "COMPLETED"
  | .failed => "FAILED"

/-- A push answers with a status of delivery, never with a cancellation. -/
def normalizeSupplierTransportStatus (value : Option Json) : Option SupplierStatus :=
  ((textOf value).bind SupplierStatus.named).filter (· ≠ .cancelled)

def contains (text part : String) : Bool := part.toList <:+: text.toList

def shouldFail (connectorKey channelOrStatus : String) : Bool :=
  contains (Text.toLowerCase (connectorKey ++ " " ++ channelOrStatus)) "fail"

structure StatusSyncExecution where
  status : TransportStatus
  (errorMessage externalReference : Option String)
  supplierStatus : SupplierStatus

def executeInventorySupplierStatusSync (connectorKey : String) (supplierReference : Option String)
    (currentSupplierStatus : String) : StatusSyncExecution :=
  if shouldFail connectorKey currentSupplierStatus then
    { status := .failed
      errorMessage := some "Supplier connector simulated sync failure."
      externalReference := supplierReference
      supplierStatus := .submitted }
  else
    { status := .completed
      errorMessage := none
      externalReference := supplierReference
      supplierStatus := match Text.toUpperCase currentSupplierStatus with
        | "SUBMITTED" => .acknowledged
        | "ACKNOWLEDGED" => .inTransit
        | _ => .delivered }

/-- The status `executeInventorySupplierStatusSync` answers for a job that has none. -/
def syncedFromNone (connectorKey : String) : SupplierStatus :=
  if shouldFail connectorKey "SUBMITTED" then .submitted else .acknowledged

def resolveInventorySupplierProviderSyncStatus (currentSupplierStatus : String) : SupplierStatus :=
  match Text.toUpperCase (Text.trim currentSupplierStatus) with
  | "SUBMITTED" => .acknowledged
  | "ACKNOWLEDGED" => .inTransit
  | _ => .delivered

def payloadStatus (payload : InventoryRecord) (parts : List String) : Option String :=
  (parts.findSome? fun part => textOf ((recordAt payload part).get "status")).or
    (textOf (payload.get "status"))

def resolvedStatus (candidate : Option String) (supplierStatus : SupplierStatus) : SupplierStatus :=
  ((candidate.bind SupplierStatus.named)).getD supplierStatus

def adapterIs (runtime : SupplierConnectorRuntime) (key : String) : Bool :=
  runtime.providerAdapter.any fun adapter => adapter.key = key

/-- `resolveInventorySupplierProviderWebhookPayload`: the status and the type of the event. -/
def resolveInventorySupplierProviderWebhookPayload (runtime : SupplierConnectorRuntime)
    (supplierStatus : SupplierStatus) (eventType : Option String)
    (payload : Option InventoryRecord) : SupplierStatus × Option String :=
  match payload with
  | some payload =>
    if adapterIs runtime "SIGNAL_WEBHOOK_V1" then
      (resolvedStatus (payloadStatus payload ["signal", "event"]) supplierStatus,
        ((textOf ((recordAt payload "event").get "type")).or
          (textOf (payload.get "eventType"))).or eventType)
    else (supplierStatus, eventType)
  | none => (supplierStatus, eventType)

/-- `resolveInventorySupplierProviderImportPayload`: the status and the name of the file. -/
def resolveInventorySupplierProviderImportPayload (runtime : SupplierConnectorRuntime)
    (supplierStatus : SupplierStatus) (payload : Option InventoryRecord)
    (fileName : Option String) : SupplierStatus × Option String :=
  match payload with
  | some payload =>
    if adapterIs runtime "WAREDROP_FILE_V1" then
      (resolvedStatus (payloadStatus payload ["receipt", "batch"]) supplierStatus,
        fileName.or ((textOf ((recordAt payload "receipt").get "fileName")).or
          (textOf ((recordAt payload "batch").get "fileName"))))
    else (supplierStatus, fileName)
  | none => (supplierStatus, fileName)

/-- `text.replaceAll(/[^…]+/g, "-")`. -/
def dashed (allowed : Char → Bool) : List Char → List Char
  | [] => []
  | c :: cs =>
    if allowed c then c :: dashed allowed cs
    else if (cs.head?.map allowed) = some false then dashed allowed cs
    else '-' :: dashed allowed cs

def slug (text : String) : String :=
  Text.toLowerCase (String.ofList (dashed Char.isAlphanum text.toList))

/-- `id.slice(0, 8)`. -/
def shortId (id : Id) : String := String.ofList ((toString id).toList.take 8)

def pathOf (path : Option String) (id : Id) : Option String :=
  path.map fun path => path.replace ":jobId" (toString id)

/-- What the decision after a failure reads of an answer. -/
structure PushReport where
  httpStatus : Option Nat
  providerErrorClass : Option ProviderErrorClass
  retryClass : RetryClass
  deadLetterReasonCode : Option String

structure TransportHandoffExecution where
  status : TransportStatus
  (errorMessage externalReference : Option String)
  supplierStatus : SupplierStatus
  deliveryArtifact : Option InventoryRecord
  report : Option PushReport := none

structure TransportHandoffInput where
  replenishmentJobId : Id
  connectorKey : String
  supplierReference : Option String
  channel : String
  (recommendationCount totalRecommendedOrderQuantity : ℚ)

/-- `buildInventorySupplierProviderStageMetadata`. -/
def stageMetadata (connectorKey : String) (jobId : Id) (runtime : SupplierConnectorRuntime)
    (fileName contentType : String) (pickupPath dropPath externalReference : Option String) :
    InventoryRecord :=
  let adapterKey := runtime.providerAdapter.map (·.key)
  let stage := connectorKey ++ ":" ++ toString jobId ++ ":" ++
    ((adapterKey.map Text.toLowerCase).getD "default")
  [("stageId", .str (String.ofList
      (dashed (fun c => c.isAlphanum || c = ':' || c = '.' || c = '-') stage.toList))),
    ("providerAdapterKey", ofText adapterKey),
    ("fileName", .str fileName),
    ("contentType", .str contentType),
    ("pickupPath", ofText pickupPath),
    ("dropPath", ofText dropPath),
    ("externalReference", ofText externalReference)]

def authKindText : SupplierAuthKind → String
  | .bearer => "BEARER"
  | .header => "HEADER"

def httpPushArtifact (runtime : SupplierConnectorRuntime) : InventoryRecord :=
  [("endpoint", ofText runtime.endpoint),
    ("method", .str (runtime.method.getD "POST")),
    ("contentType", .str "application/json"),
    ("acceptedStatusCodes", codes runtime.acceptedStatusCodes),
    ("responseStatusField", .str (runtime.responseStatusField.getD "supplierStatus")),
    ("responseStatusMap", .obj runtime.responseStatusMap),
    ("authKind", ofText (runtime.auth.map fun auth => authKindText auth.kind)),
    ("authHeaderName", ofText (runtime.auth.map (·.headerName))),
    ("providerAdapterKey", ofText (runtime.providerAdapter.map (·.key)))]

def fileArtifact (input : TransportHandoffInput) (runtime : SupplierConnectorRuntime)
    (externalReference : String) : InventoryRecord :=
  let format := runtime.importFormat.getD "json"
  let fileNamePrefix := (filled (runtime.providerAdapter.bind (·.fileNamePrefix))).getD
    (slug input.connectorKey)
  let fileName := fileNamePrefix ++ "-" ++ shortId input.replenishmentJobId ++ "." ++ format
  let contentType := if format = "csv" then "text/csv" else "application/json"
  let pickupPath := pathOf runtime.pickupPath input.replenishmentJobId
  let dropPath := pathOf runtime.dropPath input.replenishmentJobId
  [("format", .str format),
    ("fileName", .str fileName),
    ("contentType", .str contentType),
    ("pickupPath", ofText pickupPath),
    ("dropPath", ofText dropPath),
    ("staging", .obj (stageMetadata input.connectorKey input.replenishmentJobId runtime fileName
      contentType pickupPath dropPath externalReference))]

def executeInventorySupplierHandoff (input : TransportHandoffInput) : TransportHandoffExecution :=
  if shouldFail input.connectorKey input.channel then
    { status := .failed
      errorMessage := some "Supplier connector simulated handoff failure."
      externalReference := none
      supplierStatus := .submitted
      deliveryArtifact := none }
  else
    { status := .completed
      errorMessage := none
      externalReference := some (input.supplierReference.getD (slug input.connectorKey ++ "-" ++
        (Json.num input.recommendationCount).toText ++ "-" ++
        (Json.num input.totalRecommendedOrderQuantity).toText))
      supplierStatus :=
        if Text.toUpperCase input.channel = "API" then .acknowledged else .submitted
      deliveryArtifact := none }

def executeInventorySupplierTransportHandoff (input : TransportHandoffInput)
    (runtime : SupplierConnectorRuntime) : TransportHandoffExecution :=
  if runtime.mode = .simulated then executeInventorySupplierHandoff input
  else if shouldFail input.connectorKey runtime.mode.text then
    { status := .failed
      errorMessage := some "Supplier connector transport preparation failed."
      externalReference := none
      supplierStatus := .submitted
      deliveryArtifact := none }
  else
    let externalReference := input.supplierReference.getD
      (((runtime.providerAdapter.bind (·.externalReferencePrefix)).getD (slug input.connectorKey)) ++
        "-" ++ shortId input.replenishmentJobId)
    { status := .completed
      errorMessage := none
      externalReference := some externalReference
      supplierStatus := .submitted
      deliveryArtifact := match runtime.mode with
        | .httpPush => some (httpPushArtifact runtime)
        | .fileImport => some (fileArtifact input runtime externalReference)
        | .simulated | .webhook => none }

/-- What comes of a request to the supplier: an answer with its parsed body, or none. -/
inductive HttpAnswer where
  | answered (status : Nat) (body : Json)
  | failed (message : String)

structure HttpPushResult where
  supplierStatus : Option SupplierStatus
  providerErrorClass : ProviderErrorClass
  retryClass : RetryClass
  deadLetterReasonCode : Option String

def isTransientHttpStatus (status : Nat) : Bool :=
  status = 408 ∨ status = 425 ∨ status = 429 ∨ 500 ≤ status

def classifyInventorySupplierProviderHttpPushResult (providerAdapterKey : Option String)
    (httpStatus : Option Nat) (accepted networkError : Bool) (responseBody : InventoryRecord)
    (supplierStatus : Option SupplierStatus) : HttpPushResult :=
  let adapterKey := filled (providerAdapterKey.map Text.toUpperCase)
  let adapter := adapterKey.getD "HTTP_PUSH"
  let supplierStatus := supplierStatus.or
    (normalizeSupplierTransportStatus (responseBody.get "supplierStatus"))
  let providerCode := (filledTextOf (responseBody.get "code")).map Text.toUpperCase
  if accepted then
    { supplierStatus := some (supplierStatus.getD .acknowledged)
      providerErrorClass := .unknown
      retryClass := .none
      deadLetterReasonCode := none }
  else if networkError then
    { supplierStatus
      providerErrorClass := .network
      retryClass := .retryable
      deadLetterReasonCode := some (adapter ++ "_NETWORK_ERROR") }
  else if httpStatus = some 401 ∨ httpStatus = some 403 then
    { supplierStatus
      providerErrorClass := .auth
      retryClass := .terminal
      deadLetterReasonCode := some (adapter ++ "_AUTH_REJECTED") }
  else if httpStatus.any isTransientHttpStatus then
    { supplierStatus
      providerErrorClass := .network
      retryClass := .retryable
      deadLetterReasonCode :=
        some (adapter ++ "_RETRYABLE_HTTP_" ++ ((httpStatus.map toString).getD "UNKNOWN")) }
  else
    { supplierStatus
      providerErrorClass := .providerRejected
      retryClass := .terminal
      deadLetterReasonCode := some (providerCode.getD
        (if adapterKey = some "FRESHLANE_HTTP_V1" then "FRESHLANE_HTTP_REJECTED"
          else adapter ++ "_REJECTED")) }

/-- The fields of a classification, in the answer and in the artifact. -/
def classified (result : HttpPushResult) (accepted : Bool) : InventoryRecord :=
  [("providerErrorClass", if accepted then .null else .str result.providerErrorClass.text),
    ("retryClass", .str result.retryClass.text),
    ("providerExecutionPhase", .str "HANDOFF"),
    ("deadLetterReasonCode", ofText result.deadLetterReasonCode)]

def reportOf (result : HttpPushResult) (httpStatus : Option Nat) (accepted : Bool) : PushReport where
  httpStatus := httpStatus
  providerErrorClass := if accepted then none else some result.providerErrorClass
  retryClass := result.retryClass
  deadLetterReasonCode := result.deadLetterReasonCode

def executeInventorySupplierHttpPushDelivery (now : Instant) (answer : HttpAnswer)
    (execution : TransportHandoffExecution) (runtime : SupplierConnectorRuntime) :
    TransportHandoffExecution :=
  let requestArtifact := execution.deliveryArtifact.getD []
  let providerAdapterKey := (textOf (requestArtifact.get "providerAdapterKey")).or
    (runtime.providerAdapter.map (·.key))
  match runtime.endpoint with
  | none =>
    let result := classifyInventorySupplierProviderHttpPushResult providerAdapterKey none false
      false [] none
    { execution with
      status := .failed
      errorMessage := some "HTTP push endpoint is not configured."
      deliveryArtifact := some (requestArtifact.spread
        ([("delivered", .bool false), ("failedAt", isoText now)] ++ classified result false))
      report := some (reportOf result none false) }
  | some _ =>
    match answer with
    | .failed message =>
      let result := classifyInventorySupplierProviderHttpPushResult providerAdapterKey none false
        true [] none
      { execution with
        status := .failed
        errorMessage := some ("HTTP push delivery failed. " ++ message)
        deliveryArtifact := some (requestArtifact.spread
          ([("delivered", .bool false), ("failedAt", isoText now), ("error", .str message)] ++
            classified result false))
        report := some (reportOf result none false) }
    | .answered status body =>
      let responseBody := asRecord (some body)
      let field := (filled runtime.responseStatusField).getD "supplierStatus"
      let mapped := ((normalizeSupplierTransportStatus (responseBody.get field)).or
        (normalizeSupplierTransportStatus (responseBody.get "supplierStatus"))).or
          (normalizeSupplierTransportStatus
            ((recordAt requestArtifact "responseStatusMap").get (toString status)))
      let accepted := decide (status ∈ runtime.acceptedStatusCodes)
      let result := classifyInventorySupplierProviderHttpPushResult providerAdapterKey (some status)
        accepted false responseBody mapped
      { execution with
        status := if accepted then .completed else .failed
        errorMessage :=
          if accepted then none else some ("HTTP push delivery returned " ++ toString status ++ ".")
        supplierStatus := (result.supplierStatus.or mapped).getD
          (if accepted then .acknowledged else execution.supplierStatus)
        deliveryArtifact := some (requestArtifact.spread
          ([("deliveredAt", isoText now), ("responseStatus", .num status),
            ("responseBody", body)] ++ classified result accepted))
        report := some (reportOf result (some status) accepted) }

structure RetryDecision where
  (shouldRetry terminal : Bool)
  (code reason : String)
  (attempt delayMs : ℚ)

def computeSupplierRetryDelayMs (policy : SupplierRetryPolicy) (attempt : ℚ) : ℚ :=
  let baseDelay := max 0 policy.initialDelayMs
  match policy.strategy with
  | .exponential => min policy.maxDelayMs (baseDelay * 2 ^ ⌊attempt - 1⌋₊)
  | .fixed => min policy.maxDelayMs baseDelay

def failureReason (execution : TransportHandoffExecution) : String :=
  execution.errorMessage.getD "HTTP push delivery failed."

def isRetryableHttpStatus (policy : SupplierRetryPolicy) (execution : TransportHandoffExecution) :
    Bool :=
  (execution.report.bind (·.httpStatus)).any fun status =>
    0 < status ∧ status ∈ policy.retryableHttpStatusCodes

def isRetryable (policy : SupplierRetryPolicy) (execution : TransportHandoffExecution) : Bool :=
  let message := Text.toLowerCase (execution.errorMessage.getD "")
  let networkFailure := contains message "fetch failed" || contains message "network" ||
    contains message "abort" || contains message "timeout"
  (execution.report.any fun report => report.retryClass = .retryable) ||
    isRetryableHttpStatus policy execution || (networkFailure && policy.retryOnNetworkError)

def retryAttemptCount (supplier : InventoryRecord) : ℚ :=
  max 0 (toNumber (supplier.get "retryAttemptCount"))

def enabledPolicy (runtime : SupplierConnectorRuntime) : Option SupplierRetryPolicy :=
  runtime.retryPolicy.filter fun policy => runtime.mode = .httpPush ∧ policy.enabled = true

def resolveHttpPushRetryDecision (supplier : InventoryRecord) (runtime : SupplierConnectorRuntime)
    (execution : TransportHandoffExecution) : RetryDecision :=
  let currentAttempt := retryAttemptCount supplier
  match enabledPolicy runtime, execution.status with
  | some policy, .failed =>
    let nextAttempt := currentAttempt + 1
    let report := execution.report
    let httpStatus := (report.bind (·.httpStatus)).getD 0
    let reasonCode := filled (report.bind (·.deadLetterReasonCode))
    let errorClass := (report.bind (·.providerErrorClass)).map (·.text)
    if ¬isRetryable policy execution then
      { shouldRetry := false
        terminal := true
        code := (reasonCode.or errorClass).getD
          ("HTTP_PUSH_HTTP_" ++ if httpStatus = 0 then "FAILED" else toString httpStatus)
        reason := failureReason execution
        attempt := nextAttempt
        delayMs := 0 }
    else if nextAttempt ≥ policy.maxAttempts then
      { shouldRetry := false
        terminal := true
        code := "HTTP_PUSH_RETRY_EXHAUSTED"
        reason := "HTTP push retry policy exhausted after " ++ (Json.num currentAttempt).toText ++
          " queued attempts."
        attempt := nextAttempt
        delayMs := 0 }
    else
      { shouldRetry := true
        terminal := false
        code := reasonCode.getD
          (if isRetryableHttpStatus policy execution then "HTTP_PUSH_HTTP_" ++ toString httpStatus
            else errorClass.getD "HTTP_PUSH_NETWORK_RETRY")
        reason := failureReason execution
        attempt := nextAttempt
        delayMs := computeSupplierRetryDelayMs policy nextAttempt }
  | _, _ =>
    { shouldRetry := false
      terminal := false
      code := "HTTP_PUSH_FAILED"
      reason := failureReason execution
      attempt := currentAttempt
      delayMs := 0 }

end Exetron.Replenishment
