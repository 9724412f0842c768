import Exetron.Inventory.Service
import Exetron.JsonText
import Exetron.Replenishment.Delivery

/-!
# Messages of a supplier

How the status of a job's supplier order changes: by hand, by polling, by a webhook callback, by an
imported file, and by an operator's replay of what was processed. A refused message writes nothing
but the failure it is refused for, which is committed on its own.
-/

namespace Exetron.Replenishment

open Lib Inventory.Service InventoryReplenishmentJob

structure SecretRegistryEntry where
  id : Id
  key : String
  (tenantId organizationId : Option Id)
  valueEnvelope : Json
  createdAt : Instant

/-- What a supplier call takes from outside the job: the clock, the registries, the readiness of a
connector, the hashes, the parser of JSON texts and the answers of the suppliers. -/
structure SupplierEnv where
  now : Instant
  randomUUID : String
  integrationRegistry : List IntegrationRegistryEntry
  secretRegistry : List SecretRegistryEntry
  ensureReadyForHandoff : Id → IntegrationRegistryEntry → Except ApiException Unit
  canExecute : InventoryReplenishmentJob → IntegrationRegistryEntry → Except String Unit
  createHmac : String → String → String
  createHash : String → String
  parseJson : String → Option Json
  fetch : Id → HttpAnswer

inductive SupplierSource where
  | webhook | fileImport | httpPush
  deriving DecidableEq

def SupplierSource.text : SupplierSource → String
  | .webhook => "WEBHOOK"
  | .fileImport => "FILE_IMPORT"
  | .httpPush => "HTTP_PUSH"

/-- The answer of a call and the job's row after it. -/
structure Handled where
  answer : Except ApiException Unit
  job : InventoryReplenishmentJob

def actorOf (context : RequestContext) : Json :=
  if context.scope = .device then Json.ofOption Json.ofNat context.deviceId else .str context.userId

def connectorKeyOf (job : InventoryReplenishmentJob) : Option String :=
  filledTextOf (job.supplier "connectorKey")

def connectorOf (env : SupplierEnv) (job : InventoryReplenishmentJob) (missing : String) :
    Except ApiException (IntegrationRegistryEntry × SupplierConnectorRuntime) := do
  let connectorKey ← required (connectorKeyOf job) (.badRequest missing)
  let connector ← requireSupplierConnectorTx env.integrationRegistry job.tenantId connectorKey
  pure (connector, resolveSupplierConnectorRuntime connector)

theorem connectorOf_ok_iff {env : SupplierEnv} {job : InventoryReplenishmentJob} {missing : String}
    {found : IntegrationRegistryEntry × SupplierConnectorRuntime} :
    connectorOf env job missing = .ok found ↔
      ∃ key, connectorKeyOf job = some key ∧
        requireSupplierConnectorTx env.integrationRegistry job.tenantId key = .ok found.1 ∧
        found.2 = resolveSupplierConnectorRuntime found.1 := by
  simp only [connectorOf, except_bind_ok_iff, required_ok_iff, except_pure_ok_iff]
  constructor
  · rintro ⟨key, keyed, connector, offered, rfl⟩
    exact ⟨key, keyed, offered, rfl⟩
  · rintro ⟨key, keyed, offered, resolved⟩
    exact ⟨key, keyed, found.1, offered, by rw [← resolved]⟩

def executable (env : SupplierEnv) (job : InventoryReplenishmentJob)
    (connector : IntegrationRegistryEntry) : Except ApiException Unit :=
  match env.canExecute job connector with
  | .ok () => .ok ()
  | .error message => .error (.badRequest message)

structure SupplierSecret where
  id : Id
  (key value : String)

def resolveSupplierConnectorSecretTx (env : SupplierEnv) (tenantId : Id) (key : String) :
    Option SupplierSecret :=
  let rows := (env.secretRegistry.filter fun row => row.key = key).insertionSort
    fun left right => right.createdAt ≤ left.createdAt
  let selected := (rows.find? fun row => row.tenantId = some tenantId).or
    (rows.find? fun row => row.tenantId = none ∧ row.organizationId = none)
  selected.bind fun row =>
    ((textOf ((asRecord (some row.valueEnvelope)).get "value")).filter (· ≠ "")).map fun value =>
      { id := row.id, key := row.key, value }

structure UpdateSupplierStatusDto where
  supplierStatus : SupplierStatus
  note : Option String := none

def updateReplenishmentSupplierStatus (env : SupplierEnv) (context : RequestContext)
    (input : UpdateSupplierStatusDto) (current : InventoryReplenishmentJob) :
    Except ApiException InventoryReplenishmentJob := do
  let _ ← Inventory.Service.resolveTenantId context current.tenantId
  rejectIf (current.getReplenishmentSupplier = [])
    (.badRequest "Supplier handoff must be created before supplier status sync.")
  pure (current.patchSupplier env.now
    [("supplierStatus", .str input.supplierStatus.text),
      ("lastStatusSyncAt", isoText env.now),
      ("lastStatusSyncByActorId", actorOf context),
      ("lastStatusNote", ofText input.note)])

def pollSupplier (env : SupplierEnv) (context : RequestContext)
    (current : InventoryReplenishmentJob) : Except ApiException SupplierStatus := do
  let _ ← Inventory.Service.resolveTenantId context current.tenantId
  let (connector, runtime) ← connectorOf env current
    "Supplier connector handoff is required before status sync."
  rejectIf (filledTextOf (current.supplier "supplierName") = none)
    (.badRequest "Supplier connector handoff is required before status sync.")
  rejectIf (runtime.allowsPolling = false)
    (.badRequest "This supplier connector expects webhook or import callbacks instead of polling sync.")
  executable env current connector
  pure (resolveInventorySupplierProviderSyncStatus
    ((textOf (current.supplier "supplierStatus")).getD (syncedFromNone connector.connectorKey).text))

def syncReplenishmentSupplierStatus (env : SupplierEnv) (context : RequestContext)
    (note : Option String) (current : InventoryReplenishmentJob) :
    Except ApiException InventoryReplenishmentJob := do
  let mappedProviderStatus ← pollSupplier env context current
  pure (current.patchSupplier env.now
    [("supplierStatus", .str mappedProviderStatus.text),
      ("lastStatusSyncAt", isoText env.now),
      ("lastStatusSyncByActorId", actorOf context),
      ("lastStatusNote", ofText note),
      ("pendingCallback", .bool false),
      ("pendingImport", .bool false),
      ("providerExecutionPhase", .str "SYNC")])

structure SupplierFailure where
  source : SupplierSource
  (reason code : String)
  errorClass : ProviderErrorClass
  externalReference : Option String
  deliveryId : Option String := none
  importId : Option String := none

def SupplierFailure.phase (failure : SupplierFailure) : String :=
  if failure.source = .webhook then "WEBHOOK" else "FILE_DROP"

def recordSupplierReconciliationFailure (now : Instant) (failure : SupplierFailure)
    (current : InventoryReplenishmentJob) : InventoryReplenishmentJob :=
  current.patchSupplier now
    [("lastFailureAt", isoText now),
      ("lastFailureSource", .str failure.source.text),
      ("lastFailureReason", .str failure.reason),
      ("lastFailureCode", .str failure.code),
      ("providerErrorClass", .str failure.errorClass.text),
      ("retryClass", .str "TERMINAL"),
      ("providerExecutionPhase", .str failure.phase),
      ("reconciliation", .obj
        [("source", .str failure.source.text),
          ("status", .str "FAILED"),
          ("processedAt", isoText now),
          ("reason", .str failure.reason),
          ("code", .str failure.code),
          ("providerErrorClass", .str failure.errorClass.text),
          ("retryClass", .str "TERMINAL"),
          ("providerExecutionPhase", .str failure.phase),
          ("externalReference", ofText failure.externalReference),
          ("deliveryId", ofText failure.deliveryId),
          ("importId", ofText failure.importId)])]

def entriesOf : Option Json → List InventoryRecord
  | some (.arr items) => items.filterMap fun
    | .obj fields => some fields
    | _ => none
  | _ => []

def appendReplayMarker (currentValue : Option Json) (marker : InventoryRecord) (limit : ℚ) : Json :=
  .arr (((marker :: entriesOf currentValue).take ⌊limit⌋₊).map .obj)

def replayOf (job : InventoryReplenishmentJob) : InventoryRecord := asRecord (job.supplier "replay")

def isProcessed (job : InventoryReplenishmentJob) (processed key id : String) : Bool :=
  match (replayOf job).get processed with
  | some (.arr items) =>
    items.any fun item => (Json.orElse ((asRecord (some item)).get key) (.str "")).toText = id
  | _ => false

/-- What becomes of a message: it was processed before, it is refused for a failure that is
recorded, or it is taken. -/
inductive Reception (α : Type) where
  | duplicate
  | failed (failure : SupplierFailure)
  | accepted (a : α)

def currentReference (job : InventoryReplenishmentJob) : Option String :=
  textOf (job.supplier "supplierReference")

/-- `incoming && current && incoming !== current`. -/
def referencesDiffer (job : InventoryReplenishmentJob) (incoming : Option String) : Prop :=
  ∃ reference ∈ incoming, ∃ own ∈ (currentReference job).filter (· ≠ ""), reference ≠ own

instance (job : InventoryReplenishmentJob) (incoming : Option String) :
    Decidable (referencesDiffer job incoming) := by
  unfold referencesDiffer
  infer_instance

def referenceAfter (job : InventoryReplenishmentJob) (incoming : Option String) : Json :=
  ofText ((currentReference job).or incoming)

structure ProcessWebhookDto where
  deliveryId : String
  supplierStatus : SupplierStatus
  externalReference : Option String := none
  eventType : Option String := none
  signature : Option String := none
  note : Option String := none
  payload : Option InventoryRecord := none

def stableJson (fields : InventoryRecord) : String := Json.stringify (.obj fields)

def buildSupplierWebhookVerificationPayload (input : ProcessWebhookDto) : String :=
  stableJson
    [("deliveryId", .str (Text.trim input.deliveryId)),
      ("supplierStatus", .str input.supplierStatus.text),
      ("externalReference", ofText (filled input.externalReference)),
      ("eventType", ofText (filled input.eventType)),
      ("payload", Json.ofOption .obj input.payload)]

/-- `Buffer.from(text, "hex")`, which ends before the first pair that is none. -/
def hexBytes : List Char → List Nat
  | high :: low :: rest =>
    let digit (c : Char) : Option Nat :=
      if c.isDigit then some (c.toNat - 48)
      else if 'a' ≤ c ∧ c ≤ 'f' then some (c.toNat - 87)
      else if 'A' ≤ c ∧ c ≤ 'F' then some (c.toNat - 55)
      else none
    match digit high, digit low with
    | some h, some l => (16 * h + l) :: hexBytes rest
    | _, _ => []
  | _ => []

/-- `timingSafeEqual` throws on buffers of different lengths. -/
def verifyHexHmac (expected actual : String) : Except ApiException Bool :=
  if expected = "" ∨ actual = "" ∨ expected.length ≠ actual.length then .ok false
  else
    let expectedBytes := hexBytes expected.toList
    let actualBytes := hexBytes actual.toList
    if expectedBytes.length ≠ actualBytes.length then .error .typeError
    else .ok (expectedBytes = actualBytes)

structure WebhookAcceptance where
  signatureVerified : Bool
  signatureKeyRef : Option String

def webhookFailure (input : ProcessWebhookDto) (reason code : String)
    (errorClass : ProviderErrorClass) : SupplierFailure where
  source := .webhook
  reason := reason
  code := code
  errorClass := errorClass
  externalReference := filled input.externalReference
  deliveryId := some (Text.trim input.deliveryId)

def verifyWebhook (env : SupplierEnv) (runtime : SupplierConnectorRuntime)
    (input : ProcessWebhookDto) (current : InventoryReplenishmentJob) :
    Except ApiException (Reception WebhookAcceptance) := do
  if runtime.requireSignature then
    let secretKey ← required runtime.secretKey (.badRequest
      "Supplier webhook transport requires a configured secretKey in connector manifest.")
    let secret ← required (resolveSupplierConnectorSecretTx env current.tenantId secretKey)
      (.badRequest "Supplier webhook signing secret was not found.")
    match filled input.signature with
    | none => pure (.failed (webhookFailure input "Supplier webhook signature is required."
        "SIGNATURE_REQUIRED" .signature))
    | some signature =>
      let expected := env.createHmac secret.value (buildSupplierWebhookVerificationPayload input)
      if ← verifyHexHmac expected signature then
        pure (.accepted ⟨true, some (secret.key ++ ":" ++ toString secret.id)⟩)
      else pure (.failed (webhookFailure input "Supplier webhook signature verification failed."
        "SIGNATURE_INVALID" .signature))
  else pure (.accepted ⟨false, none⟩)

def receiveWebhook (env : SupplierEnv) (context : RequestContext) (input : ProcessWebhookDto)
    (current : InventoryReplenishmentJob) :
    Except ApiException (SupplierConnectorRuntime × Reception WebhookAcceptance) := do
  let _ ← Inventory.Service.resolveTenantId context current.tenantId
  let (_, runtime) ← connectorOf env current
    "Supplier connector handoff is required before webhook callbacks."
  rejectIf (runtime.mode ≠ .webhook)
    (.badRequest "This supplier connector does not use webhook callbacks.")
  rejectIf (Text.trim input.deliveryId = "")
    (.badRequest "deliveryId is required for supplier webhook callbacks.")
  if isProcessed current "webhookDeliveries" "deliveryId" (Text.trim input.deliveryId) then
    pure (runtime, .duplicate)
  else if referencesDiffer current (filled input.externalReference) then
    pure (runtime, .failed (webhookFailure input
      "Supplier callback external reference does not match the current handoff."
      "REFERENCE_MISMATCH" .reference))
  else
    let reception ← verifyWebhook env runtime input current
    pure (runtime, reception)

/-- The record that replaces the order's `reconciliation` when a message comes again. -/
def duplicateReconciliation (source : SupplierSource) (now : Instant) (key id : String) :
    InventoryRecord :=
  [("source", .str source.text),
    ("status", .str "DUPLICATE"),
    ("processedAt", isoText now),
    (key, .str id)]

def duplicateWebhook (now : Instant) (input : ProcessWebhookDto)
    (current : InventoryReplenishmentJob) : InventoryReplenishmentJob :=
  current.patchSupplier now
    [("lastDuplicateDeliveryId", .str (Text.trim input.deliveryId)),
      ("lastDuplicateDeliveryAt", isoText now),
      ("reconciliation", .obj
        (duplicateReconciliation .webhook now "deliveryId" (Text.trim input.deliveryId)))]

def webhookStatus (runtime : SupplierConnectorRuntime) (input : ProcessWebhookDto) :
    SupplierStatus × Option String :=
  resolveInventorySupplierProviderWebhookPayload runtime input.supplierStatus input.eventType
    input.payload

def applyWebhook (env : SupplierEnv) (context : RequestContext) (runtime : SupplierConnectorRuntime)
    (input : ProcessWebhookDto) (acceptance : WebhookAcceptance)
    (current : InventoryReplenishmentJob) : InventoryReplenishmentJob :=
  let deliveryId := Text.trim input.deliveryId
  let (supplierStatus, eventType) := webhookStatus runtime input
  let replay := replayOf current
  current.patchSupplier env.now
    [("supplierReference", referenceAfter current (filled input.externalReference)),
      ("supplierStatus", .str supplierStatus.text),
      ("pendingCallback", .bool false),
      ("callbackDeliveryId", .str deliveryId),
      ("callbackReceivedAt", isoText env.now),
      ("callbackEventType", ofText (filled eventType)),
      ("callbackPayload", Json.ofOption .obj input.payload),
      ("callbackSignatureVerified", .bool acceptance.signatureVerified),
      ("callbackSignatureKeyRef", ofText acceptance.signatureKeyRef),
      ("lastFailureAt", .null),
      ("lastFailureSource", .null),
      ("lastFailureReason", .null),
      ("lastFailureCode", .null),
      ("lastStatusSyncAt", isoText env.now),
      ("lastStatusSyncByActorId", actorOf context),
      ("lastStatusNote", ofText input.note),
      ("providerExecutionPhase", .str "WEBHOOK"),
      ("replay", .obj (replay.set "webhookDeliveries"
        (appendReplayMarker (replay.get "webhookDeliveries")
          [("deliveryId", .str deliveryId),
            ("processedAt", isoText env.now),
            ("status", .str supplierStatus.text)]
          runtime.replayWindowSize))),
      ("reconciliation", .obj
        [("source", .str "WEBHOOK"),
          ("status", .str "MATCHED"),
          ("processedAt", isoText env.now),
          ("deliveryId", .str deliveryId),
          ("signatureVerified", .bool acceptance.signatureVerified),
          ("providerExecutionPhase", .str "WEBHOOK")])]

def processReplenishmentSupplierWebhook (env : SupplierEnv) (context : RequestContext)
    (input : ProcessWebhookDto) (current : InventoryReplenishmentJob) : Handled :=
  match receiveWebhook env context input current with
  | .error e => ⟨.error e, current⟩
  | .ok (_, .duplicate) => ⟨.ok (), duplicateWebhook env.now input current⟩
  | .ok (_, .failed failure) =>
    ⟨.error (.badRequest failure.reason),
      recordSupplierReconciliationFailure env.now failure current⟩
  | .ok (runtime, .accepted acceptance) =>
    ⟨.ok (), applyWebhook env context runtime input acceptance current⟩

structure ImportSupplierUpdateDto where
  importId : String
  supplierStatus : SupplierStatus
  externalReference : Option String := none
  fileName : Option String := none
  checksum : Option String := none
  note : Option String := none
  payload : Option InventoryRecord := none

/-- What a checksum is computed over. -/
structure ChecksumContent where
  importId : String
  supplierStatus : SupplierStatus
  (externalReference fileName : Option String)
  payload : Option InventoryRecord

def buildSupplierImportChecksumPayload (content : ChecksumContent) : String :=
  stableJson
    [("importId", .str content.importId),
      ("supplierStatus", .str content.supplierStatus.text),
      ("externalReference", ofText content.externalReference),
      ("fileName", ofText content.fileName),
      ("payload", Json.ofOption .obj content.payload)]

namespace ImportSupplierUpdateDto

def payloadRecord (input : ImportSupplierUpdateDto) : InventoryRecord := input.payload.getD []

def importPayloadForChecksum (input : ImportSupplierUpdateDto) : InventoryRecord :=
  (input.payloadRecord.erase "_staging").erase "_checksumPayload"

/-- The text that is hashed in the place of the content, when the payload brings one. -/
def rawChecksumPayload (input : ImportSupplierUpdateDto) : Option String :=
  (textOf (input.payloadRecord.get "_checksumPayload")).filter fun text => Text.trim text ≠ ""

def checksumContent (input : ImportSupplierUpdateDto) : ChecksumContent where
  importId := Text.trim input.importId
  supplierStatus := input.supplierStatus
  externalReference := filled input.externalReference
  fileName := filled input.fileName
  payload := some input.importPayloadForChecksum

/-- The text whose hash the checksum is compared with. -/
def hashedText (input : ImportSupplierUpdateDto) : String :=
  input.rawChecksumPayload.getD (buildSupplierImportChecksumPayload input.checksumContent)

end ImportSupplierUpdateDto

def importFailure (input : ImportSupplierUpdateDto) (reason code : String)
    (errorClass : ProviderErrorClass) : SupplierFailure where
  source := .fileImport
  reason := reason
  code := code
  errorClass := errorClass
  externalReference := filled input.externalReference
  importId := some (Text.trim input.importId)

def verifyImport (env : SupplierEnv) (runtime : SupplierConnectorRuntime)
    (input : ImportSupplierUpdateDto) : Reception Bool :=
  if runtime.requireChecksum then
    match filled input.checksum with
    | none => .failed
        (importFailure input "Supplier import checksum is required." "CHECKSUM_REQUIRED" .checksum)
    | some checksum =>
      if env.createHash input.hashedText ≠ checksum then .failed
        (importFailure input "Supplier import checksum verification failed." "CHECKSUM_INVALID"
          .checksum)
      else .accepted true
  else .accepted false

def receiveImport (env : SupplierEnv) (context : RequestContext) (input : ImportSupplierUpdateDto)
    (current : InventoryReplenishmentJob) :
    Except ApiException (SupplierConnectorRuntime × Reception Bool) := do
  let _ ← Inventory.Service.resolveTenantId context current.tenantId
  let (_, runtime) ← connectorOf env current
    "Supplier connector handoff is required before import reconciliation."
  rejectIf (runtime.mode ≠ .fileImport)
    (.badRequest "This supplier connector does not use file-import reconciliation.")
  rejectIf (Text.trim input.importId = "")
    (.badRequest "importId is required for supplier import reconciliation.")
  if isProcessed current "imports" "importId" (Text.trim input.importId) then
    pure (runtime, .duplicate)
  else if referencesDiffer current (filled input.externalReference) then
    pure (runtime, .failed (importFailure input
      "Supplier import external reference does not match the current handoff."
      "REFERENCE_MISMATCH" .reference))
  else pure (runtime, verifyImport env runtime input)

def duplicateImport (now : Instant) (input : ImportSupplierUpdateDto)
    (current : InventoryReplenishmentJob) : InventoryReplenishmentJob :=
  current.patchSupplier now
    [("lastDuplicateImportId", .str (Text.trim input.importId)),
      ("lastDuplicateImportAt", isoText now),
      ("reconciliation", .obj
        (duplicateReconciliation .fileImport now "importId" (Text.trim input.importId)))]

def importStatus (runtime : SupplierConnectorRuntime) (input : ImportSupplierUpdateDto) :
    SupplierStatus × Option String :=
  resolveInventorySupplierProviderImportPayload runtime input.supplierStatus input.payload
    input.fileName

def stagedArtifact (current : InventoryReplenishmentJob) (staging : InventoryRecord) : Json :=
  if staging = [] then Json.orElse (current.supplier "deliveryArtifact") .null
  else .obj ((asRecord (current.supplier "deliveryArtifact")).set "staging" (.obj staging))

def applyImport (env : SupplierEnv) (context : RequestContext) (runtime : SupplierConnectorRuntime)
    (input : ImportSupplierUpdateDto) (checksumVerified : Bool)
    (current : InventoryReplenishmentJob) : InventoryReplenishmentJob :=
  let importId := Text.trim input.importId
  let (supplierStatus, fileName) := importStatus runtime input
  let replay := replayOf current
  current.patchSupplier env.now
    [("supplierReference", referenceAfter current (filled input.externalReference)),
      ("supplierStatus", .str supplierStatus.text),
      ("pendingImport", .bool false),
      ("importId", .str importId),
      ("importReceivedAt", isoText env.now),
      ("importFileName", ofText (filled fileName)),
      ("importPayload", .obj input.importPayloadForChecksum),
      ("importChecksumVerified", .bool checksumVerified),
      ("deliveryArtifact", stagedArtifact current (recordAt input.payloadRecord "_staging")),
      ("lastFailureAt", .null),
      ("lastFailureSource", .null),
      ("lastFailureReason", .null),
      ("lastFailureCode", .null),
      ("lastStatusSyncAt", isoText env.now),
      ("lastStatusSyncByActorId", actorOf context),
      ("lastStatusNote", ofText input.note),
      ("providerExecutionPhase", .str "FILE_DROP"),
      ("replay", .obj (replay.set "imports"
        (appendReplayMarker (replay.get "imports")
          [("importId", .str importId),
            ("processedAt", isoText env.now),
            ("status", .str supplierStatus.text)]
          runtime.replayWindowSize))),
      ("reconciliation", .obj
        [("source", .str "FILE_IMPORT"),
          ("status", .str "MATCHED"),
          ("processedAt", isoText env.now),
          ("importId", .str importId),
          ("checksumVerified", .bool checksumVerified),
          ("providerExecutionPhase", .str "FILE_DROP")])]

def importReplenishmentSupplierUpdate (env : SupplierEnv) (context : RequestContext)
    (input : ImportSupplierUpdateDto) (current : InventoryReplenishmentJob) : Handled :=
  match receiveImport env context input current with
  | .error e => ⟨.error e, current⟩
  | .ok (_, .duplicate) => ⟨.ok (), duplicateImport env.now input current⟩
  | .ok (_, .failed failure) =>
    ⟨.error (.badRequest failure.reason),
      recordSupplierReconciliationFailure env.now failure current⟩
  | .ok (runtime, .accepted checksumVerified) =>
    ⟨.ok (), applyImport env context runtime input checksumVerified current⟩

end Exetron.Replenishment
