import Exetron.Enterprise.Distribution
import Exetron.Enterprise.ProviderPolicies

/-!
# Activation requests

A tenant asks for a connector of the registry; the request is approved, and applied when its
readiness allows it.
-/

namespace Exetron.Enterprise

open Lib
open Customization (Fields asRecord?)

variable (env : EnterpriseEnv)

structure IntegrationActivationRequest where
  id : Uuid
  (publicationId registryEntryId tenantId organizationId : Option Uuid)
  (targetKind connectorKey version status : String)
  (requestNotes activationArtifact : Option Json)
  (approvedAt rejectedAt appliedAt revokedAt : Option Moment)

structure ActivationDb where
  registry : RegistryDb
  publications : List IntegrationPublication
  activations : List IntegrationActivationRequest
  /-- Identifiers from here on are new. -/
  nextUuid : ℕ

def activationRequestNotFound : ApiException :=
  .notFound "Integration activation request not found."

def findActivationRequest (db : ActivationDb) (id : Uuid) :
    Except ApiException IntegrationActivationRequest :=
  required (Rows.find IntegrationActivationRequest.id db.activations id) activationRequestNotFound

/-- `OR: [{ tenantId }, { tenantId: null }]`, when there is a tenant. -/
def isForTenant (tenantId owner : Option Uuid) : Bool :=
  tenantId = none ∨ owner = tenantId ∨ owner = none

def findActiveEntry (entries : List IntegrationRegistryEntry) (connectorKey version : String)
    (tenantId : Option Uuid) : Option IntegrationRegistryEntry :=
  (newestFirst IntegrationRegistryEntry.createdAt (entries.filter fun entry =>
    entry.connectorKey = connectorKey ∧ entry.version = version ∧ entry.status = "ACTIVE" ∧
      isForTenant tenantId entry.tenantId)).head?

/-- The entry that a request names, or else the newest active one of its connector. -/
def findActivationEntry (db : ActivationDb) (request : IntegrationActivationRequest) :
    Option IntegrationRegistryEntry :=
  match request.registryEntryId with
  | some entryId => Rows.find IntegrationRegistryEntry.id db.registry.entries entryId
  | none =>
    findActiveEntry db.registry.entries request.connectorKey request.version request.tenantId

def findActivationPublication (db : ActivationDb) (request : IntegrationActivationRequest) :
    Option IntegrationPublication :=
  request.publicationId.bind (Rows.find IntegrationPublication.id db.publications)

def readActivationTargetTenantId (request : IntegrationActivationRequest) : Option Uuid :=
  let requestNotes := asObject request.requestNotes
  trimmedOrNull ((((Json.present (Record.get requestNotes "targetTenantId")).map Json.toText).or
    request.tenantId).or ((Json.present (Record.get requestNotes "tenantId")).map Json.toText))

def readActivationTargetStoreId (request : IntegrationActivationRequest) : Option Uuid :=
  trimmedOrNull ((Json.present (Record.get (asObject request.requestNotes) "targetStoreId")).map
    Json.toText)

structure ConnectorRuntimeSummary where
  transportMode : String
  (providerAdapterKey providerProfileKey : Option String)

/-- `a ?? b ?? c ?? d`. -/
def firstPresent (values : List (Option Json)) : Option Json :=
  (values.filterMap Json.present).head?

def summarizeConnectorRuntime (manifest : Fields) : ConnectorRuntimeSummary :=
  let runtime := asObject (Record.get manifest "runtime")
  let transport := asObject (Record.get runtime "transport")
  let provider := asObject (Record.get manifest "provider")
  let adapter := firstPresent [Record.get transport "providerAdapter",
    Record.get runtime "providerAdapter", Record.get provider "adapter",
    Record.get manifest "providerAdapter"]
  let profile := firstPresent [Record.get transport "providerProfile",
    Record.get runtime "providerProfile", Record.get provider "profile",
    Record.get manifest "providerProfile"]
  { transportMode := env.normalized
      (textOr (firstPresent [Record.get transport "mode", Record.get runtime "mode"]) "SIMULATED")
    providerAdapterKey := trimmedOrNull (adapter.map Json.toText)
    providerProfileKey := trimmedOrNull (profile.map Json.toText) }

def compatibilityInput (manifest : Fields) (targetTenantId : Option Uuid)
    (publication : Option IntegrationPublication) (requestStatus : String) : CompatibilityInput :=
  let runtime := summarizeConnectorRuntime env manifest
  { providerAdapterKey := runtime.providerAdapterKey
    providerProfileKey := runtime.providerProfileKey
    targetTenantId
    publicationId := publication.map (·.id)
    publicationVisibility := publication.map (·.visibility)
    publicationChannel := publication.map (·.channel)
    publicationStatus := publication.map (·.status)
    publicationSignatureStatus := publication.map (·.attestation.signatureStatus)
    requestStatus := some requestStatus }

def IntegrationActivationRequest.readStatus (request : IntegrationActivationRequest) : String :=
  env.normalized request.status

structure ActivationReadiness where
  (requestStatus targetKind : String)
  checks : List Check
  warnings : List String
  providerCompatibility : ProviderCompatibility

namespace ActivationReadiness

variable (readiness : ActivationReadiness)

def blockingIssues : List String := blockingIssuesOf readiness.checks

def ready : Bool := readiness.blockingIssues = []

def canApprove : Bool :=
  readiness.ready ∧ (readiness.requestStatus = "PENDING" ∨ readiness.requestStatus = "REJECTED")

def canApply : Bool := readiness.ready ∧ readiness.requestStatus = "APPROVED"

def canRevoke : Bool :=
  readiness.requestStatus = "APPROVED" ∨ readiness.requestStatus = "APPLIED"

end ActivationReadiness

def publicationMissing : String := "Published integration artifact is not available."

def publicationOptional : String :=
  "No publication snapshot is attached; activation will rely on registry runtime only."

def activationPublicationCheck (request : IntegrationActivationRequest) :
    Option IntegrationPublication → Check
  | none =>
    if (trimmedOrNull request.publicationId).isSome then
      ⟨"PUBLICATION_MISSING", .blocked, publicationMissing⟩
    else ⟨"PUBLICATION_OPTIONAL", .warn, publicationOptional⟩
  | some publication =>
    if env.normalized publication.status ≠ "PUBLISHED" ∨ publication.revokedAt.isSome then
      ⟨"PUBLICATION_NOT_ACTIVE", .blocked, "Publication is not in active PUBLISHED state."⟩
    else ⟨"PUBLICATION_READY", .ready, "Published artifact is available for activation."⟩

def activationEntryCheck : Option IntegrationRegistryEntry → Check
  | none =>
    ⟨"REGISTRY_ENTRY_MISSING", .blocked, "Registry entry for activation target was not found."⟩
  | some entry =>
    if env.normalized entry.status ≠ "ACTIVE" then
      ⟨"REGISTRY_ENTRY_NOT_ACTIVE", .blocked, "Registry entry is not ACTIVE."⟩
    else ⟨"REGISTRY_ENTRY_READY", .ready, "Registry entry is active."⟩

def targetKindCheck (targetKind : String) : Check :=
  if targetKind ≠ "SUPPLIER_CONNECTOR" then
    ⟨"TARGET_KIND_UNSUPPORTED", .blocked, "Unsupported activation target '" ++ targetKind ++ "'."⟩
  else ⟨"TARGET_KIND_READY", .ready, "Supplier connector activation target is supported."⟩

def entryManifest (entry : Option IntegrationRegistryEntry) : Fields :=
  (entry.map fun row => asObject (some row.manifest)).getD []

def getActivationRequestReadinessSnapshot (request : IntegrationActivationRequest)
    (publication : Option IntegrationPublication) (entry : Option IntegrationRegistryEntry) :
    ActivationReadiness :=
  let requestStatus := request.readStatus env
  let targetKind := env.normalized request.targetKind
  let compatibility := evaluateInventorySupplierProviderRuntimeCompatibility env
    (compatibilityInput env (entryManifest entry) (readActivationTargetTenantId request) publication
      requestStatus)
  let publicationCheck := activationPublicationCheck env request publication
  { requestStatus
    targetKind
    checks := [publicationCheck, activationEntryCheck env entry, targetKindCheck targetKind] ++
      (if requestStatus = "APPLIED" then
        [⟨"ACTIVATION_ALREADY_APPLIED", .ready, "Activation has already been applied."⟩] else []) ++
      compatibility.checks.filter fun check => check.status ≠ .ready
    warnings := messagesOf .warn [publicationCheck] ++
      (if requestStatus = "REJECTED" then ["Activation request was rejected."] else []) ++
      (if requestStatus = "REVOKED" then ["Activation request was revoked."] else []) ++
      compatibility.warnings
    providerCompatibility := compatibility }

/-- The readiness of a request among the rows of the database. -/
def activationReadiness (db : ActivationDb) (request : IntegrationActivationRequest) :
    ActivationReadiness :=
  getActivationRequestReadinessSnapshot env request (findActivationPublication db request)
    (findActivationEntry db request)

def getIntegrationActivationRequestReadiness (db : ActivationDb) (id : Uuid) :
    Except ApiException ActivationReadiness :=
  activationReadiness env db <$> findActivationRequest db id

/-- `asNullableInputJson` of a column: anything but an object leaves it empty. -/
def nullableObject : Option Json → Option Json
  | some (.obj fields) => some (.obj fields)
  | _ => none

def newActivationRequest (id : Uuid) (connectorKey version status : String) :
    IntegrationActivationRequest where
  id := id
  publicationId := none
  registryEntryId := none
  tenantId := none
  organizationId := none
  targetKind := "SUPPLIER_CONNECTOR"
  connectorKey := connectorKey
  version := version
  status := status
  requestNotes := none
  activationArtifact := none
  approvedAt := none
  rejectedAt := none
  appliedAt := none
  revokedAt := none

/-- The column's default is `PENDING`. -/
def createIntegrationActivationRequest (db : ActivationDb) (requestId publicationId : Uuid)
    (input : Json) : Except ApiException IntegrationActivationRequest := do
  let publication ← getIntegrationPublication db.publications publicationId
  pure { newActivationRequest requestId publication.connectorKey publication.version "PENDING" with
    publicationId := some publicationId
    registryEntryId := some publication.registryEntryId
    tenantId := publication.tenantId
    organizationId := publication.organizationId
    targetKind := env.normalized (textOr (input.get? "targetKind") "SUPPLIER_CONNECTOR")
    requestNotes := nullableObject (input.get? "requestNotes") }

def findPublishedFor (publications : List IntegrationPublication) (connectorKey version : String)
    (tenantId : Option Uuid) : Option IntegrationPublication :=
  (newestFirst IntegrationPublication.publishedAt (publications.filter fun publication =>
    publication.connectorKey = connectorKey ∧ publication.version = version ∧
      publication.isPublished ∧ isForTenant tenantId publication.tenantId)).head?

/-- `value ? String(value).trim() : null`, as a condition sees it. -/
def trimmedIfTruthy (value : Option Json) : Option String := trimmedOrNull (textIfTruthy value)

def inventoryRequestNotes (input : Json) : Json :=
  .obj [("requestedChannel", jsonText ((input.get? "requestedChannel").bind fun value =>
      orNull (textOr (some value) ""))),
    ("intendedUse", Json.ofOption (fun value => .obj (asObject (some value)))
      ((input.get? "intendedUse").filter fun value => Json.isTruthy (some value))),
    ("targetStoreId", jsonText ((textIfTruthy (input.get? "targetStoreId")).map Text.trim)),
    ("notes", jsonText (textIfTruthy (input.get? "notes"))),
    ("metadata", Json.ofOption (fun value => .obj (asObject (some value)))
      ((input.get? "metadata").filter fun value => Json.isTruthy (some value)))]

def createInventoryActivationRequest (db : ActivationDb) (requestId : Uuid) (input : Json) :
    Except ApiException IntegrationActivationRequest := do
  let connectorKey := Text.trim (textOr (input.get? "connectorKey") "")
  let version := Text.trim (textOr (input.get? "version") "")
  let targetTenantId := trimmedIfTruthy (input.get? "targetTenantId")
  let registryEntryId := trimmedIfTruthy (input.get? "registryEntryId")
  rejectIf ((connectorKey = "" ∨ version = "") ∧ registryEntryId = none)
    (.badRequest "connectorKey/version or registryEntryId is required.")
  let found := match registryEntryId with
    | some entryId => Rows.find IntegrationRegistryEntry.id db.registry.entries entryId
    | none => findActiveEntry db.registry.entries connectorKey version targetTenantId
  let entry ← required found
    (.notFound "Active registry entry for connector activation was not found.")
  let resolvedConnectorKey := Text.orElse connectorKey entry.connectorKey
  let resolvedVersion := Text.orElse version entry.version
  let publication := findPublishedFor db.publications resolvedConnectorKey resolvedVersion
    targetTenantId
  pure { newActivationRequest requestId resolvedConnectorKey resolvedVersion
      (env.normalized (textOr (input.get? "status") "PENDING")) with
    publicationId := publication.map (·.id)
    registryEntryId := some entry.id
    tenantId := targetTenantId.or entry.tenantId
    organizationId :=
      match input.get? "organizationId" with
      | some value => orNull (Text.trim (textOr (some value) ""))
      | none => entry.organizationId
    requestNotes := some (inventoryRequestNotes input) }

def activationStatusDecided (now : Moment) (input : Json) (current : IntegrationActivationRequest) :
    Except ApiException IntegrationActivationRequest := do
  let status := env.normalized (textOr (input.get? "status") "")
  rejectIf (status = "") (.badRequest "status is required.")
  pure { current with
    status
    approvedAt :=
      if status = "APPROVED" then some (current.approvedAt.getD now)
      else if status = "REVOKED" then none
      else current.approvedAt
    rejectedAt :=
      if status = "REJECTED" then some (current.rejectedAt.getD now) else current.rejectedAt
    revokedAt :=
      if status = "REVOKED" then some (current.revokedAt.getD now) else current.revokedAt }

def updateIntegrationActivationRequestStatus (now : Moment) (id : Uuid) (input : Json)
    (activations : List IntegrationActivationRequest) :
    Except ApiException (IntegrationActivationRequest × List IntegrationActivationRequest) :=
  updateOne IntegrationActivationRequest.id activationRequestNotFound id
    (activationStatusDecided env now input) activations

def policyJson : Option ProviderRuntimePolicy → Json
  | none => .null
  | some policy =>
    .obj [("key", .str policy.key), ("name", .str policy.name),
      ("riskLevel", .str policy.riskLevel.text),
      ("executionModel", .str policy.executionModel.text),
      ("preferredRetryExecution", .str policy.preferredRetryExecution.text)]

def buildActivationArtifact (now : Moment) (request : IntegrationActivationRequest)
    (publication : Option IntegrationPublication) (entry : IntegrationRegistryEntry) : Json :=
  let manifest := asObject (some entry.manifest)
  let runtime := summarizeConnectorRuntime env manifest
  let policy := policyJson (resolveInventorySupplierProviderRuntimePolicyForRuntime env
    runtime.providerAdapterKey runtime.providerProfileKey)
  let pack := publication.map (·.artifact.package)
  .obj [("requestId", .str request.id), ("publicationId", jsonText (publication.map (·.id))),
    ("registryEntryId", .str entry.id), ("connectorKey", .str request.connectorKey),
    ("version", .str request.version), ("targetKind", .str request.targetKind),
    ("appliedAt", .str (env.toISOString now)),
    ("publication", Json.ofOption (fun row : IntegrationPublication =>
      .obj [("visibility", .str row.visibility), ("channel", .str row.channel),
        ("status", .str row.status)]) publication),
    ("package", .obj [
      ("compatibility", ((pack.map (·.compatibility.toJson)).getD (.obj []))),
      ("lifecycle", ((pack.map (·.lifecycle.toJson)).getD (.obj []))), ("providerPolicy", policy)]),
    ("registry", .obj [("status", .str entry.status),
      ("runtime", .obj (asObject (Record.get manifest "runtime"))),
      ("provider", .obj (asObject (Record.get manifest "provider"))), ("providerPolicy", policy)])]

def issuesOr (issues : List String) (fallback : String) : ApiException :=
  .badRequest (Text.orElse (" ".intercalate issues) fallback)

/-- The publication of a request that names one must be there. -/
def requirePublication (db : ActivationDb) (request : IntegrationActivationRequest) :
    Except ApiException (Option IntegrationPublication) :=
  match request.publicationId with
  | none => .ok none
  | some publicationId => some <$> getIntegrationPublication db.publications publicationId

def activationApplied (now : Moment) (db : ActivationDb) (input : Json)
    (current : IntegrationActivationRequest) :
    Except ApiException IntegrationActivationRequest := do
  let readiness := activationReadiness env db current
  rejectIf (readiness.canApply = false ∧ isTrue (input.get? "force") = false)
    (issuesOr readiness.blockingIssues "Activation request cannot be applied.")
  let publication ← requirePublication db current
  let entry ← required (findActivationEntry db current)
    (.notFound "Activation registry entry not found.")
  pure { current with
    status := "APPLIED"
    appliedAt := some now
    activationArtifact := some (buildActivationArtifact env now current publication entry) }

def applyIntegrationActivationRequest (now : Moment) (db : ActivationDb) (id : Uuid)
    (input : Json) :
    Except ApiException (IntegrationActivationRequest × List IntegrationActivationRequest) :=
  updateOne IntegrationActivationRequest.id activationRequestNotFound id
    (activationApplied env now db input) db.activations

end Exetron.Enterprise
