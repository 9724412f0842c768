import Exetron.Enterprise.Activations

/-!
# Installed runtimes

The runtime of an approved connector is a registry entry of the tenant: how its manifest is merged,
when it may be installed or reconciled, and how it has drifted from its source.
-/

namespace Exetron.Enterprise

open Lib
open Customization (Fields deepMergeRecord)

variable (env : EnterpriseEnv)

/-- The connector template that an installation is made of, and where it was found. -/
structure ActivationTemplate where
  source : String
  templateId : Option Uuid
  templateVersion : Option String
  manifest : Fields

def ConnectorTemplate.foundIn (source : String) (template : ConnectorTemplate) :
    ActivationTemplate where
  source := source
  templateId := some template.id
  templateVersion := some template.version
  manifest := asObject (some template.manifest)

def resolveActivationConnectorTemplate (publication : Option IntegrationPublication) :
    Option ConnectorTemplate → ActivationTemplate
  | some row => row.foundIn "CONNECTOR_TEMPLATE"
  | none =>
    match publication.bind (·.artifact.package.connectorTemplate) with
    | some template => template.foundIn "PUBLICATION_PACKAGE"
    | none => ⟨"REGISTRY_RUNTIME", none, none, []⟩

def findConnectorTemplate (db : RegistryDb) (connectorKey version : String) :
    Option ConnectorTemplate :=
  (newestFirst ConnectorTemplate.createdAt (db.templates.filter fun row =>
    row.connectorKey = connectorKey ∧ row.version = version)).head?

def findInstalledRuntime (entries : List IntegrationRegistryEntry) (tenantId : Uuid)
    (connectorKey version : String) : Option IntegrationRegistryEntry :=
  (newestFirst IntegrationRegistryEntry.createdAt (entries.filter fun entry =>
    entry.tenantId = some tenantId ∧ entry.connectorKey = connectorKey ∧
      entry.version = version)).head?

structure RolloutContext where
  request : IntegrationActivationRequest
  publication : Option IntegrationPublication
  registryEntry : Option IntegrationRegistryEntry
  connectorTemplate : ActivationTemplate
  (targetTenantId targetStoreId : Option Uuid)
  installedRuntimeEntry : Option IntegrationRegistryEntry

def rolloutContext (db : ActivationDb) (request : IntegrationActivationRequest) : RolloutContext :=
  let publication := findActivationPublication db request
  let targetTenantId := readActivationTargetTenantId request
  { request
    publication
    registryEntry := findActivationEntry db request
    connectorTemplate := resolveActivationConnectorTemplate publication
      (findConnectorTemplate db.registry request.connectorKey request.version)
    targetTenantId
    targetStoreId := readActivationTargetStoreId request
    installedRuntimeEntry := targetTenantId.bind fun tenantId =>
      findInstalledRuntime db.registry.entries tenantId request.connectorKey request.version }

def resolveActivationRuntimeRolloutContext (db : ActivationDb) (id : Uuid) :
    Except ApiException RolloutContext :=
  rolloutContext db <$> findActivationRequest db id

namespace RolloutContext

variable (context : RolloutContext)

/-- The manifest of the source: the entry's, with the template over it. -/
def sourceManifest : Fields :=
  deepMergeRecord (entryManifest context.registryEntry) context.connectorTemplate.manifest

def installedManifest : Fields := entryManifest context.installedRuntimeEntry

def enterpriseRollout : Fields :=
  asObject (Record.get context.installedManifest "enterpriseRollout")

def governance : Fields := asObject (Record.get context.enterpriseRollout "governance")

end RolloutContext

def stripEnterpriseRollout (manifest : Fields) : Fields :=
  Record.erase (deepMergeRecord [] manifest) "enterpriseRollout"

def computeRuntimeSourceDigest (manifest : Fields) : String :=
  env.sha256 (Json.stringify (.obj (stripEnterpriseRollout manifest)))

/-- `value !== undefined && value !== null ? String(value) : null` of a field. -/
def fieldText (record : Fields) (key : String) : Option String :=
  (Json.present (Record.get record key)).map Json.toText

structure InstallReadiness where
  (requestStatus targetKind : String)
  checks : List Check
  warnings : List String
  providerCompatibility : ProviderCompatibility

def InstallReadiness.blockingIssues (readiness : InstallReadiness) : List String :=
  blockingIssuesOf readiness.checks

def InstallReadiness.canInstall (readiness : InstallReadiness) : Bool :=
  readiness.blockingIssues = []

def installKindCheck (targetKind : String) : Check :=
  if targetKind ≠ "SUPPLIER_CONNECTOR" then
    ⟨"TARGET_KIND_UNSUPPORTED", .blocked, "Unsupported install target '" ++ targetKind ++ "'."⟩
  else ⟨"TARGET_KIND_READY", .ready, "Supplier connector install target is supported."⟩

def installTenantCheck (targetTenantId : Option Uuid) : Check :=
  if targetTenantId.isSome then ⟨"TARGET_TENANT_READY", .ready, "Target tenant is present."⟩
  else ⟨"TARGET_TENANT_MISSING", .blocked,
    "Target tenant is required to materialize runtime connector installation."⟩

def installStatusCheck (requestStatus : String) : Check :=
  if requestStatus = "APPLIED" then
    ⟨"ACTIVATION_APPLIED", .ready, "Activation request is already APPLIED."⟩
  else if requestStatus = "APPROVED" then
    ⟨"ACTIVATION_APPROVED", .ready,
      "Activation request is APPROVED and runtime install will materialize the applied state."⟩
  else ⟨"ACTIVATION_NOT_READY", .blocked,
    "Activation request must be APPROVED or APPLIED before runtime install."⟩

def installEntryCheck (entry : Option IntegrationRegistryEntry) : Check :=
  if entry.isSome then
    ⟨"REGISTRY_RUNTIME_READY", .ready, "Registry runtime source is available."⟩
  else ⟨"REGISTRY_RUNTIME_MISSING", .blocked,
    "Registry runtime source for activation install was not found."⟩

def installTemplateCheck (template : ActivationTemplate) : Check :=
  if template.source = "REGISTRY_RUNTIME" then
    ⟨"CONNECTOR_TEMPLATE_OPTIONAL", .warn,
      "No connector template was found; install will fall back to registry runtime manifest."⟩
  else ⟨"CONNECTOR_TEMPLATE_READY", .ready,
    "Install source '" ++ template.source ++ "' is available."⟩

def installPublicationChecks : Option IntegrationPublication → List Check
  | none => []
  | some publication =>
    let status := env.normalized publication.status
    if status ≠ "PUBLISHED" then
      [⟨"PUBLICATION_NON_PUBLISHED", .warn,
        "Publication is " ++ status ++ "; install will rely on applied activation artifact."⟩]
    else [⟨"PUBLICATION_READY", .ready,
      "Publication snapshot is available for runtime install metadata."⟩]

def installedEntryCheck (installed : Option IntegrationRegistryEntry) : Check :=
  if installed.isSome then
    ⟨"RUNTIME_ENTRY_EXISTS", .warn,
      "Tenant-scoped runtime connector already exists and will be updated in place."⟩
  else ⟨"RUNTIME_ENTRY_MISSING", .ready, "Tenant-scoped runtime connector will be created."⟩

def installCompatibility (context : RolloutContext) (requestStatus : String) :
    ProviderCompatibility :=
  evaluateInventorySupplierProviderRuntimeCompatibility env
    { compatibilityInput env context.sourceManifest context.targetTenantId context.publication
        requestStatus with
      allowApprovedActivation := true
      publicationStatus := context.publication.map fun row => env.normalized row.status
      installationSource := fieldText context.enterpriseRollout "source"
      installationPublicationId := fieldText context.enterpriseRollout "publicationId"
      installationGovernanceStatus := fieldText context.governance "status"
      installationDriftStatus := fieldText context.governance "driftStatus" }

def getActivationInstallReadinessSnapshot (context : RolloutContext) : InstallReadiness :=
  let requestStatus := context.request.readStatus env
  let targetKind := env.normalized context.request.targetKind
  let templateCheck := installTemplateCheck context.connectorTemplate
  let publicationChecks := installPublicationChecks env context.publication
  let compatibility := installCompatibility env context requestStatus
  { requestStatus
    targetKind
    checks := [installKindCheck targetKind, installTenantCheck context.targetTenantId,
        installStatusCheck requestStatus, installEntryCheck context.registryEntry,
        templateCheck] ++ publicationChecks ++
      [installedEntryCheck context.installedRuntimeEntry] ++
      compatibility.checks.filter fun check => check.status ≠ .ready
    warnings := messagesOf .warn ([templateCheck] ++ publicationChecks) ++ compatibility.warnings
    providerCompatibility := compatibility }

inductive DriftStatus where
  | unknown
  | current
  | drifted
  deriving DecidableEq

def DriftStatus.text : DriftStatus → String
  | .unknown => "UNKNOWN"
  | .current => "CURRENT"
  | .drifted => "DRIFTED"

def driftOf (installedSourceDigest : Option String) (currentSourceDigest : String) : DriftStatus :=
  match installedSourceDigest with
  | none => .unknown
  | some installed => if installed = currentSourceDigest then .current else .drifted

structure RuntimeRolloutReadiness where
  requestStatus : String
  runtimeStatus : Option String
  checks : List Check
  warnings : List String
  (canReconcile canApplyGovernance : Bool)
  driftStatus : DriftStatus
  sourceDigestCurrent : String
  sourceDigestInstalled : Option String
  governanceStatus : String
  providerCompatibility : ProviderCompatibility

def RuntimeRolloutReadiness.blockingIssues (readiness : RuntimeRolloutReadiness) : List String :=
  blockingIssuesOf readiness.checks

def rolloutInstalledCheck (installed : Option IntegrationRegistryEntry) : Check :=
  if installed.isSome then ⟨"RUNTIME_INSTALLED", .ready, "Runtime connector is installed."⟩
  else ⟨"RUNTIME_NOT_INSTALLED", .blocked,
    "Runtime connector is not installed for this activation request."⟩

def rolloutStatusCheck (requestStatus : String) : Check :=
  if requestStatus ≠ "APPLIED" then
    ⟨"ACTIVATION_NOT_APPLIED", .blocked,
      "Activation request is no longer APPLIED for this runtime rollout."⟩
  else ⟨"ACTIVATION_APPLIED", .ready, "Activation request remains APPLIED."⟩

def rolloutLifecycleCheck (lifecycle : PublicationLifecycle) : Check :=
  if lifecycle.actionRequired then
    ⟨"PUBLICATION_LIFECYCLE_BLOCKED", .blocked,
      "Source publication lifecycle requires revocation/deactivation."⟩
  else
    match lifecycle.warnings with
    | warning :: _ => ⟨"PUBLICATION_LIFECYCLE_WARN", .warn, warning⟩
    | [] => ⟨"PUBLICATION_LIFECYCLE_READY", .ready, "Source publication lifecycle is healthy."⟩

def rolloutPublication (now : Moment) :
    Option IntegrationPublication → Except ApiException (List Check × List String)
  | none =>
    let message := "No source publication snapshot is attached to this installed runtime."
    .ok ([⟨"PUBLICATION_OPTIONAL", .warn, message⟩], [message])
  | some publication => do
    let lifecycle ← getPublicationLifecycleSnapshot env now publication
    let status : Check :=
      if env.normalized publication.status ≠ "PUBLISHED" ∨ publication.revokedAt.isSome then
        ⟨"PUBLICATION_NOT_PUBLISHED", .blocked,
          "Source publication is no longer actively published."⟩
      else ⟨"PUBLICATION_PUBLISHED", .ready, "Source publication remains actively published."⟩
    pure ([status, rolloutLifecycleCheck lifecycle],
      if lifecycle.actionRequired then [] else lifecycle.warnings)

def rolloutSourceCheck (entry : Option IntegrationRegistryEntry) : Check :=
  if entry.isSome then ⟨"SOURCE_REGISTRY_READY", .ready, "Source registry runtime is available."⟩
  else ⟨"SOURCE_REGISTRY_MISSING", .blocked, "Source registry runtime is no longer available."⟩

def driftWarnings : DriftStatus → List String
  | .drifted => ["Installed runtime source digest differs from current source artifact."]
  | .current => []
  | .unknown => ["Installed runtime source digest is missing; reconcile is recommended."]

def rolloutDriftCheck : DriftStatus → Check
  | .drifted => ⟨"SOURCE_DRIFTED", .warn,
      "Installed runtime source digest differs from current source artifact."⟩
  | .current => ⟨"SOURCE_CURRENT", .ready,
      "Installed runtime matches current source artifact digest."⟩
  | .unknown => ⟨"SOURCE_DIGEST_MISSING", .warn,
      "Installed runtime source digest is missing; reconcile is recommended."⟩

def rolloutGovernanceChecks (governance : Fields) (governanceStatus : String) : List Check :=
  let reason := fieldText governance "reason"
  if governanceStatus = "BLOCKED" then
    [⟨"GOVERNANCE_BLOCKED", .blocked, reason.getD "Runtime rollout governance is blocked."⟩]
  else if governanceStatus = "WARN" then
    [⟨"GOVERNANCE_WARN", .warn, reason.getD "Runtime rollout governance should be reviewed."⟩]
  else []

def rolloutRuntimeChecks : Option String → List Check
  | none => []
  | some runtimeStatus =>
    if runtimeStatus = "" then []
    else if runtimeStatus = "ACTIVE" then
      [⟨"RUNTIME_STATUS_ACTIVE", .ready, "Installed runtime connector is ACTIVE."⟩]
    else [⟨"RUNTIME_STATUS_WARN", .warn,
      "Installed runtime connector status is " ++ runtimeStatus ++ "."⟩]

def RolloutContext.sourceDigestInstalled (context : RolloutContext) : Option String :=
  fieldText context.enterpriseRollout "sourceDigest"

def RolloutContext.driftStatus (context : RolloutContext) : DriftStatus :=
  driftOf context.sourceDigestInstalled (computeRuntimeSourceDigest env context.sourceManifest)

def rolloutCompatibility (context : RolloutContext) (requestStatus governanceStatus : String) :
    ProviderCompatibility :=
  evaluateInventorySupplierProviderRuntimeCompatibility env
    { compatibilityInput env context.sourceManifest context.targetTenantId context.publication
        requestStatus with
      installationSource := fieldText context.enterpriseRollout "source"
      installationPublicationId := fieldText context.enterpriseRollout "publicationId"
      installationGovernanceStatus := some governanceStatus
      installationDriftStatus := some (context.driftStatus env).text }

def getActivationRuntimeRolloutReadinessSnapshot (now : Moment) (context : RolloutContext) :
    Except ApiException RuntimeRolloutReadiness := do
  let requestStatus := context.request.readStatus env
  let (publicationChecks, publicationWarnings) ← rolloutPublication env now context.publication
  let driftStatus := context.driftStatus env
  let governanceStatus :=
    ((fieldText context.governance "status").map env.normalized).getD "UNKNOWN"
  let runtimeStatus := context.installedRuntimeEntry.map fun entry => env.normalized entry.status
  let runtimeChecks := rolloutRuntimeChecks runtimeStatus
  let compatibility := rolloutCompatibility env context requestStatus governanceStatus
  pure
    { requestStatus
      runtimeStatus
      checks := [rolloutInstalledCheck context.installedRuntimeEntry,
          rolloutStatusCheck requestStatus] ++ publicationChecks ++
        [rolloutSourceCheck context.registryEntry, rolloutDriftCheck driftStatus] ++
        rolloutGovernanceChecks context.governance governanceStatus ++ runtimeChecks ++
        compatibility.checks.filter fun check => check.status ≠ .ready
      warnings := publicationWarnings ++ driftWarnings driftStatus ++
        messagesOf .warn runtimeChecks ++ compatibility.warnings
      canReconcile := context.installedRuntimeEntry.isSome && context.registryEntry.isSome
      canApplyGovernance := context.installedRuntimeEntry.isSome
      driftStatus
      sourceDigestCurrent := computeRuntimeSourceDigest env context.sourceManifest
      sourceDigestInstalled := context.sourceDigestInstalled
      governanceStatus
      providerCompatibility := compatibility }

def getIntegrationRuntimeRolloutReadiness (now : Moment) (db : ActivationDb) (id : Uuid) :
    Except ApiException RuntimeRolloutReadiness := do
  let context ← resolveActivationRuntimeRolloutContext db id
  getActivationRuntimeRolloutReadinessSnapshot env now context

def getIntegrationActivationInstallReadiness (now : Moment) (db : ActivationDb) (id : Uuid) :
    Except ApiException InstallReadiness := do
  let context ← resolveActivationRuntimeRolloutContext db id
  if context.installedRuntimeEntry.isSome then
    let _ ← getActivationRuntimeRolloutReadinessSnapshot env now context
  pure (getActivationInstallReadinessSnapshot env context)

/-- Who installs: a user, or a device. -/
inductive Installer where
  | user (id : Option Uuid)
  | device (id : Option Uuid)

def Installer.type : Installer → String
  | .user _ => "USER"
  | .device _ => "DEVICE"

def Installer.id : Installer → Option Uuid
  | .user id => id
  | .device id => id

def installGovernance (installedAt : String) : Json :=
  .obj [("status", .str "READY"), ("reason", .str "Runtime install is current."),
    ("lastEvaluatedAt", .str installedAt), ("driftStatus", .str "CURRENT")]

structure InstallOptions where
  installedAt : String
  installer : Installer
  preserveTenantOverrides : Bool
  (manifestOverrides runtimeOverrides : Fields)
  installNotes : Option String

def installMode (context : RolloutContext) : String :=
  if context.installedRuntimeEntry.isSome then "UPDATE" else "CREATE"

def enterpriseRolloutRecord (context : RolloutContext) (entry : IntegrationRegistryEntry)
    (options : InstallOptions) : Json :=
  let template := context.connectorTemplate
  .obj [("activationRequestId", .str context.request.id),
    ("publicationId", jsonText (context.publication.map (·.id))),
    ("sourceRegistryEntryId", .str entry.id), ("connectorTemplateId", jsonText template.templateId),
    ("connectorTemplateVersion", jsonText template.templateVersion),
    ("source", .str template.source), ("targetTenantId", jsonText context.targetTenantId),
    ("targetStoreId", jsonText context.targetStoreId), ("installedAt", .str options.installedAt),
    ("installedByType", .str options.installer.type),
    ("installedById", jsonText options.installer.id), ("installMode", .str (installMode context)),
    ("installNotes", jsonText options.installNotes),
    ("sourceDigest", .str (computeRuntimeSourceDigest env context.sourceManifest)),
    ("governance", installGovernance options.installedAt)]

/-- The source, the previous installation over it when it is preserved, and then the overrides. -/
def overriddenManifest (context : RolloutContext) (options : InstallOptions) : Fields :=
  let preserved :=
    if options.preserveTenantOverrides && context.installedRuntimeEntry.isSome then
      deepMergeRecord context.sourceManifest
        (Record.erase context.installedManifest "enterpriseRollout")
    else context.sourceManifest
  deepMergeRecord preserved options.manifestOverrides

def buildInstalledRuntimeManifest (context : RolloutContext) (entry : IntegrationRegistryEntry)
    (options : InstallOptions) : Fields :=
  let manifest := overriddenManifest context options
  let runtime := deepMergeRecord (asObject (Record.get manifest "runtime")) options.runtimeOverrides
  Record.set (Record.set manifest "runtime" (.obj runtime)) "enterpriseRollout"
    (enterpriseRolloutRecord env context entry options)

def readInstallOptions (now : Moment) (installer : Installer) (input : Json) : InstallOptions where
  installedAt := env.toISOString now
  installer := installer
  preserveTenantOverrides := isNotFalse (input.get? "preserveTenantOverrides")
  manifestOverrides := asObject (input.get? "manifestOverrides")
  runtimeOverrides := asObject (input.get? "runtimeOverrides")
  installNotes := trimmedOrNull ((Json.present (input.get? "installNotes")).map Json.toText)

def runtimeEntry (now : Moment) (new : Uuid) (context : RolloutContext) (targetTenantId : Uuid)
    (manifest : Fields) (input : Json) : IntegrationRegistryEntry :=
  match context.installedRuntimeEntry with
  | some existing =>
    { existing with
      organizationId := context.request.organizationId.or existing.organizationId
      status := env.normalized (textOr (input.get? "runtimeStatus") existing.status)
      manifest := .obj manifest
      updatedAt := now }
  | none =>
    { id := new
      tenantId := some targetTenantId
      organizationId := context.request.organizationId
      connectorKey := context.request.connectorKey
      version := context.request.version
      status := env.normalized (textOr (input.get? "runtimeStatus") "ACTIVE")
      manifest := .obj manifest
      createdAt := now
      updatedAt := now }

def ActivationDb.putRuntime (db : ActivationDb) (context : RolloutContext)
    (row : IntegrationRegistryEntry) : ActivationDb :=
  match context.installedRuntimeEntry with
  | some existing =>
    { db with
      registry.entries := Rows.modify IntegrationRegistryEntry.id existing.id (fun _ => row)
        db.registry.entries }
  | none =>
    { db with
      registry.entries := db.registry.entries ++ [row]
      nextUuid := db.nextUuid + 1 }

def runtimeInstallArtifact (context : RolloutContext) (options : InstallOptions)
    (targetTenantId : Uuid) (installed : IntegrationRegistryEntry) : Json :=
  let runtime := summarizeConnectorRuntime env (asObject (some installed.manifest))
  let template := context.connectorTemplate
  .obj [("installedRegistryEntryId", .str installed.id), ("source", .str template.source),
    ("installMode", .str (installMode context)), ("targetTenantId", .str targetTenantId),
    ("targetStoreId", jsonText context.targetStoreId),
    ("connectorTemplateId", jsonText template.templateId),
    ("connectorTemplateVersion", jsonText template.templateVersion),
    ("installedAt", .str options.installedAt), ("installedByType", .str options.installer.type),
    ("installedById", jsonText options.installer.id), ("runtimeStatus", .str installed.status),
    ("sourceDigest", .str (computeRuntimeSourceDigest env context.sourceManifest)),
    ("transportMode", .str runtime.transportMode),
    ("providerAdapterKey", jsonText runtime.providerAdapterKey),
    ("providerProfileKey", jsonText runtime.providerProfileKey),
    ("installNotes", jsonText options.installNotes),
    ("governance", installGovernance options.installedAt)]

/-- An approved request is applied by the installation. -/
def runtimeInstalled (now : Moment) (context : RolloutContext) (entry : IntegrationRegistryEntry)
    (artifact : Json) : IntegrationActivationRequest :=
  let request := context.request
  let base := (request.activationArtifact.filter fun stored => Json.isTruthy (some stored)).getD
    (buildActivationArtifact env now request context.publication entry)
  let shouldMarkApplied : Bool := request.readStatus env = "APPROVED"
  { request with
    status := if shouldMarkApplied then "APPLIED" else request.status
    appliedAt := if shouldMarkApplied then some (request.appliedAt.getD now) else request.appliedAt
    activationArtifact :=
      some (.obj (deepMergeRecord (asObject (some base)) [("runtimeInstall", artifact)])) }

def installIntegrationActivationRuntime (now : Moment) (installer : Installer) (db : ActivationDb)
    (id : Uuid) (input : Json) :
    Except ApiException (IntegrationActivationRequest × ActivationDb) := do
  let readiness ← getIntegrationActivationInstallReadiness env now db id
  rejectIf (readiness.canInstall = false ∧ isTrue (input.get? "force") = false)
    (issuesOr readiness.blockingIssues "Activation runtime install cannot be applied.")
  let context ← resolveActivationRuntimeRolloutContext db id
  let entry ← required context.registryEntry (.notFound "Activation registry entry not found.")
  let targetTenantId ← required context.targetTenantId
    (.notFound "Target tenant is required for runtime connector installation.")
  let options := readInstallOptions env now installer input
  let manifest := buildInstalledRuntimeManifest env context entry options
  let installed := runtimeEntry env now (env.uuid.text db.nextUuid) context targetTenantId manifest
    input
  let request := runtimeInstalled env now context entry
    (runtimeInstallArtifact env context options targetTenantId installed)
  pure (request,
    { db.putRuntime context installed with
      activations := Rows.modify IntegrationActivationRequest.id id (fun _ => request)
        db.activations })

def reconcileInput (input : Json) : Json :=
  .obj (Record.spread (asObject (some input))
    [("preserveTenantOverrides", .bool (isNotFalse (input.get? "preserveTenantOverrides"))),
      ("installNotes", .str (textOr (input.get? "installNotes")
        "Reconciled runtime rollout to current source artifact."))])

def reconcileIntegrationRuntimeRollout (now : Moment) (installer : Installer) (db : ActivationDb)
    (id : Uuid) (input : Json) :
    Except ApiException (IntegrationActivationRequest × ActivationDb) := do
  let readiness ← getIntegrationRuntimeRolloutReadiness env now db id
  rejectIf (readiness.canReconcile = false ∧ isTrue (input.get? "force") = false)
    (issuesOr readiness.blockingIssues "Runtime rollout cannot be reconciled.")
  installIntegrationActivationRuntime env now installer db id (reconcileInput input)

/-- An installation that succeeds: what it finds, what lets it go on, and what it writes. -/
structure Installs (env : EnterpriseEnv) (now : Moment) (installer : Installer) (db : ActivationDb)
    (id : Uuid) (input : Json) (current : IntegrationActivationRequest)
    (entry : IntegrationRegistryEntry) (targetTenantId : Uuid)
    (installed : IntegrationRegistryEntry) (request : IntegrationActivationRequest)
    (db' : ActivationDb) : Prop where
  found : Rows.find IntegrationActivationRequest.id db.activations id = some current
  admitted : (getActivationInstallReadinessSnapshot env (rolloutContext db current)).canInstall =
      true ∨ isTrue (input.get? "force") = true
  source : findActivationEntry db current = some entry
  tenant : readActivationTargetTenantId current = some targetTenantId
  entry_eq : installed = runtimeEntry env now (env.uuid.text db.nextUuid)
    (rolloutContext db current) targetTenantId
    (buildInstalledRuntimeManifest env (rolloutContext db current) entry
      (readInstallOptions env now installer input)) input
  request_eq : request = runtimeInstalled env now (rolloutContext db current) entry
    (runtimeInstallArtifact env (rolloutContext db current)
      (readInstallOptions env now installer input) targetTenantId installed)
  db_eq : db' =
    { db.putRuntime (rolloutContext db current) installed with
      activations := Rows.modify IntegrationActivationRequest.id id (fun _ => request)
        db.activations }

variable {env} {now : Moment} {installer : Installer} {db db' : ActivationDb} {id : Uuid}
  {input : Json} {request : IntegrationActivationRequest}

theorem resolveContext_ok {context : RolloutContext}
    (h : resolveActivationRuntimeRolloutContext db id = .ok context) :
    ∃ current, Rows.find IntegrationActivationRequest.id db.activations id = some current ∧
      rolloutContext db current = context := by
  obtain ⟨current, found, is⟩ := map_ok_iff.mp h
  exact ⟨current, required_ok_iff.mp found, is⟩

theorem installReadiness_ok {readiness : InstallReadiness} {current : IntegrationActivationRequest}
    (found : Rows.find IntegrationActivationRequest.id db.activations id = some current)
    (h : getIntegrationActivationInstallReadiness env now db id = .ok readiness) :
    readiness = getActivationInstallReadinessSnapshot env (rolloutContext db current) := by
  unfold getIntegrationActivationInstallReadiness at h
  obtain ⟨context, resolved, h⟩ := except_bind_ok_iff.mp h
  obtain ⟨current', found', rfl⟩ := resolveContext_ok resolved
  obtain rfl := Option.some.inj (found.symm.trans found')
  split at h
  · obtain ⟨_, -, h⟩ := except_bind_ok_iff.mp h
    exact (Except.ok.inj h).symm
  · exact (Except.ok.inj h).symm

theorem installIntegrationActivationRuntime_ok
    (h : installIntegrationActivationRuntime env now installer db id input = .ok (request, db')) :
    ∃ current entry targetTenantId installed,
      Installs env now installer db id input current entry targetTenantId installed request db' := by
  unfold installIntegrationActivationRuntime at h
  simp only [except_bind_ok_iff, rejectIf_ok_iff, required_ok_iff, except_pure_ok_iff] at h
  obtain ⟨readiness, read, _, admitted, context, resolved, entry, source, tenantId, tenant, is⟩ := h
  obtain ⟨current, found, rfl⟩ := resolveContext_ok resolved
  obtain ⟨rfl, rfl⟩ := Prod.mk.inj is
  obtain rfl := installReadiness_ok found read
  refine ⟨current, entry, tenantId, _, found, ?_, source, tenant, rfl, rfl, rfl⟩
  by_contra refused
  rw [not_or, Bool.not_eq_true, Bool.not_eq_true] at refused
  exact admitted refused

end Exetron.Enterprise
