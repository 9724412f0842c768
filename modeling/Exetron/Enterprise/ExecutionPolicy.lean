import Exetron.Enterprise.Governance

/-!
# The execution policy of a runtime

What a runtime asks of its secrets, its target and its environment, and what is recorded of it.
-/

namespace Exetron.Enterprise

open Lib
open Customization (Fields)

/-- `EXETRON_RUNTIME_ENVIRONMENT` and `NODE_ENV`. -/
structure ProcessEnv where
  (runtimeEnvironment nodeEnv : Option String)

def ProcessEnv.currentEnvironment (process : ProcessEnv) : String :=
  Text.orElse (Text.trim ((process.runtimeEnvironment.or process.nodeEnv).getD "development"))
    "development"

def normalizeStringList : Option Json → List String
  | some (.str text) => (orNull (Text.trim text)).toList
  | some (.arr items) =>
    (items.map fun item => Text.trim (textOr (some item) "")).filter fun item => item ≠ ""
  | _ => []

structure RuntimeInspection where
  (requiredSecrets allowedTenantIds allowedStoreIds allowedEnvironments : List String)

def firstField (record : Fields) (keys : List String) : Option Json :=
  firstPresent (keys.map (Record.get record))

/-- A secret key that is a text. -/
def secretKey (record : Fields) : Option String :=
  match Record.get record "secretKey" with
  | some (.str text) => orNull (Text.trim text)
  | _ => none

def inspectExecutionPolicyRuntime (manifest : Fields) : RuntimeInspection :=
  let runtime := asObject (Record.get manifest "runtime")
  let transport := asObject (Record.get runtime "transport")
  let policy := asObject (firstPresent [Record.get runtime "executionPolicy",
    Record.get runtime "environment", Record.get runtime "deployment",
    Record.get manifest "executionPolicy"])
  let auth := asObject (firstPresent [Record.get transport "auth", Record.get runtime "auth",
    Record.get policy "auth"])
  { requiredSecrets :=
      ((([auth, transport, runtime, policy].filterMap secretKey) ++
        normalizeStringList
          (firstField policy ["requiredSecrets", "secretKeys", "secrets"])).eraseDups)
    allowedTenantIds :=
      normalizeStringList (firstField policy ["allowedTenantIds", "tenantIds", "allowedTenants"])
    allowedStoreIds :=
      normalizeStringList (firstField policy ["allowedStoreIds", "storeIds", "allowedStores"])
    allowedEnvironments :=
      normalizeStringList (firstField policy
        ["allowedEnvironments", "environments", "allowedEnvironment", "environment"]) }

structure SecretResolution where
  (requiredSecrets resolvedSecrets missingSecrets : List String)
  checks : List Check

def resolveExecutionPolicySecretResolution (secrets : List SecretRegistryEntry)
    (tenantId : Option Uuid) (secretKeys : List String) : SecretResolution :=
  let rows := secrets.filter fun row => row.key ∈ secretKeys ∧ isForTenant tenantId row.tenantId
  let isResolved (key : String) : Bool := rows.any fun row => Text.trim row.key = key
  let resolvedSecrets := secretKeys.filter isResolved
  let missingSecrets := secretKeys.filter fun key => !isResolved key
  { requiredSecrets := secretKeys
    resolvedSecrets
    missingSecrets
    checks :=
      (resolvedSecrets.map fun key => ⟨"EXECUTION_POLICY_SECRET_READY", .ready,
        "Required secret '" ++ key ++ "' is resolved."⟩) ++
      missingSecrets.map fun key => ⟨"EXECUTION_POLICY_SECRET_BLOCKED", .blocked,
        "Required secret '" ++ key ++ "' is not resolved."⟩ }

def targetGate (kind noun : String) (allowed : List String) (target : Option String) : List Check :=
  if allowed = [] then []
  else if isGiven target = false then
    [⟨"EXECUTION_POLICY_" ++ kind ++ "_BLOCKED", .blocked,
      "Execution policy requires a " ++ noun ++ "-scoped runtime target."⟩]
  else if target.any (· ∈ allowed) then
    [⟨"EXECUTION_POLICY_" ++ kind ++ "_READY", .ready,
      "Execution policy allows the " ++ noun ++ " target."⟩]
  else
    [⟨"EXECUTION_POLICY_" ++ kind ++ "_BLOCKED", .blocked,
      "Execution policy does not allow this " ++ noun ++ " target."⟩]

structure DeploymentGate where
  currentEnvironment : String
  (allowedTenantIds allowedStoreIds allowedEnvironments : List String)
  checks : List Check

variable (env : EnterpriseEnv) (process : ProcessEnv)

def environmentGate (allowed : List String) (currentEnvironment : String) : List Check :=
  if allowed = [] then []
  else if env.lower (Text.trim currentEnvironment) ∈ allowed then
    [⟨"EXECUTION_POLICY_ENVIRONMENT_READY", .ready,
      "Execution policy allows environment '" ++ currentEnvironment ++ "'."⟩]
  else
    [⟨"EXECUTION_POLICY_ENVIRONMENT_BLOCKED", .blocked,
      "Execution policy does not allow environment '" ++ currentEnvironment ++ "'."⟩]

def evaluateExecutionPolicyDeploymentGates (inspection : RuntimeInspection)
    (currentEnvironment : String) (targetTenantId targetStoreId : Option Uuid) : DeploymentGate :=
  let allowedEnvironments :=
    inspection.allowedEnvironments.map fun item => env.lower (Text.trim item)
  { currentEnvironment := env.lower (Text.trim currentEnvironment)
    allowedTenantIds := inspection.allowedTenantIds
    allowedStoreIds := inspection.allowedStoreIds
    allowedEnvironments
    checks := targetGate "TENANT" "tenant" inspection.allowedTenantIds targetTenantId ++
      targetGate "STORE" "store" inspection.allowedStoreIds targetStoreId ++
      environmentGate env allowedEnvironments currentEnvironment }

inductive ExecutionState where
  | suspended
  | checked (status : CheckStatus)
  deriving DecidableEq

def ExecutionState.text : ExecutionState → String
  | .suspended => "SUSPENDED"
  | .checked status => status.text

def isSuspendedRuntime (requestStatus : String) (runtimeStatus : Option String) : Bool :=
  requestStatus = "REVOKED" ∨ requestStatus = "SUSPENDED" ∨
    runtimeStatus.any (· ∈ ["SUSPENDED", "ARCHIVED", "REVOKED"])

structure ExecutionPolicy where
  state : ExecutionState
  reason : String
  readiness : RuntimeRolloutReadiness
  secretResolution : SecretResolution
  deployment : DeploymentGate

def executionStatus (blockingIssues actionableWarnings : List String) : CheckStatus :=
  if blockingIssues ≠ [] then .blocked else if actionableWarnings ≠ [] then .warn else .ready

def executionPolicyOf (secrets : List SecretRegistryEntry) (context : RolloutContext)
    (readiness : RuntimeRolloutReadiness) : ExecutionPolicy :=
  let inspection := inspectExecutionPolicyRuntime context.sourceManifest
  let secretResolution := resolveExecutionPolicySecretResolution secrets context.targetTenantId
    inspection.requiredSecrets
  let deployment := evaluateExecutionPolicyDeploymentGates env inspection
    process.currentEnvironment context.targetTenantId context.targetStoreId
  let isSuspended := isSuspendedRuntime readiness.requestStatus readiness.runtimeStatus
  let blockingIssues := readiness.blockingIssues ++ blockingIssuesOf secretResolution.checks ++
    blockingIssuesOf deployment.checks
  let warnings := readiness.warnings ++ messagesOf .warn secretResolution.checks ++
    messagesOf .warn deployment.checks
  let actionableWarnings :=
    warnings.filter fun item => item ≠ "Publication lifecycle is still active."
  { state :=
      if isSuspended then .suspended
      else .checked (executionStatus blockingIssues actionableWarnings)
    reason :=
      if isSuspended then "Installed runtime execution policy is suspended."
      else (((blockingIssues.head?.or actionableWarnings.head?).or warnings.head?).getD
        "Execution policy is ready.")
    readiness
    secretResolution
    deployment }

def getInventoryActivationExecutionPolicy (now : Moment) (db : ActivationDb) (id : Uuid) :
    Except ApiException (RolloutContext × ExecutionPolicy) := do
  let context ← resolveActivationRuntimeRolloutContext db id
  let readiness ← getActivationRuntimeRolloutReadinessSnapshot env now context
  pure (context, executionPolicyOf env process db.registry.secrets context readiness)

def textsJson (texts : List String) : Json := .arr (texts.map Json.str)

def checksJson (checks : List Check) : Json :=
  .arr (checks.map fun check => .obj [("code", .str check.code),
    ("status", .str check.status.text), ("message", .str check.message)])

def ProviderCompatibility.toJson (compatibility : ProviderCompatibility) : Json :=
  .obj [("status", .str (statusOf compatibility.checks).text),
    ("blockingIssues", textsJson compatibility.blockingIssues),
    ("warnings", textsJson compatibility.warnings), ("checks", checksJson compatibility.checks),
    ("policy", policyJson compatibility.policy)]

def PublicationLifecycle.toJson (lifecycle : PublicationLifecycle) : Json :=
  .obj [("deprecationStage", .str lifecycle.deprecationStage),
    ("sunsetAt", jsonText lifecycle.sunsetAt), ("isSunsetDue", .bool lifecycle.isSunsetDue),
    ("actionRequired", .bool lifecycle.actionRequired),
    ("canAutoRevoke", .bool lifecycle.canAutoRevoke),
    ("recommendedStatus", jsonText lifecycle.recommendedStatus), ("blockingIssues", .arr []),
    ("warnings", textsJson lifecycle.warnings)]

def runtimeRolloutJson (context : RolloutContext) (readiness : RuntimeRolloutReadiness)
    (lifecycle : Option PublicationLifecycle) : Json :=
  let template := context.connectorTemplate
  .obj [("installedRegistryEntryId", jsonText (context.installedRuntimeEntry.map (·.id))),
    ("source", .str template.source), ("connectorTemplateId", jsonText template.templateId),
    ("connectorTemplateVersion", jsonText template.templateVersion),
    ("driftStatus", .str readiness.driftStatus.text),
    ("sourceDigestCurrent", .str readiness.sourceDigestCurrent),
    ("sourceDigestInstalled", jsonText readiness.sourceDigestInstalled),
    ("governanceStatus", .str readiness.governanceStatus),
    ("governanceReason", jsonText (fieldText context.governance "reason")),
    ("lastGovernanceEvaluationAt", jsonText (fieldText context.governance "lastEvaluatedAt")),
    ("publicationLifecycle", Json.ofOption PublicationLifecycle.toJson lifecycle)]

def SecretResolution.toJson (resolution : SecretResolution) : Json :=
  .obj [("requiredSecrets", textsJson resolution.requiredSecrets),
    ("resolvedSecrets", textsJson resolution.resolvedSecrets),
    ("missingSecrets", textsJson resolution.missingSecrets),
    ("resolved", .bool (resolution.missingSecrets = []))]

def DeploymentGate.toJson (gate : DeploymentGate) : Json :=
  .obj [("currentEnvironment", .str gate.currentEnvironment),
    ("allowedTenantIds", textsJson gate.allowedTenantIds),
    ("allowedStoreIds", textsJson gate.allowedStoreIds),
    ("allowedEnvironments", textsJson gate.allowedEnvironments),
    ("status", .str (statusOf gate.checks).text),
    ("blockingIssues", textsJson (blockingIssuesOf gate.checks)),
    ("warnings", textsJson (messagesOf .warn gate.checks)), ("checks", checksJson gate.checks)]

def ExecutionPolicy.record (policy : ExecutionPolicy) (context : RolloutContext)
    (lifecycle : Option PublicationLifecycle) (state : ExecutionState)
    (evaluatedAt runtimeStatus : String) : Json :=
  .obj [("state", .str state.text), ("reason", .str policy.reason),
    ("evaluatedAt", .str evaluatedAt), ("requestStatus", .str policy.readiness.requestStatus),
    ("runtimeStatus", .str runtimeStatus),
    ("providerPolicy", policyJson policy.readiness.providerCompatibility.policy),
    ("providerCompatibility", policy.readiness.providerCompatibility.toJson),
    ("runtimeRollout", runtimeRolloutJson context policy.readiness lifecycle),
    ("secretResolution", policy.secretResolution.toJson), ("deployment", policy.deployment.toJson)]

/-- A runtime that must not run is suspended, unless the caller keeps it. -/
def ExecutionPolicy.shouldDeactivate (policy : ExecutionPolicy) (input : Json) : Bool :=
  isNotFalse (input.get? "deactivateRuntime") &&
    (policy.state = .checked .blocked || policy.state = .suspended)

def executionRuntimeStatus (policy : ExecutionPolicy) (input : Json) (status : String) : String :=
  if policy.shouldDeactivate input then "SUSPENDED"
  else Text.orElse (env.normalized status) "ACTIVE"

def publicationLifecycle (now : Moment) :
    Option IntegrationPublication → Except ApiException (Option PublicationLifecycle)
  | none => .ok none
  | some publication => some <$> getPublicationLifecycleSnapshot env now publication

def applyInventoryExecutionPolicy (now : Moment) (db : ActivationDb) (id : Uuid) (input : Json) :
    Except ApiException (ExecutionPolicy × ActivationDb) := do
  let (context, policy) ← getInventoryActivationExecutionPolicy env process now db id
  let lifecycle ← publicationLifecycle env now context.publication
  let installed ← required context.installedRuntimeEntry runtimeNotInstalled
  let runtimeStatus := executionRuntimeStatus env policy input installed.status
  let state := if policy.shouldDeactivate input then .suspended else policy.state
  let record := policy.record context lifecycle state (env.toISOString now) runtimeStatus
  pure (policy, db.recorded now id installed "executionPolicy" record runtimeStatus)

/-- A call that succeeds: what it finds, and what it writes. -/
structure Executes (env : EnterpriseEnv) (process : ProcessEnv) (now : Moment) (db : ActivationDb)
    (id : Uuid) (input : Json) (current : IntegrationActivationRequest)
    (installed : IntegrationRegistryEntry) (policy : ExecutionPolicy) (record : Json)
    (db' : ActivationDb) : Prop where
  found : Rows.find IntegrationActivationRequest.id db.activations id = some current
  installed_eq : (rolloutContext db current).installedRuntimeEntry = some installed
  policy_eq : ∃ readiness, getActivationRuntimeRolloutReadinessSnapshot env now
      (rolloutContext db current) = .ok readiness ∧
    policy = executionPolicyOf env process db.registry.secrets (rolloutContext db current) readiness
  db_eq : db' = db.recorded now id installed "executionPolicy" record
    (executionRuntimeStatus env policy input installed.status)

variable {env} {process} {now : Moment} {db db' : ActivationDb} {id : Uuid} {input : Json}
  {policy : ExecutionPolicy}

theorem executionPolicy_ok
    (h : applyInventoryExecutionPolicy env process now db id input = .ok (policy, db')) :
    ∃ current installed record,
      Executes env process now db id input current installed policy record db' := by
  simp only [applyInventoryExecutionPolicy, getInventoryActivationExecutionPolicy,
    except_bind_ok_iff, required_ok_iff, except_pure_ok_iff, Prod.mk.injEq] at h
  obtain ⟨_, ⟨context, resolved, readiness, read, rfl⟩, _, -, installed, here, rfl, rfl⟩ := h
  obtain ⟨current, found, rfl⟩ := resolveContext_ok resolved
  exact ⟨current, installed, _, found, here, ⟨readiness, read, rfl⟩, rfl⟩

end Exetron.Enterprise
