import Exetron.Enterprise.Values

/-!
# Provider runtime policies

`inventory-supplier-provider-policy.util`: the managed policies of the provider runtimes, and how a
rollout is judged by the one that the adapter or the profile of its manifest falls under.
-/

namespace Exetron.Enterprise

inductive CheckStatus where
  | ready
  | blocked
  | warn
  deriving DecidableEq

structure Check where
  code : String
  status : CheckStatus
  message : String

/-- The messages of the checks with the status. The services push a blocking issue only together
with its check. -/
def messagesOf (status : CheckStatus) (checks : List Check) : List String :=
  (checks.filter fun check => check.status = status).map (·.message)

def blockingIssuesOf (checks : List Check) : List String := messagesOf .blocked checks

theorem blockingIssuesOf_append (checks more : List Check) :
    blockingIssuesOf (checks ++ more) = blockingIssuesOf checks ++ blockingIssuesOf more := by
  simp [blockingIssuesOf, messagesOf]

inductive ProviderRiskLevel where
  | standard
  | elevated
  | strict

def ProviderRiskLevel.text : ProviderRiskLevel → String
  | .standard => "STANDARD"
  | .elevated => "ELEVATED"
  | .strict => "STRICT"

inductive ProviderExecutionModel where
  | inlinePush
  | fileExchange
  | signedCallback

def ProviderExecutionModel.text : ProviderExecutionModel → String
  | .inlinePush => "INLINE_PUSH"
  | .fileExchange => "FILE_EXCHANGE"
  | .signedCallback => "SIGNED_CALLBACK"

inductive RetryExecution where
  | inline
  | worker

def RetryExecution.text : RetryExecution → String
  | .inline => "INLINE"
  | .worker => "WORKER"

structure ProviderRuntimePolicy where
  (key name : String)
  riskLevel : ProviderRiskLevel
  executionModel : ProviderExecutionModel
  (adapterKeys profileKeys : List String)
  (requirePublicationSnapshot requireSignedPublication : Bool)
  (allowedVisibility allowedChannels : List String)
  (requireApproval requireAppliedActivation requireTenantInstall requireCurrentGovernance : Bool)
  (requireCurrentSourceDigest allowGlobalFallback : Bool)
  preferredRetryExecution : RetryExecution

def freshlaneControlledRuntime : ProviderRuntimePolicy where
  key := "FRESHLANE_CONTROLLED_RUNTIME"
  name := "Freshlane Controlled Runtime"
  riskLevel := .strict
  executionModel := .inlinePush
  adapterKeys := ["FRESHLANE_HTTP_V1"]
  profileKeys := ["HTTP_PUSH_STANDARD"]
  requirePublicationSnapshot := true
  requireSignedPublication := true
  allowedVisibility := ["PARTNER", "PUBLIC"]
  allowedChannels := ["partner-preview", "general"]
  requireApproval := true
  requireAppliedActivation := true
  requireTenantInstall := true
  requireCurrentGovernance := true
  requireCurrentSourceDigest := true
  allowGlobalFallback := false
  preferredRetryExecution := .worker

def waredropManagedFileRuntime : ProviderRuntimePolicy where
  key := "WAREDROP_MANAGED_FILE_RUNTIME"
  name := "Waredrop Managed File Runtime"
  riskLevel := .elevated
  executionModel := .fileExchange
  adapterKeys := ["WAREDROP_FILE_V1"]
  profileKeys := ["FILE_DROP_STANDARD"]
  requirePublicationSnapshot := true
  requireSignedPublication := false
  allowedVisibility := ["PARTNER", "PUBLIC"]
  allowedChannels := ["partner-preview", "general"]
  requireApproval := true
  requireAppliedActivation := true
  requireTenantInstall := true
  requireCurrentGovernance := true
  requireCurrentSourceDigest := true
  allowGlobalFallback := false
  preferredRetryExecution := .inline

def signalSignedWebhookRuntime : ProviderRuntimePolicy where
  key := "SIGNAL_SIGNED_WEBHOOK_RUNTIME"
  name := "Signal Signed Webhook Runtime"
  riskLevel := .strict
  executionModel := .signedCallback
  adapterKeys := ["SIGNAL_WEBHOOK_V1"]
  profileKeys := ["WEBHOOK_SIGNED_STANDARD"]
  requirePublicationSnapshot := true
  requireSignedPublication := true
  allowedVisibility := ["PARTNER", "PUBLIC"]
  allowedChannels := ["partner-preview", "general"]
  requireApproval := true
  requireAppliedActivation := true
  requireTenantInstall := true
  requireCurrentGovernance := true
  requireCurrentSourceDigest := true
  allowGlobalFallback := false
  preferredRetryExecution := .inline

def providerRuntimePolicies : List ProviderRuntimePolicy :=
  [freshlaneControlledRuntime, waredropManagedFileRuntime, signalSignedWebhookRuntime]

def policyOfProfile (profileKey : String) : Option ProviderRuntimePolicy :=
  providerRuntimePolicies.find? fun policy => profileKey ∈ policy.profileKeys

def policyOfAdapter (adapterKey : String) : Option ProviderRuntimePolicy :=
  providerRuntimePolicies.find? fun policy => adapterKey ∈ policy.adapterKeys

variable (env : EnterpriseEnv)

def resolveInventorySupplierProviderAdapter (key : String) : Option String :=
  match env.normalized key with
  | "FRESHLANE_HTTP_V1" => some "HTTP_PUSH_STANDARD"
  | "WAREDROP_FILE_V1" => some "FILE_DROP_STANDARD"
  | "SIGNAL_WEBHOOK_V1" => some "WEBHOOK_SIGNED_STANDARD"
  | _ => none

def resolveInventorySupplierProviderProfile (key : String) : Option String :=
  ["HTTP_PUSH_STANDARD", "FILE_DROP_STANDARD", "WEBHOOK_SIGNED_STANDARD"].find?
    (· = env.normalized key)

/-- `normalizeStatus`, and the keys of a provider: `null` when blank. -/
def normalizedOrNull (value : Option String) : Option String := (trimmedOrNull value).map env.upper

/-- An adapter without a policy of its own falls under that of its profile; one that is not known
leaves the choice to the profile key. -/
def resolveInventorySupplierProviderRuntimePolicyForRuntime
    (providerAdapterKey providerProfileKey : Option String) : Option ProviderRuntimePolicy :=
  let byProfileKey : Option ProviderRuntimePolicy := do
    let profileKey ← normalizedOrNull env providerProfileKey
    (policyOfProfile profileKey).or
      ((resolveInventorySupplierProviderProfile env profileKey).bind policyOfProfile)
  match normalizedOrNull env providerAdapterKey with
  | none => byProfileKey
  | some adapterKey =>
    match policyOfAdapter adapterKey with
    | some policy => some policy
    | none =>
      match resolveInventorySupplierProviderAdapter env adapterKey with
      | some profileKey => policyOfProfile profileKey
      | none => byProfileKey

structure CompatibilityInput where
  allowApprovedActivation : Bool := false
  (providerAdapterKey providerProfileKey targetTenantId publicationId : Option String)
  (publicationVisibility publicationChannel publicationStatus : Option String)
  (publicationSignatureStatus requestStatus : Option String)
  installationSource : Option String := none
  installationPublicationId : Option String := none
  installationGovernanceStatus : Option String := none
  installationDriftStatus : Option String := none

def isGiven (value : Option String) : Bool := value.any (· ≠ "")

def publicationCheck (policy : ProviderRuntimePolicy) (hasPublicationSnapshot : Bool) :
    List Check :=
  if policy.requirePublicationSnapshot then
    if hasPublicationSnapshot then
      [⟨"PROVIDER_POLICY_PUBLICATION_READY", .ready,
        "Publication-backed rollout artifacts are available."⟩]
    else [⟨"PROVIDER_POLICY_PUBLICATION_REQUIRED", .blocked,
      "Provider policy requires publication-backed rollout artifacts."⟩]
  else []

def visibilityCheck (policy : ProviderRuntimePolicy) : Option String → List Check
  | none => []
  | some visibility =>
    if visibility ∈ policy.allowedVisibility then
      [⟨"PROVIDER_POLICY_VISIBILITY_READY", .ready,
        "Publication visibility '" ++ visibility ++ "' is allowed."⟩]
    else [⟨"PROVIDER_POLICY_VISIBILITY_BLOCKED", .blocked,
      "Provider policy does not allow publication visibility '" ++ visibility ++ "'."⟩]

def channelCheck (policy : ProviderRuntimePolicy) : Option String → List Check
  | none => []
  | some channel =>
    if channel ∈ policy.allowedChannels then
      [⟨"PROVIDER_POLICY_CHANNEL_READY", .ready,
        "Publication channel '" ++ channel ++ "' is allowed."⟩]
    else [⟨"PROVIDER_POLICY_CHANNEL_BLOCKED", .blocked,
      "Provider policy does not allow publication channel '" ++ channel ++ "'."⟩]

def publicationStatusCheck (hasPublicationSnapshot : Bool) (status : Option String) : List Check :=
  if status.any (· ≠ "PUBLISHED") then
    [⟨"PROVIDER_POLICY_PUBLICATION_STATUS_BLOCKED", .blocked,
      "Provider policy requires an actively PUBLISHED source artifact."⟩]
  else if hasPublicationSnapshot then
    [⟨"PROVIDER_POLICY_PUBLICATION_STATUS_READY", .ready,
      "Source publication status is compatible."⟩]
  else []

def signatureCheck (policy : ProviderRuntimePolicy) (status : Option String) : List Check :=
  if policy.requireSignedPublication then
    if status = some "SIGNED" ∨ status = some "VERIFIED" then
      [⟨"PROVIDER_POLICY_SIGNATURE_READY", .ready, "Publication signature status is compatible."⟩]
    else [⟨"PROVIDER_POLICY_SIGNATURE_BLOCKED", .blocked,
      "Provider policy requires a signed or verified publication artifact."⟩]
  else []

def activationCheck (policy : ProviderRuntimePolicy) (allowApprovedActivation : Bool)
    (status : Option String) : List Check :=
  if policy.requireAppliedActivation then
    let approved : Bool := allowApprovedActivation ∧ status = some "APPROVED"
    if status = some "APPLIED" ∨ approved then
      [⟨"PROVIDER_POLICY_ACTIVATION_READY", .ready,
        if approved then "Activation has been approved for runtime install."
        else "Activation has been applied."⟩]
    else if status.isSome then
      [⟨"PROVIDER_POLICY_ACTIVATION_BLOCKED", .blocked,
        "Provider policy requires applied activation before runtime execution."⟩]
    else []
  else if policy.requireApproval then
    if status.any fun status => status ≠ "APPROVED" ∧ status ≠ "APPLIED" then
      [⟨"PROVIDER_POLICY_APPROVAL_BLOCKED", .blocked,
        "Provider policy requires approved activation before rollout."⟩]
    else []
  else []

def tenantInstallCheck (policy : ProviderRuntimePolicy) (hasTenantInstallContext : Bool) :
    List Check :=
  if policy.requireTenantInstall then
    if hasTenantInstallContext then
      [⟨"PROVIDER_POLICY_TENANT_INSTALL_READY", .ready,
        "Tenant-scoped rollout context is available."⟩]
    else [⟨"PROVIDER_POLICY_TENANT_INSTALL_RECOMMENDED", .warn,
      "Provider policy expects tenant-installed runtime instead of global fallback."⟩]
  else []

def governanceCheck (policy : ProviderRuntimePolicy) (status : Option String) : List Check :=
  if policy.requireCurrentGovernance then
    if status = some "BLOCKED" then
      [⟨"PROVIDER_POLICY_GOVERNANCE_BLOCKED", .blocked,
        "Provider policy requires healthy runtime governance."⟩]
    else if status = some "WARN" ∨ status = some "UNKNOWN" ∨ status = none then
      [⟨"PROVIDER_POLICY_GOVERNANCE_WARN", .warn,
        "Provider policy recommends reviewing runtime governance before execution."⟩]
    else [⟨"PROVIDER_POLICY_GOVERNANCE_READY", .ready, "Runtime governance is healthy."⟩]
  else []

def driftCheck (policy : ProviderRuntimePolicy) (status : Option String) : List Check :=
  if policy.requireCurrentSourceDigest then
    if status = some "DRIFTED" then
      [⟨"PROVIDER_POLICY_DRIFT_BLOCKED", .blocked,
        "Provider policy does not allow source-drifted runtime installs."⟩]
    else if status = none ∨ status = some "UNKNOWN" then
      [⟨"PROVIDER_POLICY_DRIFT_WARN", .warn,
        "Provider policy recommends reconciling runtime source digest before execution."⟩]
    else [⟨"PROVIDER_POLICY_DRIFT_READY", .ready,
      "Runtime source digest matches current source artifact."⟩]
  else []

def installationChecks (policy : ProviderRuntimePolicy) (input : CompatibilityInput) : List Check :=
  if isGiven input.installationSource then
    governanceCheck policy (normalizedOrNull env input.installationGovernanceStatus) ++
      driftCheck policy (normalizedOrNull env input.installationDriftStatus)
  else if policy.allowGlobalFallback then []
  else [⟨"PROVIDER_POLICY_GLOBAL_FALLBACK_WARN", .warn,
    "Provider policy prefers tenant-installed runtime over direct global runtime reuse."⟩]

def policyChecks (policy : ProviderRuntimePolicy) (input : CompatibilityInput) : List Check :=
  let hasPublicationSnapshot :=
    isGiven input.publicationId || isGiven input.installationPublicationId
  [⟨"PROVIDER_POLICY_READY", .ready, "Provider policy '" ++ policy.key ++ "' is active."⟩] ++
    publicationCheck policy hasPublicationSnapshot ++
    visibilityCheck policy (normalizedOrNull env input.publicationVisibility) ++
    channelCheck policy ((trimmedOrNull input.publicationChannel).map env.lower) ++
    publicationStatusCheck hasPublicationSnapshot (normalizedOrNull env input.publicationStatus) ++
    signatureCheck policy (normalizedOrNull env input.publicationSignatureStatus) ++
    activationCheck policy input.allowApprovedActivation
      (normalizedOrNull env input.requestStatus) ++
    tenantInstallCheck policy (isGiven input.targetTenantId) ++ installationChecks env policy input

structure ProviderCompatibility where
  policy : Option ProviderRuntimePolicy
  checks : List Check

def ProviderCompatibility.blockingIssues (compatibility : ProviderCompatibility) : List String :=
  blockingIssuesOf compatibility.checks

def ProviderCompatibility.warnings (compatibility : ProviderCompatibility) : List String :=
  messagesOf .warn compatibility.checks

/-- The enforcement is strict: the callers in `enterprise.service` ask for no other. -/
def evaluateInventorySupplierProviderRuntimeCompatibility (input : CompatibilityInput) :
    ProviderCompatibility :=
  match resolveInventorySupplierProviderRuntimePolicyForRuntime env input.providerAdapterKey
      input.providerProfileKey with
  | some policy => ⟨some policy, policyChecks env policy input⟩
  | none =>
    { policy := none
      checks :=
        if isGiven input.providerAdapterKey || isGiven input.providerProfileKey then
          [⟨"PROVIDER_POLICY_UNMANAGED", .warn,
            "Provider runtime is not mapped to a managed rollout policy yet."⟩]
        else [] }

end Exetron.Enterprise
