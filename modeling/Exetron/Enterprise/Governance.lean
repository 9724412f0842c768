import Exetron.Enterprise.Runtimes

/-!
# Governance of a rollout

A verdict on a rollout is written into the manifest of its runtime, where the next one reads it. How
much the stored record adds to the present facts of the rollout.
-/

namespace Exetron.Enterprise

open Lib
open Customization (Fields deepMergeRecord)

def CheckStatus.text : CheckStatus → String
  | .ready => "READY"
  | .blocked => "BLOCKED"
  | .warn => "WARN"

def CheckStatus.worst : CheckStatus → CheckStatus → CheckStatus
  | .blocked, _ => .blocked
  | .warn, .blocked => .blocked
  | .warn, _ => .warn
  | .ready, status => status

def statusOf (checks : List Check) : CheckStatus :=
  if checks.any fun check => check.status = .blocked then .blocked
  else if checks.any fun check => check.status = .warn then .warn
  else .ready

theorem statusOf_append (checks more : List Check) :
    statusOf (checks ++ more) = (statusOf checks).worst (statusOf more) := by
  simp only [statusOf, List.any_append]
  generalize (checks.any fun check => check.status = .blocked) = blocked
  generalize (checks.any fun check => check.status = .warn) = warns
  generalize (more.any fun check => check.status = .blocked) = blocked'
  generalize (more.any fun check => check.status = .warn) = warns'
  cases blocked <;> cases warns <;> cases blocked' <;> cases warns' <;> rfl

theorem statusOf_filter (checks : List Check) :
    statusOf (checks.filter fun check => check.status ≠ .ready) = statusOf checks := by
  have same (status : CheckStatus) (issue : status ≠ .ready) :
      ((checks.filter fun check => check.status ≠ .ready).any fun check => check.status = status) =
        checks.any fun check => check.status = status := by
    rw [List.any_filter]
    congr 1
    funext check
    cases found : decide (check.status = status)
    · rw [Bool.and_false]
    · rw [Bool.and_true, of_decide_eq_true found, decide_eq_true issue]
  unfold statusOf
  rw [same .blocked (by decide), same .warn (by decide)]

namespace CheckStatus

theorem worst_assoc (a b c : CheckStatus) : (a.worst b).worst c = a.worst (b.worst c) := by
  cases a <;> cases b <;> cases c <;> rfl

theorem worst_comm (a b : CheckStatus) : a.worst b = b.worst a := by
  cases a <;> cases b <;> rfl

instance : Std.Associative worst := ⟨worst_assoc⟩

instance : Std.Commutative worst := ⟨worst_comm⟩

theorem worst_eq_blocked_iff {a b : CheckStatus} :
    a.worst b = .blocked ↔ a = .blocked ∨ b = .blocked := by
  cases a <;> cases b <;> decide

end CheckStatus

def WeighAlike (facts weight weight' : CheckStatus) : Prop :=
  weight = weight' ∨ facts.worst weight = facts ∧ facts.worst weight' = facts

theorem weighAlike_iff {facts weight weight' : CheckStatus} :
    facts.worst weight = facts.worst weight' ↔ WeighAlike facts weight weight' := by
  unfold WeighAlike
  cases facts <;> cases weight <;> cases weight' <;> decide

structure GovernanceVerdict where
  governanceStatus : CheckStatus
  governanceReason : String
  driftStatus : DriftStatus
  sourceDigestCurrent : String
  sourceDigestInstalled : Option String

def RuntimeRolloutReadiness.verdict (readiness : RuntimeRolloutReadiness) : GovernanceVerdict where
  governanceStatus := statusOf readiness.checks
  governanceReason := (readiness.blockingIssues.head?.or readiness.warnings.head?).getD
    "Runtime rollout is healthy."
  driftStatus := readiness.driftStatus
  sourceDigestCurrent := readiness.sourceDigestCurrent
  sourceDigestInstalled := readiness.sourceDigestInstalled

def GovernanceVerdict.record (verdict : GovernanceVerdict) (evaluatedAt : String) : Json :=
  .obj [("status", .str verdict.governanceStatus.text), ("reason", .str verdict.governanceReason),
    ("lastEvaluatedAt", .str evaluatedAt), ("driftStatus", .str verdict.driftStatus.text),
    ("sourceDigestCurrent", .str verdict.sourceDigestCurrent),
    ("sourceDigestInstalled", jsonText verdict.sourceDigestInstalled)]

def recordRollout (manifest : Fields) (key : String) (record : Json) : Fields :=
  deepMergeRecord manifest [("enterpriseRollout",
    .obj (Record.spread (asObject (Record.get manifest "enterpriseRollout")) [(key, record)]))]

/-- What is recorded of the runtime, merged into the artifact of the request. -/
def IntegrationActivationRequest.recordRuntime (request : IntegrationActivationRequest)
    (key : String) (record : Json) (runtimeStatus : String) : IntegrationActivationRequest :=
  let artifact := asObject request.activationArtifact
  let runtimeInstall := asObject (Record.get artifact "runtimeInstall")
  { request with
    activationArtifact := some (.obj (deepMergeRecord artifact [("runtimeInstall",
      .obj (Record.spread runtimeInstall
        [(key, record), ("runtimeStatus", .str runtimeStatus)]))])) }

variable (env : EnterpriseEnv)

def runtimeNotInstalled : ApiException :=
  .notFound "Runtime connector is not installed for this activation request."

def nextRuntimeStatus (input : Json) (verdict : GovernanceVerdict) (status : String) : String :=
  if isTrue (input.get? "deactivateRuntime") = true ∧ verdict.governanceStatus = .blocked then
    env.normalized (textOr (input.get? "deactivatedStatus") "ARCHIVED")
  else status

/-- The runtime and the request after a record was made of the rollout. -/
def ActivationDb.recorded (db : ActivationDb) (now : Moment) (id : Uuid)
    (installed : IntegrationRegistryEntry) (key : String) (record : Json)
    (runtimeStatus : String) : ActivationDb :=
  { db with
    registry.entries := Rows.modify IntegrationRegistryEntry.id installed.id (fun _ =>
      { installed with
        status := runtimeStatus
        manifest := .obj (recordRollout (asObject (some installed.manifest)) key record)
        updatedAt := now }) db.registry.entries
    activations := Rows.modify IntegrationActivationRequest.id id
      (fun request => request.recordRuntime key record runtimeStatus) db.activations }

def applyIntegrationRuntimeRolloutGovernance (now : Moment) (db : ActivationDb) (id : Uuid)
    (input : Json) : Except ApiException (GovernanceVerdict × ActivationDb) := do
  let context ← resolveActivationRuntimeRolloutContext db id
  let readiness ← getActivationRuntimeRolloutReadinessSnapshot env now context
  let installed ← required context.installedRuntimeEntry runtimeNotInstalled
  let verdict := readiness.verdict
  pure (verdict, db.recorded now id installed "governance" (verdict.record (env.toISOString now))
    (nextRuntimeStatus env input verdict installed.status))

namespace RolloutContext

variable (context : RolloutContext)

def governanceStatus : String :=
  ((fieldText context.governance "status").map env.normalized).getD "UNKNOWN"

/-- The policy that the provider of the source falls under. -/
def providerPolicy : Option ProviderRuntimePolicy :=
  let runtime := summarizeConnectorRuntime env context.sourceManifest
  resolveInventorySupplierProviderRuntimePolicyForRuntime env runtime.providerAdapterKey
    runtime.providerProfileKey

def policyReadsRecord : Bool :=
  isGiven (fieldText context.enterpriseRollout "source") &&
    (context.providerPolicy env).any fun policy => policy.requireCurrentGovernance

end RolloutContext

def snapshotWeight (governanceStatus : String) : CheckStatus :=
  if governanceStatus = "BLOCKED" then .blocked
  else if governanceStatus = "WARN" then .warn
  else .ready

def policyWeight (status : Option String) : CheckStatus :=
  if status = some "BLOCKED" then .blocked
  else if status = some "WARN" ∨ status = some "UNKNOWN" ∨ status = none then .warn
  else .ready

def RolloutContext.recordWeight (context : RolloutContext) : CheckStatus :=
  (snapshotWeight (context.governanceStatus env)).worst
    (if context.policyReadsRecord env then
      policyWeight (normalizedOrNull env (some (context.governanceStatus env)))
    else .ready)

/-- The checks of the present facts: all but those of the stored record. -/
def presentChecks (context : RolloutContext) (publicationChecks : List Check) : List Check :=
  let requestStatus := context.request.readStatus env
  [rolloutInstalledCheck context.installedRuntimeEntry, rolloutStatusCheck requestStatus] ++
    publicationChecks ++
    [rolloutSourceCheck context.registryEntry, rolloutDriftCheck (context.driftStatus env)] ++
    rolloutRuntimeChecks
      (context.installedRuntimeEntry.map fun entry => env.normalized entry.status) ++
    (rolloutCompatibility env context requestStatus "READY").checks

def presentStatus (now : Moment) (context : RolloutContext) : Except ApiException CheckStatus :=
  (fun publication => statusOf (presentChecks env context publication.1)) <$>
    rolloutPublication env now context.publication

variable {env}

theorem statusOf_governanceChecks (governance : Fields) (governanceStatus : String) :
    statusOf (rolloutGovernanceChecks governance governanceStatus) =
      snapshotWeight governanceStatus := by
  unfold rolloutGovernanceChecks snapshotWeight
  split_ifs <;> rfl

theorem statusOf_governanceCheck {policy : ProviderRuntimePolicy} {status : Option String}
    (reads : policy.requireCurrentGovernance = true) :
    statusOf (governanceCheck policy status) = policyWeight status := by
  unfold governanceCheck policyWeight
  rw [if_pos reads]
  split_ifs <;> rfl

theorem normalizedOrNull_ready : normalizedOrNull env (some "READY") = some "READY" := by
  have filled : trimmedOrNull (some "READY") = some "READY" := by decide +kernel
  rw [normalizedOrNull, filled]
  exact congrArg some (env.casing.capitals "READY" (by simp))

theorem policyWeight_ready : policyWeight (normalizedOrNull env (some "READY")) = .ready := by
  rw [normalizedOrNull_ready]
  rfl

theorem statusOf_installationChecks (policy : ProviderRuntimePolicy) (input : CompatibilityInput)
    (governanceStatus : String) : statusOf (installationChecks env policy
        { input with installationGovernanceStatus := some governanceStatus }) =
      (statusOf (installationChecks env policy
        { input with installationGovernanceStatus := some "READY" })).worst
      (if isGiven input.installationSource && policy.requireCurrentGovernance then
        policyWeight (normalizedOrNull env (some governanceStatus))
      else .ready) := by
  unfold installationChecks
  by_cases given : isGiven input.installationSource = true
  · simp only [given, if_true, Bool.true_and, statusOf_append]
    by_cases reads : policy.requireCurrentGovernance = true
    · simp only [reads, if_true, statusOf_governanceCheck, policyWeight_ready]
      exact CheckStatus.worst_comm _ _
    · have unread (status : Option String) : governanceCheck policy status = [] := if_neg reads
      rw [unread, unread, if_neg reads, CheckStatus.worst_comm _ .ready]
      rfl
  · rw [Bool.not_eq_true] at given
    simp only [given, Bool.false_and, Bool.false_eq_true, if_false]
    exact (CheckStatus.worst_comm _ .ready).symm

theorem statusOf_evaluated (input : CompatibilityInput) (governanceStatus : String) :
    statusOf (evaluateInventorySupplierProviderRuntimeCompatibility env
        { input with installationGovernanceStatus := some governanceStatus }).checks =
      (statusOf (evaluateInventorySupplierProviderRuntimeCompatibility env
        { input with installationGovernanceStatus := some "READY" }).checks).worst
      (if isGiven input.installationSource &&
          (resolveInventorySupplierProviderRuntimePolicyForRuntime env input.providerAdapterKey
            input.providerProfileKey).any fun policy => policy.requireCurrentGovernance then
        policyWeight (normalizedOrNull env (some governanceStatus))
      else .ready) := by
  unfold evaluateInventorySupplierProviderRuntimeCompatibility
  dsimp only
  cases resolveInventorySupplierProviderRuntimePolicyForRuntime env input.providerAdapterKey
      input.providerProfileKey with
  | none =>
    rw [Option.any_none, Bool.and_false]
    exact (CheckStatus.worst_comm _ .ready).symm
  | some policy =>
    simp only [policyChecks, statusOf_append, Option.any_some]
    rw [statusOf_installationChecks]
    exact (CheckStatus.worst_assoc _ _ _).symm

theorem statusOf_compatibility (context : RolloutContext)
    (requestStatus governanceStatus : String) :
    statusOf (rolloutCompatibility env context requestStatus governanceStatus).checks =
      (statusOf (rolloutCompatibility env context requestStatus "READY").checks).worst
      (if context.policyReadsRecord env then
        policyWeight (normalizedOrNull env (some governanceStatus))
      else .ready) :=
  statusOf_evaluated
    { compatibilityInput env context.sourceManifest context.targetTenantId context.publication
        requestStatus with
      installationSource := fieldText context.enterpriseRollout "source"
      installationPublicationId := fieldText context.enterpriseRollout "publicationId"
      installationDriftStatus := some (context.driftStatus env).text } governanceStatus

variable {now : Moment} {context : RolloutContext}

theorem snapshot_ok {readiness : RuntimeRolloutReadiness}
    (h : getActivationRuntimeRolloutReadinessSnapshot env now context = .ok readiness) :
    ∃ facts, presentStatus env now context = .ok facts ∧
      statusOf readiness.checks = facts.worst (context.recordWeight env) := by
  unfold getActivationRuntimeRolloutReadinessSnapshot at h
  obtain ⟨publication, found, h⟩ := except_bind_ok_iff.mp h
  obtain rfl := Except.ok.inj h
  refine ⟨_, map_ok_iff.mpr ⟨publication, found, rfl⟩, ?_⟩
  have stored : ((fieldText context.governance "status").map env.normalized).getD "UNKNOWN" =
    context.governanceStatus env := rfl
  simp only [presentChecks, statusOf_append, statusOf_filter, RolloutContext.recordWeight]
  rw [stored, statusOf_governanceChecks, statusOf_compatibility]
  ac_rfl

theorem snapshot_of_present {facts : CheckStatus}
    (judged : presentStatus env now context = .ok facts) :
    ∃ readiness, getActivationRuntimeRolloutReadinessSnapshot env now context = .ok readiness := by
  obtain ⟨publication, found, -⟩ := map_ok_iff.mp judged
  exact ⟨_, except_bind_ok_iff.mpr ⟨publication, found, rfl⟩⟩

/-- A governance call that succeeds: what it finds, and what it writes. -/
structure Governs (env : EnterpriseEnv) (now : Moment) (db : ActivationDb) (id : Uuid)
    (input : Json) (current : IntegrationActivationRequest) (installed : IntegrationRegistryEntry)
    (facts : CheckStatus) (verdict : GovernanceVerdict) (db' : ActivationDb) : Prop where
  found : Rows.find IntegrationActivationRequest.id db.activations id = some current
  installed_eq : (rolloutContext db current).installedRuntimeEntry = some installed
  judged : presentStatus env now (rolloutContext db current) = .ok facts
  status : verdict.governanceStatus = facts.worst ((rolloutContext db current).recordWeight env)
  db_eq : db' = db.recorded now id installed "governance" (verdict.record (env.toISOString now))
    (nextRuntimeStatus env input verdict installed.status)

variable {db db' : ActivationDb} {id : Uuid} {input : Json} {verdict : GovernanceVerdict}

theorem governance_ok
    (h : applyIntegrationRuntimeRolloutGovernance env now db id input = .ok (verdict, db')) :
    ∃ current installed facts, Governs env now db id input current installed facts verdict db' := by
  simp only [applyIntegrationRuntimeRolloutGovernance, except_bind_ok_iff, required_ok_iff,
    except_pure_ok_iff, Prod.mk.injEq] at h
  obtain ⟨context, resolved, readiness, read, installed, here, rfl, rfl⟩ := h
  obtain ⟨current, found, rfl⟩ := resolveContext_ok resolved
  obtain ⟨facts, judged, status⟩ := snapshot_ok read
  exact ⟨current, installed, facts, found, here, judged, status, rfl⟩

theorem governance_answers {current : IntegrationActivationRequest}
    {installed : IntegrationRegistryEntry} {facts : CheckStatus}
    (found : Rows.find IntegrationActivationRequest.id db.activations id = some current)
    (here : (rolloutContext db current).installedRuntimeEntry = some installed)
    (judged : presentStatus env now (rolloutContext db current) = .ok facts) (input : Json) :
    ∃ verdict db', applyIntegrationRuntimeRolloutGovernance env now db id input =
      .ok (verdict, db') := by
  obtain ⟨readiness, read⟩ := snapshot_of_present judged
  have resolved : resolveActivationRuntimeRolloutContext db id = .ok (rolloutContext db current) :=
    map_ok_iff.mpr ⟨current, required_ok_iff.mpr found, rfl⟩
  refine ⟨readiness.verdict, db.recorded now id installed "governance"
    (readiness.verdict.record (env.toISOString now))
    (nextRuntimeStatus env input readiness.verdict installed.status), ?_⟩
  simp only [applyIntegrationRuntimeRolloutGovernance, except_bind_ok_iff, required_ok_iff,
    except_pure_ok_iff]
  exact ⟨_, resolved, _, read, _, here, rfl⟩

end Exetron.Enterprise
