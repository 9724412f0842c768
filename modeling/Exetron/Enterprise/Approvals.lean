import Exetron.Enterprise.Activations
import Exetron.Enterprise.Runs

/-!
# The normal path of an activation

A sound connector is approved and applied without force just when its runtime falls under no managed
policy: every managed policy wants the activation applied before it lets the request be approved.
-/

namespace Exetron.Enterprise

open Lib Option

variable {env : EnterpriseEnv} {db : ActivationDb} {request : IntegrationActivationRequest}
  {publication : IntegrationPublication} {entry : IntegrationRegistryEntry}

theorem EnterpriseEnv.normalized_normalized (env : EnterpriseEnv) (s : String) :
    env.normalized (env.normalized s) = env.normalized s := by
  simp only [EnterpriseEnv.normalized, EnterpriseEnv.upper]
  rw [Localization.CaseMapping.trim_apply_trim, Localization.CaseMapping.idempotent]

theorem EnterpriseEnv.normalized_of_capitals (env : EnterpriseEnv) {s : String}
    (trimmed : Text.trim s = s) (letters : ∀ c ∈ s.toList, 65 ≤ c.toNat ∧ c.toNat ≤ 90) :
    env.normalized s = s := by
  rw [EnterpriseEnv.normalized, trimmed]
  exact env.casing.capitals s letters

theorem normalizedOrNull_some {s : String} :
    normalizedOrNull env (some s) = orNull (env.normalized s) := by
  simp only [normalizedOrNull, trimmedOrNull, bind_some, EnterpriseEnv.normalized, orNull,
    EnterpriseEnv.upper, Localization.CaseMapping.apply_eq_empty_iff]
  split <;> rfl

theorem normalizedOrNull_of_normalized {s status : String} (reads : env.normalized s = status)
    (filled : status ≠ "") : normalizedOrNull env (some s) = some status := by
  rw [normalizedOrNull_some, reads, orNull, if_neg filled]

theorem normalizedOrNull_readStatus :
    normalizedOrNull env (some (request.readStatus env)) = orNull (request.readStatus env) := by
  rw [normalizedOrNull_some, IntegrationActivationRequest.readStatus,
    EnterpriseEnv.normalized_normalized]

def runtimePolicy (env : EnterpriseEnv) (entry : IntegrationRegistryEntry) :
    Option ProviderRuntimePolicy :=
  let runtime := summarizeConnectorRuntime env (asObject (some entry.manifest))
  resolveInventorySupplierProviderRuntimePolicyForRuntime env runtime.providerAdapterKey
    runtime.providerProfileKey

def AllowedBy (env : EnterpriseEnv) (publication : IntegrationPublication)
    (policy : ProviderRuntimePolicy) : Prop :=
  env.normalized publication.visibility ∈ policy.allowedVisibility ∧
    env.lower (Text.trim publication.channel) ∈ policy.allowedChannels

instance (policy : ProviderRuntimePolicy) : Decidable (AllowedBy env publication policy) :=
  inferInstanceAs (Decidable (_ ∧ _))

structure SoundRequest (env : EnterpriseEnv) (db : ActivationDb)
    (request : IntegrationActivationRequest) (publication : IntegrationPublication)
    (entry : IntegrationRegistryEntry) : Prop where
  stored : Rows.find IntegrationActivationRequest.id db.activations request.id = some request
  supplierConnector : env.normalized request.targetKind = "SUPPLIER_CONNECTOR"
  forTenant : (readActivationTargetTenantId request).isSome
  found : findActivationPublication db request = some publication
  identified : publication.id ≠ ""
  published : env.normalized publication.status = "PUBLISHED"
  unrevoked : publication.revokedAt = none
  signed : env.normalized publication.attestation.signatureStatus = "SIGNED"
  allowed : ∀ policy ∈ runtimePolicy env entry, AllowedBy env publication policy
  registered : findActivationEntry db request = some entry
  active : env.normalized entry.status = "ACTIVE"

theorem mem_of_policyOfProfile {key : String} {policy : ProviderRuntimePolicy}
    (h : policyOfProfile key = some policy) : policy ∈ providerRuntimePolicies :=
  List.mem_of_find?_eq_some h

theorem mem_of_policyOfAdapter {key : String} {policy : ProviderRuntimePolicy}
    (h : policyOfAdapter key = some policy) : policy ∈ providerRuntimePolicies :=
  List.mem_of_find?_eq_some h

theorem mem_of_runtimePolicy {policy : ProviderRuntimePolicy}
    (h : runtimePolicy env entry = some policy) : policy ∈ providerRuntimePolicies := by
  have byProfile {profileKey : Option String}
      (h : (do
        let key ← profileKey
        (policyOfProfile key).or
          ((resolveInventorySupplierProviderProfile env key).bind policyOfProfile)) = some policy) :
      policy ∈ providerRuntimePolicies := by
    obtain ⟨key, -, resolved⟩ := bind_eq_some_iff.mp h
    rcases or_eq_some_iff.mp resolved with own | ⟨-, registered⟩
    · exact mem_of_policyOfProfile own
    · obtain ⟨_, -, own⟩ := bind_eq_some_iff.mp registered
      exact mem_of_policyOfProfile own
  unfold runtimePolicy resolveInventorySupplierProviderRuntimePolicyForRuntime at h
  dsimp only at h
  split at h
  · exact byProfile h
  · split at h
    · rename_i own
      exact some.inj h ▸ mem_of_policyOfAdapter own
    · split at h
      · exact mem_of_policyOfProfile h
      · exact byProfile h

/-- What every managed policy asks of an installation. -/
structure Strict (policy : ProviderRuntimePolicy) : Prop where
  applied : policy.requireAppliedActivation = true
  tenant : policy.requireTenantInstall = true
  snapshot : policy.requirePublicationSnapshot = true
  noFallback : policy.allowGlobalFallback = false
  visibilities : "" ∉ policy.allowedVisibility
  channels : "" ∉ policy.allowedChannels

theorem strict_of_mem {policy : ProviderRuntimePolicy} (h : policy ∈ providerRuntimePolicies) :
    Strict policy := by
  simp only [providerRuntimePolicies, List.mem_cons, List.not_mem_nil, or_false] at h
  rcases h with rfl | rfl | rfl <;> exact ⟨rfl, rfl, rfl, rfl, by decide, by decide⟩

def activationBlocked : String :=
  "Provider policy requires applied activation before runtime execution."

/-- The policy keeps back a request that is not applied yet. -/
def HeldBack (env : EnterpriseEnv) (request : IntegrationActivationRequest)
    (entry : IntegrationRegistryEntry) : Prop :=
  (runtimePolicy env entry).isSome ∧ request.readStatus env ≠ "" ∧
    request.readStatus env ≠ "APPLIED"

instance : Decidable (HeldBack env request entry) := inferInstanceAs (Decidable (_ ∧ _))

section

variable {policy : ProviderRuntimePolicy}

theorem blockingIssuesOf_visibilityCheck {visibility : String}
    (clear : "" ∉ policy.allowedVisibility)
    (allowed : env.normalized visibility ∈ policy.allowedVisibility) :
    blockingIssuesOf (visibilityCheck policy (normalizedOrNull env (some visibility))) = [] := by
  rw [normalizedOrNull_of_normalized rfl (ne_of_mem_of_not_mem allowed clear), visibilityCheck,
    if_pos allowed]
  rfl

theorem blockingIssuesOf_channelCheck {channel : String} (clear : "" ∉ policy.allowedChannels)
    (allowed : env.lower (Text.trim channel) ∈ policy.allowedChannels) :
    blockingIssuesOf (channelCheck policy ((trimmedOrNull (some channel)).map env.lower)) = [] := by
  have filled : Text.trim channel ≠ "" := by
    intro none
    rw [none, EnterpriseEnv.lower,
      (Localization.CaseMapping.apply_eq_empty_iff env.casing.toLowerCase).mpr rfl] at allowed
    exact clear allowed
  rw [trimmedOrNull, bind_some, orNull, if_neg filled, map_some, channelCheck,
    if_pos allowed]
  rfl

theorem blockingIssuesOf_activationCheck (strict : Strict policy) {status : String} :
    blockingIssuesOf (activationCheck policy false (orNull status)) =
      if status = "" ∨ status = "APPLIED" then [] else [activationBlocked] := by
  unfold activationCheck
  rw [if_pos strict.applied]
  by_cases none : status = ""
  · simp [none, orNull, blockingIssuesOf, messagesOf]
  · by_cases applied : status = "APPLIED"
    · simp [applied, orNull, blockingIssuesOf, messagesOf]
    · simp [none, applied, orNull, blockingIssuesOf, messagesOf, activationBlocked]

theorem blockingIssuesOf_tenantInstallCheck {hasContext : Bool} :
    blockingIssuesOf (tenantInstallCheck policy hasContext) = [] := by
  unfold tenantInstallCheck
  split
  · split <;> rfl
  · rfl

theorem blockingIssuesOf_policyChecks (sound : SoundRequest env db request publication entry)
    (managed : runtimePolicy env entry = some policy) :
    blockingIssuesOf (policyChecks env policy (compatibilityInput env
        (asObject (some entry.manifest)) (readActivationTargetTenantId request) (some publication)
        (request.readStatus env))) =
      if request.readStatus env = "" ∨ request.readStatus env = "APPLIED" then []
      else [activationBlocked] := by
  have strict := strict_of_mem (mem_of_runtimePolicy managed)
  obtain ⟨visible, onChannel⟩ := sound.allowed policy managed
  have given : isGiven (some publication.id) = true := by simp [isGiven, sound.identified]
  simp only [policyChecks, compatibilityInput, map_some, given, Bool.true_or,
    blockingIssuesOf_append, blockingIssuesOf_visibilityCheck strict.visibilities visible,
    blockingIssuesOf_channelCheck strict.channels onChannel, normalizedOrNull_readStatus,
    blockingIssuesOf_activationCheck strict, blockingIssuesOf_tenantInstallCheck,
    normalizedOrNull_of_normalized sound.published (by decide),
    normalizedOrNull_of_normalized sound.signed (by decide)]
  simp [publicationCheck, publicationStatusCheck, signatureCheck, installationChecks, isGiven,
    strict.snapshot, strict.noFallback, blockingIssuesOf, messagesOf]

end

theorem blockingIssuesOf_notReady (checks : List Check) :
    blockingIssuesOf (checks.filter fun check => check.status ≠ .ready) =
      blockingIssuesOf checks := by
  simp only [blockingIssuesOf, messagesOf, List.filter_filter]
  congr 1
  exact List.filter_congr fun check _ => by cases check.status <;> rfl

theorem blockingIssues_eq (sound : SoundRequest env db request publication entry) :
    (activationReadiness env db request).blockingIssues =
      (activationReadiness env db request).providerCompatibility.blockingIssues := by
  have publicationReady : blockingIssuesOf
      [activationPublicationCheck env request (some publication)] = [] := by
    simp [activationPublicationCheck, sound.published, sound.unrevoked, blockingIssuesOf,
      messagesOf]
  have entryReady : blockingIssuesOf [activationEntryCheck env (some entry)] = [] := by
    simp [activationEntryCheck, sound.active, blockingIssuesOf, messagesOf]
  have kindReady : blockingIssuesOf [targetKindCheck (env.normalized request.targetKind)] = [] := by
    simp [targetKindCheck, sound.supplierConnector, blockingIssuesOf, messagesOf]
  have appliedReady : blockingIssuesOf (if request.readStatus env = "APPLIED" then
      [⟨"ACTIVATION_ALREADY_APPLIED", .ready, "Activation has already been applied."⟩] else []) =
        [] := by
    split <;> rfl
  rw [activationReadiness, sound.found, sound.registered]
  unfold ActivationReadiness.blockingIssues getActivationRequestReadinessSnapshot
  dsimp only
  rw [blockingIssuesOf_append, blockingIssuesOf_append, blockingIssuesOf_notReady, appliedReady,
    ← List.singleton_append, blockingIssuesOf_append, publicationReady, ← List.singleton_append,
    blockingIssuesOf_append, entryReady, kindReady]
  rfl

theorem blockingIssues_unmanaged {input : CompatibilityInput}
    (unmanaged : resolveInventorySupplierProviderRuntimePolicyForRuntime env
      input.providerAdapterKey input.providerProfileKey = none) :
    (evaluateInventorySupplierProviderRuntimeCompatibility env input).blockingIssues = [] := by
  unfold ProviderCompatibility.blockingIssues evaluateInventorySupplierProviderRuntimeCompatibility
  rw [unmanaged]
  dsimp only
  split <;> rfl

theorem blockingIssues_managed {input : CompatibilityInput} {policy : ProviderRuntimePolicy}
    (managed : resolveInventorySupplierProviderRuntimePolicyForRuntime env input.providerAdapterKey
      input.providerProfileKey = some policy) :
    (evaluateInventorySupplierProviderRuntimeCompatibility env input).blockingIssues =
      blockingIssuesOf (policyChecks env policy input) := by
  unfold ProviderCompatibility.blockingIssues evaluateInventorySupplierProviderRuntimeCompatibility
  rw [managed]

theorem blockingIssues_of_sound (sound : SoundRequest env db request publication entry) :
    (activationReadiness env db request).blockingIssues =
      if HeldBack env request entry then [activationBlocked] else [] := by
  rw [blockingIssues_eq sound, activationReadiness, sound.found, sound.registered]
  cases managed : runtimePolicy env entry with
  | none =>
    have unmanaged : ¬HeldBack env request entry := by simp [HeldBack, managed]
    rw [if_neg unmanaged]
    exact blockingIssues_unmanaged managed
  | some policy =>
    have heldBack : HeldBack env request entry ↔
        ¬(request.readStatus env = "" ∨ request.readStatus env = "APPLIED") := by
      simp [HeldBack, managed]
    simp only [heldBack, ite_not]
    refine Eq.trans (blockingIssues_managed ?_) (blockingIssuesOf_policyChecks sound managed)
    exact managed

theorem ready_iff (sound : SoundRequest env db request publication entry) :
    (activationReadiness env db request).ready = true ↔ ¬HeldBack env request entry := by
  rw [ActivationReadiness.ready, blockingIssues_of_sound sound, decide_eq_true_eq]
  split <;> simp_all

theorem applies_of_canApply (sound : SoundRequest env db request publication entry)
    (canApply : (activationReadiness env db request).canApply = true) (now : Moment)
    (input : Json) :
    ∃ applied, applyIntegrationActivationRequest env now db request.id input = .ok applied := by
  obtain ⟨id, named, stored⟩ := bind_eq_some_iff.mp sound.found
  have available : requirePublication db request = .ok (some publication) := by
    simp [requirePublication, named, getIntegrationPublication, stored, required, Functor.map,
      Except.map]
  have made : ∃ row, activationApplied env now db input request = .ok row := by
    simp only [activationApplied, except_bind_ok_iff, rejectIf_ok_iff, required_ok_iff,
      except_pure_ok_iff]
    exact ⟨_, (), by simp [canApply], some publication, available, entry, sound.registered, rfl⟩
  obtain ⟨row, made⟩ := made
  exact ⟨_, updateOne_ok_iff.mpr ⟨request, sound.stored, made, rfl⟩⟩

theorem activates_normally_iff (sound : SoundRequest env db request publication entry) :
    ((request.readStatus env = "PENDING" → (activationReadiness env db request).canApprove = true) ∧
      (request.readStatus env = "APPROVED" → (activationReadiness env db request).canApply = true ∧
        ∀ now input, isTrue (input.get? "force") = false → ∃ applied,
          applyIntegrationActivationRequest env now db request.id input = .ok applied)) ↔
      (request.readStatus env = "PENDING" ∨ request.readStatus env = "APPROVED" →
        runtimePolicy env entry = none) := by
  have status : (activationReadiness env db request).requestStatus = request.readStatus env := rfl
  have ready := ready_iff sound
  constructor
  · rintro ⟨approvable, applicable⟩ early
    by_contra managed
    have heldBack : HeldBack env request entry := by
      refine ⟨Option.isSome_iff_ne_none.mpr managed, ?_⟩
      rcases early with pending | approved
      · simp [pending]
      · simp [approved]
    refine ready.mp ?_ heldBack
    rcases early with pending | approved
    · have canApprove := approvable pending
      simp only [ActivationReadiness.canApprove, Bool.decide_and, Bool.and_eq_true,
        decide_eq_true_eq] at canApprove
      exact canApprove.1
    · have canApply := (applicable approved).1
      simp only [ActivationReadiness.canApply, Bool.decide_and, Bool.and_eq_true,
        decide_eq_true_eq] at canApply
      exact canApply.1
  · intro unmanaged
    have readyWhen
        (early : request.readStatus env = "PENDING" ∨ request.readStatus env = "APPROVED") :
        (activationReadiness env db request).ready = true :=
      ready.mpr fun heldBack => by simpa [unmanaged early] using heldBack.1
    refine ⟨fun pending => ?_, fun approved => ?_⟩
    · simp [ActivationReadiness.canApprove, readyWhen (.inl pending), status, pending]
    · have canApply : (activationReadiness env db request).canApply = true := by
        simp [ActivationReadiness.canApply, readyWhen (.inr approved), status, approved]
      exact ⟨canApply, fun now input _ => applies_of_canApply sound canApply now input⟩

def connectorEntry (manifest : Json) : IntegrationRegistryEntry :=
  ⟨"entry", none, none, "freshlane", "1", "ACTIVE", manifest, 0, 0⟩

def connectorPublication (manifest : Json) : IntegrationPublication :=
  let pack := developerPackage counterEnv (oneConnector manifest) (connectorEntry manifest)
  { id := "publication"
    registryEntryId := "entry"
    tenantId := none
    organizationId := none
    connectorKey := "freshlane"
    version := "1"
    visibility := "PARTNER"
    channel := "general"
    status := "PUBLISHED"
    packageFileName := pack.packageFileName
    docsFileName := "freshlane-1-developer-docs.md"
    artifact := ⟨pack, developerDocs pack⟩
    attestation := buildPublicationAttestation counterEnv
      { registryEntryId := "entry"
        connectorKey := "freshlane"
        version := "1"
        visibility := "PARTNER"
        channel := "general"
        packageContent := pack.content
        docsContent := (developerDocs pack).markdown
        signingSecret := some ⟨"secret", "integration.release.signing-key", "value"⟩
        publishedAt := 0
        attestedAt := 0 }
    publishedAt := 0
    revokedAt := none }

def connectorRequest (status : String) : IntegrationActivationRequest :=
  { newActivationRequest "request" "freshlane" "1" status with
    publicationId := some "publication"
    registryEntryId := some "entry"
    tenantId := some "tenant" }

def connectorDb (manifest : Json) (status : String) : ActivationDb where
  registry := oneConnector manifest
  publications := [connectorPublication manifest]
  activations := [connectorRequest status]
  nextUuid := 0

theorem connector_sound (manifest : Json) (status : String)
    (allowed : ∀ policy ∈ runtimePolicy counterEnv (connectorEntry manifest),
      AllowedBy counterEnv (connectorPublication manifest) policy) :
    SoundRequest counterEnv (connectorDb manifest status) (connectorRequest status)
      (connectorPublication manifest) (connectorEntry manifest) where
  stored := rfl
  supplierConnector := by
    show counterEnv.normalized "SUPPLIER_CONNECTOR" = "SUPPLIER_CONNECTOR"
    decide +kernel
  forTenant := by
    show (trimmedOrNull (some "tenant")).isSome = true
    decide +kernel
  found := rfl
  identified := by
    show "publication" ≠ ""
    decide
  published := by
    show counterEnv.normalized "PUBLISHED" = "PUBLISHED"
    decide +kernel
  unrevoked := rfl
  signed := by
    show counterEnv.normalized "SIGNED" = "SIGNED"
    decide +kernel
  allowed := allowed
  registered := rfl
  active := by
    show counterEnv.normalized "ACTIVE" = "ACTIVE"
    decide +kernel

def freshlaneManifest : Json := .obj [("provider", .obj [("adapter", .str "FRESHLANE_HTTP_V1")])]

theorem freshlane_allowed : ∀ policy ∈ runtimePolicy counterEnv (connectorEntry freshlaneManifest),
    AllowedBy counterEnv (connectorPublication freshlaneManifest) policy := by
  intro policy managed
  have member := mem_of_runtimePolicy (mem_def.mp managed)
  simp only [providerRuntimePolicies, List.mem_cons, List.not_mem_nil, or_false] at member
  have visibility : counterEnv.normalized "PARTNER" = "PARTNER" := by decide +kernel
  have channel : counterEnv.lower (Text.trim "general") = "general" := by decide +kernel
  unfold AllowedBy
  rw [show (connectorPublication freshlaneManifest).visibility = "PARTNER" from rfl, visibility,
    show (connectorPublication freshlaneManifest).channel = "general" from rfl, channel]
  rcases member with rfl | rfl | rfl <;> decide

/-- Without a provider the connector is approved while it is pending. -/
theorem unmanaged_activates_normally :
    (activationReadiness counterEnv (connectorDb (.obj []) "PENDING")
      (connectorRequest "PENDING")).canApprove = true := by
  have sound := connector_sound (.obj []) "PENDING" fun policy managed => by
    have unmanaged : (runtimePolicy counterEnv (connectorEntry (.obj []))).isSome = false := by
      decide +kernel
    rw [Option.mem_def.mp managed] at unmanaged
    cases unmanaged
  have unmanaged : runtimePolicy counterEnv (connectorEntry (.obj [])) = none := by
    rw [← Option.not_isSome_iff_eq_none]
    decide +kernel
  refine ((activates_normally_iff sound).mpr fun _ => unmanaged).1 ?_
  show counterEnv.normalized "PENDING" = "PENDING"
  decide +kernel

/-- A connector of a managed provider is not: its policy waits for the application. -/
theorem managed_never_approved : ¬∀ (db : ActivationDb) (request : IntegrationActivationRequest)
    (publication : IntegrationPublication) (entry : IntegrationRegistryEntry),
    SoundRequest counterEnv db request publication entry →
    (request.readStatus counterEnv = "PENDING" →
      (activationReadiness counterEnv db request).canApprove = true) ∧
    (request.readStatus counterEnv = "APPROVED" →
      (activationReadiness counterEnv db request).canApply = true ∧
      ∀ now input, isTrue (input.get? "force") = false → ∃ applied,
        applyIntegrationActivationRequest counterEnv now db request.id input = .ok applied) := by
  intro claim
  have approvable := (claim (connectorDb freshlaneManifest "PENDING") (connectorRequest "PENDING")
    (connectorPublication freshlaneManifest) (connectorEntry freshlaneManifest)
    (connector_sound freshlaneManifest "PENDING" freshlane_allowed)).1 (by decide +kernel)
  have refused : (activationReadiness counterEnv (connectorDb freshlaneManifest "PENDING")
    (connectorRequest "PENDING")).canApprove = false := by decide +kernel
  rw [refused] at approvable
  cases approvable

end Exetron.Enterprise
