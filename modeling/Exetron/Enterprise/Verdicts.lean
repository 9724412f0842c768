import Exetron.Enterprise.RuntimeRuns
import Exetron.JsonText

/-!
# Verdicts and their past

Whether governance judges a rollout by its present facts: two histories that end with the same facts
are judged alike just when the records that they leave behind tell the same beside the facts.
-/

namespace Exetron.Enterprise

open Lib
open Customization (Fields)

/-- Two rollouts that differ in the stored record of the last verdict at most. -/
structure SameFacts (context context' : RolloutContext) : Prop where
  requestStatus : context.request.status = context'.request.status
  publication : context.publication = context'.publication
  registryEntry : context.registryEntry = context'.registryEntry
  connectorTemplate : context.connectorTemplate = context'.connectorTemplate
  manifest : ∀ key, key ≠ "enterpriseRollout" →
    Record.get context.installedManifest key = Record.get context'.installedManifest key
  rollout : ∀ key, key ≠ "governance" →
    Record.get context.enterpriseRollout key = Record.get context'.enterpriseRollout key
  runtimeStatus : context.installedRuntimeEntry.map (·.status) =
    context'.installedRuntimeEntry.map (·.status)

variable {env : EnterpriseEnv} {now : Moment} {context context' : RolloutContext}

theorem fieldText_congr {record record' : Fields} {key : String}
    (same : Record.get record key = Record.get record' key) :
    fieldText record key = fieldText record' key := by
  rw [fieldText, fieldText, same]

theorem evaluated_target (input : CompatibilityInput) {target target' : Option Uuid}
    (given : isGiven target = isGiven target') :
    (evaluateInventorySupplierProviderRuntimeCompatibility env
        { input with targetTenantId := target }).checks =
      (evaluateInventorySupplierProviderRuntimeCompatibility env
        { input with targetTenantId := target' }).checks := by
  unfold evaluateInventorySupplierProviderRuntimeCompatibility
  dsimp only
  cases resolveInventorySupplierProviderRuntimePolicyForRuntime env input.providerAdapterKey
      input.providerProfileKey with
  | none => rfl
  | some policy =>
    simp only [policyChecks]
    rw [given]
    rfl

theorem installed_target {s : ActivationDb} {current : IntegrationActivationRequest}
    {installed : IntegrationRegistryEntry}
    (here : (rolloutContext s current).installedRuntimeEntry = some installed) :
    isGiven (rolloutContext s current).targetTenantId = true := by
  obtain ⟨tenantId, target, -⟩ := Option.bind_eq_some_iff.mp here
  have filled := (trimmedOrNull_trim target).2
  show isGiven (readActivationTargetTenantId current) = true
  rw [target]
  simpa [isGiven] using filled

namespace SameFacts

theorem source (same : SameFacts context context') :
    context.sourceManifest = context'.sourceManifest := by
  rw [RolloutContext.sourceManifest, RolloutContext.sourceManifest, same.registryEntry,
    same.connectorTemplate]

theorem drift (same : SameFacts context context') :
    context.driftStatus env = context'.driftStatus env := by
  rw [RolloutContext.driftStatus, RolloutContext.driftStatus, same.source,
    RolloutContext.sourceDigestInstalled, RolloutContext.sourceDigestInstalled,
    fieldText_congr (same.rollout "sourceDigest" (by decide))]

theorem compatibility (same : SameFacts context context')
    (given : isGiven context.targetTenantId = isGiven context'.targetTenantId)
    (requestStatus governanceStatus : String) :
    (rolloutCompatibility env context requestStatus governanceStatus).checks =
      (rolloutCompatibility env context' requestStatus governanceStatus).checks := by
  have target := @evaluated_target env
    { compatibilityInput env context.sourceManifest context.targetTenantId context.publication
        requestStatus with
      installationSource := fieldText context.enterpriseRollout "source"
      installationPublicationId := fieldText context.enterpriseRollout "publicationId"
      installationGovernanceStatus := some governanceStatus
      installationDriftStatus := some (context.driftStatus env).text } _ _ given
  refine target.trans ?_
  unfold rolloutCompatibility
  rw [← same.source, ← same.publication, ← same.drift,
    ← fieldText_congr (same.rollout "source" (by decide)),
    ← fieldText_congr (same.rollout "publicationId" (by decide))]
  rfl

theorem installed (same : SameFacts context context') :
    context.installedRuntimeEntry.isSome = context'.installedRuntimeEntry.isSome := by
  have status := congrArg Option.isSome same.runtimeStatus
  rwa [Option.isSome_map, Option.isSome_map] at status

theorem presentStatus_eq (same : SameFacts context context')
    (given : isGiven context.targetTenantId = isGiven context'.targetTenantId) :
    presentStatus env now context = presentStatus env now context' := by
  have status : context.request.readStatus env = context'.request.readStatus env :=
    congrArg env.normalized same.requestStatus
  have runtime : (context.installedRuntimeEntry.map fun entry => env.normalized entry.status) =
      context'.installedRuntimeEntry.map fun entry => env.normalized entry.status := by
    have read := congrArg (Option.map env.normalized) same.runtimeStatus
    rwa [Option.map_map, Option.map_map] at read
  unfold presentStatus presentChecks rolloutInstalledCheck rolloutSourceCheck
  dsimp only
  rw [same.publication, same.registryEntry, same.installed, same.drift, status, runtime,
    same.compatibility given]

end SameFacts

variable {process : ProcessEnv} {events events' : List RuntimeEvent} {id id' : Uuid}
  {input : Json} {verdict : GovernanceVerdict} {current current' : IntegrationActivationRequest}
  {s : ActivationDb}

/-- After two histories with the same facts, a governance call that answers after the one answers
after the other too; it gives the same status just when the stored records tell the same beside the
facts. With facts that do not block, the verdict is blocked just when the record is. -/
theorem verdicts_agree_iff (found : Rows.find IntegrationActivationRequest.id
      (runtimeRun env process events).activations id = some current)
    (found' : Rows.find IntegrationActivationRequest.id
      (runtimeRun env process events').activations id' = some current')
    (same : SameFacts (rolloutContext (runtimeRun env process events) current)
      (rolloutContext (runtimeRun env process events') current'))
    (answer : applyIntegrationRuntimeRolloutGovernance env now (runtimeRun env process events) id
      input = .ok (verdict, s)) (input' : Json) :
    ∃ facts verdict' s',
      presentStatus env now (rolloutContext (runtimeRun env process events) current) = .ok facts ∧
      applyIntegrationRuntimeRolloutGovernance env now (runtimeRun env process events') id' input' =
        .ok (verdict', s') ∧
      (verdict.governanceStatus = verdict'.governanceStatus ↔ WeighAlike facts
        ((rolloutContext (runtimeRun env process events) current).recordWeight env)
        ((rolloutContext (runtimeRun env process events') current').recordWeight env)) ∧
      (facts ≠ .blocked → (verdict.governanceStatus = .blocked ↔
        (rolloutContext (runtimeRun env process events) current).recordWeight env = .blocked)) := by
  obtain ⟨current, installed, facts, did⟩ := governance_ok answer
  obtain rfl := Option.some.inj (did.found.symm.trans found)
  obtain ⟨installed', here'⟩ : ∃ installed',
      (rolloutContext (runtimeRun env process events') current').installedRuntimeEntry =
        some installed' := by
    rw [← Option.isSome_iff_exists, ← same.installed, did.installed_eq]
    rfl
  have given := (installed_target did.installed_eq).trans (installed_target here').symm
  have judged' := (same.presentStatus_eq given).symm.trans did.judged
  obtain ⟨verdict', s', answer'⟩ := governance_answers found' here' judged' input'
  obtain ⟨current', installed', facts', did'⟩ := governance_ok answer'
  obtain rfl := Option.some.inj (did'.found.symm.trans found')
  obtain rfl := Except.ok.inj (did'.judged.symm.trans judged')
  refine ⟨facts', verdict', s', did.judged, answer', ?_, fun open_ => ?_⟩
  · rw [did.status, did'.status]
    exact weighAlike_iff
  · rw [did.status, CheckStatus.worst_eq_blocked_iff]
    exact or_iff_right open_

deriving instance DecidableEq for IntegrationRegistryEntry, ActivationTemplate

theorem get_of_erase {record record' : Fields} {hidden : String}
    (same : Record.erase record hidden = Record.erase record' hidden) (key : String)
    (other : key ≠ hidden) : Record.get record key = Record.get record' key := by
  have read := congrArg (fun r => Record.get r key) same
  simpa only [Record.get_erase, if_neg other.symm] using read

abbrev FactsAgree (context context' : RolloutContext) : Prop :=
  context.request.status = context'.request.status ∧
    context.publication.isNone ∧ context'.publication.isNone ∧
    context.registryEntry = context'.registryEntry ∧
    context.connectorTemplate = context'.connectorTemplate ∧
    Record.erase context.installedManifest "enterpriseRollout" =
      Record.erase context'.installedManifest "enterpriseRollout" ∧
    Record.erase context.enterpriseRollout "governance" =
      Record.erase context'.enterpriseRollout "governance" ∧
    context.installedRuntimeEntry.map (·.status) = context'.installedRuntimeEntry.map (·.status)

theorem sameFacts_of_agree (agree : FactsAgree context context') : SameFacts context context' := by
  obtain ⟨requestStatus, none_, none', registryEntry, template, manifest, rollout, runtime⟩ := agree
  refine ⟨requestStatus, ?_, registryEntry, template, get_of_erase manifest, get_of_erase rollout,
    runtime⟩
  rw [Option.isNone_iff_eq_none.mp none_, Option.isNone_iff_eq_none.mp none']

/-- The request is revoked and applied again, and may be governed in between. -/
def takenBack (between : List RuntimeEvent) : List RuntimeEvent :=
  let request := counterEnv.uuid.text 1
  [⟨0, .createEntry freshlaneRow⟩, ⟨1, requestForStore "north"⟩,
    ⟨2, .install (.user none) request (.obj [])⟩,
    ⟨3, .updateStatus request (.obj [("status", .str "REVOKED")])⟩] ++ between ++
  [⟨5, .updateStatus request (.obj [("status", .str "APPLIED")])⟩]

def governedBetween : List RuntimeEvent := [⟨4, .govern (counterEnv.uuid.text 1) (.obj [])⟩]

def takenBackRequest (between : List RuntimeEvent) : Option IntegrationActivationRequest :=
  Rows.find IntegrationActivationRequest.id
    (runtimeRun counterEnv development (takenBack between)).activations (counterEnv.uuid.text 1)

def takenBackVerdict (between : List RuntimeEvent) :
    Except ApiException (GovernanceVerdict × ActivationDb) :=
  applyIntegrationRuntimeRolloutGovernance counterEnv 6
    (runtimeRun counterEnv development (takenBack between)) (counterEnv.uuid.text 1) (.obj [])

theorem takenBack_sameFacts : ∃ current ∈ takenBackRequest governedBetween,
    ∃ current' ∈ takenBackRequest [],
      SameFacts
        (rolloutContext (runtimeRun counterEnv development (takenBack governedBetween)) current)
        (rolloutContext (runtimeRun counterEnv development (takenBack [])) current') := by
  have agree : ((takenBackRequest governedBetween).any fun current =>
      (takenBackRequest []).any fun current' => FactsAgree
        (rolloutContext (runtimeRun counterEnv development (takenBack governedBetween)) current)
        (rolloutContext (runtimeRun counterEnv development (takenBack [])) current')) = true := by
    decide +kernel
  obtain ⟨current, found, agree⟩ := (Option.any_eq_true _ _).mp agree
  obtain ⟨current', found', agree⟩ := (Option.any_eq_true _ _).mp agree
  exact ⟨current, found, current', found', sameFacts_of_agree (of_decide_eq_true agree)⟩

theorem verdicts_agree_takenBack : ∃ facts, ∃ governed ∈ takenBackRequest governedBetween,
    ∃ current ∈ takenBackRequest [], ∃ verdict s verdict' s',
      takenBackVerdict governedBetween = .ok (verdict, s) ∧
      takenBackVerdict [] = .ok (verdict', s') ∧
      (verdict.governanceStatus = verdict'.governanceStatus ↔ WeighAlike facts
        ((rolloutContext (runtimeRun counterEnv development (takenBack governedBetween))
          governed).recordWeight counterEnv)
        ((rolloutContext (runtimeRun counterEnv development (takenBack []))
          current).recordWeight counterEnv)) := by
  obtain ⟨governed, found, current, found', same⟩ := takenBack_sameFacts
  have answer : takenBackVerdict governedBetween = .ok _ := eq_ok_get (by decide +kernel)
  obtain ⟨facts, verdict', s', -, answer', agree, -⟩ :=
    verdicts_agree_iff found found' same answer (.obj [])
  exact ⟨facts, governed, found, current, found', _, _, verdict', s', answer, answer', agree⟩

/-- A verdict of the revoked request blocks the request that is applied again. -/
theorem takenBack_stays_blocked : ¬∀ (events events' : List RuntimeEvent) (id : Uuid)
    (current current' : IntegrationActivationRequest) (now : Moment) (input : Json)
    (verdict verdict' : GovernanceVerdict) (s s' : ActivationDb),
    let db := runtimeRun counterEnv development events
    let db' := runtimeRun counterEnv development events'
    Rows.find IntegrationActivationRequest.id db.activations id = some current →
    Rows.find IntegrationActivationRequest.id db'.activations id = some current' →
    SameFacts (rolloutContext db current) (rolloutContext db' current') →
    applyIntegrationRuntimeRolloutGovernance counterEnv now db id input = .ok (verdict, s) →
    applyIntegrationRuntimeRolloutGovernance counterEnv now db' id input = .ok (verdict', s') →
    verdict.governanceStatus = verdict'.governanceStatus := by
  intro claim
  obtain ⟨governed, found, current, found', same⟩ := takenBack_sameFacts
  have blocked : (takenBackVerdict governedBetween).toOption.map (·.1.governanceStatus) =
    some .blocked := by decide +kernel
  have warns : (takenBackVerdict []).toOption.map (·.1.governanceStatus) = some .warn := by
    decide +kernel
  obtain ⟨⟨verdict, s⟩, answer, is⟩ := Option.map_eq_some_iff.mp blocked
  obtain ⟨⟨verdict', s'⟩, answer', is'⟩ := Option.map_eq_some_iff.mp warns
  have agree := claim (takenBack governedBetween) (takenBack []) (counterEnv.uuid.text 1) governed
    current 6 (.obj []) verdict verdict' s s' found found' same
    (toOption_eq_some_iff.mp answer) (toOption_eq_some_iff.mp answer')
  rw [is, is'] at agree
  cases agree

end Exetron.Enterprise
