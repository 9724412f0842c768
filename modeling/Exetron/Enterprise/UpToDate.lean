import Exetron.Enterprise.Approvals
import Exetron.Enterprise.Rollouts

/-!
# Runtimes that stay up to date

After a call that takes its source the runtime has what the source has, and until the next one its
digest tells every change of the source. A call that preserves the previous installation keeps the
source's old values: it need not take the source.
-/

namespace Exetron.Enterprise

open Lib Option
open Customization (Fields valueAt)

variable {env : EnterpriseEnv} {rollout : Rollout} {db db' : ActivationDb} {s : RolloutState}
  {e : RolloutEvent} {now : Moment} {installer : Installer} {input : Json}
  {request : IntegrationActivationRequest} {source : Fields} {overrides : List Fields}

theorem answerCall_ok {call : RolloutCall}
    (h : answerCall env rollout db now installer call input = .ok (request, db')) :
    ∃ input', ReadFrom input (readInstallOptions env now installer input') ∧
      ∃ current entry targetTenantId installed, Installs env now installer db rollout.requestId
        input' current entry targetTenantId installed request db' := by
  cases call with
  | install =>
    exact ⟨input, readFrom_install env now installer input,
      installIntegrationActivationRuntime_ok h⟩
  | reconcile =>
    simp only [answerCall, reconcileIntegrationRuntimeRollout, except_bind_ok_iff] at h
    obtain ⟨_, -, _, -, done⟩ := h
    exact ⟨reconcileInput input, readFrom_reconcile env now installer input,
      installIntegrationActivationRuntime_ok done⟩

theorem OwnSource.current (own : OwnSource env rollout db) :
    ∃ current, IsFor rollout current ∧ rollout.context db = some (rolloutContext db current) := by
  obtain ⟨current, found, isFor⟩ := own.request
  exact ⟨current, isFor, by rw [Rollout.context, found, map_some]⟩

/-- What a state still has of the installation from a source. -/
structure Carries (env : EnterpriseEnv) (rollout : Rollout) (source : Fields)
    (overrides : List Fields) (s : RolloutState) : Prop where
  own : OwnSource env rollout s.db
  clean : IsClean (rollout.sourceManifest s.db)
  digest : ∀ context ∈ rollout.context s.db,
    context.sourceDigestInstalled = some (computeRuntimeSourceDigest env source)
  content : ∀ key rest value, valueAt source key rest = some value →
    Untouched overrides key rest → valueAt (rollout.installedManifest s.db) key rest = some value

theorem carries_of_call (own : OwnSource env rollout s.db) (kept : KeepsUpToDate env rollout s e)
    (done : Succeeds env rollout s e) :
    Carries env rollout (rollout.sourceManifest (rolloutStep env rollout s e).db)
      (rolloutStep env rollout s e).overrides (rolloutStep env rollout s e) := by
  have succeeds := done
  obtain ⟨call, input, is, accepted⟩ := done
  obtain ⟨⟨request, db'⟩, answer⟩ := exists_ok_of_toBool accepted
  have step : rolloutStep env rollout s e = ⟨db', s.overrides ++ assignedBy input⟩ := by
    rw [rolloutStep, is]
    dsimp only
    rw [answer]
  obtain ⟨input', read, current, entry, tenantId, installed, installs⟩ := answerCall_ok answer
  obtain ⟨isFor, context⟩ : IsFor rollout current ∧
      rollout.context s.db = some (rolloutContext s.db current) := by
    obtain ⟨current', found, isFor⟩ := own.request
    obtain rfl := some.inj (installs.found.symm.trans found)
    exact ⟨isFor, by rw [Rollout.context, found, map_some]⟩
  have takes :
      TakesSource (rolloutContext s.db current) input (s.overrides ++ assignedBy input) := by
    rw [KeepsUpToDate, is] at kept
    exact kept succeeds _ context
  have left := leavesRollout_of_installs own isFor installs
  obtain ⟨after, context', same, installed'⟩ := left.context
  have sourceManifest :
      rollout.sourceManifest db' = (rolloutContext s.db current).sourceManifest := by
    rw [Rollout.sourceManifest, context', map_some, getD_some, same.sourceManifest]
  have written : after.installedManifest = buildInstalledRuntimeManifest env
      (rolloutContext s.db current) entry (readInstallOptions env e.now e.installer input') := by
    rw [RolloutContext.installedManifest, installed', entryManifest, map_some,
      getD_some, installs.entry_eq, runtimeEntry_manifest]
    rfl
  rw [step]
  refine ⟨left.own, ?_, fun context found => ?_, fun key rest value stands untouched => ?_⟩
  · rw [sourceManifest]
    exact takes.clean
  · obtain rfl := some.inj (context'.symm.trans found)
    rw [sourceDigest_built written, sourceManifest]
  · rw [sourceManifest] at stands
    rw [Rollout.installedManifest, context', map_some, getD_some, written]
    exact valueAt_built read takes (List.subset_append_right _ _) stands untouched

/-- A change of the source leaves the request, the runtime that is installed and the publication. -/
structure LeavesInstalled (rollout : Rollout) (db db' : ActivationDb) : Prop where
  installed : ∀ current, IsFor rollout current →
    (rolloutContext db' current).installedRuntimeEntry =
      (rolloutContext db current).installedRuntimeEntry
  activations : db'.activations = db.activations

theorem changeEntry_own (own : OwnSource env rollout db) (manifest : Manifest) :
    OwnSource env rollout (db.withEntries (Rows.modify IntegrationRegistryEntry.id rollout.sourceId
      (withEntryManifest manifest.val) db.registry.entries)) := by
  have keeps : ∀ entry : IntegrationRegistryEntry,
      (withEntryManifest manifest.val entry).id = entry.id := fun _ => rfl
  obtain ⟨entry, found, notRuntime, -⟩ := own.entry
  refine ⟨own.request, ⟨withEntryManifest manifest.val entry, ?_, notRuntime, manifest.property⟩,
    ?_, fun n later => ?_⟩
  · show Rows.find _ (Rows.modify _ _ _ _) _ = _
    rw [Rows.find_modify keeps, if_pos rfl, found, map_some]
  · show ((Rows.modify _ _ _ _).map _).Nodup
    rw [Rows.map_modify keeps]
    exact own.distinct
  · show _ ∉ (Rows.modify _ _ _ _).map _
    rw [Rows.map_modify keeps]
    exact own.fresh n later

theorem changeEntry_leaves (own : OwnSource env rollout db) (manifest : Manifest) :
    LeavesInstalled rollout db (db.withEntries (Rows.modify IntegrationRegistryEntry.id
      rollout.sourceId (withEntryManifest manifest.val) db.registry.entries)) where
  installed current isFor := by
    rw [installed_eq isFor, installed_eq isFor, Rollout.findRuntime, Rollout.findRuntime]
    show (newestFirst _ ((Rows.modify _ _ _ _).filter _)).head? = _
    rw [Rows.filter_modify_other]
    intro entry stored keyed
    obtain ⟨source, found, notRuntime, -⟩ := own.entry
    obtain ⟨stored', keyed'⟩ := Rows.find_some found
    obtain rfl := Rows.eq_of_key own.distinct stored stored' (keyed.trans keyed'.symm)
    exact ⟨notRuntime, notRuntime⟩
  activations := rfl

theorem changeTemplates_own (own : OwnSource env rollout db) (templates : List ConnectorTemplate) :
    OwnSource env rollout (db.withTemplates templates) :=
  ⟨own.request, own.entry, own.distinct, own.fresh⟩

theorem changeTemplates_leaves (db : ActivationDb) (rollout : Rollout)
    (templates : List ConnectorTemplate) :
    LeavesInstalled rollout db (db.withTemplates templates) where
  installed current isFor := by
    rw [installed_eq isFor, installed_eq isFor]
    rfl
  activations := rfl

theorem LeavesInstalled.context (left : LeavesInstalled rollout db db')
    (own : OwnSource env rollout db) :
    ∃ context context', rollout.context db = some context ∧ rollout.context db' = some context' ∧
      context'.installedRuntimeEntry = context.installedRuntimeEntry := by
  obtain ⟨current, found, isFor⟩ := own.request
  refine ⟨_, _, by rw [Rollout.context, found, map_some], ?_, left.installed current isFor⟩
  rw [Rollout.context, left.activations, found, map_some]

theorem Carries.change (carries : Carries env rollout source overrides s)
    (own : OwnSource env rollout db') (left : LeavesInstalled rollout s.db db')
    (clean : IsClean (rollout.sourceManifest db')) (later : List Fields) :
    Carries env rollout source overrides ⟨db', later⟩ := by
  obtain ⟨context, context', before, after, same⟩ := left.context carries.own
  have manifest : context'.installedManifest = context.installedManifest := by
    rw [RolloutContext.installedManifest, same, RolloutContext.installedManifest]
  refine ⟨own, clean, fun found is => ?_, fun key rest value stands untouched => ?_⟩
  · obtain rfl := some.inj (after.symm.trans is)
    rw [← carries.digest context before, RolloutContext.sourceDigestInstalled,
      RolloutContext.enterpriseRollout, manifest]
    rfl
  · have content := carries.content key rest value stands untouched
    rw [Rollout.installedManifest, before, map_some, getD_some] at content
    rw [Rollout.installedManifest, after, map_some, getD_some, manifest]
    exact content

theorem carries_step (carries : Carries env rollout source overrides s)
    (between : ¬Succeeds env rollout s e) (kept : KeepsUpToDate env rollout s e) :
    Carries env rollout source overrides (rolloutStep env rollout s e) := by
  obtain ⟨now, installer, operation⟩ := e
  cases operation with
  | changeEntry manifest =>
    exact carries.change (changeEntry_own carries.own manifest)
      (changeEntry_leaves carries.own manifest) kept s.overrides
  | changeTemplates templates =>
    exact carries.change (changeTemplates_own carries.own templates)
      (changeTemplates_leaves s.db rollout templates) kept s.overrides
  | call call input =>
    cases answer : answerCall env rollout s.db now installer call input with
    | ok done => exact absurd ⟨call, input, rfl, by rw [answer]; rfl⟩ between
    | error refused =>
      rw [rolloutStep]
      dsimp only
      rw [answer]
      exact carries

theorem ownSource_step (own : OwnSource env rollout s.db) (kept : KeepsUpToDate env rollout s e) :
    OwnSource env rollout (rolloutStep env rollout s e).db := by
  by_cases done : Succeeds env rollout s e
  · exact (carries_of_call own kept done).own
  · obtain ⟨now, installer, operation⟩ := e
    cases operation with
    | changeEntry manifest => exact changeEntry_own own manifest
    | changeTemplates templates => exact changeTemplates_own own templates
    | call call input =>
      cases answer : answerCall env rollout s.db now installer call input with
      | ok answered => exact absurd ⟨call, input, rfl, by rw [answer]; rfl⟩ done
      | error refused =>
        rw [rolloutStep]
        dsimp only
        rw [answer]
        exact own

theorem rolloutPublication_ok (now : Moment) {publication : Option IntegrationPublication}
    (readable : ∀ row ∈ publication,
      (readSunset env row.artifact.package.lifecycle).toBool = true) :
    ∃ answer, rolloutPublication env now publication = .ok answer := by
  cases publication with
  | none => exact ⟨_, rfl⟩
  | some row =>
    obtain ⟨sunset, read⟩ := exists_ok_of_toBool (readable row rfl)
    simp only [rolloutPublication, getPublicationLifecycleSnapshot, read]
    exact ⟨_, rfl⟩

theorem readiness_reports {context : RolloutContext} (found : rollout.context db = some context) :
    SunsetUnreadable env rollout db ∨ ∀ now, ∃ readiness,
      getIntegrationRuntimeRolloutReadiness env now db rollout.requestId = .ok readiness ∧
        readiness.driftStatus = context.driftStatus env := by
  refine or_iff_not_imp_left.mpr fun readable now => ?_
  have reads : ∀ row ∈ context.publication,
      (readSunset env row.artifact.package.lifecycle).toBool = true := fun row here =>
    Bool.eq_true_of_not_eq_false fun unreadable => readable ⟨context, found, row, here, unreadable⟩
  obtain ⟨answer, published⟩ := rolloutPublication_ok now reads
  obtain ⟨current, stored, is⟩ := map_eq_some_iff.mp found
  have resolved : resolveActivationRuntimeRolloutContext db rollout.requestId = .ok context := by
    rw [resolveActivationRuntimeRolloutContext, findActivationRequest, stored, ← is]
    rfl
  rw [getIntegrationRuntimeRolloutReadiness, resolved]
  unfold getActivationRuntimeRolloutReadinessSnapshot
  simp only [bind, Except.bind, published]
  exact ⟨_, rfl, rfl⟩

theorem driftStatus_iff (injective : Function.Injective env.sha256)
    (carries : Carries env rollout source overrides s) (distinct : (source.map Prod.fst).Nodup)
    (clean : IsClean source) {context : RolloutContext}
    (found : rollout.context s.db = some context) :
    (rollout.sourceManifest s.db = source → context.driftStatus env = .current) ∧
      (rollout.sourceManifest s.db ≠ source → context.driftStatus env = .drifted) := by
  obtain ⟨current, isFor, here⟩ := carries.own.current
  have manifest : rollout.sourceManifest s.db = context.sourceManifest := by
    rw [Rollout.sourceManifest, found, map_some, getD_some]
  have own : (context.sourceManifest.map Prod.fst).Nodup := by
    obtain rfl := some.inj (here.symm.trans found)
    exact nodup_sourceManifest carries.own isFor
  have same := digest_eq_iff injective distinct clean own (manifest ▸ carries.clean)
  rw [RolloutContext.driftStatus, carries.digest context found, driftOf, manifest]
  exact ⟨fun is => if_pos (same.mpr is.symm), fun other => if_neg fun is => other (same.mp is).symm⟩

/-- Along a run whose calls take their source, the runtime stays up to date. -/
theorem staysUpToDate_of_along (injective : Function.Injective env.sha256)
    (own : OwnSource env rollout db) {events : List RolloutEvent}
    (along : Trace.Along (rolloutStep env rollout) (KeepsUpToDate env rollout) ⟨db, []⟩ events) :
    StaysUpToDate env rollout db events := by
  intro before e changes prior s s' done between
  have whole := Trace.along_append.mp (Trace.along_prefix prior along)
  have ownKept : ∀ s e, OwnSource env rollout s.db → KeepsUpToDate env rollout s e →
      OwnSource env rollout (rolloutStep env rollout s e).db := fun s e => ownSource_step
  have ownBefore : OwnSource env rollout s.db := Trace.run_invariant ownKept own whole.1
  have taken := carries_of_call ownBefore whole.2.1 done
  have stands : ∀ s e, Carries env rollout (rollout.sourceManifest s'.db) s'.overrides s →
      ¬Succeeds env rollout s e ∧ KeepsUpToDate env rollout s e →
      Carries env rollout (rollout.sourceManifest s'.db) s'.overrides
        (rolloutStep env rollout s e) := fun s e carries step => carries_step carries step.1 step.2
  have carries := Trace.run_invariant stands taken (Trace.along_and between whole.2.2)
  obtain ⟨current, isFor, here⟩ := taken.own.current
  have distinct : ((rollout.sourceManifest s'.db).map Prod.fst).Nodup := by
    rw [Rollout.sourceManifest, here, Option.map_some, Option.getD_some]
    exact nodup_sourceManifest taken.own isFor
  obtain ⟨_, -, after⟩ := carries.own.current
  refine ⟨carries.content, (readiness_reports after).imp_right fun reports now => ?_⟩
  obtain ⟨readiness, read, drift⟩ := reports now
  have drifts := driftStatus_iff injective carries distinct taken.clean after
  exact ⟨readiness, read, fun same => drift.trans (drifts.1 same),
    fun other => drift.trans (drifts.2 other)⟩

def limitManifest (limit : ℕ) : Json := .obj [("limit", .ofNat limit)]

def limitRollout : Rollout := ⟨"request", "entry", "tenant", "freshlane", "1"⟩

/-- An approved request for a connector with a limit. -/
def limitDb : ActivationDb where
  registry := oneConnector (limitManifest 1)
  publications := []
  activations := [{ connectorRequest "APPROVED" with publicationId := none }]
  nextUuid := 0

theorem limitDb_own : OwnSource counterEnv limitRollout limitDb where
  request := ⟨_, rfl, rfl, by decide +kernel, rfl, rfl⟩
  entry := ⟨_, rfl, by decide +kernel, by decide +kernel⟩
  distinct := by decide +kernel
  fresh n _ listed := by
    have same : counterEnv.uuid.text n = "entry" := by simpa [limitDb, oneConnector] using listed
    have letters := congrArg String.toList same
    simp [counterEnv, UuidSource.counter, counterText] at letters

def raiseLimit (reconciliation : Json) : List RolloutEvent :=
  [⟨0, .user none, .call .install (.obj [])⟩,
    ⟨1, .user none, .changeEntry ⟨limitManifest 2, by decide⟩⟩,
    ⟨2, .user none, .call .reconcile reconciliation⟩]

theorem keepsUpToDate_of_check {call : RolloutCall}
    (check : (rollout.context s.db).all (fun context =>
      (Record.get context.sourceManifest "enterpriseRollout").isNone ∧
        (Record.get context.sourceManifest "runtime").isNone ∧
        (isNotFalse (input.get? "preserveTenantOverrides") = false ∨
          context.installedRuntimeEntry.isNone)) = true) :
    KeepsUpToDate env rollout s ⟨now, installer, .call call input⟩ := by
  intro _ context found
  rw [mem_def.mp found, all_some, decide_eq_true_eq] at check
  obtain ⟨clean, runtime, fresh⟩ := check
  refine ⟨isNone_iff_eq_none.mp clean, fun value read => ?_, fun preserves installed => ?_⟩
  · rw [isNone_iff_eq_none.mp runtime] at read
    cases read
  · rcases fresh with dropped | absent
    · rw [dropped] at preserves
      cases preserves
    · rw [isNone_iff_eq_none.mp absent] at installed
      cases installed

/-- A reconciliation that drops the previous installation has the new limit. -/
theorem dropped_overrides_stay : StaysUpToDate counterEnv limitRollout limitDb
    (raiseLimit (.obj [("preserveTenantOverrides", .bool false)])) := by
  refine staysUpToDate_of_along Function.injective_id limitDb_own ⟨?_, ?_, ?_, trivial⟩
  · exact keepsUpToDate_of_check (by decide +kernel)
  · show Record.get _ _ = none
    rw [← Option.isNone_iff_eq_none]
    decide +kernel
  · exact keepsUpToDate_of_check (by decide +kernel)

def raisedLimit : RolloutState :=
  Trace.run (rolloutStep counterEnv limitRollout) ⟨limitDb, []⟩ (raiseLimit (.obj []))

/-- One that keeps it, as it does by default, keeps the old limit. -/
theorem reconciled_keeps_old_value : OwnSource counterEnv limitRollout limitDb ∧
    ¬∀ events, StaysUpToDate counterEnv limitRollout limitDb events := by
  refine ⟨limitDb_own, fun claim => ?_⟩
  have upToDate := claim (raiseLimit (.obj [])) ((raiseLimit (.obj [])).take 2)
    ⟨2, .user none, .call .reconcile (.obj [])⟩ [] List.prefix_rfl
    ⟨.reconcile, .obj [], rfl, by decide +kernel⟩ trivial
  have source : (valueAt (limitRollout.sourceManifest raisedLimit.db) "limit" []).map Json.toText =
      some "2" := by decide +kernel
  have kept : (valueAt (limitRollout.installedManifest raisedLimit.db) "limit" []).map Json.toText =
      some "1" := by decide +kernel
  have untouched : Untouched raisedLimit.overrides "limit" [] := by
    have nothing : raisedLimit.overrides.all (fun patch => patch.isEmpty) = true := by
      decide +kernel
    rintro patch listed ⟨field, assigned, -⟩
    have empty := List.all_eq_true.mp nothing patch listed
    rw [List.isEmpty_iff.mp empty] at assigned
    cases assigned
  obtain ⟨value, stands, two⟩ := Option.map_eq_some_iff.mp source
  have installed := upToDate.content "limit" [] value stands untouched
  have same : some value.toText = some "1" := by
    rw [← kept]
    exact (congrArg (Option.map Json.toText) installed).symm
  rw [two] at same
  exact absurd (Option.some.inj same) (by decide)

end Exetron.Enterprise
