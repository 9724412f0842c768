import Exetron.Customization.Paths
import Exetron.Enterprise.Runtimes
import Exetron.Lib.Trace

/-!
# Rollouts over a run

One activation request with its own source entry: the source changes, and the runtime is installed
and reconciled. What an installation takes from the source, and how the drift tells of it.
-/

namespace Exetron.Enterprise

open Lib List Record
open Customization (Fields deepMergeRecord valueAt Touches)

variable {existing : IntegrationRegistryEntry} {entries : List IntegrationRegistryEntry}
  {targetTenantId : Uuid}

/-- An activation request, its source entry, and the tenant that it installs the connector for. -/
structure Rollout where
  (requestId sourceId tenantId : Uuid)
  (connectorKey version : String)

def Rollout.isRuntime (rollout : Rollout) (entry : IntegrationRegistryEntry) : Bool :=
  entry.tenantId = some rollout.tenantId ∧ entry.connectorKey = rollout.connectorKey ∧
    entry.version = rollout.version

abbrev Manifest := { manifest : Json // ((asObject (some manifest)).map Prod.fst).Nodup }

/-- The two calls that install the runtime. -/
inductive RolloutCall where
  | install
  | reconcile

inductive RolloutOperation where
  | changeEntry (manifest : Manifest)
  | changeTemplates (templates : List ConnectorTemplate)
  | call (call : RolloutCall) (input : Json)

structure RolloutEvent where
  now : Moment
  installer : Installer
  operation : RolloutOperation

structure RolloutState where
  db : ActivationDb
  /-- What the calls that succeeded have assigned. -/
  overrides : List Fields

def assignedBy (input : Json) : List Fields :=
  let runtimeOverrides := asObject (input.get? "runtimeOverrides")
  asObject (input.get? "manifestOverrides") ::
    if runtimeOverrides = [] then [] else [[("runtime", .obj runtimeOverrides)]]

def Untouched (overrides : List Fields) (key : String) (rest : List String) : Prop :=
  ∀ patch ∈ overrides, ¬Touches patch key rest

variable (env : EnterpriseEnv) (rollout : Rollout)

def answerCall (db : ActivationDb) (now : Moment) (installer : Installer) (call : RolloutCall)
    (input : Json) : Except ApiException (IntegrationActivationRequest × ActivationDb) :=
  match call with
  | .install => installIntegrationActivationRuntime env now installer db rollout.requestId input
  | .reconcile => reconcileIntegrationRuntimeRollout env now installer db rollout.requestId input

def withEntryManifest (manifest : Json) (entry : IntegrationRegistryEntry) :
    IntegrationRegistryEntry := { entry with manifest }

def ActivationDb.withEntries (db : ActivationDb) (entries : List IntegrationRegistryEntry) :
    ActivationDb := { db with registry := { db.registry with entries } }

def ActivationDb.withTemplates (db : ActivationDb) (templates : List ConnectorTemplate) :
    ActivationDb := { db with registry := { db.registry with templates } }

def rolloutStep (s : RolloutState) (e : RolloutEvent) : RolloutState :=
  match e.operation with
  | .changeEntry manifest =>
    { s with
      db := s.db.withEntries (Rows.modify IntegrationRegistryEntry.id rollout.sourceId
        (withEntryManifest manifest.val) s.db.registry.entries) }
  | .changeTemplates templates => { s with db := s.db.withTemplates templates }
  | .call call input =>
    match answerCall env rollout s.db e.now e.installer call input with
    | .ok (_, db) => ⟨db, s.overrides ++ assignedBy input⟩
    | .error _ => s

def Succeeds (s : RolloutState) (e : RolloutEvent) : Prop :=
  ∃ call input, e.operation = .call call input ∧
    (answerCall env rollout s.db e.now e.installer call input).toBool = true

namespace Rollout

def context (db : ActivationDb) : Option RolloutContext :=
  (Rows.find IntegrationActivationRequest.id db.activations rollout.requestId).map
    (rolloutContext db)

def sourceManifest (db : ActivationDb) : Fields :=
  ((rollout.context db).map (·.sourceManifest)).getD []

def installedManifest (db : ActivationDb) : Fields :=
  ((rollout.context db).map (·.installedManifest)).getD []

end Rollout

def SunsetUnreadable (db : ActivationDb) : Prop :=
  ∃ context ∈ rollout.context db, ∃ publication ∈ context.publication,
    (readSunset env publication.artifact.package.lifecycle).toBool = false

/-- The runtime is up to date right after a call that leaves `s`, and its drift tells the changes
of the source from then to `t`. -/
structure UpToDate (s t : RolloutState) : Prop where
  content : ∀ key rest value, valueAt (rollout.sourceManifest s.db) key rest = some value →
    Untouched s.overrides key rest → valueAt (rollout.installedManifest t.db) key rest = some value
  drift : SunsetUnreadable env rollout t.db ∨ ∀ now, ∃ readiness,
    getIntegrationRuntimeRolloutReadiness env now t.db rollout.requestId = .ok readiness ∧
      (rollout.sourceManifest t.db = rollout.sourceManifest s.db →
        readiness.driftStatus = .current) ∧
      (rollout.sourceManifest t.db ≠ rollout.sourceManifest s.db →
        readiness.driftStatus = .drifted)

def StaysUpToDate (db : ActivationDb) (events : List RolloutEvent) : Prop :=
  ∀ before e changes, before ++ e :: changes <+: events →
    let s := Trace.run (rolloutStep env rollout) ⟨db, []⟩ before
    let s' := rolloutStep env rollout s e
    Succeeds env rollout s e →
      Trace.Along (rolloutStep env rollout) (fun s e => ¬Succeeds env rollout s e) s' changes →
      UpToDate env rollout s' (Trace.run (rolloutStep env rollout) s' changes)

def IsClean (source : Fields) : Prop := Record.get source "enterpriseRollout" = none

/-- The installation takes the source: nothing of the previous one that it preserves stands over an
untouched path, and neither key that the installation writes itself is in its way. -/
structure TakesSource (context : RolloutContext) (input : Json) (overrides : List Fields) :
    Prop where
  clean : IsClean context.sourceManifest
  runtime : ∀ value, Record.get context.sourceManifest "runtime" = some value →
    Untouched overrides "runtime" [] → ∃ fields, value = .obj fields
  preserved : isNotFalse (input.get? "preserveTenantOverrides") = true →
    context.installedRuntimeEntry.isSome → ∀ key rest value,
      valueAt context.sourceManifest key rest = some value → Untouched overrides key rest →
        valueAt (deepMergeRecord context.sourceManifest
          (Record.erase context.installedManifest "enterpriseRollout")) key rest = some value

def KeepsUpToDate (s : RolloutState) (e : RolloutEvent) : Prop :=
  match e.operation with
  | .call _ input => Succeeds env rollout s e → ∀ context ∈ rollout.context s.db,
      TakesSource context input (s.overrides ++ assignedBy input)
  | _ => IsClean (rollout.sourceManifest (rolloutStep env rollout s e).db)

/-- A request of the rollout. -/
structure IsFor (rollout : Rollout) (request : IntegrationActivationRequest) : Prop where
  source : request.registryEntryId = some rollout.sourceId
  tenant : readActivationTargetTenantId request = some rollout.tenantId
  connectorKey : request.connectorKey = rollout.connectorKey
  version : request.version = rollout.version

/-- The request names an entry of its own as the source: not one that it installs. -/
structure OwnSource (env : EnterpriseEnv) (rollout : Rollout) (db : ActivationDb) : Prop where
  request : ∃ current, Rows.find IntegrationActivationRequest.id db.activations rollout.requestId =
    some current ∧ IsFor rollout current
  entry : ∃ entry, Rows.find IntegrationRegistryEntry.id db.registry.entries rollout.sourceId =
    some entry ∧ rollout.isRuntime entry = false ∧
      ((asObject (some entry.manifest)).map Prod.fst).Nodup
  distinct : (db.registry.entries.map (·.id)).Nodup
  fresh : ∀ n, db.nextUuid ≤ n → env.uuid.text n ∉ db.registry.entries.map (·.id)

def Rollout.findRuntime (rollout : Rollout) (entries : List IntegrationRegistryEntry) :
    Option IntegrationRegistryEntry :=
  (newestFirst IntegrationRegistryEntry.createdAt (entries.filter rollout.isRuntime)).head?

variable {env rollout} {db db' : ActivationDb} {s : RolloutState} {e : RolloutEvent}
  {current request : IntegrationActivationRequest} {entry installed : IntegrationRegistryEntry}

theorem installed_eq (isFor : IsFor rollout current) :
    (rolloutContext db current).installedRuntimeEntry =
      rollout.findRuntime db.registry.entries := by
  simp only [rolloutContext, isFor.tenant, Option.bind_some, findInstalledRuntime,
    isFor.connectorKey, isFor.version, Rollout.findRuntime]
  rfl

theorem registryEntry_eq (isFor : IsFor rollout current) :
    (rolloutContext db current).registryEntry =
      Rows.find IntegrationRegistryEntry.id db.registry.entries rollout.sourceId := by
  simp only [rolloutContext, findActivationEntry, isFor.source]

def IntegrationRegistryEntry.rewritten (row entry : IntegrationRegistryEntry) :
    IntegrationRegistryEntry :=
  { entry with
    organizationId := row.organizationId
    status := row.status
    manifest := row.manifest
    updatedAt := row.updatedAt }

theorem newestFirst_modify (id : Uuid) (row : IntegrationRegistryEntry)
    (entries : List IntegrationRegistryEntry) : newestFirst IntegrationRegistryEntry.createdAt
        (Rows.modify IntegrationRegistryEntry.id id row.rewritten entries) =
      Rows.modify IntegrationRegistryEntry.id id row.rewritten
        (newestFirst IntegrationRegistryEntry.createdAt entries) := by
  have dated (entry : IntegrationRegistryEntry) :
      (if decide (entry.id = id) = true then row.rewritten entry else entry).createdAt =
        entry.createdAt := by
    split <;> rfl
  refine (map_insertionSort _ _ _ _ fun left _ right _ => ?_).symm
  rw [dated, dated]

theorem findRuntime_update {row : IntegrationRegistryEntry}
    (found : rollout.findRuntime entries = some existing) : rollout.findRuntime
        (Rows.modify IntegrationRegistryEntry.id existing.id row.rewritten entries) =
      some (row.rewritten existing) := by
  have kept : ∀ entry, rollout.isRuntime (row.rewritten entry) = rollout.isRuntime entry :=
    fun _ => rfl
  rw [Rollout.findRuntime, Rows.filter_modify kept, newestFirst_modify]
  rw [Rollout.findRuntime] at found
  obtain ⟨rest, is⟩ := head?_eq_some_iff.mp found
  rw [is, Rows.modify, Rows.updateWhere, map_cons, head?_cons, if_pos (by simp)]

theorem findRuntime_create {row : IntegrationRegistryEntry}
    (absent : rollout.findRuntime entries = none) (isRuntime : rollout.isRuntime row = true) :
    rollout.findRuntime (entries ++ [row]) = some row := by
  rw [Rollout.findRuntime, head?_eq_none_iff] at absent
  have none_ : entries.filter rollout.isRuntime = [] := by
    refine eq_nil_iff_forall_not_mem.mpr fun entry listed => ?_
    have member : entry ∈ newestFirst IntegrationRegistryEntry.createdAt _ :=
      mem_newestFirst.mpr listed
    rw [absent] at member
    cases member
  rw [Rollout.findRuntime, filter_append, none_, nil_append, filter_cons_of_pos isRuntime]
  rfl

theorem findRuntime_some (found : rollout.findRuntime entries = some existing) :
    existing ∈ entries ∧ rollout.isRuntime existing = true :=
  mem_filter.mp (mem_newestFirst.mp (mem_of_mem_head? found))

/-- The entries after an installation: the runtime is found again, and the source stands. -/
structure LeavesRuntime (env : EnterpriseEnv) (rollout : Rollout)
    (installed : IntegrationRegistryEntry) (db db' : ActivationDb) : Prop where
  found : rollout.findRuntime db'.registry.entries = some installed
  source : Rows.find IntegrationRegistryEntry.id db'.registry.entries rollout.sourceId =
    Rows.find IntegrationRegistryEntry.id db.registry.entries rollout.sourceId
  distinct : (db'.registry.entries.map (·.id)).Nodup
  fresh : ∀ n, db'.nextUuid ≤ n → env.uuid.text n ∉ db'.registry.entries.map (·.id)

variable {now : Moment} {installer : Installer} {manifest : Fields} {input : Json}
  {context : RolloutContext}

theorem leavesRuntime_create (own : OwnSource env rollout db)
    (absent : rollout.findRuntime db.registry.entries = none)
    (isRuntime : rollout.isRuntime installed = true)
    (new : installed.id = env.uuid.text db.nextUuid) : LeavesRuntime env rollout installed db
      { db.withEntries (db.registry.entries ++ [installed]) with
        nextUuid := db.nextUuid + 1 } where
  found := findRuntime_create absent isRuntime
  source := by
    refine Rows.find_append_old fun same => ?_
    obtain ⟨entry, found, -, -⟩ := own.entry
    obtain ⟨stored, keyed⟩ := Rows.find_some found
    refine own.fresh db.nextUuid le_rfl ?_
    rw [← new, same, ← keyed]
    exact mem_map_of_mem stored
  distinct := by
    show ((db.registry.entries ++ [installed]).map (·.id)).Nodup
    rw [map_append, map_singleton, new]
    exact nodup_append'.mpr ⟨own.distinct, nodup_singleton _, fun id listed same =>
      own.fresh db.nextUuid le_rfl (mem_singleton.mp same ▸ listed)⟩
  fresh n later listed := by
    have either : env.uuid.text n ∈ (db.registry.entries ++ [installed]).map (·.id) := listed
    rw [map_append, map_singleton, new] at either
    rcases mem_append.mp either with old | same
    · exact own.fresh n (Nat.le_of_succ_le later) old
    · have is := env.uuid.distinct (mem_singleton.mp same)
      exact absurd later (by simp [is])

theorem leavesRuntime_update (own : OwnSource env rollout db)
    (found : rollout.findRuntime db.registry.entries = some existing)
    (is : installed.rewritten existing = installed) : LeavesRuntime env rollout installed db
      (db.withEntries (Rows.modify IntegrationRegistryEntry.id existing.id (fun _ => installed)
        db.registry.entries)) := by
  have sameId : installed.id = existing.id := by rw [← is]; rfl
  obtain ⟨stored, isRuntime⟩ := findRuntime_some found
  have written : Rows.modify IntegrationRegistryEntry.id existing.id (fun _ => installed)
      db.registry.entries = Rows.modify IntegrationRegistryEntry.id existing.id installed.rewritten
        db.registry.entries := by
    refine Rows.modify_congr fun entry listed here => ?_
    rw [Rows.eq_of_key own.distinct listed stored here, is]
  constructor
  · rw [ActivationDb.withEntries, written, findRuntime_update found, is]
  · show Rows.find _ (Rows.modify _ _ _ _) _ = _
    rw [Rows.find_put sameId, if_neg]
    intro same
    obtain ⟨entry, found', notRuntime, -⟩ := own.entry
    obtain ⟨stored', keyed⟩ := Rows.find_some found'
    rw [Rows.eq_of_key own.distinct stored' stored (keyed.trans same)] at notRuntime
    rw [isRuntime] at notRuntime
    cases notRuntime
  · show ((Rows.modify _ _ _ _).map _).Nodup
    rw [Rows.map_put sameId]
    exact own.distinct
  · intro n later
    show _ ∉ (Rows.modify _ _ _ _).map _
    rw [Rows.map_put sameId]
    exact own.fresh n later

theorem leavesRuntime_of_installs (own : OwnSource env rollout db) (isFor : IsFor rollout current)
    (installs : Installs env now installer db rollout.requestId input current entry targetTenantId
      installed request db') : LeavesRuntime env rollout installed db db' := by
  have tenant : targetTenantId = rollout.tenantId :=
    Option.some.inj (installs.tenant.symm.trans isFor.tenant)
  have existing : (rolloutContext db current).installedRuntimeEntry =
      rollout.findRuntime db.registry.entries := installed_eq isFor
  have is := installs.entry_eq
  rw [installs.db_eq]
  unfold runtimeEntry at is
  unfold ActivationDb.putRuntime
  rw [existing] at is ⊢
  cases found : rollout.findRuntime db.registry.entries with
  | none =>
    rw [found] at is
    dsimp only at is ⊢
    have isRuntime : rollout.isRuntime installed = true := by
      rw [is]
      simp [Rollout.isRuntime, rolloutContext, tenant, isFor.connectorKey, isFor.version]
    have left := leavesRuntime_create own found isRuntime (by rw [is])
    exact ⟨left.found, left.source, left.distinct, left.fresh⟩
  | some existing =>
    rw [found] at is
    dsimp only at is ⊢
    have rewritten : installed.rewritten existing = installed := by rw [is]; rfl
    have left := leavesRuntime_update own found rewritten
    exact ⟨left.found, left.source, left.distinct, left.fresh⟩

theorem putRuntime_publications (db : ActivationDb) (context : RolloutContext)
    (row : IntegrationRegistryEntry) :
    (db.putRuntime context row).publications = db.publications := by
  unfold ActivationDb.putRuntime
  split <;> rfl

theorem putRuntime_templates (db : ActivationDb) (context : RolloutContext)
    (row : IntegrationRegistryEntry) :
    (db.putRuntime context row).registry.templates = db.registry.templates := by
  unfold ActivationDb.putRuntime
  split <;> rfl

/-- The source of a rollout is the same in both contexts. -/
structure SameSource (context context' : RolloutContext) : Prop where
  publication : context'.publication = context.publication
  registryEntry : context'.registryEntry = context.registryEntry
  connectorTemplate : context'.connectorTemplate = context.connectorTemplate

theorem SameSource.sourceManifest {context context' : RolloutContext}
    (same : SameSource context context') : context'.sourceManifest = context.sourceManifest := by
  rw [RolloutContext.sourceManifest, same.registryEntry, same.connectorTemplate,
    RolloutContext.sourceManifest]

/-- An installation leaves the request and its source, and the runtime that it wrote. -/
structure LeavesRollout (env : EnterpriseEnv) (rollout : Rollout)
    (current : IntegrationActivationRequest) (installed : IntegrationRegistryEntry)
    (db db' : ActivationDb) : Prop where
  own : OwnSource env rollout db'
  context : ∃ context, rollout.context db' = some context ∧
    SameSource (rolloutContext db current) context ∧ context.installedRuntimeEntry = some installed

theorem leavesRollout_of_installs (own : OwnSource env rollout db) (isFor : IsFor rollout current)
    (installs : Installs env now installer db rollout.requestId input current entry targetTenantId
      installed request db') : LeavesRollout env rollout current installed db db' := by
  have left := leavesRuntime_of_installs own isFor installs
  have isFor' : IsFor rollout request := by
    rw [installs.request_eq]
    exact ⟨isFor.source, isFor.tenant, isFor.connectorKey, isFor.version⟩
  have keyed : request.id = rollout.requestId := by
    rw [installs.request_eq]
    exact (Rows.find_some installs.found).2
  have stored : Rows.find IntegrationActivationRequest.id db'.activations rollout.requestId =
      some request := by
    rw [installs.db_eq]
    show Rows.find _ (Rows.modify _ _ _ _) _ = _
    rw [Rows.find_put keyed, if_pos rfl, installs.found, Option.map_some]
  have publications : db'.publications = db.publications := by
    rw [installs.db_eq]
    exact putRuntime_publications db _ _
  have templates : db'.registry.templates = db.registry.templates := by
    rw [installs.db_eq]
    exact putRuntime_templates db _ _
  have publication :
      findActivationPublication db' request = findActivationPublication db current := by
    rw [findActivationPublication, publications, installs.request_eq]
    rfl
  refine ⟨⟨⟨request, stored, isFor'⟩, ?_, left.distinct, left.fresh⟩, rolloutContext db' request,
    by rw [Rollout.context, stored, Option.map_some], ⟨publication, ?_, ?_⟩, ?_⟩
  · rw [left.source]
    exact own.entry
  · rw [registryEntry_eq isFor', registryEntry_eq isFor, left.source]
  · simp only [rolloutContext, publication, findConnectorTemplate, templates, isFor.connectorKey,
      isFor'.connectorKey, isFor.version, isFor'.version]
  · rw [installed_eq isFor', left.found]

/-- What the options have from the body of a call. -/
structure ReadFrom (input : Json) (options : InstallOptions) : Prop where
  preserves : options.preserveTenantOverrides = isNotFalse (input.get? "preserveTenantOverrides")
  manifest : options.manifestOverrides = asObject (input.get? "manifestOverrides")
  runtime : options.runtimeOverrides = asObject (input.get? "runtimeOverrides")

theorem readFrom_install (env : EnterpriseEnv) (now : Moment) (installer : Installer)
    (input : Json) : ReadFrom input (readInstallOptions env now installer input) :=
  ⟨rfl, rfl, rfl⟩

theorem readFrom_reconcile (env : EnterpriseEnv) (now : Moment) (installer : Installer)
    (input : Json) :
    ReadFrom input (readInstallOptions env now installer (reconcileInput input)) := by
  have read (key : String) : (reconcileInput input).get? key =
      get (spread (asObject (some input))
        [("preserveTenantOverrides", .bool (isNotFalse (input.get? "preserveTenantOverrides"))),
          ("installNotes", .str (textOr (input.get? "installNotes")
            "Reconciled runtime rollout to current source artifact."))]) key := rfl
  have field (key : String) : get (asObject (some input)) key = input.get? key := by
    cases input <;> rfl
  have kept (key : String) (other : "preserveTenantOverrides" ≠ key ∧ "installNotes" ≠ key) :
      (reconcileInput input).get? key = input.get? key := by
    rw [read, get_spread (by simp), get_cons, if_neg other.1, get_cons,
      if_neg other.2, get_nil, Option.none_or, field]
  refine ⟨?_, congrArg asObject (kept "manifestOverrides" (by decide)),
    congrArg asObject (kept "runtimeOverrides" (by decide))⟩
  show isNotFalse ((reconcileInput input).get? "preserveTenantOverrides") = _
  rw [read, get_spread (by simp), get_cons, if_pos rfl, Option.some_or]
  cases isNotFalse (input.get? "preserveTenantOverrides") <;> rfl

variable {options : InstallOptions} {overrides : List Fields} {key : String} {rest : List String}
  {value : Json}

theorem valueAt_overridden (read : ReadFrom input options)
    (takes : TakesSource context input overrides) (assigned : assignedBy input ⊆ overrides)
    (stands : valueAt context.sourceManifest key rest = some value)
    (untouched : Untouched overrides key rest) :
    valueAt (overriddenManifest context options) key rest = some value := by
  have manifest : ¬Touches options.manifestOverrides key rest := by
    rw [read.manifest]
    exact untouched _ (assigned mem_cons_self)
  refine Customization.valueAt_merge ?_ manifest
  split
  · rename_i preserved
    rw [Bool.and_eq_true, read.preserves] at preserved
    exact takes.preserved preserved.1 preserved.2 key rest value stands untouched
  · exact stands

theorem valueAt_runtime {fields patch : Fields}
    (stands : valueAt fields "runtime" rest = some value)
    (object : rest = [] → ∃ runtime, value = .obj runtime)
    (clear : patch = [] ∨ ¬Touches [("runtime", .obj patch)] "runtime" rest) :
    valueAt (Record.set fields "runtime"
      (.obj (deepMergeRecord (asObject (Record.get fields "runtime")) patch))) "runtime" rest =
        some value := by
  obtain ⟨current, read, below⟩ := Option.bind_eq_some_iff.mp stands
  obtain ⟨runtime, rfl⟩ : ∃ runtime, current = .obj runtime := by
    cases rest with
    | nil =>
      obtain rfl := Option.some.inj below
      exact object rfl
    | cons _ _ => exact Customization.isObject_of_valueBelow below
  rw [valueAt, get_set, if_pos rfl, read]
  rcases clear with rfl | clear
  · exact below
  · have untouched : ¬Customization.TouchesBelow (.obj patch) rest := fun touched =>
      clear ⟨_, mem_singleton_self _, rfl, touched⟩
    exact Customization.valueBelow_mergeField below untouched

theorem valueAt_built (read : ReadFrom input options) (takes : TakesSource context input overrides)
    (assigned : assignedBy input ⊆ overrides)
    (stands : valueAt context.sourceManifest key rest = some value)
    (untouched : Untouched overrides key rest) :
    valueAt (buildInstalledRuntimeManifest env context entry options) key rest = some value := by
  have overridden := valueAt_overridden read takes assigned stands untouched
  have notRecord : "enterpriseRollout" ≠ key := by
    rintro rfl
    rw [valueAt, takes.clean] at stands
    cases stands
  have later (fields : Fields) (record : Json) (stands : valueAt fields key rest = some value) :
      valueAt (set fields "enterpriseRollout" record) key rest = some value := by
    rwa [valueAt, get_set, if_neg notRecord]
  refine later _ _ ?_
  by_cases runtime : key = "runtime"
  · subst runtime
    refine valueAt_runtime overridden (fun whole => ?_) ?_
    · subst whole
      obtain ⟨current, found, is⟩ := Option.bind_eq_some_iff.mp stands
      obtain rfl := Option.some.inj is
      exact takes.runtime current found untouched
    · rw [read.runtime]
      refine or_iff_not_imp_left.mpr fun given => untouched _ (assigned ?_)
      rw [assignedBy, if_neg given]
      exact mem_cons_of_mem _ (mem_singleton_self _)
  · rw [valueAt, get_set, if_neg (Ne.symm runtime)]
    exact overridden

theorem stripEnterpriseRollout_eq {source : Fields} (distinct : (source.map Prod.fst).Nodup)
    (clean : IsClean source) : stripEnterpriseRollout source = source := by
  rw [stripEnterpriseRollout, Customization.merge_empty distinct, erase, filter_eq_self]
  intro field listed
  have other : field.1 ≠ "enterpriseRollout" := fun same =>
    get_eq_none_iff.mp clean (same ▸ mem_map_of_mem listed)
  simpa using other

theorem digest_eq_iff (injective : Function.Injective env.sha256) {source source' : Fields}
    (distinct : (source.map Prod.fst).Nodup) (clean : IsClean source)
    (distinct' : (source'.map Prod.fst).Nodup) (clean' : IsClean source') :
    computeRuntimeSourceDigest env source = computeRuntimeSourceDigest env source' ↔
      source = source' := by
  rw [computeRuntimeSourceDigest, computeRuntimeSourceDigest,
    stripEnterpriseRollout_eq distinct clean, stripEnterpriseRollout_eq distinct' clean']
  refine ⟨fun same => ?_, fun same => by rw [same]⟩
  exact Json.obj.inj (Json.stringify_injective (injective same))

theorem nodup_sourceManifest (own : OwnSource env rollout db) (isFor : IsFor rollout current) :
    ((rolloutContext db current).sourceManifest.map Prod.fst).Nodup := by
  obtain ⟨entry, found, -, distinct⟩ := own.entry
  refine Customization.nodup_keys_merge ?_
  rw [registryEntry_eq isFor, found]
  exact distinct

theorem runtimeEntry_manifest {new : Uuid} :
    (runtimeEntry env now new context targetTenantId manifest input).manifest = .obj manifest := by
  unfold runtimeEntry
  split <;> rfl

theorem sourceDigest_built {context' : RolloutContext} (is : context'.installedManifest =
      buildInstalledRuntimeManifest env context entry options) :
    context'.sourceDigestInstalled =
      some (computeRuntimeSourceDigest env context.sourceManifest) := by
  rw [RolloutContext.sourceDigestInstalled, RolloutContext.enterpriseRollout, is,
    buildInstalledRuntimeManifest, get_set, if_pos rfl]
  rfl

end Exetron.Enterprise
