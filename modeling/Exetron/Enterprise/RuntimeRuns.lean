import Exetron.Enterprise.ActivationRuns
import Exetron.Enterprise.ExecutionPolicy

/-!
# Runtimes over a run

Requests, installations, governance and execution policies of any number of activations. What the
governance of one does to the runtimes and the sources of the others.
-/

namespace Exetron.Enterprise

open Lib List

variable {now : Moment} {input : Json}

inductive RuntimeOperation where
  /-- Whatever other services make of the rest of the registry and of the publications. -/
  | edit (templates : List ConnectorTemplate) (secrets : List SecretRegistryEntry)
      (publications : List IntegrationPublication)
  | createEntry (row : IntegrationRegistryEntry)
  | updateEntry (id : Uuid) (change : IntegrationRegistryEntry → IntegrationRegistryEntry)
  | request (publicationId : Uuid) (input : Json)
  | requestInventory (input : Json)
  | updateStatus (id : Uuid) (input : Json)
  | apply (id : Uuid) (input : Json)
  | install (installer : Installer) (id : Uuid) (input : Json)
  | reconcile (installer : Installer) (id : Uuid) (input : Json)
  | govern (id : Uuid) (input : Json)
  | execute (id : Uuid) (input : Json)

structure RuntimeEvent where
  now : Moment
  operation : RuntimeOperation

/-- The state of an answer, or the one before a call that fails. -/
def ActivationDb.after {α : Type} (s : ActivationDb)
    (answer : Except ApiException (α × ActivationDb)) : ActivationDb :=
  match answer with
  | .ok (_, s') => s'
  | .error _ => s

def ActivationDb.empty : ActivationDb := .initial ⟨[], [], [], []⟩ []

def ActivationDb.addEntry (s : ActivationDb) (row : IntegrationRegistryEntry) : ActivationDb :=
  { s with
    registry.entries := s.registry.entries ++ [row]
    nextUuid := s.nextUuid + 1 }

variable (env : EnterpriseEnv) (process : ProcessEnv)

def runtimeStep (s : ActivationDb) (e : RuntimeEvent) : ActivationDb :=
  let new := env.uuid.text s.nextUuid
  match e.operation with
  | .edit templates secrets publications =>
    { s with registry.templates := templates, registry.secrets := secrets, publications }
  | .createEntry row => s.addEntry { row with id := new }
  | .updateEntry id change =>
    { s with
      registry.entries := Rows.modify IntegrationRegistryEntry.id id
        (fun entry => { change entry with id := entry.id }) s.registry.entries }
  | .request publicationId input =>
    s.addActivation (createIntegrationActivationRequest env s new publicationId input)
  | .requestInventory input => s.addActivation (createInventoryActivationRequest env s new input)
  | .updateStatus id input =>
    s.withActivations (updateIntegrationActivationRequestStatus env e.now id input s.activations)
  | .apply id input => s.withActivations (applyIntegrationActivationRequest env e.now s id input)
  | .install installer id input =>
    s.after (installIntegrationActivationRuntime env e.now installer s id input)
  | .reconcile installer id input =>
    s.after (reconcileIntegrationRuntimeRollout env e.now installer s id input)
  | .govern id input => s.after (applyIntegrationRuntimeRolloutGovernance env e.now s id input)
  | .execute id input => s.after (applyInventoryExecutionPolicy env process e.now s id input)

def runtimeRun (events : List RuntimeEvent) : ActivationDb :=
  Trace.run (runtimeStep env process) .empty events

/-- The request that installed the entry, as its manifest has it. -/
def IntegrationRegistryEntry.installedBy (entry : IntegrationRegistryEntry) : Option Uuid :=
  fieldText (asObject (Record.get (asObject (some entry.manifest)) "enterpriseRollout"))
    "activationRequestId"

/-- The entry that some request installs from. -/
def IsSource (s : ActivationDb) (entry : IntegrationRegistryEntry) : Prop :=
  ∃ request ∈ s.activations, findActivationEntry s request = some entry

def IsDown (status : String) : Prop := status = "SUSPENDED" ∨ status = "ARCHIVED"

/-- What the governance of the request may do to an entry. -/
structure LeavesEntry (s : ActivationDb) (id : Uuid)
    (entry entry' : IntegrationRegistryEntry) : Prop where
  same : entry'.id = entry.id
  own : entry'.manifest ≠ entry.manifest ∨ entry'.status ≠ entry.status →
    entry.installedBy = some id
  running : entry'.status ≠ entry.status → IsDown entry'.status →
    ¬IsDown (env.normalized entry.status) → entry.installedBy = some id ∧ ¬IsSource s entry

/-- The request whose rollout the operation governs or revokes. -/
def RuntimeOperation.governed : RuntimeOperation → Option Uuid
  | .govern id _ => some id
  | .execute id _ => some id
  | .updateStatus id _ => some id
  | _ => none

def LeavesOthers (s : ActivationDb) (e : RuntimeEvent) : Prop :=
  ∀ id ∈ e.operation.governed, List.Forall₂ (LeavesEntry env s id) s.registry.entries
    (runtimeStep env process s e).registry.entries

/-- The call takes the runtime of the request down. -/
def Deactivates (s : ActivationDb) (e : RuntimeEvent) (context : RolloutContext) : Prop :=
  match e.operation with
  | .govern _ input => isTrue (input.get? "deactivateRuntime") = true ∧
      ∃ facts, presentStatus env e.now context = .ok facts ∧
        facts.worst (context.recordWeight env) = .blocked
  | .execute _ input => ∃ readiness,
      getActivationRuntimeRolloutReadinessSnapshot env e.now context = .ok readiness ∧
        (executionPolicyOf env process s.registry.secrets context readiness).shouldDeactivate
          input = true
  | _ => False

/-- The newest entry of the tenant for the connector is one that the request installed, and it is
no source when the call takes it down. -/
def GovernsOwn (s : ActivationDb) (e : RuntimeEvent) : Prop :=
  match e.operation with
  | .govern id _ | .execute id _ =>
    ∀ current, Rows.find IntegrationActivationRequest.id s.activations id = some current →
      ∀ installed, (rolloutContext s current).installedRuntimeEntry = some installed →
        installed.installedBy = some id ∧
          (Deactivates env process s e (rolloutContext s current) → ¬IsSource s installed)
  | _ => True

variable {env} {process} {s : ActivationDb} {e : RuntimeEvent}

/-- Every entry has an identifier of its own, given out before. -/
structure OwnEntries (env : EnterpriseEnv) (s : ActivationDb) : Prop where
  distinct : (s.registry.entries.map (·.id)).Nodup
  issued : ∀ row ∈ s.registry.entries, ∃ k < s.nextUuid, env.uuid.text k = row.id

/-- What a step makes of the identifiers of the entries. -/
inductive EntriesMove (env : EnterpriseEnv) (s s' : ActivationDb) : Prop where
  | kept (same : s'.registry.entries.map (·.id) = s.registry.entries.map (·.id))
      (later : s.nextUuid ≤ s'.nextUuid)
  | added (more : s'.registry.entries.map (·.id) =
        s.registry.entries.map (·.id) ++ [env.uuid.text s.nextUuid])
      (next : s'.nextUuid = s.nextUuid + 1)

theorem addActivation_entries (answer : Except ApiException IntegrationActivationRequest) :
    (s.addActivation answer).registry = s.registry ∧
      (s.addActivation answer).nextUuid = s.nextUuid + 1 := by
  cases answer <;> exact ⟨rfl, rfl⟩

theorem withActivations_entries (answer : Except ApiException
      (IntegrationActivationRequest × List IntegrationActivationRequest)) :
    (s.withActivations answer).registry = s.registry ∧
      (s.withActivations answer).nextUuid = s.nextUuid := by
  cases answer <;> exact ⟨rfl, rfl⟩

theorem installs_entries {installer : Installer} {id : Uuid}
    {current request : IntegrationActivationRequest} {entry installed : IntegrationRegistryEntry}
    {tenantId : Uuid} {s' : ActivationDb}
    (installs : Installs env now installer s id input current entry tenantId installed request s') :
    EntriesMove env s s' := by
  rw [installs.db_eq]
  have made := installs.entry_eq
  unfold ActivationDb.putRuntime runtimeEntry at *
  cases here : (rolloutContext s current).installedRuntimeEntry with
  | none =>
    rw [here] at made
    refine .added ?_ rfl
    rw [map_append, map_singleton, made]
  | some existing =>
    rw [here] at made
    refine .kept (Rows.map_put ?_ _) le_rfl
    rw [made]

theorem recorded_entries (s : ActivationDb) (now : Moment) (id : Uuid)
    (installed : IntegrationRegistryEntry) (key : String) (record : Json) (runtimeStatus : String) :
    EntriesMove env s (s.recorded now id installed key record runtimeStatus) := by
  refine .kept ?_ le_rfl
  apply Rows.map_put
  rfl

theorem after_entries {α : Type} {answer : Except ApiException (α × ActivationDb)}
    (moves : ∀ a s', answer = .ok (a, s') → EntriesMove env s s') :
    EntriesMove env s (s.after answer) := by
  cases answer with
  | error refused => exact .kept rfl le_rfl
  | ok done => exact moves done.1 done.2 rfl

theorem step_entries (env : EnterpriseEnv) (process : ProcessEnv) (s : ActivationDb)
    (e : RuntimeEvent) : EntriesMove env s (runtimeStep env process s e) := by
  obtain ⟨now, operation⟩ := e
  cases operation with
  | edit templates secrets publications => exact .kept rfl le_rfl
  | createEntry row => exact .added (map_append ..) rfl
  | updateEntry id change =>
    refine .kept ?_ le_rfl
    apply Rows.map_modify
    exact fun _ => rfl
  | request publicationId input =>
    obtain ⟨registry, next⟩ := addActivation_entries (s := s)
      (createIntegrationActivationRequest env s (env.uuid.text s.nextUuid) publicationId input)
    exact .kept (congrArg (fun db => db.entries.map (·.id)) registry) (next ▸ Nat.le_succ _)
  | requestInventory input =>
    obtain ⟨registry, next⟩ := addActivation_entries (s := s)
      (createInventoryActivationRequest env s (env.uuid.text s.nextUuid) input)
    exact .kept (congrArg (fun db => db.entries.map (·.id)) registry) (next ▸ Nat.le_succ _)
  | updateStatus id input =>
    obtain ⟨registry, next⟩ := withActivations_entries (s := s)
      (updateIntegrationActivationRequestStatus env now id input s.activations)
    exact .kept (congrArg (fun db => db.entries.map (·.id)) registry) next.ge
  | apply id input =>
    obtain ⟨registry, next⟩ := withActivations_entries (s := s)
      (applyIntegrationActivationRequest env now s id input)
    exact .kept (congrArg (fun db => db.entries.map (·.id)) registry) next.ge
  | install installer id input =>
    refine after_entries fun request s' answer => ?_
    obtain ⟨_, _, _, _, installs⟩ := installIntegrationActivationRuntime_ok answer
    exact installs_entries installs
  | reconcile installer id input =>
    refine after_entries fun request s' answer => ?_
    simp only [reconcileIntegrationRuntimeRollout, except_bind_ok_iff] at answer
    obtain ⟨_, -, _, -, done⟩ := answer
    obtain ⟨_, _, _, _, installs⟩ := installIntegrationActivationRuntime_ok done
    exact installs_entries installs
  | govern id input =>
    refine after_entries fun verdict s' answer => ?_
    obtain ⟨_, _, _, governs⟩ := governance_ok answer
    exact governs.db_eq ▸ recorded_entries ..
  | execute id input =>
    refine after_entries fun policy s' answer => ?_
    obtain ⟨_, _, _, executes⟩ := executionPolicy_ok answer
    exact executes.db_eq ▸ recorded_entries ..

theorem ownEntries_step (own : OwnEntries env s) (e : RuntimeEvent) :
    OwnEntries env (runtimeStep env process s e) := by
  have before (id : Uuid) (listed : id ∈ s.registry.entries.map (·.id)) :
      ∃ k < s.nextUuid, env.uuid.text k = id := by
    obtain ⟨row, stored, rfl⟩ := mem_map.mp listed
    exact own.issued row stored
  rcases step_entries env process s e with ⟨same, later⟩ | ⟨more, next⟩
  · refine ⟨same ▸ own.distinct, fun row stored => ?_⟩
    have listed : row.id ∈ s.registry.entries.map (·.id) := same ▸ mem_map_of_mem stored
    obtain ⟨k, low, is⟩ := before row.id listed
    exact ⟨k, low.trans_le later, is⟩
  · refine ⟨?_, fun row stored => ?_⟩
    · rw [more]
      refine nodup_append'.mpr ⟨own.distinct, nodup_singleton _, fun id listed new => ?_⟩
      obtain ⟨k, low, is⟩ := before id listed
      exact absurd (env.uuid.distinct (is.trans (mem_singleton.mp new))) low.ne
    · have listed : row.id ∈ s.registry.entries.map (·.id) ++ [env.uuid.text s.nextUuid] :=
        more ▸ mem_map_of_mem stored
      rcases mem_append.mp listed with old | new
      · obtain ⟨k, low, is⟩ := before row.id old
        exact ⟨k, by omega, is⟩
      · exact ⟨s.nextUuid, by omega, (mem_singleton.mp new).symm⟩

theorem ownEntries_empty (env : EnterpriseEnv) : OwnEntries env .empty :=
  ⟨nodup_nil, fun _ stored => absurd stored not_mem_nil⟩

variable {id : Uuid}

theorem leavesEntry_refl (entry : IntegrationRegistryEntry) : LeavesEntry env s id entry entry where
  same := rfl
  own changed := by
    rcases changed with other | other <;> exact absurd rfl other
  running other := absurd rfl other

theorem leavesOthers_refl {entries : List IntegrationRegistryEntry}
    (same : entries = s.registry.entries) :
    List.Forall₂ (LeavesEntry env s id) s.registry.entries entries := by
  rw [same]
  exact forall₂_same.mpr fun entry _ => leavesEntry_refl entry

theorem leavesOthers_recorded (own : OwnEntries env s) {current : IntegrationActivationRequest}
    {installed : IntegrationRegistryEntry} {key : String} {record : Json} {runtimeStatus : String}
    (here : (rolloutContext s current).installedRuntimeEntry = some installed)
    (owner : installed.installedBy = some id)
    (running : runtimeStatus ≠ installed.status → IsDown runtimeStatus →
      ¬IsDown (env.normalized installed.status) → ¬IsSource s installed) :
    List.Forall₂ (LeavesEntry env s id) s.registry.entries
      (s.recorded now id installed key record runtimeStatus).registry.entries := by
  obtain ⟨tenantId, -, found⟩ := Option.bind_eq_some_iff.mp here
  have stored : installed ∈ s.registry.entries :=
    (mem_filter.mp (mem_newestFirst.mp (mem_of_mem_head? found))).1
  refine forall₂_map_right_iff.mpr (forall₂_same.mpr fun entry listed => ?_)
  split
  case isFalse => exact leavesEntry_refl entry
  case isTrue keyed =>
    have keyed' : entry.id = installed.id := of_decide_eq_true keyed
    obtain rfl := Rows.eq_of_key own.distinct listed stored keyed'
    exact ⟨rfl, fun _ => owner, fun other down up => ⟨owner, running other down up⟩⟩

theorem nextRuntimeStatus_down {verdict : GovernanceVerdict} {status : String}
    (other : nextRuntimeStatus env input verdict status ≠ status) :
    isTrue (input.get? "deactivateRuntime") = true ∧ verdict.governanceStatus = .blocked := by
  by_contra kept
  exact other (if_neg kept)

theorem executionRuntimeStatus_down {policy : ExecutionPolicy} {status : String}
    (down : IsDown (executionRuntimeStatus env policy input status))
    (up : ¬IsDown (env.normalized status)) : policy.shouldDeactivate input = true := by
  by_contra kept
  rw [executionRuntimeStatus, if_neg kept, Text.orElse] at down
  split at down
  · rcases down with is | is <;> exact absurd is (by decide)
  · exact up down

theorem leavesOthers_step (own : OwnEntries env s) (governs : GovernsOwn env process s e) :
    LeavesOthers env process s e := by
  obtain ⟨now, operation⟩ := e
  intro id governed
  cases operation with
  | govern id' input =>
    obtain rfl := Option.some.inj governed
    simp only [runtimeStep]
    cases answer : applyIntegrationRuntimeRolloutGovernance env now s id' input with
    | error refused => exact leavesOthers_refl rfl
    | ok done =>
      obtain ⟨current, installed, facts, did⟩ := governance_ok answer
      obtain ⟨owner, apart⟩ := governs current did.found installed did.installed_eq
      rw [ActivationDb.after, did.db_eq]
      refine leavesOthers_recorded own did.installed_eq owner fun other _ _ => apart ?_
      obtain ⟨asked, blocked⟩ := nextRuntimeStatus_down other
      exact ⟨asked, facts, did.judged, did.status ▸ blocked⟩
  | execute id' input =>
    obtain rfl := Option.some.inj governed
    simp only [runtimeStep]
    cases answer : applyInventoryExecutionPolicy env process now s id' input with
    | error refused => exact leavesOthers_refl rfl
    | ok done =>
      obtain ⟨current, installed, record, did⟩ := executionPolicy_ok answer
      obtain ⟨owner, apart⟩ := governs current did.found installed did.installed_eq
      obtain ⟨readiness, read, policy⟩ := did.policy_eq
      rw [ActivationDb.after, did.db_eq]
      refine leavesOthers_recorded own did.installed_eq owner fun _ down up => apart ?_
      exact ⟨readiness, read, policy ▸ executionRuntimeStatus_down down up⟩
  | updateStatus id' input =>
    exact leavesOthers_refl (congrArg RegistryDb.entries (withActivations_entries _).1)
  | _ => cases governed

/-- Along a run that governs only runtimes of the request's own, no governance touches an entry of
another activation. -/
theorem leavesOthers_of_governsOwn (env : EnterpriseEnv) (process : ProcessEnv)
    (events : List RuntimeEvent)
    (governs : Trace.Along (runtimeStep env process) (GovernsOwn env process) .empty events) :
    Trace.Along (runtimeStep env process) (LeavesOthers env process) .empty events := by
  have keeps : ∀ s e, OwnEntries env s → OwnEntries env (runtimeStep env process s e) :=
    fun s e own => ownEntries_step own e
  have same : ∀ s e, OwnEntries env s → (GovernsOwn env process s e ↔
      GovernsOwn env process s e ∧ LeavesOthers env process s e) :=
    fun s e own => ⟨fun governs => ⟨governs, leavesOthers_step own governs⟩, And.left⟩
  have both := (Trace.along_congr keeps same (ownEntries_empty env) events).mp governs
  exact Trace.along_mono (fun _ _ => And.right) both

def freshlaneRow : IntegrationRegistryEntry :=
  ⟨"", none, none, "freshlane", "1", "ACTIVE", .obj [], 0, 0⟩

def requestForStore (store : String) : RuntimeOperation :=
  .requestInventory (.obj [("connectorKey", .str "freshlane"), ("version", .str "1"),
    ("targetTenantId", .str "tenant"), ("targetStoreId", .str store),
    ("status", .str "APPROVED")])

theorem governsOwn_of_check
    (check : (Rows.find IntegrationActivationRequest.id s.activations id).all (fun current =>
      (rolloutContext s current).installedRuntimeEntry.all fun installed =>
        installed.installedBy = some id) = true)
    (kept : isTrue (input.get? "deactivateRuntime") = false) :
    GovernsOwn env process s ⟨now, .govern id input⟩ := by
  intro current found installed here
  rw [found, Option.all_some, here, Option.all_some] at check
  refine ⟨of_decide_eq_true check, fun deactivates => ?_⟩
  have asked := deactivates.1
  rw [kept] at asked
  cases asked

def development : ProcessEnv := ⟨none, none⟩

def oneStore : List RuntimeEvent :=
  let request := counterEnv.uuid.text 1
  [⟨0, .createEntry freshlaneRow⟩, ⟨1, requestForStore "north"⟩,
    ⟨2, .install (.user none) request (.obj [])⟩, ⟨3, .govern request (.obj [])⟩]

theorem oneStore_leavesOthers : Trace.Along (runtimeStep counterEnv development)
    (LeavesOthers counterEnv development) .empty oneStore :=
  leavesOthers_of_governsOwn counterEnv development oneStore
    ⟨trivial, trivial, trivial, governsOwn_of_check (by decide +kernel) rfl, trivial⟩

def twoStores : List RuntimeEvent :=
  let first := counterEnv.uuid.text 1
  let second := counterEnv.uuid.text 2
  [⟨0, .createEntry freshlaneRow⟩, ⟨1, requestForStore "north"⟩, ⟨2, requestForStore "south"⟩,
    ⟨3, .install (.user none) first (.obj [])⟩, ⟨4, .install (.user none) second (.obj [])⟩,
    ⟨5, .updateStatus first (.obj [("status", .str "REVOKED")])⟩]

def governFirst : RuntimeEvent :=
  ⟨6, .govern (counterEnv.uuid.text 1) (.obj [("deactivateRuntime", .bool true)])⟩

/-- Governing the first request archives the runtime that the second one installed. -/
theorem first_archives_second : ¬∀ events, Trace.Along (runtimeStep counterEnv development)
    (LeavesOthers counterEnv development) .empty events := by
  intro claim
  have along := Trace.along_append.mp (claim (twoStores ++ [governFirst]))
  have left := along.2.1 (counterEnv.uuid.text 1) rfl
  let before := runtimeRun counterEnv development twoStores
  have archived : (before.registry.entries.zip
      (runtimeStep counterEnv development before governFirst).registry.entries).any (fun rows =>
        rows.1.installedBy = some (counterEnv.uuid.text 2) ∧ rows.1.status = "ACTIVE" ∧
          rows.2.status = "ARCHIVED") = true := by decide +kernel
  obtain ⟨⟨entry, entry'⟩, paired, taken⟩ := List.any_eq_true.mp archived
  obtain ⟨second, active, down⟩ := of_decide_eq_true taken
  have leaves := (List.forall₂_iff_zip.mp left).2 paired
  have changed : entry'.status ≠ entry.status := by
    rw [active, down]
    decide
  have first := leaves.own (.inr changed)
  rw [second] at first
  exact absurd (counterEnv.uuid.distinct (Option.some.inj first)) (by decide)

end Exetron.Enterprise
