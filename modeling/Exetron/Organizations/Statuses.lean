import Exetron.Lib.Trace
import Exetron.Organizations.Frame

/-!
# The status of a record

A status stands in a column, in the `__meta` part of a document, or nowhere: a membership and a
tenant link are active in every answer, and a call that sets another status only says so.
-/

namespace Exetron.Organizations

open Lib List
open Enterprise (Uuid Moment map_ok_iff)

/-- What an answer tells of a record; its other fields are the columns. -/
structure ManagedRecord where
  id : Uuid
  status : String

def readManagedStatus (value : Json) (fallback : String) : String :=
  match value with
  | .obj source =>
    let managed := match Record.get source "__meta" with
      | some (.obj metadata) => Record.get metadata "status"
      | _ => none
    match (Json.present managed).or (Record.get source "status") with
    | some (.str status) => status
    | _ => fallback
  | _ => fallback

def mapMembership (row : OrganizationMembership) : ManagedRecord := ⟨row.id, "ACTIVE"⟩

def mapTenantLink (row : OrganizationTenantLink) : ManagedRecord := ⟨row.id, "ACTIVE"⟩

def mapGovernancePolicy (row : GovernancePolicy) : ManagedRecord :=
  ⟨row.id, readManagedStatus row.rules "ACTIVE"⟩

def mapRolloutTemplate (row : RolloutTemplate) : ManagedRecord :=
  ⟨row.id, readManagedStatus row.artifact "ACTIVE"⟩

def mapTemplateApplication (row : TemplateApplication) : ManagedRecord :=
  ⟨row.id, readManagedStatus row.resultSummary "APPLIED"⟩

def mapWhiteLabelPack (row : WhiteLabelPack) : ManagedRecord :=
  ⟨row.id, readManagedStatus row.artifact "ACTIVE"⟩

def mapPartnerAccount (row : PartnerAccount) : ManagedRecord := ⟨row.id, row.status⟩

inductive RecordRef where
  | membership (membershipId : Uuid)
  | tenantLink (linkId : Uuid)
  | policy (policyKey : String)
  | template (templateId : Uuid)
  | application (templateId applicationId : Uuid)
  | pack (packId : Uuid)
  | account (accountId : Uuid)

/-- `getMembership`, `getTenantLink` and so on. -/
def getRecord (db : OrganizationsDb) (organizationId : Uuid) :
    RecordRef → Except ApiException ManagedRecord
  | .membership id => mapMembership <$> findMembership db organizationId id
  | .tenantLink id => mapTenantLink <$> findTenantLink db organizationId id
  | .policy key => mapGovernancePolicy <$> required (findPolicy db organizationId key)
      (.badRequest "Governance policy not found.")
  | .template id => mapRolloutTemplate <$> findTemplate db organizationId id
  | .application templateId id =>
    mapTemplateApplication <$> findApplication db organizationId templateId id
  | .pack id => mapWhiteLabelPack <$> findPack db organizationId id
  | .account id => mapPartnerAccount <$> findAccount db organizationId id

def newest {α : Type} (time : α → Moment) (shown : α → Bool) (rows : List α) : List α :=
  (rows.filter shown).insertionSort fun left right => time right ≤ time left

/-- `listMemberships`, `listTenantLinks` and so on. -/
def listRecords (db : OrganizationsDb) (organizationId : Uuid) :
    RecordRef → Except ApiException (List ManagedRecord)
  | .membership _ => .ok ((newest OrganizationMembership.createdAt
      (fun row => row.organizationId = organizationId) db.memberships).map mapMembership)
  | .tenantLink _ => .ok ((newest OrganizationTenantLink.createdAt
      (fun row => row.organizationId = organizationId) db.tenantLinks).map mapTenantLink)
  | .policy _ => .ok ((newest GovernancePolicy.updatedAt
      (fun row => row.organizationId = organizationId) db.policies).map mapGovernancePolicy)
  | .template _ => .ok ((newest RolloutTemplate.updatedAt
      (fun row => row.organizationId = organizationId) db.templates).map mapRolloutTemplate)
  | .application templateId _ => do
    let _ ← findTemplate db organizationId templateId
    pure ((newest TemplateApplication.createdAt (fun row => row.templateId = templateId)
      db.applications).map mapTemplateApplication)
  | .pack _ => .ok ((newest WhiteLabelPack.updatedAt
      (fun row => row.organizationId = some organizationId) db.packs).map mapWhiteLabelPack)
  | .account _ => .ok ((newest PartnerAccount.updatedAt
      (fun row => row.organizationId = some organizationId) db.accounts).map mapPartnerAccount)

variable {env : OrganizationsEnv} {now : Moment} {db db' : OrganizationsDb} {organizationId : Uuid} {input : Json}
  {ref : RecordRef} {record : ManagedRecord}

def answered {α : Type} (f : α → ManagedRecord) (call : Except ApiException (α × OrganizationsDb)) :
    Except ApiException (String × OrganizationsDb) :=
  call.map fun done => ((f done.1).status, done.2)

theorem answered_ok {α : Type} {f : α → ManagedRecord} {s : String}
    {call : Except ApiException (α × OrganizationsDb)} (h : answered f call = .ok (s, db')) :
    ∃ row, call = .ok (row, db') ∧ (f row).status = s := by
  cases call with
  | error e => cases h
  | ok done =>
    cases h
    exact ⟨done.1, rfl, rfl⟩

variable (env) in
/-- The call that sets the status of a record: the status it answers, and what it stores. -/
def setStatus (now : Moment) (db : OrganizationsDb) (organizationId : Uuid) (input : Json) :
    RecordRef → Except ApiException (String × OrganizationsDb)
  | .membership id => .ok ((setMembershipStatus env db organizationId id input).2, db)
  | .tenantLink id => .ok ((setTenantLinkStatus env db organizationId id input).2, db)
  | .policy key =>
    answered mapGovernancePolicy (setGovernancePolicyStatus env now db organizationId key input)
  | .template id => answered mapRolloutTemplate (setTemplateStatus env now db organizationId id input)
  | .application templateId id => answered mapTemplateApplication
      (updateTemplateApplicationStatus env now db organizationId templateId id input)
  | .pack id =>
    answered mapWhiteLabelPack (setWhiteLabelPackStatus env now db organizationId id input)
  | .account id =>
    answered mapPartnerAccount (setPartnerAccountStatus env now db organizationId id input)

def RecordRef.setStatus (input : Json) : RecordRef → Operation
  | .membership id => .setMembershipStatus id input
  | .tenantLink id => .setTenantLinkStatus id input
  | .policy key => .setGovernancePolicyStatus key input
  | .template id => .setTemplateStatus id input
  | .application templateId id => .updateTemplateApplicationStatus templateId id input
  | .pack id => .setWhiteLabelPackStatus id input
  | .account id => .setPartnerAccountStatus id input

theorem perform_setStatus (now : Moment) (db : OrganizationsDb) (organizationId : Uuid)
    (input : Json) (ref : RecordRef) : perform env now db organizationId (ref.setStatus input) =
      Prod.snd <$> setStatus env now db organizationId input ref := by
  have snd {α : Type} (f : α → ManagedRecord) (call : Except ApiException (α × OrganizationsDb)) :
      Prod.snd <$> call = Prod.snd <$> answered f call := by cases call <;> rfl
  cases ref <;> first | rfl | exact snd _ _

variable (env) in
/-- The identifiers of the schema, none of them new. -/
structure Identified (db : OrganizationsDb) : Prop where
  memberships : Rows.Numbered env.uuid.text db.nextUuid (db.memberships.map (·.id))
  tenantLinks : Rows.Numbered env.uuid.text db.nextUuid (db.tenantLinks.map (·.id))
  policies : Rows.Numbered env.uuid.text db.nextUuid (db.policies.map (·.id))
  templates : Rows.Numbered env.uuid.text db.nextUuid (db.templates.map (·.id))
  applications : Rows.Numbered env.uuid.text db.nextUuid (db.applications.map (·.id))
  packs : Rows.Numbered env.uuid.text db.nextUuid (db.packs.map (·.id))
  accounts : Rows.Numbered env.uuid.text db.nextUuid (db.accounts.map (·.id))

theorem Writes.identified {T : Touched} (writes : Writes env T db db') (ids : Identified env db) :
    Identified env db' where
  memberships := writes.memberships.numbered env.uuid.distinct writes.later ids.memberships
  tenantLinks := writes.tenantLinks.numbered env.uuid.distinct writes.later ids.tenantLinks
  policies := writes.policies.numbered env.uuid.distinct writes.later ids.policies
  templates := writes.templates.numbered env.uuid.distinct writes.later ids.templates
  applications := writes.applications.numbered env.uuid.distinct writes.later ids.applications
  packs := writes.packs.numbered env.uuid.distinct writes.later ids.packs
  accounts := writes.accounts.numbered env.uuid.distinct writes.later ids.accounts

/-- The row that the reference names is one that is touched. -/
def Touched.at (T : Touched) (db : OrganizationsDb) (organizationId : Uuid) : RecordRef → Prop
  | .membership id => ∃ row, findMembership db organizationId id = .ok row ∧ T.memberships row
  | .tenantLink id => ∃ row, findTenantLink db organizationId id = .ok row ∧ T.tenantLinks row
  | .policy key => ∃ row, findPolicy db organizationId key = some row ∧ T.policies row
  | .template id => ∃ row, findTemplate db organizationId id = .ok row ∧ T.templates row
  | .application templateId id => ∃ row, findApplication db organizationId templateId id = .ok row ∧
      T.applications row
  | .pack id => ∃ row, findPack db organizationId id = .ok row ∧ T.packs row
  | .account id => ∃ row, findAccount db organizationId id = .ok row ∧ T.accounts row

theorem findOwn_still {α : Type} {id : α → Uuid} {organization : α → Option Uuid}
    {rows rows' : List α} {mine : α → Prop} {rowId : Uuid} {e : ApiException} {f : α → ManagedRecord}
    (change : Change env db db' id id mine rows rows')
    (ids : Rows.Numbered env.uuid.text db.nextUuid (rows.map id))
    (got : f <$> required (findOwn id organization rows organizationId rowId) e = .ok record)
    (apart : ∀ row, required (findOwn id organization rows organizationId rowId) e = .ok row →
      ¬mine row) :
    f <$> required (findOwn id organization rows' organizationId rowId) e = .ok record := by
  obtain ⟨row, found, rfl⟩ := map_ok_iff.mp got
  have here := required_ok_iff.mp found
  obtain ⟨-, -, keyed⟩ := findOwn_some here
  refine map_ok_iff.mpr ⟨row, required_ok_iff.mpr ?_, rfl⟩
  refine change.find ids.distinct (fun x y same shown => .inr ?_) here (apart row found)
  exact same.symm.trans ((of_decide_eq_true shown).2.trans keyed.symm)

theorem findTemplate_stays {T : Touched} {templateId : Uuid} {template : RolloutTemplate}
    (writes : Writes env T db db') (found : findTemplate db organizationId templateId = .ok template) :
    ∃ template', findTemplate db' organizationId templateId = .ok template' := by
  obtain ⟨stored, own, keyed⟩ := findTemplate_ok found
  obtain ⟨template', stored', keyed', own'⟩ := writes.stay template stored
  obtain ⟨found', here⟩ : ∃ found', findOwn RolloutTemplate.id (fun row => some row.organizationId)
      db'.templates organizationId templateId = some found' := by
    refine Option.isSome_iff_exists.mp (find?_isSome.mpr ⟨template', stored', ?_⟩)
    exact decide_eq_true ⟨congrArg some (own'.trans own), keyed'.trans keyed⟩
  exact ⟨found', required_ok_iff.mpr here⟩

theorem getRecord_still {T : Touched} (writes : Writes env T db db') (ids : Identified env db)
    (apart : ¬T.at db organizationId ref) (got : getRecord db organizationId ref = .ok record) :
    getRecord db' organizationId ref = .ok record := by
  cases ref with
  | policy key =>
    obtain ⟨row, found, rfl⟩ := map_ok_iff.mp got
    have here := required_ok_iff.mp found
    have still : findPolicy db' organizationId key = some row := by
      refine writes.policies.find ids.policies.distinct (fun x y same shown => .inl ?_) here
        fun mine => apart ⟨row, here, mine⟩
      obtain ⟨own, keyed⟩ := Prod.mk.inj same
      rwa [own, keyed] at shown
    exact map_ok_iff.mpr ⟨row, required_ok_iff.mpr still, rfl⟩
  | application templateId id =>
    obtain ⟨row, found, rfl⟩ := map_ok_iff.mp got
    obtain ⟨-, -, named, -⟩ := findApplication_ok found
    obtain ⟨template, ofTemplate, here⟩ := except_bind_ok_iff.mp found
    obtain ⟨template', ofTemplate'⟩ := findTemplate_stays writes ofTemplate
    have still := writes.applications.find ids.applications.distinct (fun x y same shown =>
      .inr (same.symm.trans ((of_decide_eq_true shown).1.trans named.symm)))
      (required_ok_iff.mp here) fun mine => apart ⟨row, found, mine⟩
    exact map_ok_iff.mpr
      ⟨row, except_bind_ok_iff.mpr ⟨template', ofTemplate', required_ok_iff.mpr still⟩, rfl⟩
  | membership id =>
    exact findOwn_still writes.memberships ids.memberships got fun row found mine =>
      apart ⟨row, found, mine⟩
  | tenantLink id =>
    exact findOwn_still writes.tenantLinks ids.tenantLinks got fun row found mine =>
      apart ⟨row, found, mine⟩
  | template id =>
    exact findOwn_still writes.templates ids.templates got fun row found mine =>
      apart ⟨row, found, mine⟩
  | pack id =>
    exact findOwn_still writes.packs ids.packs got fun row found mine => apart ⟨row, found, mine⟩
  | account id =>
    exact findOwn_still writes.accounts ids.accounts got fun row found mine =>
      apart ⟨row, found, mine⟩

theorem newest_shows {α : Type} {id : α → Uuid} {time : α → Moment} {shown : α → Bool}
    {rows : List α} {f : α → ManagedRecord} {row : α} {n : ℕ}
    (ids : Rows.Numbered env.uuid.text n (rows.map id)) (named : ∀ row, (f row).id = id row)
    (stored : row ∈ rows) (shows_ : shown row = true) :
    f row ∈ (newest time shown rows).map f ∧
      ∀ item ∈ (newest time shown rows).map f, item.id = (f row).id → item = f row := by
  have listed (other : α) : other ∈ newest time shown rows ↔ other ∈ rows ∧ shown other = true :=
    (mem_insertionSort _).trans mem_filter
  refine ⟨mem_map_of_mem ((listed row).mpr ⟨stored, shows_⟩), fun item is same => ?_⟩
  obtain ⟨other, there, rfl⟩ := mem_map.mp is
  rw [named, named] at same
  rw [Rows.eq_of_key ids.distinct ((listed other).mp there).1 stored same]

theorem listRecords_shows (ids : Identified env db)
    (got : getRecord db organizationId ref = .ok record) :
    ∃ items, listRecords db organizationId ref = .ok items ∧ record ∈ items ∧
      ∀ item ∈ items, item.id = record.id → item = record := by
  cases ref with
  | membership id =>
    obtain ⟨row, found, rfl⟩ := map_ok_iff.mp got
    obtain ⟨stored, own, -⟩ := findMembership_ok found
    exact ⟨_, rfl, newest_shows ids.memberships (fun _ => rfl) stored (decide_eq_true own)⟩
  | tenantLink id =>
    obtain ⟨row, found, rfl⟩ := map_ok_iff.mp got
    obtain ⟨stored, own, -⟩ := findTenantLink_ok found
    exact ⟨_, rfl, newest_shows ids.tenantLinks (fun _ => rfl) stored (decide_eq_true own)⟩
  | policy key =>
    obtain ⟨row, found, rfl⟩ := map_ok_iff.mp got
    obtain ⟨stored, own, -⟩ := findPolicy_some (required_ok_iff.mp found)
    exact ⟨_, rfl, newest_shows ids.policies (fun _ => rfl) stored (decide_eq_true own)⟩
  | template id =>
    obtain ⟨row, found, rfl⟩ := map_ok_iff.mp got
    obtain ⟨stored, own, -⟩ := findTemplate_ok found
    exact ⟨_, rfl, newest_shows ids.templates (fun _ => rfl) stored (decide_eq_true own)⟩
  | application templateId id =>
    obtain ⟨row, found, rfl⟩ := map_ok_iff.mp got
    obtain ⟨stored, -, -, applied⟩ := findApplication_ok found
    obtain ⟨template, ofTemplate, -⟩ := except_bind_ok_iff.mp found
    exact ⟨_, except_bind_ok_iff.mpr ⟨template, ofTemplate, rfl⟩,
      newest_shows ids.applications (fun _ => rfl) stored (decide_eq_true applied)⟩
  | pack id =>
    obtain ⟨row, found, rfl⟩ := map_ok_iff.mp got
    obtain ⟨stored, own, -⟩ := findPack_ok found
    exact ⟨_, rfl, newest_shows ids.packs (fun _ => rfl) stored (decide_eq_true own)⟩
  | account id =>
    obtain ⟨row, found, rfl⟩ := map_ok_iff.mp got
    obtain ⟨stored, own, -⟩ := findAccount_ok found
    exact ⟨_, rfl, newest_shows ids.accounts (fun _ => rfl) stored (decide_eq_true own)⟩

variable (env) in
/-- The status is stored, or is the one that is always answered. -/
def Stores (db : OrganizationsDb) (organizationId : Uuid) (input : Json) : RecordRef → Prop
  | .membership id => (findMembership db organizationId id).toOption.isSome ∧
      statusOf env input "ACTIVE" = "ACTIVE"
  | .tenantLink id => (findTenantLink db organizationId id).toOption.isSome ∧
      statusOf env input "ACTIVE" = "ACTIVE"
  | _ => True

variable {s : String}

theorem stored_as {α : Type} {f : α → ManagedRecord} {call call' : Except ApiException α}
    {current row : α} (found : call = .ok current) (after : call' = .ok row) :
    (∃ record, f <$> call = .ok record) ∧
      ∃ record, f <$> call' = .ok record ∧ record.status = (f row).status := by
  subst found after
  exact ⟨⟨_, rfl⟩, _, rfl, rfl⟩

theorem setStatus_stored (ids : Identified env db)
    (set : setStatus env now db organizationId input ref = .ok (s, db')) :
    ((∃ record, getRecord db organizationId ref = .ok record) ∧
      ∃ record, getRecord db' organizationId ref = .ok record ∧ record.status = s) ↔
        Stores env db organizationId input ref := by
  cases ref with
  | membership id =>
    obtain ⟨rfl, rfl⟩ := Prod.mk.inj (Except.ok.inj set)
    cases found : findOwn OrganizationMembership.id (fun row => some row.organizationId)
        db.memberships organizationId id with
    | none => simp [getRecord, Stores, findMembership, found, required, Except.toOption]
    | some row =>
      simp [getRecord, Stores, findMembership, setMembershipStatus, found, required,
        Except.toOption, mapMembership, eq_comm]
  | tenantLink id =>
    obtain ⟨rfl, rfl⟩ := Prod.mk.inj (Except.ok.inj set)
    cases found : findOwn OrganizationTenantLink.id (fun row => some row.organizationId)
        db.tenantLinks organizationId id with
    | none => simp [getRecord, Stores, findTenantLink, found, required, Except.toOption]
    | some row =>
      simp [getRecord, Stores, findTenantLink, setTenantLinkStatus, found, required,
        Except.toOption, mapTenantLink, eq_comm]
  | policy key =>
    refine iff_of_true ?_ trivial
    obtain ⟨row, made, rfl⟩ := answered_ok set
    simp only [setGovernancePolicyStatus, managePolicy, except_bind_ok_iff, except_pure_ok_iff,
      required_ok_iff, Prod.mk.injEq] at made
    obtain ⟨current, found, rfl, rfl⟩ := made
    refine stored_as (required_ok_iff.mpr found) (required_ok_iff.mpr ?_)
    exact Rows.find?_modify _ found (decide_eq_true (findPolicy_some found).2)
  | template id =>
    refine iff_of_true ?_ trivial
    obtain ⟨row, made, rfl⟩ := answered_ok set
    simp only [setTemplateStatus, writeTemplate, except_bind_ok_iff, except_pure_ok_iff,
      required_ok_iff, Prod.mk.injEq] at made
    obtain ⟨template, found, current, here, _, -, rfl, rfl⟩ := made
    obtain ⟨stored, own⟩ := findTemplate_ok found
    obtain ⟨stored', keyed⟩ := Rows.find_some here
    obtain rfl := Rows.eq_of_key ids.templates.distinct stored' stored (keyed.trans own.2.symm)
    refine stored_as found (required_ok_iff.mpr ?_)
    exact Rows.find?_modify _ (required_ok_iff.mp found)
      (decide_eq_true ⟨congrArg some own.1, own.2⟩)
  | application templateId id =>
    refine iff_of_true ?_ trivial
    obtain ⟨row, made, rfl⟩ := answered_ok set
    simp only [updateTemplateApplicationStatus, except_bind_ok_iff, except_pure_ok_iff,
      Prod.mk.injEq] at made
    obtain ⟨current, found, rfl, rfl⟩ := made
    obtain ⟨-, -, own⟩ := findApplication_ok found
    obtain ⟨template, ofTemplate, here⟩ := except_bind_ok_iff.mp found
    refine stored_as found
      (except_bind_ok_iff.mpr ⟨template, ofTemplate, required_ok_iff.mpr ?_⟩)
    exact Rows.find?_modify _ (required_ok_iff.mp here) (decide_eq_true own)
  | pack id =>
    refine iff_of_true ?_ trivial
    obtain ⟨row, made, rfl⟩ := answered_ok set
    simp only [setWhiteLabelPackStatus, managePack, except_bind_ok_iff, except_pure_ok_iff,
      Prod.mk.injEq] at made
    obtain ⟨current, found, rfl, rfl⟩ := made
    refine stored_as found (required_ok_iff.mpr ?_)
    exact Rows.find?_modify _ (required_ok_iff.mp found) (decide_eq_true (findPack_ok found).2)
  | account id =>
    refine iff_of_true ?_ trivial
    obtain ⟨row, made, rfl⟩ := answered_ok set
    simp only [setPartnerAccountStatus, updatePartnerAccount, except_bind_ok_iff,
      except_pure_ok_iff, Prod.mk.injEq] at made
    obtain ⟨current, found, _, -, _, -, rfl, rfl⟩ := made
    refine stored_as found (required_ok_iff.mpr ?_)
    exact Rows.find?_modify _ (required_ok_iff.mp found) (decide_eq_true (findAccount_ok found).2)

structure Call where
  now : Moment
  organizationId : Uuid
  operation : Operation

variable (env) in
def callStep (db : OrganizationsDb) (call : Call) : OrganizationsDb :=
  afterCall env call.now db call.organizationId call.operation

variable (env) in
/-- The call is not on the record. -/
def Elsewhere (organizationId : Uuid) (ref : RecordRef) (db : OrganizationsDb) (call : Call) : Prop :=
  ¬(touched env db call.organizationId call.operation).at db organizationId ref

theorem callStep_writes (ids : Identified env db) (call : Call) :
    Writes env (touched env db call.organizationId call.operation) db (callStep env db call) :=
  afterCall_writes call.now call.operation ids.templates.distinct

def Shows (db : OrganizationsDb) (organizationId : Uuid) (ref : RecordRef) (s : String) : Prop :=
  ∃ record items, getRecord db organizationId ref = .ok record ∧
    listRecords db organizationId ref = .ok items ∧ record.status = s ∧ record ∈ items ∧
      ∀ item ∈ items, item.id = record.id → item.status = s

/-- A status that a call answers is shown until the next call on the record just when the record
has a place for it, or is there and is given the status it always has. -/
theorem status_kept_iff {start : OrganizationsDb} (ids : Identified env start) (earlier : List Call)
    (set : setStatus env now (Trace.run (callStep env) start earlier) organizationId input ref =
      .ok (s, db')) :
    ((∃ record, getRecord (Trace.run (callStep env) start earlier) organizationId ref =
          .ok record) ∧
      ∀ later, Trace.Along (callStep env) (Elsewhere env organizationId ref) db' later →
        Shows (Trace.run (callStep env) start
          (earlier ++ ⟨now, organizationId, ref.setStatus input⟩ :: later)) organizationId ref s) ↔
      Stores env (Trace.run (callStep env) start earlier) organizationId input ref := by
  have step (db : OrganizationsDb) (call : Call) (ids : Identified env db) :
      Identified env (callStep env db call) := (callStep_writes ids call).identified ids
  have ids' := Trace.run_always step ids earlier
  have reached : callStep env (Trace.run (callStep env) start earlier)
      ⟨now, organizationId, ref.setStatus input⟩ = db' := by
    rw [callStep, afterCall, perform_setStatus, set]
    rfl
  rw [← setStatus_stored ids' set]
  simp only [Trace.run_append, Trace.run, reached]
  refine and_congr_right fun _ => ⟨fun kept => ?_, fun stored later along => ?_⟩
  · obtain ⟨record, items, got, -, is, -⟩ := kept [] trivial
    exact ⟨record, got, is⟩
  · obtain ⟨record, got, rfl⟩ := stored
    have after : Identified env db' := reached ▸ step _ _ ids'
    have keeps : ∀ db call, (Identified env db ∧ getRecord db organizationId ref = .ok record) →
        Elsewhere env organizationId ref db call → Identified env (callStep env db call) ∧
          getRecord (callStep env db call) organizationId ref = .ok record :=
      fun db call held apart =>
        ⟨step db call held.1, getRecord_still (callStep_writes held.1 call) held.1 apart held.2⟩
    obtain ⟨ids'', still⟩ := Trace.run_invariant keeps ⟨after, got⟩ along
    obtain ⟨items, listed, member, only⟩ := listRecords_shows ids'' still
    exact ⟨record, items, still, listed, rfl, member,
      fun item there same => congrArg ManagedRecord.status (only item there same)⟩

def noRecords : OrganizationsDb := { acmeOfNorth with accounts := [] }

theorem noRecords_identified : Identified counterEnv noRecords where
  memberships := ⟨nodup_nil, nofun⟩
  tenantLinks := ⟨nodup_nil, nofun⟩
  policies := ⟨nodup_nil, nofun⟩
  templates := ⟨nodup_nil, nofun⟩
  applications := ⟨nodup_nil, nofun⟩
  packs := ⟨nodup_nil, nofun⟩
  accounts := ⟨nodup_nil, nofun⟩

def suspend : Json := .obj [("status", .str "suspended")]

def withPolicy : List Call := [⟨1, "north", .upsertGovernancePolicy "returns" (.obj [])⟩]

def suspendPolicy : Except ApiException (String × OrganizationsDb) :=
  setStatus counterEnv 2 (Trace.run (callStep counterEnv) noRecords withPolicy) "north" suspend
    (.policy "returns")

theorem policy_suspended : ∃ db', suspendPolicy = .ok ("SUSPENDED", db') ∧
    ∀ later, Trace.Along (callStep counterEnv)
        (Elsewhere counterEnv "north" (.policy "returns")) db' later →
      Shows (Trace.run (callStep counterEnv) noRecords (withPolicy ++
        ⟨2, "north", (RecordRef.policy "returns").setStatus suspend⟩ :: later)) "north"
          (.policy "returns") "SUSPENDED" := by
  obtain ⟨db', set⟩ : ∃ db', suspendPolicy = .ok ("SUSPENDED", db') := ⟨_, rfl⟩
  exact ⟨db', set, ((status_kept_iff noRecords_identified withPolicy set).mpr trivial).2⟩

def withMembership : List Call := [⟨1, "north", .addMembership (.obj [("userId", .str "user")])⟩]

/-- A membership that is suspended is still active. -/
theorem membership_still_active : ¬∀ (env : OrganizationsEnv) (start : OrganizationsDb),
    Identified env start → ∀ (earlier : List Call) (now : Moment) (organizationId : Uuid)
      (input : Json) (ref : RecordRef) (s : String) (db' : OrganizationsDb),
      setStatus env now (Trace.run (callStep env) start earlier) organizationId input ref =
        .ok (s, db') →
      Shows (Trace.run (callStep env) start
        (earlier ++ [⟨now, organizationId, ref.setStatus input⟩])) organizationId ref s := by
  intro claim
  obtain ⟨record, -, got, -, is, -⟩ := claim counterEnv noRecords noRecords_identified
    withMembership 2 "north" suspend (.membership (counterEnv.uuid.text 0)) "SUSPENDED" _ rfl
  have active : (getRecord (Trace.run (callStep counterEnv) noRecords (withMembership ++
      [⟨2, "north", (RecordRef.membership (counterEnv.uuid.text 0)).setStatus suspend⟩])) "north"
        (.membership (counterEnv.uuid.text 0))).toOption.map ManagedRecord.status =
          some "ACTIVE" := by decide +kernel
  rw [got] at active
  exact absurd (is.symm.trans (Option.some.inj active)) (by decide)

end Exetron.Organizations
