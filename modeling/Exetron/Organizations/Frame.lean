import Exetron.Enterprise.Runs
import Exetron.Lib.Owned
import Exetron.Organizations.Service

/-!
# The records of other organizations

Every operation of an organization touches its own rows, but one: a partner account is created over
the one that has its code, whichever organization holds that.
-/

namespace Exetron.Organizations

open Lib List Prod
open Enterprise (Uuid Moment UuidSource)
open Lib.Rows (OwnChange)

inductive Operation where
  | createOrganization (input : Json)
  | updateOrganization (input : Json)
  | setOrganizationStatus (input : Json)
  | archiveOrganization
  | addMembership (input : Json)
  | updateMembership (membershipId : Uuid) (input : Json)
  | archiveMembership (membershipId : Uuid)
  | setMembershipStatus (membershipId : Uuid) (input : Json)
  | linkTenant (input : Json)
  | updateTenantLink (linkId : Uuid) (input : Json)
  | archiveTenantLink (linkId : Uuid)
  | setTenantLinkStatus (linkId : Uuid) (input : Json)
  | upsertGovernancePolicy (policyKey : String) (input : Json)
  | updateGovernancePolicy (policyKey : String) (input : Json)
  | archiveGovernancePolicy (policyKey : String)
  | setGovernancePolicyStatus (policyKey : String) (input : Json)
  | createTemplate (input : Json)
  | updateTemplate (templateId : Uuid) (input : Json)
  | archiveTemplate (templateId : Uuid)
  | setTemplateStatus (templateId : Uuid) (input : Json)
  | applyTemplate (templateId : Uuid) (input : Json)
  | reapplyTemplate (templateId : Uuid) (input : Json)
  | updateTemplateApplicationStatus (templateId applicationId : Uuid) (input : Json)
  | createWhiteLabelPack (input : Json)
  | updateWhiteLabelPack (packId : Uuid) (input : Json)
  | archiveWhiteLabelPack (packId : Uuid)
  | setWhiteLabelPackStatus (packId : Uuid) (input : Json)
  | createPartnerAccount (input : Json)
  | updatePartnerAccount (accountId : Uuid) (input : Json)
  | archivePartnerAccount (accountId : Uuid)
  | setPartnerAccountStatus (accountId : Uuid) (input : Json)

variable (env : OrganizationsEnv)

def perform (now : Moment) (db : OrganizationsDb) (organizationId : Uuid) :
    Operation → Except ApiException OrganizationsDb
  | .createOrganization input => Prod.snd <$> createOrganization env now db input
  | .updateOrganization input => Prod.snd <$> updateOrganization now db organizationId input
  | .setOrganizationStatus input =>
    Prod.snd <$> setOrganizationStatus env now db organizationId input
  | .archiveOrganization => Prod.snd <$> archiveOrganization now db organizationId
  | .addMembership input => Prod.snd <$> addMembership env now db organizationId input
  | .updateMembership membershipId input =>
    Prod.snd <$> updateMembership db organizationId membershipId input
  | .archiveMembership membershipId => Prod.snd <$> archiveMembership db organizationId membershipId
  | .setMembershipStatus membershipId input =>
    .ok (setMembershipStatus env db organizationId membershipId input, db).2
  | .linkTenant input => Prod.snd <$> linkTenant env now db organizationId input
  | .updateTenantLink linkId input => Prod.snd <$> updateTenantLink db organizationId linkId input
  | .archiveTenantLink linkId => Prod.snd <$> archiveTenantLink db organizationId linkId
  | .setTenantLinkStatus linkId input =>
    .ok (setTenantLinkStatus env db organizationId linkId input, db).2
  | .upsertGovernancePolicy policyKey input =>
    Prod.snd <$> upsertGovernancePolicy env now db organizationId policyKey input
  | .updateGovernancePolicy policyKey input =>
    Prod.snd <$> updateGovernancePolicy env now db organizationId policyKey input
  | .archiveGovernancePolicy policyKey =>
    Prod.snd <$> archiveGovernancePolicy env now db organizationId policyKey
  | .setGovernancePolicyStatus policyKey input =>
    Prod.snd <$> setGovernancePolicyStatus env now db organizationId policyKey input
  | .createTemplate input => Prod.snd <$> createTemplate env now db organizationId input
  | .updateTemplate templateId input =>
    Prod.snd <$> updateTemplate now db organizationId templateId input
  | .archiveTemplate templateId => Prod.snd <$> archiveTemplate env now db organizationId templateId
  | .setTemplateStatus templateId input =>
    Prod.snd <$> setTemplateStatus env now db organizationId templateId input
  | .applyTemplate templateId input => Prod.snd <$> applyTemplate env now db templateId input
  | .reapplyTemplate templateId input =>
    Prod.snd <$> reapplyTemplate env now db organizationId templateId input
  | .updateTemplateApplicationStatus templateId applicationId input => Prod.snd <$>
      updateTemplateApplicationStatus env now db organizationId templateId applicationId input
  | .createWhiteLabelPack input =>
    Prod.snd <$> createWhiteLabelPack env now db organizationId input
  | .updateWhiteLabelPack packId input =>
    Prod.snd <$> updateWhiteLabelPack env now db organizationId packId input
  | .archiveWhiteLabelPack packId =>
    Prod.snd <$> archiveWhiteLabelPack env now db organizationId packId
  | .setWhiteLabelPackStatus packId input =>
    Prod.snd <$> setWhiteLabelPackStatus env now db organizationId packId input
  | .createPartnerAccount input =>
    Prod.snd <$> createPartnerAccount env now db organizationId input
  | .updatePartnerAccount accountId input =>
    Prod.snd <$> updatePartnerAccount env now db organizationId accountId input
  | .archivePartnerAccount accountId =>
    Prod.snd <$> archivePartnerAccount env now db organizationId accountId
  | .setPartnerAccountStatus accountId input =>
    Prod.snd <$> setPartnerAccountStatus env now db organizationId accountId input

def afterCall (now : Moment) (db : OrganizationsDb) (organizationId : Uuid)
    (operation : Operation) : OrganizationsDb :=
  match perform env now db organizationId operation with
  | .ok db' => db'
  | .error _ => db

/-- The keys of the schema: the identifiers, and the codes of partner accounts. -/
structure Keys (db : OrganizationsDb) : Prop where
  organizations : (db.organizations.map (·.id)).Nodup
  memberships : (db.memberships.map (·.id)).Nodup
  tenantLinks : (db.tenantLinks.map (·.id)).Nodup
  policies : (db.policies.map (·.id)).Nodup
  templates : (db.templates.map (·.id)).Nodup
  applications : (db.applications.map (·.id)).Nodup
  packs : (db.packs.map (·.id)).Nodup
  accounts : (db.accounts.map (·.id)).Nodup
  codes : (db.accounts.map (·.code)).Nodup

def AppliedFor (db : OrganizationsDb) (application : TemplateApplication)
    (organizationId : Uuid) : Prop :=
  ∃ template ∈ db.templates, template.id = application.templateId ∧
    template.organizationId = organizationId

/-- Every record of the organization is in the store as it was before. -/
structure KeepsRecords (organizationId : Uuid) (db db' : OrganizationsDb) : Prop where
  organization : ∀ row ∈ db.organizations, row.id = organizationId → row ∈ db'.organizations
  memberships : ∀ row ∈ db.memberships, row.organizationId = organizationId → row ∈ db'.memberships
  tenantLinks : ∀ row ∈ db.tenantLinks, row.organizationId = organizationId → row ∈ db'.tenantLinks
  policies : ∀ row ∈ db.policies, row.organizationId = organizationId → row ∈ db'.policies
  templates : ∀ row ∈ db.templates, row.organizationId = organizationId → row ∈ db'.templates
  applications : ∀ row ∈ db.applications, AppliedFor db row organizationId →
    row ∈ db'.applications ∧ AppliedFor db' row organizationId
  packs : ∀ row ∈ db.packs, row.organizationId = some organizationId → row ∈ db'.packs
  accounts : ∀ row ∈ db.accounts, row.organizationId = some organizationId → row ∈ db'.accounts

def TakesAccount (db : OrganizationsDb) (organizationId : Uuid) : Operation → Prop
  | .createPartnerAccount input => ∃ data, readPartnerAccount env input = .ok data ∧
      ∃ account ∈ db.accounts, account.code = data.code ∧
        ∃ other, account.organizationId = some other ∧ other ≠ organizationId
  | _ => False

variable {env} {now : Moment} {db db' : OrganizationsDb} {organizationId : Uuid} {input : Json}

/-- The rows that an operation may change or remove. -/
structure Touched where
  organizations : Organization → Prop := fun _ => False
  memberships : OrganizationMembership → Prop := fun _ => False
  tenantLinks : OrganizationTenantLink → Prop := fun _ => False
  policies : GovernancePolicy → Prop := fun _ => False
  templates : RolloutTemplate → Prop := fun _ => False
  applications : TemplateApplication → Prop := fun _ => False
  packs : WhiteLabelPack → Prop := fun _ => False
  accounts : PartnerAccount → Prop := fun _ => False

variable (env) in
def touched (db : OrganizationsDb) (organizationId : Uuid) : Operation → Touched
  | .createOrganization _ | .applyTemplate .. | .reapplyTemplate .. | .createWhiteLabelPack _ => {}
  | .updateOrganization _ | .setOrganizationStatus _ | .archiveOrganization =>
    { organizations := fun row => row.id = organizationId }
  | .addMembership input =>
    { memberships := fun row => row.organizationId = organizationId ∧
        env.readUuid (trimmedText input "userId" "") = some row.userId }
  | .updateMembership id _ | .archiveMembership id | .setMembershipStatus id _ =>
    { memberships := fun row => row.organizationId = organizationId ∧ row.id = id }
  | .linkTenant input =>
    { tenantLinks := fun row => row.organizationId = organizationId ∧
        env.readUuid (trimmedText input "tenantId" "") = some row.tenantId }
  | .updateTenantLink id _ | .archiveTenantLink id | .setTenantLinkStatus id _ =>
    { tenantLinks := fun row => row.organizationId = organizationId ∧ row.id = id }
  | .upsertGovernancePolicy key _ | .updateGovernancePolicy key _ | .archiveGovernancePolicy key
  | .setGovernancePolicyStatus key _ =>
    { policies := fun row => row.organizationId = organizationId ∧ row.policyKey = key }
  | .createTemplate input =>
    { templates := fun row => row.organizationId = organizationId ∧
        row.code = trimmedText input "code" "" }
  | .updateTemplate id _ | .archiveTemplate id | .setTemplateStatus id _ =>
    { templates := fun row => row.organizationId = organizationId ∧ row.id = id }
  | .updateTemplateApplicationStatus templateId id _ =>
    { applications := fun row =>
        AppliedFor db row organizationId ∧ row.id = id ∧ row.templateId = templateId }
  | .updateWhiteLabelPack id _ | .archiveWhiteLabelPack id | .setWhiteLabelPackStatus id _ =>
    { packs := fun row => row.organizationId = some organizationId ∧ row.id = id }
  | .createPartnerAccount input =>
    { accounts := fun row => row ∈ db.accounts ∧
        ∃ data, readPartnerAccount env input = .ok data ∧ row.code = data.code }
  | .updatePartnerAccount id _ | .archivePartnerAccount id | .setPartnerAccountStatus id _ =>
    { accounts := fun row => row.organizationId = some organizationId ∧ row.id = id }

/-- Every row that is touched is the organization's. -/
structure Touched.Owned (T : Touched) (db : OrganizationsDb) (organizationId : Uuid) : Prop where
  organizations : ∀ row, T.organizations row → row.id = organizationId
  memberships : ∀ row, T.memberships row → row.organizationId = organizationId
  tenantLinks : ∀ row, T.tenantLinks row → row.organizationId = organizationId
  policies : ∀ row, T.policies row → row.organizationId = organizationId
  templates : ∀ row, T.templates row → row.organizationId = organizationId
  applications : ∀ row, T.applications row → AppliedFor db row organizationId
  packs : ∀ row, T.packs row → row.organizationId = some organizationId
  accounts : ∀ row, T.accounts row →
    ∀ other, row.organizationId = some other → other = organizationId

theorem touched_owned {operation : Operation} (apart : ¬TakesAccount env db organizationId operation) :
    (touched env db organizationId operation).Owned db organizationId where
  organizations row mine := by cases operation <;> first | exact mine | exact mine.elim
  memberships row mine := by cases operation <;> first | exact mine.1 | exact mine.elim
  tenantLinks row mine := by cases operation <;> first | exact mine.1 | exact mine.elim
  policies row mine := by cases operation <;> first | exact mine.1 | exact mine.elim
  templates row mine := by cases operation <;> first | exact mine.1 | exact mine.elim
  applications row mine := by cases operation <;> first | exact mine.1 | exact mine.elim
  packs row mine := by cases operation <;> first | exact mine.1 | exact mine.elim
  accounts row mine other is := by
    cases operation with
    | createPartnerAccount input =>
      obtain ⟨stored, data, read, coded⟩ := mine
      by_contra foreign
      exact apart ⟨data, read, row, stored, coded, other, is, foreign⟩
    | updatePartnerAccount | archivePartnerAccount | setPartnerAccountStatus =>
      exact Option.some.inj (is.symm.trans mine.1)
    | _ => exact mine.elim

variable (env) in
abbrev Change {α ρ : Type} (db db' : OrganizationsDb) (key : α → Uuid) (ref : α → ρ)
    (mine : α → Prop) (rows rows' : List α) : Prop :=
  OwnChange env.uuid.text db.nextUuid db'.nextUuid key ref mine rows rows'

variable (env) in
/-- Every table as it was, but for the rows that are touched and new ones. -/
structure Writes (T : Touched) (db db' : OrganizationsDb) : Prop where
  later : db.nextUuid ≤ db'.nextUuid
  organizations : Change env db db' Organization.id Organization.id T.organizations
    db.organizations db'.organizations
  memberships : Change env db db' OrganizationMembership.id OrganizationMembership.id T.memberships
    db.memberships db'.memberships
  tenantLinks : Change env db db' OrganizationTenantLink.id OrganizationTenantLink.id T.tenantLinks
    db.tenantLinks db'.tenantLinks
  policies : Change env db db' GovernancePolicy.id (fun row => (row.organizationId, row.policyKey))
    T.policies db.policies db'.policies
  templates : Change env db db' RolloutTemplate.id RolloutTemplate.id T.templates
    db.templates db'.templates
  applications : Change env db db' TemplateApplication.id TemplateApplication.id T.applications
    db.applications db'.applications
  packs : Change env db db' WhiteLabelPack.id WhiteLabelPack.id T.packs db.packs db'.packs
  accounts : Change env db db' PartnerAccount.id PartnerAccount.id T.accounts
    db.accounts db'.accounts
  stay : ∀ template ∈ db.templates, ∃ template' ∈ db'.templates,
    template'.id = template.id ∧ template'.organizationId = template.organizationId

theorem unwritten (T : Touched) (db : OrganizationsDb) {n : ℕ} (later : db.nextUuid ≤ n) :
    Writes env T db { db with nextUuid := n } :=
  ⟨later, .kept rfl, .kept rfl, .kept rfl, .kept rfl, .kept rfl, .kept rfl, .kept rfl, .kept rfl,
    fun template listed => ⟨template, listed, rfl, rfl⟩⟩

theorem Writes.keeps {T : Touched} (writes : Writes env T db db') (owned : T.Owned db organizationId)
    (keys : Keys db) {other : Uuid} (apart : other ≠ organizationId) :
    KeepsRecords other db db' where
  organization row stored is := writes.organizations.keeps keys.organizations stored
    fun mine => apart (is.symm.trans (owned.organizations row mine))
  memberships row stored is := writes.memberships.keeps keys.memberships stored
    fun mine => apart (is.symm.trans (owned.memberships row mine))
  tenantLinks row stored is := writes.tenantLinks.keeps keys.tenantLinks stored
    fun mine => apart (is.symm.trans (owned.tenantLinks row mine))
  policies row stored is := writes.policies.keeps keys.policies stored
    fun mine => apart (is.symm.trans (owned.policies row mine))
  templates row stored is := writes.templates.keeps keys.templates stored
    fun mine => apart (is.symm.trans (owned.templates row mine))
  applications row stored applied := by
    obtain ⟨template, listed, same, is⟩ := applied
    refine ⟨writes.applications.keeps keys.applications stored fun mine => ?_,
      template, writes.templates.keeps keys.templates listed fun mine => ?_, same, is⟩
    · obtain ⟨template', listed', same', is'⟩ := owned.applications row mine
      obtain rfl := Rows.eq_of_key keys.templates listed listed' (same.trans same'.symm)
      exact apart (is.symm.trans is')
    · exact apart (is.symm.trans (owned.templates template mine))
  packs row stored is := writes.packs.keeps keys.packs stored
    fun mine => apart (Option.some.inj (is.symm.trans (owned.packs row mine)))
  accounts row stored is := writes.accounts.keeps keys.accounts stored
    fun mine => apart (owned.accounts row mine other is)

theorem findOwn_some {α : Type} {id : α → Uuid} {organization : α → Option Uuid} {rows : List α}
    {rowId : Uuid} {row : α} (h : findOwn id organization rows organizationId rowId = some row) :
    row ∈ rows ∧ organization row = some organizationId ∧ id row = rowId :=
  ⟨mem_of_find?_eq_some h, by simpa [findOwn] using find?_some h⟩

theorem createOrganization_writes {row : Organization}
    (h : createOrganization env now db input = .ok (row, db')) :
    Writes env (touched env db organizationId (.createOrganization input)) db db' := by
  simp only [createOrganization, except_bind_ok_iff, except_pure_ok_iff, mk.injEq] at h
  obtain ⟨_, -, _, -, -, rfl⟩ := h
  have later := Nat.lt_succ_self db.nextUuid
  exact { unwritten _ db later.le with organizations := .added _ rfl later rfl }

theorem updateOrganization_writes {row : Organization}
    (h : updateOrganization now db organizationId input = .ok (row, db')) :
    Writes env (touched env db organizationId (.updateOrganization input)) db db' := by
  simp only [updateOrganization, except_bind_ok_iff, except_pure_ok_iff, required_ok_iff,
    mk.injEq] at h
  obtain ⟨current, found, _, -, -, rfl⟩ := h
  obtain ⟨stored, is⟩ := Rows.find_some found
  exact { unwritten _ db le_rfl with organizations := .changed current stored is _ rfl rfl rfl }

theorem addMembership_writes {row : OrganizationMembership}
    (h : addMembership env now db organizationId input = .ok (row, db')) :
    Writes env (touched env db organizationId (.addMembership input)) db db' := by
  simp only [addMembership, uuidColumn, except_bind_ok_iff, required_ok_iff] at h
  obtain ⟨_, -, userId, read, h⟩ := h
  split at h
  · next current found =>
    obtain ⟨-, rfl⟩ := mk.inj (Except.ok.inj h)
    have is := find?_some found
    obtain ⟨own, user⟩ := of_decide_eq_true is
    exact { unwritten _ db le_rfl with
      memberships := .changed current (mem_of_find?_eq_some found)
        ⟨own, read.trans (congrArg some user.symm)⟩ _ rfl rfl rfl }
  · obtain ⟨-, rfl⟩ := mk.inj (Except.ok.inj h)
    have later := Nat.lt_succ_self db.nextUuid
    exact { unwritten _ db later.le with memberships := .added _ rfl later rfl }

theorem findMembership_ok {membershipId : Uuid} {row : OrganizationMembership}
    (h : findMembership db organizationId membershipId = .ok row) :
    row ∈ db.memberships ∧ row.organizationId = organizationId ∧ row.id = membershipId := by
  obtain ⟨stored, is, keyed⟩ := findOwn_some (required_ok_iff.mp h)
  exact ⟨stored, Option.some.inj is, keyed⟩

theorem updateMembership_writes {membershipId : Uuid} {row : OrganizationMembership}
    (h : updateMembership db organizationId membershipId input = .ok (row, db')) :
    Writes env (touched env db organizationId (.updateMembership membershipId input)) db db' := by
  simp only [updateMembership, except_bind_ok_iff, except_pure_ok_iff, mk.injEq] at h
  obtain ⟨current, found, -, rfl⟩ := h
  obtain ⟨stored, own⟩ := findMembership_ok found
  exact { unwritten _ db le_rfl with memberships := .changed current stored own _ rfl rfl rfl }

theorem archiveMembership_writes {membershipId : Uuid} {row : OrganizationMembership}
    (h : archiveMembership db organizationId membershipId = .ok (row, db')) :
    Writes env (touched env db organizationId (.archiveMembership membershipId)) db db' := by
  simp only [archiveMembership, except_bind_ok_iff, except_pure_ok_iff, mk.injEq] at h
  obtain ⟨current, found, -, rfl⟩ := h
  obtain ⟨stored, own⟩ := findMembership_ok found
  exact { unwritten _ db le_rfl with memberships := .removed current stored own rfl }

theorem linkTenant_writes {row : OrganizationTenantLink}
    (h : linkTenant env now db organizationId input = .ok (row, db')) :
    Writes env (touched env db organizationId (.linkTenant input)) db db' := by
  simp only [linkTenant, uuidColumn, except_bind_ok_iff, required_ok_iff] at h
  obtain ⟨_, -, tenantId, read, h⟩ := h
  split at h
  · next current found =>
    obtain ⟨-, rfl⟩ := mk.inj (Except.ok.inj h)
    have is := find?_some found
    obtain ⟨own, tenant⟩ := of_decide_eq_true is
    exact { unwritten _ db le_rfl with
      tenantLinks := .changed current (mem_of_find?_eq_some found)
        ⟨own, read.trans (congrArg some tenant.symm)⟩ _ rfl rfl rfl }
  · obtain ⟨-, rfl⟩ := mk.inj (Except.ok.inj h)
    have later := Nat.lt_succ_self db.nextUuid
    exact { unwritten _ db later.le with tenantLinks := .added _ rfl later rfl }

theorem findTenantLink_ok {linkId : Uuid} {row : OrganizationTenantLink}
    (h : findTenantLink db organizationId linkId = .ok row) :
    row ∈ db.tenantLinks ∧ row.organizationId = organizationId ∧ row.id = linkId := by
  obtain ⟨stored, is, keyed⟩ := findOwn_some (required_ok_iff.mp h)
  exact ⟨stored, Option.some.inj is, keyed⟩

theorem updateTenantLink_writes {linkId : Uuid} {row : OrganizationTenantLink}
    (h : updateTenantLink db organizationId linkId input = .ok (row, db')) :
    Writes env (touched env db organizationId (.updateTenantLink linkId input)) db db' := by
  simp only [updateTenantLink, except_bind_ok_iff, except_pure_ok_iff, mk.injEq] at h
  obtain ⟨current, found, -, rfl⟩ := h
  obtain ⟨stored, own⟩ := findTenantLink_ok found
  exact { unwritten _ db le_rfl with tenantLinks := .changed current stored own _ rfl rfl rfl }

theorem archiveTenantLink_writes {linkId : Uuid} {row : OrganizationTenantLink}
    (h : archiveTenantLink db organizationId linkId = .ok (row, db')) :
    Writes env (touched env db organizationId (.archiveTenantLink linkId)) db db' := by
  simp only [archiveTenantLink, except_bind_ok_iff, except_pure_ok_iff, mk.injEq] at h
  obtain ⟨current, found, -, rfl⟩ := h
  obtain ⟨stored, own⟩ := findTenantLink_ok found
  exact { unwritten _ db le_rfl with tenantLinks := .removed current stored own rfl }

theorem findPolicy_some {policyKey : String} {row : GovernancePolicy}
    (h : findPolicy db organizationId policyKey = some row) :
    row ∈ db.policies ∧ row.organizationId = organizationId ∧ row.policyKey = policyKey := by
  have is := find?_some h
  exact ⟨mem_of_find?_eq_some h, of_decide_eq_true is⟩

theorem upsertGovernancePolicy_writes {policyKey : String} {row : GovernancePolicy}
    (h : upsertGovernancePolicy env now db organizationId policyKey input = .ok (row, db')) :
    Writes env (touched env db organizationId (.upsertGovernancePolicy policyKey input)) db db' := by
  unfold upsertGovernancePolicy at h
  dsimp only at h
  split at h
  · next current found =>
    obtain ⟨-, rfl⟩ := mk.inj (Except.ok.inj h)
    obtain ⟨stored, own⟩ := findPolicy_some found
    exact { unwritten _ db le_rfl with policies := .changed current stored own _ rfl rfl rfl }
  · obtain ⟨-, rfl⟩ := mk.inj (Except.ok.inj h)
    have later := Nat.lt_succ_self db.nextUuid
    exact { unwritten _ db later.le with policies := .added _ rfl later rfl }

theorem managePolicy_writes {policyKey status : String} {row : GovernancePolicy}
    (h : managePolicy env now db organizationId policyKey status = .ok (row, db')) :
    Writes env (touched env db organizationId (.archiveGovernancePolicy policyKey)) db db' := by
  simp only [managePolicy, except_bind_ok_iff, except_pure_ok_iff, required_ok_iff,
    mk.injEq] at h
  obtain ⟨current, found, -, rfl⟩ := h
  obtain ⟨stored, own⟩ := findPolicy_some found
  exact { unwritten _ db le_rfl with policies := .changed current stored own _ rfl rfl rfl }

theorem findTemplate_ok {templateId : Uuid} {row : RolloutTemplate}
    (h : findTemplate db organizationId templateId = .ok row) :
    row ∈ db.templates ∧ row.organizationId = organizationId ∧ row.id = templateId := by
  obtain ⟨stored, is, keyed⟩ := findOwn_some (required_ok_iff.mp h)
  exact ⟨stored, Option.some.inj is, keyed⟩

theorem writeTemplate_writes {T : Touched} {template row : RolloutTemplate} {data : TemplateData}
    (unique : (db.templates.map (·.id)).Nodup) (stored : template ∈ db.templates)
    (own : T.templates template) (h : writeTemplate now db template.id data = .ok (row, db')) :
    Writes env T db db' := by
  simp only [writeTemplate, except_bind_ok_iff, except_pure_ok_iff, required_ok_iff,
    mk.injEq] at h
  obtain ⟨current, found, _, -, -, rfl⟩ := h
  obtain ⟨stored', same⟩ := Rows.find_some found
  obtain rfl := Rows.eq_of_key unique stored' stored same
  refine { unwritten T db le_rfl with
    templates := .changed current stored own _ rfl rfl rfl, stay := fun other listed => ?_ }
  refine ⟨_, Rows.mem_modify.mpr ⟨other, listed, rfl⟩, ?_⟩
  split
  next here =>
    obtain rfl := Rows.eq_of_key unique listed stored here
    exact ⟨rfl, rfl⟩
  · exact ⟨rfl, rfl⟩

theorem createTemplate_writes {row : RolloutTemplate} (unique : (db.templates.map (·.id)).Nodup)
    (h : createTemplate env now db organizationId input = .ok (row, db')) :
    Writes env (touched env db organizationId (.createTemplate input)) db db' := by
  simp only [createTemplate, readNamed, except_bind_ok_iff, except_pure_ok_iff] at h
  obtain ⟨named, ⟨_, -, rfl⟩, h⟩ := h
  dsimp only at h
  split at h
  · next current found =>
    have is := find?_some found
    have own := of_decide_eq_true is
    exact writeTemplate_writes unique (mem_of_find?_eq_some found) own h
  · simp only [insertTemplate, except_bind_ok_iff, except_pure_ok_iff, mk.injEq] at h
    obtain ⟨_, -, -, rfl⟩ := h
    have later := Nat.lt_succ_self db.nextUuid
    exact { unwritten _ db later.le with
      templates := .added _ rfl later rfl
      stay := fun template listed => ⟨template, mem_append_left _ listed, rfl, rfl⟩ }

theorem updateTemplate_writes {templateId : Uuid} {row : RolloutTemplate}
    (unique : (db.templates.map (·.id)).Nodup)
    (h : updateTemplate now db organizationId templateId input = .ok (row, db')) :
    Writes env (touched env db organizationId (.updateTemplate templateId input)) db db' := by
  obtain ⟨template, found, h⟩ := except_bind_ok_iff.mp h
  obtain ⟨stored, own⟩ := findTemplate_ok found
  exact writeTemplate_writes unique stored own h

theorem manageTemplate_writes {templateId : Uuid} {row : RolloutTemplate} {status : String}
    (unique : (db.templates.map (·.id)).Nodup)
    (h : (findTemplate db organizationId templateId >>= fun template =>
      writeTemplate now db templateId (managedData env now template status)) = .ok (row, db')) :
    Writes env (touched env db organizationId (.archiveTemplate templateId)) db db' := by
  obtain ⟨template, found, h⟩ := except_bind_ok_iff.mp h
  obtain ⟨stored, own, rfl⟩ := findTemplate_ok found
  exact writeTemplate_writes unique stored ⟨own, rfl⟩ h

theorem insertApplication_writes {T : Touched} {template : RolloutTemplate} {row : TemplateApplication}
    (h : insertApplication env now db template input = .ok (row, db')) : Writes env T db db' := by
  simp only [insertApplication, except_bind_ok_iff, except_pure_ok_iff, mk.injEq] at h
  obtain ⟨_, -, _, -, -, rfl⟩ := h
  have later := Nat.lt_succ_self db.nextUuid
  exact { unwritten T db later.le with applications := .added _ rfl later rfl }

theorem applyTemplate_writes {T : Touched} {templateId : Uuid} {row : TemplateApplication}
    (h : applyTemplate env now db templateId input = .ok (row, db')) : Writes env T db db' := by
  obtain ⟨template, -, h⟩ := except_bind_ok_iff.mp h
  exact insertApplication_writes h

theorem reapplyTemplate_writes {T : Touched} {templateId : Uuid} {row : TemplateApplication}
    (h : reapplyTemplate env now db organizationId templateId input = .ok (row, db')) :
    Writes env T db db' := by
  simp only [reapplyTemplate, except_bind_ok_iff] at h
  obtain ⟨_, -, _, -, h⟩ := h
  exact applyTemplate_writes h

theorem findApplication_ok {templateId applicationId : Uuid} {row : TemplateApplication}
    (h : findApplication db organizationId templateId applicationId = .ok row) :
    row ∈ db.applications ∧ AppliedFor db row organizationId ∧ row.id = applicationId ∧
      row.templateId = templateId := by
  simp only [findApplication, except_bind_ok_iff, required_ok_iff] at h
  obtain ⟨template, found, here⟩ := h
  obtain ⟨listed, own, keyed⟩ := findTemplate_ok found
  have is := find?_some here
  obtain ⟨named, applied⟩ := of_decide_eq_true is
  exact ⟨mem_of_find?_eq_some here, ⟨template, listed, keyed.trans applied.symm, own⟩, named,
    applied⟩

theorem updateTemplateApplicationStatus_writes {templateId applicationId : Uuid}
    {row : TemplateApplication}
    (h : updateTemplateApplicationStatus env now db organizationId templateId applicationId input =
      .ok (row, db')) :
    Writes env (touched env db organizationId
      (.updateTemplateApplicationStatus templateId applicationId input)) db db' := by
  simp only [updateTemplateApplicationStatus, except_bind_ok_iff, except_pure_ok_iff,
    mk.injEq] at h
  obtain ⟨current, found, -, rfl⟩ := h
  obtain ⟨stored, own⟩ := findApplication_ok found
  exact { unwritten _ db le_rfl with applications := .changed current stored own _ rfl rfl rfl }

theorem findPack_ok {packId : Uuid} {row : WhiteLabelPack}
    (h : findPack db organizationId packId = .ok row) :
    row ∈ db.packs ∧ row.organizationId = some organizationId ∧ row.id = packId :=
  findOwn_some (required_ok_iff.mp h)

theorem createWhiteLabelPack_writes {row : WhiteLabelPack}
    (h : createWhiteLabelPack env now db organizationId input = .ok (row, db')) :
    Writes env (touched env db organizationId (.createWhiteLabelPack input)) db db' := by
  simp only [createWhiteLabelPack, except_bind_ok_iff, except_pure_ok_iff, mk.injEq] at h
  obtain ⟨_, -, _, -, -, rfl⟩ := h
  have later := Nat.lt_succ_self db.nextUuid
  exact { unwritten _ db later.le with packs := .added _ rfl later rfl }

theorem updateWhiteLabelPack_writes {packId : Uuid} {row : WhiteLabelPack}
    (h : updateWhiteLabelPack env now db organizationId packId input = .ok (row, db')) :
    Writes env (touched env db organizationId (.updateWhiteLabelPack packId input)) db db' := by
  simp only [updateWhiteLabelPack, except_bind_ok_iff, except_pure_ok_iff, mk.injEq] at h
  obtain ⟨current, found, _, -, -, rfl⟩ := h
  obtain ⟨stored, own⟩ := findPack_ok found
  exact { unwritten _ db le_rfl with packs := .changed current stored own _ rfl rfl rfl }

theorem managePack_writes {packId : Uuid} {status : String} {row : WhiteLabelPack}
    (h : managePack env now db organizationId packId status = .ok (row, db')) :
    Writes env (touched env db organizationId (.archiveWhiteLabelPack packId)) db db' := by
  simp only [managePack, except_bind_ok_iff, except_pure_ok_iff, mk.injEq] at h
  obtain ⟨current, found, -, rfl⟩ := h
  obtain ⟨stored, own⟩ := findPack_ok found
  exact { unwritten _ db le_rfl with packs := .changed current stored own _ rfl rfl rfl }

theorem findAccount_ok {accountId : Uuid} {row : PartnerAccount}
    (h : findAccount db organizationId accountId = .ok row) :
    row ∈ db.accounts ∧ row.organizationId = some organizationId ∧ row.id = accountId :=
  findOwn_some (required_ok_iff.mp h)

theorem updatePartnerAccount_writes {accountId : Uuid} {row : PartnerAccount}
    (h : updatePartnerAccount env now db organizationId accountId input = .ok (row, db')) :
    Writes env (touched env db organizationId (.updatePartnerAccount accountId input)) db db' := by
  simp only [updatePartnerAccount, except_bind_ok_iff, except_pure_ok_iff, mk.injEq] at h
  obtain ⟨current, found, _, -, _, -, -, rfl⟩ := h
  obtain ⟨stored, own⟩ := findAccount_ok found
  exact { unwritten _ db le_rfl with accounts := .changed current stored own _ rfl rfl rfl }

theorem createPartnerAccount_found (now : Moment) (organizationId : Uuid) {data : PartnerAccountData}
    {account : PartnerAccount} (read : readPartnerAccount env input = .ok data)
    (found : Rows.find PartnerAccount.code db.accounts data.code = some account) :
    ∃ row : PartnerAccount, row.organizationId = some organizationId ∧
      createPartnerAccount env now db organizationId input = .ok (row, { db with
        accounts := Rows.modify PartnerAccount.id account.id (fun _ => row) db.accounts }) := by
  let row : PartnerAccount :=
    { account with
      organizationId := some organizationId
      tenantId := data.tenantId
      name := data.name
      status := data.status
      metadata := nullableJson input account.metadata
      updatedAt := now }
  refine ⟨row, rfl, except_bind_ok_iff.mpr ⟨data, read, ?_⟩⟩
  rw [found]
  rfl

theorem createPartnerAccount_writes {row : PartnerAccount}
    (h : createPartnerAccount env now db organizationId input = .ok (row, db')) :
    Writes env (touched env db organizationId (.createPartnerAccount input)) db db' := by
  simp only [createPartnerAccount, except_bind_ok_iff] at h
  obtain ⟨data, read, h⟩ := h
  split at h
  · next current found =>
    obtain ⟨-, rfl⟩ := mk.inj (Except.ok.inj h)
    obtain ⟨stored, coded⟩ := Rows.find_some found
    exact { unwritten _ db le_rfl with
      accounts := .changed current stored ⟨stored, data, read, coded⟩ _ rfl rfl rfl }
  · obtain ⟨-, rfl⟩ := mk.inj (Except.ok.inj h)
    have later := Nat.lt_succ_self db.nextUuid
    exact { unwritten _ db later.le with accounts := .added _ rfl later rfl }

theorem writes_of_map {α : Type} {T : Touched} {x : Except ApiException (α × OrganizationsDb)}
    (h : Prod.snd <$> x = .ok db') (writes : ∀ {row}, x = .ok (row, db') → Writes env T db db') :
    Writes env T db db' := by
  obtain ⟨done, made, rfl⟩ := Enterprise.map_ok_iff.mp h
  exact writes made

theorem perform_writes {operation : Operation} (unique : (db.templates.map (·.id)).Nodup)
    (h : perform env now db organizationId operation = .ok db') :
    Writes env (touched env db organizationId operation) db db' := by
  cases operation with
  | setMembershipStatus | setTenantLinkStatus =>
    obtain rfl := Except.ok.inj h
    exact unwritten _ db le_rfl
  | createOrganization => exact writes_of_map h createOrganization_writes
  | updateOrganization | setOrganizationStatus | archiveOrganization =>
    exact writes_of_map h updateOrganization_writes
  | addMembership => exact writes_of_map h addMembership_writes
  | updateMembership => exact writes_of_map h updateMembership_writes
  | archiveMembership => exact writes_of_map h archiveMembership_writes
  | linkTenant => exact writes_of_map h linkTenant_writes
  | updateTenantLink => exact writes_of_map h updateTenantLink_writes
  | archiveTenantLink => exact writes_of_map h archiveTenantLink_writes
  | upsertGovernancePolicy | updateGovernancePolicy =>
    exact writes_of_map h upsertGovernancePolicy_writes
  | archiveGovernancePolicy | setGovernancePolicyStatus =>
    exact writes_of_map h managePolicy_writes
  | createTemplate => exact writes_of_map h (createTemplate_writes unique)
  | updateTemplate => exact writes_of_map h (updateTemplate_writes unique)
  | archiveTemplate | setTemplateStatus => exact writes_of_map h (manageTemplate_writes unique)
  | applyTemplate => exact writes_of_map h applyTemplate_writes
  | reapplyTemplate => exact writes_of_map h reapplyTemplate_writes
  | updateTemplateApplicationStatus =>
    exact writes_of_map h updateTemplateApplicationStatus_writes
  | createWhiteLabelPack => exact writes_of_map h createWhiteLabelPack_writes
  | updateWhiteLabelPack => exact writes_of_map h updateWhiteLabelPack_writes
  | archiveWhiteLabelPack | setWhiteLabelPackStatus => exact writes_of_map h managePack_writes
  | createPartnerAccount => exact writes_of_map h createPartnerAccount_writes
  | updatePartnerAccount | archivePartnerAccount | setPartnerAccountStatus =>
    exact writes_of_map h updatePartnerAccount_writes

theorem afterCall_writes (now : Moment) (operation : Operation)
    (unique : (db.templates.map (·.id)).Nodup) :
    Writes env (touched env db organizationId operation) db
      (afterCall env now db organizationId operation) := by
  unfold afterCall
  split
  next made => exact perform_writes unique made
  · exact unwritten _ db le_rfl

theorem taken_gone (now : Moment) {operation : Operation} (keys : Keys db)
    (takes : TakesAccount env db organizationId operation) : ∃ other ≠ organizationId,
      ¬KeepsRecords other db (afterCall env now db organizationId operation) := by
  cases operation with
  | createPartnerAccount input =>
    obtain ⟨data, read, account, stored, keyed, other, is, foreign⟩ := takes
    have found : Rows.find PartnerAccount.code db.accounts data.code = some account :=
      (Rows.find_eq_some_iff keys.codes).mpr ⟨stored, keyed⟩
    refine ⟨other, foreign, fun keeps => ?_⟩
    have still := keeps.accounts account stored is
    obtain ⟨row, mine, made⟩ := createPartnerAccount_found now organizationId read found
    rw [afterCall, perform, made] at still
    refine Rows.not_mem_modify (fun same => foreign ?_) still
    rw [same] at mine
    exact Option.some.inj (is.symm.trans mine)
  | _ => exact takes.elim

/-- An operation of an organization keeps the records of every other one just when it creates no
partner account under a code that another one has. -/
theorem keepsOthers_iff (env : OrganizationsEnv) (now : Moment) {db : OrganizationsDb}
    (keys : Keys db) (organizationId : Uuid) (operation : Operation) :
    (∀ other, other ≠ organizationId →
        KeepsRecords other db (afterCall env now db organizationId operation)) ↔
      ¬TakesAccount env db organizationId operation := by
  constructor
  · intro keeps takes
    obtain ⟨other, foreign, gone⟩ := taken_gone now keys takes
    exact gone (keeps other foreign)
  · intro apart other foreign
    exact (afterCall_writes now operation keys.templates).keeps (touched_owned apart) keys foreign

def counterEnv : OrganizationsEnv where
  casing := Localization.Casing.ascii
  toISOString moment := toString moment
  readUuid text := some text
  uuid := .counter

/-- One organization has a partner account under the code `acme`. -/
def acmeOfNorth : OrganizationsDb where
  organizations := []
  memberships := []
  tenantLinks := []
  policies := []
  templates := []
  applications := []
  packs := []
  accounts := [⟨"account", some "north", none, "acme", "Acme", "ACTIVE", none, 0, 0⟩]
  nextUuid := 0

theorem acmeOfNorth_keys : Keys acmeOfNorth where
  organizations := nodup_nil
  memberships := nodup_nil
  tenantLinks := nodup_nil
  policies := nodup_nil
  templates := nodup_nil
  applications := nodup_nil
  packs := nodup_nil
  accounts := nodup_singleton _
  codes := nodup_singleton _

def createAcme : Operation :=
  .createPartnerAccount (.obj [("code", .str "acme"), ("name", .str "Acme South")])

theorem acme_takes : (∀ other, other ≠ "south" →
    KeepsRecords other acmeOfNorth (afterCall counterEnv 1 acmeOfNorth "south" createAcme)) ↔
      ¬TakesAccount counterEnv acmeOfNorth "south" createAcme :=
  keepsOthers_iff counterEnv 1 acmeOfNorth_keys "south" createAcme

/-- Another organization that creates its partner takes the account. -/
theorem south_takes_acme : ¬∀ (db : OrganizationsDb), Keys db → ∀ (now : Moment)
    (organizationId : Uuid) (operation : Operation) (other : Uuid), other ≠ organizationId →
      KeepsRecords other db (afterCall counterEnv now db organizationId operation) := by
  intro claim
  have keeps := claim acmeOfNorth acmeOfNorth_keys 1 "south" createAcme "north" (by decide)
  have still := keeps.accounts _ List.mem_cons_self rfl
  have owners : (afterCall counterEnv 1 acmeOfNorth "south" createAcme).accounts.map
      PartnerAccount.organizationId = [some "south"] := by decide +kernel
  have listed := List.mem_map_of_mem (f := PartnerAccount.organizationId) still
  rw [owners] at listed
  exact absurd (List.mem_singleton.mp listed) (by decide)

end Exetron.Organizations
