import Exetron.Enterprise.Values

/-!
# The organizations service

`organizations.service`: an organization's memberships, tenant links, policies, templates, packs and
partner accounts. There are no transactions: a call reads its row and then writes one.
-/

namespace Exetron.Organizations

open Lib
open Customization (Fields)
open Enterprise (Uuid Moment UuidSource textOr textIfTruthy asObject)

structure Organization where
  id : Uuid
  (code name status : String)
  metadata : Option Json
  (createdAt updatedAt : Moment)

structure OrganizationMembership where
  (id organizationId userId : Uuid)
  roleKey : String
  createdAt : Moment

structure OrganizationTenantLink where
  (id organizationId tenantId : Uuid)
  roleKey : String
  createdAt : Moment

structure GovernancePolicy where
  (id organizationId : Uuid)
  policyKey : String
  rules : Json
  (createdAt updatedAt : Moment)

structure RolloutTemplate where
  (id organizationId : Uuid)
  (code name : String)
  artifact : Json
  version : ℕ
  (createdAt updatedAt : Moment)

structure TemplateApplication where
  (id templateId : Uuid)
  (tenantId storeId : Option Uuid)
  appliedVersion : ℕ
  resultSummary : Json
  createdAt : Moment

structure WhiteLabelPack where
  id : Uuid
  (organizationId tenantId : Option Uuid)
  (code name : String)
  artifact : Json
  (createdAt updatedAt : Moment)

structure PartnerAccount where
  id : Uuid
  (organizationId tenantId : Option Uuid)
  (code name status : String)
  metadata : Option Json
  (createdAt updatedAt : Moment)

structure OrganizationsDb where
  organizations : List Organization
  memberships : List OrganizationMembership
  tenantLinks : List OrganizationTenantLink
  policies : List GovernancePolicy
  templates : List RolloutTemplate
  applications : List TemplateApplication
  packs : List WhiteLabelPack
  accounts : List PartnerAccount
  /-- Identifiers from here on are new. -/
  nextUuid : ℕ

structure OrganizationsEnv where
  casing : Localization.Casing
  toISOString : Moment → String
  /-- The value of a `uuid` column; a text that the database refuses has none. -/
  readUuid : String → Option Uuid
  uuid : UuidSource

variable (env : OrganizationsEnv)

def OrganizationsEnv.normalized (s : String) : String :=
  env.casing.toUpperCase.apply (Text.trim s)

def OrganizationsEnv.new (db : OrganizationsDb) : Uuid := env.uuid.text db.nextUuid

/-- `String(input[key] ?? fallback).trim()`. -/
def trimmedText (input : Json) (key fallback : String) : String :=
  Text.trim (textOr (input.get? key) fallback)

/-- `input[key] ? String(input[key]).trim() : undefined`. -/
def trimmedIfGiven (input : Json) (key : String) : Option String :=
  (textIfTruthy (input.get? key)).map Text.trim

def uuidColumn (text : String) : Except ApiException Uuid := required (env.readUuid text) .typeError

/-- `input[key] ? String(input[key]) : null`, written to a `uuid` column. -/
def nullableUuid (input : Json) (key : String) : Except ApiException (Option Uuid) :=
  match textIfTruthy (input.get? key) with
  | none => .ok none
  | some text => some <$> uuidColumn env text

/-- `input[key] === undefined ? undefined : String(input[key])`, written to a `uuid` column. -/
def changedUuid (input : Json) (key : String) (current : Option Uuid) :
    Except ApiException (Option Uuid) :=
  match input.get? key with
  | none => .ok current
  | some value => some <$> uuidColumn env value.toText

def asInputJson (value : Option Json) : Json := .obj (asObject value)

/-- `input[key] ?? input`. -/
def fieldOrBody (input : Json) (key : String) : Json :=
  asInputJson ((Json.present (input.get? key)).or (some input))

/-- `asNullableJson(input.metadata)`, written over the value that is there. -/
def nullableJson (input : Json) (current : Option Json) : Option Json :=
  match input.get? "metadata" with
  | some .null => some .null
  | some (.obj fields) => some (.obj fields)
  | _ => current

def setManagedStatus (value : Json) (status : String) (extra : Fields) : Json :=
  let source := asObject (some value)
  let metadata := Record.spread (asObject (Record.get source "__meta")) extra
  .obj (Record.set source "__meta" (.obj (Record.set metadata "status" (.str status))))

def managed (now : Moment) (status : String) (value : Json) : Json :=
  setManagedStatus value status
    [("archivedAt", if status = "ARCHIVED" then .str (env.toISOString now) else .null)]

def statusOf (input : Json) (fallback : String) : String :=
  env.normalized (textOr (input.get? "status") fallback)

def readNamed (input : Json) (message : String) : Except ApiException (String × String) := do
  let code := trimmedText input "code" ""
  let name := trimmedText input "name" ""
  rejectIf (code = "" ∨ name = "") (.badRequest message)
  pure (code, name)

def createOrganization (now : Moment) (db : OrganizationsDb) (input : Json) :
    Except ApiException (Organization × OrganizationsDb) := do
  let (code, name) ← readNamed input "Organization code and name are required."
  rejectIf (∃ row ∈ db.organizations, row.code = code) (.uniqueConstraint "Organization")
  let created : Organization :=
    { id := env.new db
      code
      name
      status := "ACTIVE"
      metadata := some (asInputJson (input.get? "metadata"))
      createdAt := now
      updatedAt := now }
  pure (created, { db with
    organizations := db.organizations ++ [created]
    nextUuid := db.nextUuid + 1 })

def updateOrganization (now : Moment) (db : OrganizationsDb) (organizationId : Uuid)
    (input : Json) : Except ApiException (Organization × OrganizationsDb) := do
  let row ← required (Rows.find Organization.id db.organizations organizationId)
    (.badRequest "Organization not found.")
  let updated :=
    { row with
      code := (trimmedIfGiven input "code").getD row.code
      name := (trimmedIfGiven input "name").getD row.name
      status := (trimmedIfGiven input "status").getD row.status
      metadata := nullableJson input row.metadata
      updatedAt := now }
  rejectIf (∃ other ∈ db.organizations, other.id ≠ row.id ∧ other.code = updated.code)
    (.uniqueConstraint "Organization")
  pure (updated, { db with
    organizations := Rows.modify Organization.id row.id (fun _ => updated) db.organizations })

def setOrganizationStatus (now : Moment) (db : OrganizationsDb) (organizationId : Uuid)
    (input : Json) : Except ApiException (Organization × OrganizationsDb) :=
  updateOrganization now db organizationId (.obj [("status", .str (statusOf env input "ACTIVE"))])

def archiveOrganization (now : Moment) (db : OrganizationsDb) (organizationId : Uuid) :
    Except ApiException (Organization × OrganizationsDb) :=
  updateOrganization now db organizationId (.obj [("status", .str "ARCHIVED")])

def findOwn {α : Type} (id : α → Uuid) (organization : α → Option Uuid) (rows : List α)
    (organizationId rowId : Uuid) : Option α :=
  rows.find? fun row => organization row = some organizationId ∧ id row = rowId

def findMembership (db : OrganizationsDb) (organizationId membershipId : Uuid) :
    Except ApiException OrganizationMembership :=
  required (findOwn OrganizationMembership.id (fun row => some row.organizationId) db.memberships
    organizationId membershipId) (.badRequest "Organization membership not found.")

def addMembership (now : Moment) (db : OrganizationsDb) (organizationId : Uuid) (input : Json) :
    Except ApiException (OrganizationMembership × OrganizationsDb) := do
  let userId := trimmedText input "userId" ""
  let roleKey := trimmedText input "roleKey" "member"
  rejectIf (userId = "") (.badRequest "userId is required.")
  let userId ← uuidColumn env userId
  match db.memberships.find? fun row =>
      row.organizationId = organizationId ∧ row.userId = userId with
  | some row =>
    let updated := { row with roleKey }
    pure (updated, { db with
      memberships :=
        Rows.modify OrganizationMembership.id row.id (fun _ => updated) db.memberships })
  | none =>
    let created : OrganizationMembership := ⟨env.new db, organizationId, userId, roleKey, now⟩
    pure (created, { db with
      memberships := db.memberships ++ [created]
      nextUuid := db.nextUuid + 1 })

def updateMembership (db : OrganizationsDb) (organizationId membershipId : Uuid) (input : Json) :
    Except ApiException (OrganizationMembership × OrganizationsDb) := do
  let row ← findMembership db organizationId membershipId
  let updated := { row with roleKey := (trimmedIfGiven input "roleKey").getD row.roleKey }
  pure (updated, { db with
    memberships := Rows.modify OrganizationMembership.id row.id (fun _ => updated) db.memberships })

def archiveMembership (db : OrganizationsDb) (organizationId membershipId : Uuid) :
    Except ApiException (OrganizationMembership × OrganizationsDb) := do
  let row ← findMembership db organizationId membershipId
  pure (row, { db with memberships := db.memberships.filter fun other => other.id ≠ row.id })

def setMembershipStatus (db : OrganizationsDb) (organizationId membershipId : Uuid)
    (input : Json) : Option OrganizationMembership × String :=
  match findOwn OrganizationMembership.id (fun row => some row.organizationId) db.memberships
      organizationId membershipId with
  | none => (none, statusOf env input "ARCHIVED")
  | some row => (some row, statusOf env input "ACTIVE")

def findTenantLink (db : OrganizationsDb) (organizationId linkId : Uuid) :
    Except ApiException OrganizationTenantLink :=
  required (findOwn OrganizationTenantLink.id (fun row => some row.organizationId) db.tenantLinks
    organizationId linkId) (.badRequest "Organization tenant link not found.")

def linkTenant (now : Moment) (db : OrganizationsDb) (organizationId : Uuid) (input : Json) :
    Except ApiException (OrganizationTenantLink × OrganizationsDb) := do
  let tenantId := trimmedText input "tenantId" ""
  let roleKey := trimmedText input "roleKey" "owner"
  rejectIf (tenantId = "") (.badRequest "tenantId is required.")
  let tenantId ← uuidColumn env tenantId
  match db.tenantLinks.find? fun row =>
      row.organizationId = organizationId ∧ row.tenantId = tenantId with
  | some row =>
    let updated := { row with roleKey }
    pure (updated, { db with
      tenantLinks :=
        Rows.modify OrganizationTenantLink.id row.id (fun _ => updated) db.tenantLinks })
  | none =>
    let created : OrganizationTenantLink := ⟨env.new db, organizationId, tenantId, roleKey, now⟩
    pure (created, { db with
      tenantLinks := db.tenantLinks ++ [created]
      nextUuid := db.nextUuid + 1 })

def updateTenantLink (db : OrganizationsDb) (organizationId linkId : Uuid) (input : Json) :
    Except ApiException (OrganizationTenantLink × OrganizationsDb) := do
  let row ← findTenantLink db organizationId linkId
  let updated := { row with roleKey := (trimmedIfGiven input "roleKey").getD row.roleKey }
  pure (updated, { db with
    tenantLinks := Rows.modify OrganizationTenantLink.id row.id (fun _ => updated) db.tenantLinks })

def archiveTenantLink (db : OrganizationsDb) (organizationId linkId : Uuid) :
    Except ApiException (OrganizationTenantLink × OrganizationsDb) := do
  let row ← findTenantLink db organizationId linkId
  pure (row, { db with tenantLinks := db.tenantLinks.filter fun other => other.id ≠ row.id })

def setTenantLinkStatus (db : OrganizationsDb) (organizationId linkId : Uuid) (input : Json) :
    Option OrganizationTenantLink × String :=
  match findOwn OrganizationTenantLink.id (fun row => some row.organizationId) db.tenantLinks
      organizationId linkId with
  | none => (none, statusOf env input "ARCHIVED")
  | some row => (some row, statusOf env input "ACTIVE")

def findPolicy (db : OrganizationsDb) (organizationId : Uuid) (policyKey : String) :
    Option GovernancePolicy :=
  db.policies.find? fun row => row.organizationId = organizationId ∧ row.policyKey = policyKey

def upsertGovernancePolicy (now : Moment) (db : OrganizationsDb) (organizationId : Uuid)
    (policyKey : String) (input : Json) :
    Except ApiException (GovernancePolicy × OrganizationsDb) := do
  let rules := fieldOrBody input "rules"
  match findPolicy db organizationId policyKey with
  | some row =>
    let updated := { row with rules, updatedAt := now }
    pure (updated, { db with
      policies := Rows.modify GovernancePolicy.id row.id (fun _ => updated) db.policies })
  | none =>
    let created : GovernancePolicy := ⟨env.new db, organizationId, policyKey, rules, now, now⟩
    pure (created, { db with
      policies := db.policies ++ [created]
      nextUuid := db.nextUuid + 1 })

def updateGovernancePolicy (now : Moment) (db : OrganizationsDb) (organizationId : Uuid)
    (policyKey : String) (input : Json) :
    Except ApiException (GovernancePolicy × OrganizationsDb) :=
  upsertGovernancePolicy env now db organizationId policyKey input

def managePolicy (now : Moment) (db : OrganizationsDb) (organizationId : Uuid)
    (policyKey status : String) : Except ApiException (GovernancePolicy × OrganizationsDb) := do
  let row ← required (findPolicy db organizationId policyKey)
    (.badRequest "Governance policy not found.")
  let updated :=
    { row with
      rules := managed env now status row.rules
      updatedAt := now }
  pure (updated, { db with
    policies := Rows.modify GovernancePolicy.id row.id (fun _ => updated) db.policies })

def archiveGovernancePolicy (now : Moment) (db : OrganizationsDb) (organizationId : Uuid)
    (policyKey : String) : Except ApiException (GovernancePolicy × OrganizationsDb) :=
  managePolicy env now db organizationId policyKey "ARCHIVED"

def setGovernancePolicyStatus (now : Moment) (db : OrganizationsDb) (organizationId : Uuid)
    (policyKey : String) (input : Json) :
    Except ApiException (GovernancePolicy × OrganizationsDb) :=
  managePolicy env now db organizationId policyKey (statusOf env input "ACTIVE")

/-- The columns that an update of a template writes. -/
structure TemplateData where
  code : Option String := none
  name : Option String := none
  artifact : Option Json := none
  version : Option ℕ := none

def TemplateData.over (data : TemplateData) (now : Moment) (row : RolloutTemplate) :
    RolloutTemplate :=
  { row with
    code := data.code.getD row.code
    name := data.name.getD row.name
    artifact := data.artifact.getD row.artifact
    version := data.version.getD row.version
    updatedAt := now }

def findTemplateByCode (db : OrganizationsDb) (organizationId : Uuid) (code : String) :
    Option RolloutTemplate :=
  db.templates.find? fun row => row.organizationId = organizationId ∧ row.code = code

def findTemplate (db : OrganizationsDb) (organizationId templateId : Uuid) :
    Except ApiException RolloutTemplate :=
  required (findOwn RolloutTemplate.id (fun row => some row.organizationId) db.templates
    organizationId templateId) (.badRequest "Rollout template not found.")

def writeTemplate (now : Moment) (db : OrganizationsDb) (templateId : Uuid) (data : TemplateData) :
    Except ApiException (RolloutTemplate × OrganizationsDb) := do
  let row ← required (Rows.find RolloutTemplate.id db.templates templateId)
    (.recordNotFound "RolloutTemplate")
  let updated := data.over now row
  rejectIf (∃ other ∈ db.templates, other.id ≠ row.id ∧
    other.organizationId = updated.organizationId ∧ other.code = updated.code)
    (.uniqueConstraint "RolloutTemplate")
  pure (updated, { db with
    templates := Rows.modify RolloutTemplate.id row.id (fun _ => updated) db.templates })

def insertTemplate (now : Moment) (db : OrganizationsDb) (organizationId : Uuid)
    (code name : String) (artifact : Json) :
    Except ApiException (RolloutTemplate × OrganizationsDb) := do
  rejectIf (∃ other ∈ db.templates, other.organizationId = organizationId ∧ other.code = code)
    (.uniqueConstraint "RolloutTemplate")
  let created : RolloutTemplate :=
    ⟨env.new db, organizationId, code, name, artifact, 1, now, now⟩
  pure (created, { db with
    templates := db.templates ++ [created]
    nextUuid := db.nextUuid + 1 })

/-- What `createTemplate` writes to a template that has the code already. -/
def recreateData (current : RolloutTemplate) (name : String) (artifact : Json) : TemplateData :=
  { name := some name, artifact := some artifact, version := some (current.version + 1) }

def createTemplate (now : Moment) (db : OrganizationsDb) (organizationId : Uuid) (input : Json) :
    Except ApiException (RolloutTemplate × OrganizationsDb) := do
  let (code, name) ← readNamed input "Template code and name are required."
  let artifact := fieldOrBody input "artifact"
  match findTemplateByCode db organizationId code with
  | some current => writeTemplate now db current.id (recreateData current name artifact)
  | none => insertTemplate env now db organizationId code name artifact

def updateData (template : RolloutTemplate) (input : Json) : TemplateData :=
  { code := trimmedIfGiven input "code"
    name := trimmedIfGiven input "name"
    artifact := (input.get? "artifact").map fun value => asInputJson (some value)
    version := some (template.version + 1) }

def updateTemplate (now : Moment) (db : OrganizationsDb) (organizationId templateId : Uuid)
    (input : Json) : Except ApiException (RolloutTemplate × OrganizationsDb) := do
  let template ← findTemplate db organizationId templateId
  writeTemplate now db template.id (updateData template input)

def managedData (now : Moment) (template : RolloutTemplate) (status : String) : TemplateData :=
  { artifact := some (managed env now status template.artifact) }

def archiveTemplate (now : Moment) (db : OrganizationsDb) (organizationId templateId : Uuid) :
    Except ApiException (RolloutTemplate × OrganizationsDb) := do
  let template ← findTemplate db organizationId templateId
  writeTemplate now db templateId (managedData env now template "ARCHIVED")

def setTemplateStatus (now : Moment) (db : OrganizationsDb) (organizationId templateId : Uuid)
    (input : Json) : Except ApiException (RolloutTemplate × OrganizationsDb) := do
  let template ← findTemplate db organizationId templateId
  writeTemplate now db templateId (managedData env now template (statusOf env input "ACTIVE"))

def insertApplication (now : Moment) (db : OrganizationsDb) (template : RolloutTemplate)
    (input : Json) : Except ApiException (TemplateApplication × OrganizationsDb) := do
  let tenantId ← nullableUuid env input "tenantId"
  let storeId ← nullableUuid env input "storeId"
  let created : TemplateApplication :=
    { id := env.new db
      templateId := template.id
      tenantId
      storeId
      appliedVersion := template.version
      resultSummary := .obj [("appliedTemplateCode", .str template.code),
        ("appliedTemplateVersion", .ofNat template.version),
        ("__meta", .obj [("status", .str "APPLIED")])]
      createdAt := now }
  pure (created, { db with
    applications := db.applications ++ [created]
    nextUuid := db.nextUuid + 1 })

def findAppliedTemplate (db : OrganizationsDb) (templateId : Uuid) :
    Except ApiException RolloutTemplate :=
  required (Rows.find RolloutTemplate.id db.templates templateId)
    (.badRequest "Template not found.")

def applyTemplate (now : Moment) (db : OrganizationsDb) (templateId : Uuid) (input : Json) :
    Except ApiException (TemplateApplication × OrganizationsDb) := do
  let template ← findAppliedTemplate db templateId
  insertApplication env now db template input

def findApplication (db : OrganizationsDb) (organizationId templateId applicationId : Uuid) :
    Except ApiException TemplateApplication := do
  let _ ← findTemplate db organizationId templateId
  required (db.applications.find? fun row => row.id = applicationId ∧ row.templateId = templateId)
    (.badRequest "Template application not found.")

def checkSourceApplication (db : OrganizationsDb) (organizationId templateId : Uuid)
    (input : Json) : Except ApiException Unit :=
  match textIfTruthy (input.get? "applicationId") with
  | none => .ok ()
  | some text => do
    let applicationId ← uuidColumn env text
    let _ ← findApplication db organizationId templateId applicationId
    pure ()

def reapplyTemplate (now : Moment) (db : OrganizationsDb) (organizationId templateId : Uuid)
    (input : Json) : Except ApiException (TemplateApplication × OrganizationsDb) := do
  let _ ← findTemplate db organizationId templateId
  let _ ← checkSourceApplication env db organizationId templateId input
  applyTemplate env now db templateId input

def updateTemplateApplicationStatus (now : Moment) (db : OrganizationsDb)
    (organizationId templateId applicationId : Uuid) (input : Json) :
    Except ApiException (TemplateApplication × OrganizationsDb) := do
  let row ← findApplication db organizationId templateId applicationId
  let updated :=
    { row with
      resultSummary := setManagedStatus row.resultSummary (statusOf env input "APPLIED")
        [("updatedAt", .str (env.toISOString now))] }
  pure (updated, { db with
    applications := Rows.modify TemplateApplication.id row.id (fun _ => updated) db.applications })

def findPack (db : OrganizationsDb) (organizationId packId : Uuid) :
    Except ApiException WhiteLabelPack :=
  required (findOwn WhiteLabelPack.id WhiteLabelPack.organizationId db.packs organizationId packId)
    (.badRequest "White-label pack not found.")

def createWhiteLabelPack (now : Moment) (db : OrganizationsDb) (organizationId : Uuid)
    (input : Json) : Except ApiException (WhiteLabelPack × OrganizationsDb) := do
  let (code, name) ← readNamed input "Pack code and name are required."
  let tenantId ← nullableUuid env input "tenantId"
  let created : WhiteLabelPack :=
    ⟨env.new db, some organizationId, tenantId, code, name, fieldOrBody input "artifact", now, now⟩
  pure (created, { db with
    packs := db.packs ++ [created]
    nextUuid := db.nextUuid + 1 })

def updateWhiteLabelPack (now : Moment) (db : OrganizationsDb) (organizationId packId : Uuid)
    (input : Json) : Except ApiException (WhiteLabelPack × OrganizationsDb) := do
  let row ← findPack db organizationId packId
  let tenantId ← changedUuid env input "tenantId" row.tenantId
  let updated :=
    { row with
      code := (trimmedIfGiven input "code").getD row.code
      name := (trimmedIfGiven input "name").getD row.name
      tenantId
      artifact := ((input.get? "artifact").map fun value => asInputJson (some value)).getD
        row.artifact
      updatedAt := now }
  pure (updated, { db with
    packs := Rows.modify WhiteLabelPack.id row.id (fun _ => updated) db.packs })

def managePack (now : Moment) (db : OrganizationsDb) (organizationId packId : Uuid)
    (status : String) : Except ApiException (WhiteLabelPack × OrganizationsDb) := do
  let row ← findPack db organizationId packId
  let updated :=
    { row with
      artifact := managed env now status row.artifact
      updatedAt := now }
  pure (updated, { db with
    packs := Rows.modify WhiteLabelPack.id row.id (fun _ => updated) db.packs })

def archiveWhiteLabelPack (now : Moment) (db : OrganizationsDb) (organizationId packId : Uuid) :
    Except ApiException (WhiteLabelPack × OrganizationsDb) :=
  managePack env now db organizationId packId "ARCHIVED"

def setWhiteLabelPackStatus (now : Moment) (db : OrganizationsDb) (organizationId packId : Uuid)
    (input : Json) : Except ApiException (WhiteLabelPack × OrganizationsDb) :=
  managePack env now db organizationId packId (statusOf env input "ACTIVE")

def findAccount (db : OrganizationsDb) (organizationId accountId : Uuid) :
    Except ApiException PartnerAccount :=
  required (findOwn PartnerAccount.id PartnerAccount.organizationId db.accounts organizationId
    accountId) (.badRequest "Partner account not found.")

/-- The columns of a new partner account. -/
structure PartnerAccountData where
  (code name : String)
  tenantId : Option Uuid
  status : String

def readPartnerAccount (input : Json) : Except ApiException PartnerAccountData := do
  let (code, name) ← readNamed input "Partner code and name are required."
  let tenantId ← nullableUuid env input "tenantId"
  pure ⟨code, name, tenantId, textOr (input.get? "status") "ACTIVE"⟩

def createPartnerAccount (now : Moment) (db : OrganizationsDb) (organizationId : Uuid)
    (input : Json) : Except ApiException (PartnerAccount × OrganizationsDb) := do
  let data ← readPartnerAccount env input
  match Rows.find PartnerAccount.code db.accounts data.code with
  | some row =>
    let updated :=
      { row with
        organizationId := some organizationId
        tenantId := data.tenantId
        name := data.name
        status := data.status
        metadata := nullableJson input row.metadata
        updatedAt := now }
    pure (updated, { db with
      accounts := Rows.modify PartnerAccount.id row.id (fun _ => updated) db.accounts })
  | none =>
    let created : PartnerAccount :=
      { id := env.new db
        organizationId := some organizationId
        tenantId := data.tenantId
        code := data.code
        name := data.name
        status := data.status
        metadata := some (asInputJson (input.get? "metadata"))
        createdAt := now
        updatedAt := now }
    pure (created, { db with
      accounts := db.accounts ++ [created]
      nextUuid := db.nextUuid + 1 })

def updatePartnerAccount (now : Moment) (db : OrganizationsDb) (organizationId accountId : Uuid)
    (input : Json) : Except ApiException (PartnerAccount × OrganizationsDb) := do
  let row ← findAccount db organizationId accountId
  let tenantId ← changedUuid env input "tenantId" row.tenantId
  let updated :=
    { row with
      code := (trimmedIfGiven input "code").getD row.code
      name := (trimmedIfGiven input "name").getD row.name
      status := ((trimmedIfGiven input "status").map env.casing.toUpperCase.apply).getD row.status
      tenantId
      metadata := nullableJson input row.metadata
      updatedAt := now }
  rejectIf (∃ other ∈ db.accounts, other.id ≠ row.id ∧ other.code = updated.code)
    (.uniqueConstraint "PartnerAccount")
  pure (updated, { db with
    accounts := Rows.modify PartnerAccount.id row.id (fun _ => updated) db.accounts })

def archivePartnerAccount (now : Moment) (db : OrganizationsDb) (organizationId accountId : Uuid) :
    Except ApiException (PartnerAccount × OrganizationsDb) :=
  updatePartnerAccount env now db organizationId accountId (.obj [("status", .str "ARCHIVED")])

def setPartnerAccountStatus (now : Moment) (db : OrganizationsDb)
    (organizationId accountId : Uuid) (input : Json) :
    Except ApiException (PartnerAccount × OrganizationsDb) :=
  updatePartnerAccount env now db organizationId accountId
    (.obj [("status", .str (statusOf env input "ACTIVE"))])

end Exetron.Organizations
