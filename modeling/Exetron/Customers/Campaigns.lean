import Exetron.Customers.Service

/-!
# Campaigns

`CustomersService.createPromotion` and `updatePromotion`. Neither touches what has been used of a
promotion.
-/

namespace Exetron.Customers

open Lib

/-- The request's validators ask for a limit of one at least. -/
structure CreatePromotionCampaignDto where
  tenantId : Id
  storeId : Option Id := none
  (code name : String)
  status : Option PromotionStatus := none
  type : PromotionType
  value : Money
  minimumOrderTotal : Option Money := none
  maxDiscountAmount : Option Money := none
  pointsCost : Option Int := none
  segmentKeys : Option (List String) := none
  usageLimit : Option Int := none
  activeFrom : Option Instant := none
  activeTo : Option Instant := none
  pointsCost_min : ∀ n ∈ pointsCost, 0 ≤ n
  usageLimit_min : ∀ n ∈ usageLimit, 1 ≤ n

/-- A field left out of the request stays as it is; one given as null is cleared. -/
structure UpdatePromotionCampaignDto where
  storeId : Option (Option Id) := none
  code : Option String := none
  name : Option String := none
  status : Option PromotionStatus := none
  type : Option PromotionType := none
  value : Option Money := none
  minimumOrderTotal : Option Money := none
  maxDiscountAmount : Option (Option Money) := none
  pointsCost : Option (Option Int) := none
  segmentKeys : Option (List String) := none
  usageLimit : Option (Option Int) := none
  activeFrom : Option (Option Instant) := none
  activeTo : Option (Option Instant) := none
  pointsCost_min : ∀ given ∈ pointsCost, ∀ n ∈ given, 0 ≤ n
  usageLimit_min : ∀ given ∈ usageLimit, ∀ n ∈ given, 1 ≤ n

def enforceStoreIfAny (context : RequestContext) : Option Id → Except ApiException Unit
  | none => .ok ()
  | some storeId => enforceStoreAccess context storeId

def ensureCodeIsFree (tenantId : Id) (code : String) (other : PromotionCampaign → Bool) (db : Db) :
    Except ApiException Unit :=
  rejectIf (db.customers.campaigns.any fun campaign =>
      campaign.tenantId = tenantId ∧ campaign.code = code ∧ other campaign)
    (.uniqueConstraint "PromotionCampaign")

def admitNewPromotion (context : RequestContext) (dto : CreatePromotionCampaignDto) (code : String)
    (db : Db) : Except ApiException Id := do
  let tenantId ← resolveTenantId context (some dto.tenantId)
  enforceStoreIfAny context dto.storeId
  ensureCodeIsFree tenantId code (fun _ => true) db
  pure tenantId

def newCampaign (dto : CreatePromotionCampaignDto) (tenantId : Id) (code : String) (id : Id) :
    PromotionCampaign where
  id := toString id
  tenantId := tenantId
  storeId := dto.storeId
  code := code
  name := Text.trim dto.name
  status := dto.status.getD .active
  type := dto.type
  value := dto.value
  minimumOrderTotal := dto.minimumOrderTotal.getD 0
  maxDiscountAmount := dto.maxDiscountAmount
  pointsCost := dto.pointsCost
  segmentKeys := dto.segmentKeys.getD []
  usageLimit := dto.usageLimit
  usedCount := 0
  activeFrom := dto.activeFrom
  activeTo := dto.activeTo

def createPromotionTx (env : Env) (context : RequestContext) (dto : CreatePromotionCampaignDto) :
    Transaction PromotionCampaign := do
  let code := env.toUpperCase (Text.trim dto.code)
  let tenantId ← Tx.read (admitNewPromotion context dto code)
  let id ← freshId
  let created ← promotionCampaigns.create (newCampaign dto tenantId code id)
  recordAudit
    { tenantId
      storeId := dto.storeId
      actorType := resolveActorType context
      actorId := resolveActorId context
      action := "promotion.created"
      entityType := "promotion_campaign"
      entityId := id }
  pure created

def createPromotion (env : Env) (context : RequestContext) (dto : CreatePromotionCampaignDto) :
    ServiceCall PromotionCampaign :=
  Call.transact (createPromotionTx env context dto)

def withChanges (env : Env) (dto : UpdatePromotionCampaignDto) (row : PromotionCampaign) :
    PromotionCampaign :=
  { row with
    storeId := dto.storeId.getD row.storeId
    code := (dto.code.map fun code => env.toUpperCase (Text.trim code)).getD row.code
    name := (dto.name.map Text.trim).getD row.name
    status := dto.status.getD row.status
    type := dto.type.getD row.type
    value := dto.value.getD row.value
    minimumOrderTotal := dto.minimumOrderTotal.getD row.minimumOrderTotal
    maxDiscountAmount := dto.maxDiscountAmount.getD row.maxDiscountAmount
    pointsCost := dto.pointsCost.getD row.pointsCost
    segmentKeys := dto.segmentKeys.getD row.segmentKeys
    usageLimit := dto.usageLimit.getD row.usageLimit
    activeFrom := dto.activeFrom.getD row.activeFrom
    activeTo := dto.activeTo.getD row.activeTo }

def admitPromotionChange (env : Env) (context : RequestContext) (promotionId : Id)
    (dto : UpdatePromotionCampaignDto) (db : Db) : Except ApiException PromotionCampaign := do
  let current ← promotionCampaigns.findUniqueOrThrow (toString promotionId) db
  let _ ← resolveTenantId context (some current.tenantId)
  enforceStoreIfAny context current.storeId
  enforceStoreIfAny context dto.storeId.join
  ensureCodeIsFree current.tenantId (withChanges env dto current).code
    (fun campaign => campaign.id ≠ current.id) db
  pure current

def updatePromotionTx (env : Env) (context : RequestContext) (promotionId : Id)
    (dto : UpdatePromotionCampaignDto) : Transaction PromotionCampaign := do
  let _ ← Tx.read (admitPromotionChange env context promotionId dto)
  let updated ← promotionCampaigns.update (toString promotionId) (withChanges env dto)
  recordAudit
    { tenantId := updated.tenantId
      storeId := updated.storeId
      actorType := resolveActorType context
      actorId := resolveActorId context
      action := "promotion.updated"
      entityType := "promotion_campaign"
      entityId := promotionId }
  pure updated

def updatePromotion (env : Env) (context : RequestContext) (promotionId : Id)
    (dto : UpdatePromotionCampaignDto) : ServiceCall PromotionCampaign :=
  Call.transact (updatePromotionTx env context promotionId dto)

section
variable {env : Env} {context : RequestContext} {db db' : Db} {result : PromotionCampaign}

theorem createPromotionTx_ok {dto : CreatePromotionCampaignDto}
    (h : createPromotionTx env context dto db = .ok (result, db')) :
    ∃ tenantId code audit, db' = { db with
      nextId := db.nextId + 1
      customers := { db.customers with
        campaigns := db.customers.campaigns ++ [newCampaign dto tenantId code db.nextId] }
      logs := { db.logs with audit := audit } } := by
  simp only [createPromotionTx, Tx.bind_ok_iff, Tx.read_ok_iff, freshId_ok_iff, Table.create_ok_iff,
    Tx.pure_ok_iff] at h
  obtain ⟨tenantId, _, ⟨_, rfl⟩, _, _, ⟨rfl, rfl⟩, _, _, ⟨rfl, rfl⟩, _, _, audited, _, rfl⟩ := h
  rw [log_ok_iff.mp audited]
  exact ⟨tenantId, _, _, rfl⟩

theorem updatePromotionTx_ok {promotionId : Id} {dto : UpdatePromotionCampaignDto}
    (h : updatePromotionTx env context promotionId dto db = .ok (result, db')) :
    ∃ audit, db' = { db with
      customers := { db.customers with
        campaigns := Rows.modify PromotionCampaign.id (toString promotionId) (withChanges env dto)
          db.customers.campaigns }
      logs := { db.logs with audit := audit } } := by
  simp only [updatePromotionTx, Tx.bind_ok_iff, Tx.read_ok_iff, Table.update_ok_iff,
    Tx.pure_ok_iff] at h
  obtain ⟨_, _, ⟨_, rfl⟩, _, _, ⟨_, _, rfl, rfl⟩, _, _, audited, _, rfl⟩ := h
  rw [log_ok_iff.mp audited]
  exact ⟨_, rfl⟩

end

end Exetron.Customers
