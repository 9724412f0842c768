import Exetron.Billing.Store

/-!
# The billing service

`BillingService`: every operation loads the state of a tenant, changes it, and saves all of it.
-/

namespace Exetron.Billing

open Lib

def subscriptionStatusRank : BillingSubscriptionStatus → Nat
  | .active => 5
  | .trial => 4
  | .grace => 3
  | .suspended => 2
  | .cancelled => 1

def SubscriptionBefore (left right : Subscription) : Prop :=
  subscriptionStatusRank right.status < subscriptionStatusRank left.status ∨
    subscriptionStatusRank right.status = subscriptionStatusRank left.status ∧
      (right.updatedAt < left.updatedAt ∨ right.updatedAt = left.updatedAt ∧
        (right.currentPeriodEnd < left.currentPeriodEnd ∨
          right.currentPeriodEnd = left.currentPeriodEnd ∧ right.createdAt ≤ left.createdAt))

instance : DecidableRel SubscriptionBefore := fun _ _ => inferInstanceAs (Decidable (_ ∨ _))

def activeSubscription (subscriptions : List Subscription) : Option Subscription :=
  (subscriptions.insertionSort SubscriptionBefore).head?

structure BillingOverview extends BillingState where
  tenantId : Id
  generatedAt : Instant
  activePlan : Option BillingPlan
  activeSubscription : Option Subscription
  activeTrial : Option TrialGrant
  billingAccount : Option BillingAccount

def mapBillingOverview (now : Instant) (state : BillingState) (tenantId : Id) : BillingOverview :=
  let active := activeSubscription
    (state.subscriptions.filter fun subscription => subscription.tenantId = tenantId)
  { state with
    tenantId := tenantId
    generatedAt := now
    activePlan := match active with
      | some subscription => state.plans.find? fun plan => plan.id = subscription.planId
      | none => (state.plans.filter fun plan => plan.status = .active).head?
    activeSubscription := active
    activeTrial := ((state.trials.filter fun trial => trial.tenantId = tenantId).insertionSort
      fun left right => right.createdAt ≤ left.createdAt).head?
    billingAccount := state.accounts.find? fun account => account.tenantId = tenantId }

def overview (now : Instant) (context : RequestContext) (tenantId : Option Id) :
    BillingTransaction BillingOverview := do
  let tenantId ← Tx.lift (resolveTenantId context tenantId)
  let state ← loadStateTx tenantId
  pure (mapBillingOverview now state tenantId)

def newId : BillingTransaction Id := do
  let id ← Tx.read fun db => .ok db.nextId
  Tx.write fun db => { db with nextId := db.nextId + 1 }
  pure id

/-- `billingAccountId` counts only when it is given. A new account is saved at once, with the state
as it is by then. -/
def ensureAccountTx (now : Instant) (tenantId : Id) (state : BillingState)
    (billingAccountId : Option Id) : BillingTransaction (BillingAccount × BillingState) := do
  let current := match billingAccountId with
    | some id => state.accounts.find? fun account => account.id = id
    | none => state.accounts.find? fun account => account.tenantId = tenantId
  match current with
  | some account => pure (account, state)
  | none =>
    let id ← newId
    let account : BillingAccount := {
      id := id
      tenantId := tenantId
      resellerAccountId := none
      status := "ACTIVE"
      defaultPaymentTerms := none
      metadata := none
      createdAt := now
      updatedAt := now }
    let state := { state with accounts := account :: state.accounts }
    saveStateTx now tenantId state
    pure (account, state)

structure PlanInput where
  (code name : String)
  priceAmount : Option Amount
  (currency intervalKey : Option String)

def PlanInput.patch (input : PlanInput) (now : Instant) (plan : BillingPlan) : BillingPlan :=
  { plan with
    name := Text.trim input.name
    priceAmount := input.priceAmount.getD plan.priceAmount
    currency := input.currency.getD plan.currency
    intervalKey := input.intervalKey.getD plan.intervalKey
    updatedAt := now }

def ensurePlan (now : Instant) (state : BillingState) (input : PlanInput) :
    BillingTransaction (BillingPlan × BillingState) :=
  match state.plans.find? fun plan => plan.code = input.code with
  | some plan => pure (input.patch now plan, { state with
      plans := Rows.modify BillingPlan.id plan.id (input.patch now) state.plans })
  | none => do
    let id ← newId
    let plan : BillingPlan := {
      id := id
      code := Text.trim input.code
      name := Text.trim input.name
      status := .active
      priceAmount := input.priceAmount.getD 0
      currency := input.currency.getD "RUB"
      intervalKey := input.intervalKey.getD "MONTHLY"
      entitlements := []
      quotas := []
      metadata := none
      createdAt := now
      updatedAt := now }
    pure (plan, { state with plans := plan :: state.plans })

def dayMillis : Nat := 86400000

def ensureTrial (now : Instant) (state : BillingState) (tenantId : Id) (trialDays : Nat) :
    BillingTransaction (TrialGrant × BillingState) :=
  match state.trials.find? fun trial => trial.tenantId = tenantId with
  | some trial => pure (trial, state)
  | none => do
    let id ← newId
    let trial : TrialGrant := {
      id := id
      tenantId := tenantId
      subscriptionId := none
      status := .active
      startedAt := now
      endsAt := now + trialDays * dayMillis
      convertedAt := none
      createdAt := now
      updatedAt := now }
    pure (trial, { state with trials := trial :: state.trials })

def ensureSubscription (now : Instant) (state : BillingState)
    (tenantId billingAccountId planId : Id) (currentPeriodEnd : Instant) :
    BillingTransaction (Subscription × BillingState) :=
  match state.subscriptions.find? fun subscription => subscription.tenantId = tenantId with
  | some subscription => pure (subscription, state)
  | none => do
    let id ← newId
    let subscription : Subscription := {
      id := id
      tenantId := tenantId
      billingAccountId := billingAccountId
      planId := planId
      status := .trial
      startedAt := now
      currentPeriodStart := now
      currentPeriodEnd := currentPeriodEnd
      cancelledAt := none
      metadata := none
      createdAt := now
      updatedAt := now }
    pure (subscription, { state with subscriptions := subscription :: state.subscriptions })

def ensureReseller (now : Instant) (state : BillingState) (code name : String) :
    BillingTransaction (ResellerAccount × BillingState) :=
  match state.resellers.find? fun reseller => reseller.code = code with
  | some reseller => pure (reseller, state)
  | none => do
    let id ← newId
    let reseller : ResellerAccount := {
      id := id
      code := code
      name := name
      status := "ACTIVE"
      metadata := none
      createdAt := now
      updatedAt := now }
    pure (reseller, { state with resellers := reseller :: state.resellers })

structure CreateBillingPlanDto where
  tenantId : Id
  (code name : String)
  priceAmount : Option Amount
  (currency intervalKey : Option String)
  (entitlements quotas metadata : Option JsonRecord)

def createPlan (now : Instant) (context : RequestContext) (dto : CreateBillingPlanDto) :
    BillingTransaction BillingPlan := do
  let tenantId ← Tx.lift (resolveTenantId context (some dto.tenantId))
  let state ← loadStateTx tenantId
  let id ← newId
  let plan : BillingPlan := {
    id := id
    code := Text.trim dto.code
    name := Text.trim dto.name
    status := .active
    priceAmount := dto.priceAmount.getD 0
    currency := dto.currency.getD "RUB"
    intervalKey := dto.intervalKey.getD "MONTHLY"
    entitlements := dto.entitlements.getD []
    quotas := dto.quotas.getD []
    metadata := dto.metadata
    createdAt := now
    updatedAt := now }
  saveStateTx now tenantId { state with
    plans := plan :: state.plans.filter fun item => item.id ≠ plan.id }
  pure plan

structure UpdateBillingPlanDto where
  tenantId : Option Id
  (code name : Option String)
  status : Option BillingPlanStatus
  priceAmount : Option Amount
  (currency intervalKey : Option String)
  (entitlements quotas metadata : Option JsonRecord)

def UpdateBillingPlanDto.patch (dto : UpdateBillingPlanDto) (now : Instant)
    (current : BillingPlan) : BillingPlan :=
  { current with
    code := dto.code.getD current.code
    name := dto.name.getD current.name
    status := dto.status.getD current.status
    priceAmount := dto.priceAmount.getD current.priceAmount
    currency := dto.currency.getD current.currency
    intervalKey := dto.intervalKey.getD current.intervalKey
    entitlements := dto.entitlements.getD current.entitlements
    quotas := dto.quotas.getD current.quotas
    metadata := dto.metadata.or current.metadata
    updatedAt := now }

def updatePlan (now : Instant) (context : RequestContext) (planId : Id)
    (dto : UpdateBillingPlanDto) : BillingTransaction BillingPlan := do
  let tenantId ← Tx.lift (resolveTenantId context (dto.tenantId.or context.tenantId))
  let state ← loadStateTx tenantId
  let current ← Tx.lift (required (state.plans.find? fun plan => plan.id = planId)
    (.badRequest "Billing plan was not found."))
  let next := dto.patch now current
  saveStateTx now tenantId { state with
    plans := state.plans.map fun plan => if plan.id = planId then next else plan }
  pure next

structure CreateBillingSubscriptionDto where
  (tenantId planId : Id)
  billingAccountId : Option Id
  status : Option BillingSubscriptionStatus
  currentPeriodDays : Option Nat

def createSubscription (now : Instant) (context : RequestContext)
    (dto : CreateBillingSubscriptionDto) : BillingTransaction Subscription := do
  let tenantId ← Tx.lift (resolveTenantId context (some dto.tenantId))
  let state ← loadStateTx tenantId
  let plan ← Tx.lift (required (state.plans.find? fun item => item.id = dto.planId)
    (.badRequest "Billing plan was not found."))
  let ensured ← ensureAccountTx now tenantId state dto.billingAccountId
  let id ← newId
  let subscription : Subscription := {
    id := id
    tenantId := tenantId
    billingAccountId := ensured.1.id
    planId := plan.id
    status := dto.status.getD .active
    startedAt := now
    currentPeriodStart := now
    currentPeriodEnd := now + dto.currentPeriodDays.getD 30 * dayMillis
    cancelledAt := none
    metadata := none
    createdAt := now
    updatedAt := now }
  saveStateTx now tenantId { ensured.2 with
    subscriptions := subscription :: ensured.2.subscriptions }
  pure subscription

structure IssueBillingInvoiceDto where
  (tenantId billingAccountId : Id)
  subscriptionId : Option Id
  (subtotalAmount totalAmount : Amount)
  lines : List JsonRecord
  dueAt : Option Instant

def issueInvoice (now : Instant) (context : RequestContext) (dto : IssueBillingInvoiceDto) :
    BillingTransaction Invoice := do
  let tenantId ← Tx.lift (resolveTenantId context (some dto.tenantId))
  let state ← loadStateTx tenantId
  let ensured ← ensureAccountTx now tenantId state (some dto.billingAccountId)
  let id ← newId
  let invoice : Invoice := {
    id := id
    tenantId := tenantId
    billingAccountId := ensured.1.id
    subscriptionId := dto.subscriptionId
    number := "INV-" ++ toString now
    status := .issued
    currency := "RUB"
    subtotalAmount := dto.subtotalAmount
    totalAmount := dto.totalAmount
    dueAt := dto.dueAt
    issuedAt := some now
    paidAt := none
    lines := dto.lines
    metadata := none
    createdAt := now
    updatedAt := now }
  saveStateTx now tenantId { ensured.2 with invoices := invoice :: ensured.2.invoices }
  pure invoice

structure UpsertBillingEntitlementDto where
  tenantId : Id
  subscriptionId : Option Id
  key : String
  (scopeType scopeId : Option String)
  value : JsonRecord
  source : Option String

def idOrNew (current : Option Id) : BillingTransaction Id :=
  match current with
  | some id => pure id
  | none => newId

def upsertEntitlement (now : Instant) (context : RequestContext)
    (dto : UpsertBillingEntitlementDto) : BillingTransaction EntitlementGrant := do
  let tenantId ← Tx.lift (resolveTenantId context (some dto.tenantId))
  let state ← loadStateTx tenantId
  let current := state.entitlements.find? fun item =>
    item.tenantId = tenantId ∧ item.key = dto.key ∧
      item.scopeType = dto.scopeType.getD "TENANT" ∧ item.scopeId = dto.scopeId
  let id ← idOrNew (current.map EntitlementGrant.id)
  let entitlement : EntitlementGrant := {
    id := id
    tenantId := tenantId
    subscriptionId := dto.subscriptionId.or (current.bind EntitlementGrant.subscriptionId)
    key := dto.key
    scopeType := dto.scopeType.getD "TENANT"
    scopeId := dto.scopeId
    value := dto.value
    source := dto.source.getD "MANUAL"
    createdAt := (current.map EntitlementGrant.createdAt).getD now
    updatedAt := now }
  saveStateTx now tenantId { state with
    entitlements := entitlement :: state.entitlements.filter fun item => item.id ≠ entitlement.id }
  pure entitlement

structure UpsertBillingQuotaDto where
  tenantId : Id
  subscriptionId : Option Id
  key : String
  (scopeType scopeId : Option String)
  limitValue : Int
  usedValue : Option Int
  resetAt : Option Instant

def upsertQuota (now : Instant) (context : RequestContext) (dto : UpsertBillingQuotaDto) :
    BillingTransaction QuotaCounter := do
  let tenantId ← Tx.lift (resolveTenantId context (some dto.tenantId))
  let state ← loadStateTx tenantId
  let current := state.quotas.find? fun item =>
    item.tenantId = tenantId ∧ item.key = dto.key ∧
      item.scopeType = dto.scopeType.getD "TENANT" ∧ item.scopeId = dto.scopeId
  let id ← idOrNew (current.map QuotaCounter.id)
  let quota : QuotaCounter := {
    id := id
    tenantId := tenantId
    subscriptionId := dto.subscriptionId.or (current.bind QuotaCounter.subscriptionId)
    key := dto.key
    scopeType := dto.scopeType.getD "TENANT"
    scopeId := dto.scopeId
    limitValue := dto.limitValue
    usedValue := (dto.usedValue.or (current.map QuotaCounter.usedValue)).getD 0
    resetAt := dto.resetAt.or (current.bind QuotaCounter.resetAt)
    createdAt := (current.map QuotaCounter.createdAt).getD now
    updatedAt := now }
  saveStateTx now tenantId { state with
    quotas := quota :: state.quotas.filter fun item => item.id ≠ quota.id }
  pure quota

structure CreateBillingResellerDto where
  tenantId : Option Id
  (code name : String)
  metadata : Option JsonRecord

def createReseller (now : Instant) (context : RequestContext) (dto : CreateBillingResellerDto) :
    BillingTransaction ResellerAccount := do
  let tenantId ← Tx.lift (resolveTenantId context dto.tenantId)
  let state ← loadStateTx tenantId
  let id ← newId
  let reseller : ResellerAccount := {
    id := id
    code := Text.trim dto.code
    name := Text.trim dto.name
    status := "ACTIVE"
    metadata := dto.metadata
    createdAt := now
    updatedAt := now }
  saveStateTx now tenantId { state with
    resellers := reseller :: state.resellers.filter fun item => item.code ≠ reseller.code }
  pure reseller

structure BillingBootstrapDto where
  tenantId : Id
  (planCode planName : String)
  planPriceAmount : Option Amount
  (currency intervalKey : Option String)
  trialDays : Option Nat
  (resellerCode resellerName : Option String)

def linkReseller (now : Instant) (state : BillingState) (dto : BillingBootstrapDto)
    (accountId : Id) : BillingTransaction BillingState :=
  match dto.resellerCode with
  | none => pure state
  | some code =>
    if code = "" then pure state
    else do
      let ensured ← ensureReseller now state code (dto.resellerName.getD code)
      pure { ensured.2 with
        accounts := Rows.modify BillingAccount.id accountId
          (fun account => { account with resellerAccountId := some ensured.1.id })
          ensured.2.accounts }

def bootstrap (now : Instant) (context : RequestContext) (dto : BillingBootstrapDto) :
    BillingTransaction BillingOverview := do
  let tenantId ← Tx.lift (resolveTenantId context (some dto.tenantId))
  let state ← loadStateTx tenantId
  let planned ← ensurePlan now state {
    code := dto.planCode
    name := dto.planName
    priceAmount := dto.planPriceAmount
    currency := dto.currency
    intervalKey := dto.intervalKey }
  let account ← ensureAccountTx now tenantId planned.2 none
  let trial ← ensureTrial now account.2 tenantId (dto.trialDays.getD 30)
  let subscription ←
    ensureSubscription now trial.2 tenantId account.1.id planned.1.id trial.1.endsAt
  let state ← linkReseller now subscription.2 dto account.1.id
  saveStateTx now tenantId state
  pure (mapBillingOverview now state tenantId)

end Exetron.Billing
