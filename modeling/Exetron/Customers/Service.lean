import Exetron.Customers.Runtime
import Exetron.Orders.Service

/-!
# Customers service

`CustomersService`: `finalizeOrderGrowth`, what a paid order adds to its customer's profile, loyalty
account and promotion, and `adjustLoyalty`, which posts points by hand.
-/

namespace Exetron.Customers

open Lib

def resolveOrCreateCustomerProfileTx (now : Instant) (tenantId storeId : Id)
    (customerName : Option String) (customerPhone : String) : Transaction CustomerProfile := do
  let normalizedPhone := normalizeCustomerPhone customerPhone
  match ← Tx.read fun db => .ok (db.customers.profiles.find? fun profile =>
      profile.tenantId = tenantId ∧ profile.phoneNormalized = normalizedPhone) with
  | some current =>
    customerProfiles.update current.id fun row =>
      { row with
        preferredStoreId := some storeId
        fullName := customerName.or current.fullName
        phone := normalizedPhone
        lastSeenAt := some now }
  | none =>
    let id ← freshId
    customerProfiles.create
      { id
        tenantId
        preferredStoreId := some storeId
        fullName := customerName
        phone := normalizedPhone
        phoneNormalized := normalizedPhone
        status := .active
        orderCount := 0
        completedOrderCount := 0
        totalSpent := 0
        lastOrderAt := none
        lastSeenAt := some now
        segments := ["NEW"]
        retentionState := none }

def findAccount (customerProfileId : Id) (db : Db) : Option LoyaltyAccount :=
  db.customers.accounts.find? fun account => account.customerProfileId = customerProfileId

def ensureLoyaltyAccountTx (profile : CustomerProfile) : Transaction LoyaltyAccount := do
  match ← Tx.read fun db => .ok (findAccount profile.id db) with
  | some current => pure current
  | none =>
    let id ← freshId
    loyaltyAccounts.create
      { id
        tenantId := profile.tenantId
        customerProfileId := profile.id
        pointsBalance := 0
        totalEarnedPoints := 0
        totalRedeemedPoints := 0
        tierKey := none }

def refreshAccount (points : List Int) (account : LoyaltyAccount) : LoyaltyAccount :=
  let totalEarnedPoints := (points.filter (0 < ·)).sum
  { account with
    pointsBalance := points.sum
    totalEarnedPoints
    totalRedeemedPoints := ((points.filter (· < 0)).map fun n => (n.natAbs : Int)).sum
    tierKey := some (
      if 300 ≤ totalEarnedPoints then "gold"
      else if 100 ≤ totalEarnedPoints then "silver"
      else "starter") }

def refreshLoyaltyAccountTx (customerProfileId : Id) : Transaction LoyaltyAccount := do
  let points ← Tx.read fun db => .ok ((db.customers.ledger.filter fun entry =>
    entry.customerProfileId = customerProfileId).map LoyaltyLedgerEntry.points)
  let account ← Tx.read fun db =>
    required (findAccount customerProfileId db) (.recordNotFound "LoyaltyAccount")
  loyaltyAccounts.update account.id (refreshAccount points)

def ordersOfProfile (profile : CustomerProfile) (db : Db) : List Order :=
  (db.orders.filter fun order =>
    order.tenantId = profile.tenantId ∧ order.status ≠ .cancelled ∧
      (order.customerProfileId = some profile.id ∨
        order.customerPhone = some profile.phone)).insertionSort
    fun left right => right.placedAt ≤ left.placedAt

def refreshCustomerProfileTx (now : Instant) (customerProfileId : Id) :
    Transaction CustomerProfile := do
  let profile ← Tx.read (customerProfiles.findUniqueOrThrow customerProfileId)
  let orders ← Tx.read fun db => .ok (ordersOfProfile profile db)
  let loyalty ← ensureLoyaltyAccountTx profile
  let lastOrderAt := orders.head?.map Order.placedAt
  let totalSpent := (orders.map fun order => max 0 order.total).sum
  let completedOrderCount := orders.countP fun order => order.status = .completed
  let segments := deriveCustomerSegments now
    { orderCount := orders.length
      completedOrderCount
      totalSpent
      lastOrderAt
      pointsBalance := loyalty.pointsBalance }
  customerProfiles.update profile.id fun row =>
    { row with
      preferredStoreId := (orders.head?.map Order.storeId).or profile.preferredStoreId
      orderCount := orders.length
      completedOrderCount
      totalSpent
      lastOrderAt
      lastSeenAt := some now
      segments
      retentionState := some (deriveRetentionState now orders.length segments lastOrderAt) }

def orderEventExists (orderId : Id) (type : String) (db : Db) : Bool :=
  db.logs.orderEvents.any fun event => event.orderId = orderId ∧ event.type = type

def recordOrderEventTx (order : Order) (type : String) : Transaction Unit := do
  recordOrderEvent ⟨order.id, order.tenantId, order.storeId, type⟩
  recordDomainEvent ⟨order.tenantId, type, "order", order.id⟩

def recordOrderEventOnceTx (order : Order) (type : String) : Transaction Unit := do
  if ← Tx.read fun db => .ok (orderEventExists order.id type db) then pure ()
  else recordOrderEventTx order type

def linkProfile (order : Order) (profile : CustomerProfile) : Transaction Unit := do
  let customerName := order.customerName.or profile.fullName
  let _ ← orders.update order.id fun row =>
    { row with
      customerProfileId := some profile.id
      customerPhone := some profile.phone
      customerName }
  match order.cartId with
  | none => pure ()
  | some cartId =>
    let _ ← carts.update cartId fun row =>
      { row with
        customerProfileId := some profile.id
        customerPhone := some profile.phone
        customerName }
    pure ()

def entryExists (orderId : Id) (entryKind : LoyaltyLedgerEntryKind) (db : Db) : Bool :=
  db.customers.ledger.any fun entry => entry.orderId = some orderId ∧ entry.entryKind = entryKind

def postEntry (order : Order) (profile : CustomerProfile) (account : LoyaltyAccount)
    (entryKind : LoyaltyLedgerEntryKind) (points : Int) (amount : Money) (description : String) :
    Transaction Unit := do
  let id ← freshId
  let _ ← loyaltyLedgerEntries.create
    { id
      tenantId := order.tenantId
      customerProfileId := profile.id
      loyaltyAccountId := account.id
      orderId := some order.id
      entryKind
      points
      amount := some amount
      description := some description }
  pure ()

def recordEarn (order : Order) (profile : CustomerProfile) (account : LoyaltyAccount) :
    Transaction Unit := do
  let pointsEarned := resolveEarnedLoyaltyPoints order.total
  let existingEarn ← Tx.read fun db => .ok (entryExists order.id .earn db)
  if ¬existingEarn ∧ pointsEarned > 0 ∧ order.status ≠ .cancelled then
    postEntry order profile account .earn pointsEarned order.total
      ("Earned from order " ++ order.number)

def redeemedPoints (order : Order) : Option Rat :=
  match order.promotionSnapshot.bind (Json.get? "type"),
    order.promotionSnapshot.bind (Json.get? "pointsCost") with
  | some (.str "LOYALTY_REDEEM"), some (.num pointsCost) =>
    if pointsCost > 0 then some pointsCost else none
  | _, _ => none

/-- The points column takes whole numbers only. -/
def recordRedeem (order : Order) (profile : CustomerProfile) (account : LoyaltyAccount) :
    Transaction Unit := do
  let existingRedeem ← Tx.read fun db => .ok (entryExists order.id .redeem db)
  match if existingRedeem then none else redeemedPoints order with
  | none => pure ()
  | some pointsCost =>
    let points ← Tx.lift (required (if pointsCost.den = 1 then some pointsCost.num else none)
      .typeError)
    postEntry order profile account .redeem (-points) order.discountTotal
      ("Redeemed for promotion " ++ order.promotionCode.getD "LOYALTY")

def campaignOf (order : Order) : Option String :=
  (order.promotionSnapshot.bind (Json.get? "promotionId")).bind Json.asString?

def redeemPromotion (order : Order) : Transaction Unit := do
  let redeemed ← Tx.read fun db =>
    .ok (orderEventExists order.id "customer.promotion_redeemed" db)
  match if redeemed then none else campaignOf order with
  | none => pure ()
  | some promotionId =>
    let _ ← promotionCampaigns.update promotionId fun row =>
      { row with usedCount := row.usedCount + 1 }
    recordOrderEventTx order "customer.promotion_redeemed"

def noteEarned (order : Order) : Transaction Unit :=
  if resolveEarnedLoyaltyPoints order.total > 0 then
    recordOrderEventOnceTx order "customer.loyalty_earned"
  else pure ()

def noteSegments (order : Order) (previousSegments nextSegments : List String) : Transaction Unit :=
  if previousSegments ≠ nextSegments then recordOrderEventTx order "customer.segment_changed"
  else pure ()

def recordGrowth (now : Instant) (order : Order) (phone : String) :
    Transaction (CustomerProfile × Option LoyaltyAccount) := do
  let profile ← resolveOrCreateCustomerProfileTx now order.tenantId order.storeId
    order.customerName (normalizeCustomerPhone phone)
  let account ← ensureLoyaltyAccountTx profile
  linkProfile order profile
  recordEarn order profile account
  recordRedeem order profile account
  redeemPromotion order
  recordOrderEventOnceTx order "customer.profile_linked"
  let _ ← refreshLoyaltyAccountTx profile.id
  let refreshedProfile ← refreshCustomerProfileTx now profile.id
  noteEarned order
  noteSegments order profile.segments refreshedProfile.segments
  recordOrderEventOnceTx order "customer.retention_hook_queued"
  let loyaltyAccount ← Tx.read fun db => .ok (findAccount refreshedProfile.id db)
  pure (refreshedProfile, loyaltyAccount)

def finalizeOrderGrowthTx (now : Instant) (context : RequestContext) (orderId : Id) :
    Transaction (Option (CustomerProfile × Option LoyaltyAccount)) := do
  let order ← Tx.read (Orders.findOrder context orderId)
  match order.customerPhone.filter fun phone => Text.trim phone ≠ "" with
  | none => pure none
  | some phone =>
    let profile ← recordGrowth now order phone
    pure (some profile)

def finalizeOrderGrowth (now : Instant) (context : RequestContext) (orderId : Id) :
    ServiceCall (Option (CustomerProfile × Option LoyaltyAccount)) :=
  Call.transact (finalizeOrderGrowthTx now context orderId)

structure AdjustCustomerLoyaltyDto where
  points : Int
  description : Option String := none

def admitAdjustment (context : RequestContext) (customerProfileId : Id) (db : Db) :
    Except ApiException CustomerProfile := do
  let profile ← customerProfiles.findUniqueOrThrow customerProfileId db
  let _ ← resolveTenantId context (some profile.tenantId)
  match profile.preferredStoreId with
  | none => pure profile
  | some storeId => do
    enforceStoreAccess context storeId
    pure profile

def postAdjustment (profile : CustomerProfile) (account : LoyaltyAccount)
    (dto : AdjustCustomerLoyaltyDto) : Transaction Unit := do
  let id ← freshId
  let _ ← loyaltyLedgerEntries.create
    { id
      tenantId := profile.tenantId
      customerProfileId := profile.id
      loyaltyAccountId := account.id
      orderId := none
      entryKind := .adjust
      points := dto.points
      amount := none
      description := dto.description }
  pure ()

def adjustLoyaltyTx (now : Instant) (context : RequestContext) (customerProfileId : Id)
    (dto : AdjustCustomerLoyaltyDto) : Transaction (CustomerProfile × Option LoyaltyAccount) := do
  let profile ← Tx.read (admitAdjustment context customerProfileId)
  let account ← ensureLoyaltyAccountTx profile
  postAdjustment profile account dto
  let _ ← refreshLoyaltyAccountTx profile.id
  let refreshedProfile ← refreshCustomerProfileTx now profile.id
  recordAudit
    { tenantId := profile.tenantId
      storeId := profile.preferredStoreId
      actorType := resolveActorType context
      actorId := resolveActorId context
      action := "customer.loyalty_adjusted"
      entityType := "customer_profile"
      entityId := profile.id }
  recordDomainEvent ⟨profile.tenantId, "customer.loyalty_adjusted", "customer_profile", profile.id⟩
  let loyaltyAccount ← Tx.read fun db => .ok (findAccount refreshedProfile.id db)
  pure (refreshedProfile, loyaltyAccount)

def adjustLoyalty (now : Instant) (context : RequestContext) (customerProfileId : Id)
    (dto : AdjustCustomerLoyaltyDto) : ServiceCall (CustomerProfile × Option LoyaltyAccount) :=
  Call.transact (adjustLoyaltyTx now context customerProfileId dto)

end Exetron.Customers
