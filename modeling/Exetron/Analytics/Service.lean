import Exetron.Access
import Exetron.Analytics.Runtime
import Exetron.Database

/-!
# Analytics

`AnalyticsService`: the owner's dashboard, live or from a snapshot, and the snapshots. A snapshot
is found by its tenant, its store or no store, and its period.
-/

namespace Exetron.Analytics

open Lib

structure AnalyticsStore where
  (id tenantId : Id)
  (code name : String)

/-- What the dashboards are made from. Intents stand in the order of their creation. -/
structure AnalyticsShop where
  stores : Rows.Keyed AnalyticsStore AnalyticsStore.id
  orders : List Order
  paymentIntents : List PaymentIntent
  (storeSettings tenantSettings : List Setting)

structure AnalyticsSnapshot where
  (id tenantId : Id)
  storeId : Option Id
  kind : String
  (periodStart periodEnd : Date)
  payload : OwnerCabinetDashboard
  createdByUserId : Option String
  createdAt : Instant

structure AnalyticsDb where
  nextId : Id
  shop : AnalyticsShop
  snapshots : List AnalyticsSnapshot

abbrev AnalyticsTransaction := Tx AnalyticsDb ApiException

inductive AnalyticsMode where
  | live
  | preferSnapshot
  | snapshotOnly
  deriving DecidableEq

/-- A date is what `new Date` makes of its text, and nothing for a text that is none. -/
structure AnalyticsQuery where
  tenantId : Option Id := none
  storeId : Option Id := none
  periodStart : Option (Option Date) := none
  periodEnd : Option (Option Date) := none
  mode : Option AnalyticsMode := none

structure AnalyticsScope where
  tenantId : Id
  storeId : Option Id
  stores : List AnalyticsStore
  (periodStart periodEnd : Date)

def enforceAskedStore (context : RequestContext) (storeId : Option Id) : Except ApiException Unit :=
  match storeId with
  | none => .ok ()
  | some storeId => enforceStoreAccess context storeId

/-- The last thirty days unless the query says otherwise. -/
def resolvePeriod (now : Instant) (query : AnalyticsQuery) : Except ApiException (Date × Date) := do
  let invalid := ApiException.badRequest "Analytics period is invalid."
  let periodEnd ← required (query.periodEnd.getD (some now)) invalid
  let periodStart ← required (query.periodStart.getD (some (periodEnd - 30 * 24 * 60 * 60 * 1000)))
    invalid
  rejectIf (periodEnd ≤ periodStart)
    (.badRequest "Analytics period start must be before end.")
  pure (periodStart, periodEnd)

def passesFilter (context : RequestContext) (storeId : Id) : Bool :=
  match storeFilter context with
  | none => true
  | some storeIds => storeId ∈ storeIds

def inScope (context : RequestContext) (tenantId : Id) (storeId : Option Id)
    (store : AnalyticsStore) : Bool :=
  store.tenantId = tenantId &&
    match storeId with
    | some storeId => store.id = storeId
    | none => passesFilter context store.id

def scopeStores (context : RequestContext) (tenantId : Id) (storeId : Option Id)
    (shop : AnalyticsShop) : List AnalyticsStore :=
  (shop.stores.val.filter (inScope context tenantId storeId)).insertionSort
    fun left right => left.name ≤ right.name

def resolveAnalyticsScope (now : Instant) (context : RequestContext) (query : AnalyticsQuery)
    (shop : AnalyticsShop) : Except ApiException AnalyticsScope := do
  let tenantId ← resolveTenantId context (query.tenantId.or context.tenantId)
  enforceAskedStore context query.storeId
  let (periodStart, periodEnd) ← resolvePeriod now query
  pure
    { tenantId
      storeId := query.storeId
      stores := scopeStores context tenantId query.storeId shop
      periodStart
      periodEnd }

def currencySetting (settings : List Setting) (ownerId : Id) : Option String := do
  let setting ← settings.find? fun row => row.ownerId = ownerId ∧ row.key = "currency"
  let value ← setting.value.get? "default"
  value.asString?

def resolveCurrency (scope : AnalyticsScope) (shop : AnalyticsShop) : String :=
  ((scope.storeId.bind (currencySetting shop.storeSettings)).or
    (currencySetting shop.tenantSettings scope.tenantId)).getD "RUB"

def liveOrders (scope : AnalyticsScope) (shop : AnalyticsShop) : List Order :=
  (shop.orders.filter fun order =>
    order.tenantId = scope.tenantId ∧ order.storeId ∈ scope.stores.map AnalyticsStore.id ∧
      scope.periodStart ≤ order.placedAt ∧ order.placedAt ≤ scope.periodEnd).insertionSort
    fun left right => right.placedAt ≤ left.placedAt

def paidAmountOf (intents : List PaymentIntent) (orderId : Id) : Money :=
  match (intents.filter fun intent =>
    intent.orderId = orderId ∧ intent.status = .completed).getLast? with
  | some intent => intent.paidAmount
  | none => 0

def mapOrderRecord (intents : List PaymentIntent) (order : Order) : AnalyticsOrderRecord :=
  { storeId := order.storeId
    channel := order.channel
    status := order.status
    refundStatus := order.refundStatus
    total := order.total
    paidAmount := paidAmountOf intents order.id
    items := order.items.map fun item =>
      { productId := item.productId
        quantity := item.quantity
        lineTotal := item.lineTotal
        snapshot := item.snapshot } }

def buildLiveDashboard (now : Instant) (scope : AnalyticsScope) (shop : AnalyticsShop) :
    OwnerCabinetDashboard :=
  buildOwnerCabinetDashboard now
    { tenantId := scope.tenantId
      storeId := scope.storeId
      periodStart := scope.periodStart
      periodEnd := scope.periodEnd
      currency := resolveCurrency scope shop
      stores := scope.stores.map fun store => ⟨store.id, store.code, store.name⟩
      orders := (liveOrders scope shop).map (mapOrderRecord shop.paymentIntents) }

def findSnapshotForScope (scope : AnalyticsScope) (db : AnalyticsDb) : Option AnalyticsSnapshot :=
  ((db.snapshots.filter fun snapshot =>
    snapshot.tenantId = scope.tenantId ∧ snapshot.storeId = scope.storeId ∧
      snapshot.kind = "OWNER_DASHBOARD" ∧ snapshot.periodStart = scope.periodStart ∧
      snapshot.periodEnd = scope.periodEnd).insertionSort
    fun left right => right.createdAt ≤ left.createdAt).head?

def mapDashboardFromSnapshot (snapshot : AnalyticsSnapshot) : OwnerCabinetDashboard :=
  { snapshot.payload with
    dataSource := .snapshot
    snapshotId := some snapshot.id
    generatedAt := snapshot.createdAt }

def newSnapshot (id : Id) (now : Instant) (context : RequestContext) (scope : AnalyticsScope)
    (shop : AnalyticsShop) : AnalyticsSnapshot :=
  { id
    tenantId := scope.tenantId
    storeId := scope.storeId
    kind := "OWNER_DASHBOARD"
    periodStart := scope.periodStart
    periodEnd := scope.periodEnd
    payload := buildLiveDashboard now scope shop
    createdByUserId := if context.scope = .device then none else some context.userId
    createdAt := now }

def createOwnerDashboardSnapshotTx (now : Instant) (context : RequestContext)
    (scope : AnalyticsScope) : AnalyticsTransaction AnalyticsSnapshot := do
  let db ← Tx.read .ok
  let snapshot := newSnapshot db.nextId now context scope db.shop
  Tx.write fun db =>
    { db with nextId := db.nextId + 1, snapshots := db.snapshots ++ [snapshot] }
  pure snapshot

def getOwnerCabinetDashboard (now : Instant) (context : RequestContext) (query : AnalyticsQuery)
    (db : AnalyticsDb) : Except ApiException OwnerCabinetDashboard := do
  let scope ← resolveAnalyticsScope now context query db.shop
  let snapshot :=
    if query.mode ∈ [none, some .live] then none else findSnapshotForScope scope db
  match query.mode, snapshot with
  | some .snapshotOnly, none =>
    throw (.notFound "Precomputed analytics snapshot was not found for this scope.")
  | some .snapshotOnly, some snapshot => pure (mapDashboardFromSnapshot snapshot)
  | some .preferSnapshot, some snapshot => pure (mapDashboardFromSnapshot snapshot)
  | _, _ => pure (buildLiveDashboard now scope db.shop)

def createSnapshot (now : Instant) (context : RequestContext) (dto : AnalyticsQuery) :
    AnalyticsTransaction AnalyticsSnapshot := do
  let scope ← Tx.read fun db => resolveAnalyticsScope now context dto db.shop
  createOwnerDashboardSnapshotTx now context scope

structure AnalyticsPrecomputeRun where
  kind : String
  generatedAt : Instant
  snapshot : AnalyticsSnapshot

def createPrecomputeRun (now : Instant) (context : RequestContext) (dto : AnalyticsQuery) :
    AnalyticsTransaction AnalyticsPrecomputeRun := do
  let scope ← Tx.read fun db => resolveAnalyticsScope now context dto db.shop
  let snapshot ← createOwnerDashboardSnapshotTx now context scope
  pure { kind := "OWNER_DASHBOARD", generatedAt := snapshot.createdAt, snapshot }

end Exetron.Analytics
