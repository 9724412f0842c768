import Exetron.Types
import Exetron.Lib.Binary64
import Exetron.Lib.Record
import Exetron.Lib.Rounding
import Mathlib.Data.List.Sort

/-!
# The owner's dashboard

`analytics-runtime.util`: the figures of a dashboard from the stores and the orders it is about.
Amounts are added as doubles and printed with two decimals; the rounding of the sums is a parameter.
-/

namespace Exetron.Analytics

open Lib

abbrev Date := Int

structure AnalyticsStoreRecord where
  id : Id
  (code name : String)

structure AnalyticsOrderItem where
  productId : Id
  quantity : Int
  lineTotal : Money
  snapshot : Json

structure AnalyticsOrderRecord where
  storeId : Id
  channel : OrderChannel
  status : OrderStatus
  refundStatus : RefundStatus
  (total paidAmount : Money)
  items : List AnalyticsOrderItem

structure AnalyticsTopProduct where
  productId : Id
  productCode : Option String
  productName : String
  quantity : Int
  revenue : Money

structure AnalyticsRevenueByStore where
  storeId : Id
  (storeCode storeName : String)
  paidOrders : Nat
  (revenue averageOrderValue : Money)

structure AnalyticsChannelSummary where
  channel : OrderChannel
  paidOrders : Nat
  revenue : Money

structure AnalyticsRefundCancellationSummary where
  cancelledOrders : Nat
  cancelledRevenue : Money
  pendingManualRefunds : Nat
  pendingManualRefundAmount : Money

inductive DashboardSource where
  | live
  | snapshot
  deriving DecidableEq

structure OwnerCabinetDashboard where
  tenantId : Id
  storeId : Option Id
  (periodStart periodEnd : Date)
  generatedAt : Instant
  dataSource : DashboardSource
  snapshotId : Option Id
  currency : String
  (totalOrders paidOrders : Nat)
  (revenue averageOrderValue : Money)
  topProducts : List AnalyticsTopProduct
  revenueByStore : List AnalyticsRevenueByStore
  channelSummary : List AnalyticsChannelSummary
  refundsAndCancellations : AnalyticsRefundCancellationSummary

section
variable (round : ℚ → ℚ)

/-- The number of an amount's text. -/
def toAmount (value : Money) : ℚ := round (value / 100)

/-- `value.toFixed(2)`, in cents. -/
def toMoney (value : ℚ) : Money := roundHalfAway (value * 100)

def addAmount (sum : ℚ) (amount : Money) : ℚ := round (sum + toAmount round amount)

def sumAmounts (amounts : List Money) : ℚ := amounts.foldl (addAmount round) 0

def averageOf (revenue : ℚ) (count : Nat) : Money :=
  toMoney (if count = 0 then 0 else round (revenue / count))

structure StoreMetrics where
  store : AnalyticsStoreRecord
  revenue : ℚ
  paidOrders : Nat

structure ChannelMetrics where
  paidOrders : Nat
  revenue : ℚ

structure ProductMetrics where
  productId : Id
  productCode : Option String
  productName : String
  quantity : Int
  revenue : ℚ

def countStore (metrics : Record Id StoreMetrics) (order : AnalyticsOrderRecord) :
    Record Id StoreMetrics :=
  match metrics.get order.storeId with
  | none => metrics
  | some current =>
    metrics.set order.storeId
      { current with
        revenue := addAmount round current.revenue order.paidAmount
        paidOrders := current.paidOrders + 1 }

def countChannel (metrics : Record OrderChannel ChannelMetrics) (order : AnalyticsOrderRecord) :
    Record OrderChannel ChannelMetrics :=
  let current := (metrics.get order.channel).getD ⟨0, 0⟩
  metrics.set order.channel
    { paidOrders := current.paidOrders + 1
      revenue := addAmount round current.revenue order.paidAmount }

def countItem (metrics : Record Id ProductMetrics) (item : AnalyticsOrderItem) :
    Record Id ProductMetrics :=
  let product := item.snapshot.get? "product"
  let productName :=
    ((product.bind (Json.get? "name")).bind Json.asString?).getD "Unknown product"
  let productCode := (product.bind (Json.get? "code")).bind Json.asString?
  let current := (metrics.get item.productId).getD
    { productId := item.productId, productCode, productName, quantity := 0, revenue := 0 }
  metrics.set item.productId
    { current with
      quantity := current.quantity + item.quantity
      revenue := addAmount round current.revenue item.lineTotal
      productCode :=
        if current.productCode ∈ [none, some ""] ∧ productCode ∉ [none, some ""] then productCode
        else current.productCode
      productName :=
        if current.productName = "Unknown product" ∧ productName ≠ "Unknown product" then
          productName
        else current.productName }

def storeMetrics (stores : List AnalyticsStoreRecord) : Record Id StoreMetrics :=
  Record.spread [] (stores.map fun store => (store.id, ⟨store, 0, 0⟩))

def revenueByStore (stores : List AnalyticsStoreRecord) (paidOrders : List AnalyticsOrderRecord) :
    List AnalyticsRevenueByStore :=
  ((paidOrders.foldl (countStore round) (storeMetrics stores)).map fun (_, metrics) =>
    { storeId := metrics.store.id
      storeCode := metrics.store.code
      storeName := metrics.store.name
      paidOrders := metrics.paidOrders
      revenue := toMoney metrics.revenue
      averageOrderValue := averageOf round metrics.revenue metrics.paidOrders
        : AnalyticsRevenueByStore }).insertionSort fun left right => right.revenue ≤ left.revenue

def SoldMore (left right : ProductMetrics) : Prop :=
  right.quantity < left.quantity ∨
    right.quantity = left.quantity ∧ right.revenue ≤ left.revenue

instance : DecidableRel SoldMore := fun _ _ => inferInstanceAs (Decidable (_ ∨ _))

def topProducts (paidOrders : List AnalyticsOrderRecord) : List AnalyticsTopProduct :=
  let metrics := (paidOrders.flatMap AnalyticsOrderRecord.items).foldl (countItem round) []
  (((metrics.map Prod.snd).insertionSort SoldMore).take 10).map fun product =>
    { productId := product.productId
      productCode := product.productCode
      productName := product.productName
      quantity := product.quantity
      revenue := toMoney product.revenue }

def channelSummary (paidOrders : List AnalyticsOrderRecord) : List AnalyticsChannelSummary :=
  ((paidOrders.foldl (countChannel round) []).map fun (channel, metrics) =>
    { channel
      paidOrders := metrics.paidOrders
      revenue := toMoney metrics.revenue
        : AnalyticsChannelSummary }).insertionSort fun left right => right.revenue ≤ left.revenue

def refundsAndCancellations (orders : List AnalyticsOrderRecord) :
    AnalyticsRefundCancellationSummary :=
  let cancelledOrders := orders.filter fun order => order.status = .cancelled
  let pendingManual := cancelledOrders.filter fun order => order.refundStatus = .pendingManual
  { cancelledOrders := cancelledOrders.length
    cancelledRevenue := toMoney (sumAmounts round (cancelledOrders.map AnalyticsOrderRecord.total))
    pendingManualRefunds := pendingManual.length
    pendingManualRefundAmount :=
      toMoney (sumAmounts round (pendingManual.map AnalyticsOrderRecord.total)) }

structure DashboardInput where
  tenantId : Id
  storeId : Option Id
  (periodStart periodEnd : Date)
  currency : String
  stores : List AnalyticsStoreRecord
  orders : List AnalyticsOrderRecord

def dashboardOf (now : Instant) (input : DashboardInput) : OwnerCabinetDashboard :=
  let paidOrders := input.orders.filter fun order => 0 < toAmount round order.paidAmount
  let revenue := sumAmounts round (paidOrders.map AnalyticsOrderRecord.paidAmount)
  { tenantId := input.tenantId
    storeId := input.storeId
    periodStart := input.periodStart
    periodEnd := input.periodEnd
    generatedAt := now
    dataSource := .live
    snapshotId := none
    currency := input.currency
    totalOrders := input.orders.length
    paidOrders := paidOrders.length
    revenue := toMoney revenue
    averageOrderValue := averageOf round revenue paidOrders.length
    topProducts := topProducts round paidOrders
    revenueByStore := revenueByStore round input.stores paidOrders
    channelSummary := channelSummary round paidOrders
    refundsAndCancellations := refundsAndCancellations round input.orders }

end

def buildOwnerCabinetDashboard (now : Instant) (input : DashboardInput) : OwnerCabinetDashboard :=
  dashboardOf Binary64.round now input

section
variable {round : ℚ → ℚ} {stores : List AnalyticsStoreRecord}

theorem storeMetrics_eq (distinct : (stores.map AnalyticsStoreRecord.id).Nodup) :
    storeMetrics stores = stores.map fun store => (store.id, ⟨store, 0, 0⟩) :=
  Record.spread_empty (by rwa [List.map_map])

theorem countStore_stores (metrics : Record Id StoreMetrics) (order : AnalyticsOrderRecord) :
    (countStore round metrics order).map (fun field => (field.1, field.2.store)) =
      metrics.map fun field => (field.1, field.2.store) := by
  unfold countStore
  split
  · rfl
  · rename_i current found
    exact Record.map_set_kept (f := StoreMetrics.store) found rfl

theorem countStores_stores (metrics : Record Id StoreMetrics) (orders : List AnalyticsOrderRecord) :
    (orders.foldl (countStore round) metrics).map (fun field => (field.1, field.2.store)) =
      metrics.map fun field => (field.1, field.2.store) := by
  induction orders generalizing metrics with
  | nil => rfl
  | cons order orders ih => rw [List.foldl_cons, ih, countStore_stores]

theorem revenueByStore_stores (distinct : (stores.map AnalyticsStoreRecord.id).Nodup)
    (paidOrders : List AnalyticsOrderRecord) :
    ((revenueByStore round stores paidOrders).map AnalyticsRevenueByStore.storeId).Perm
      (stores.map AnalyticsStoreRecord.id) := by
  have listed := @countStores_stores round (storeMetrics stores) paidOrders
  rw [storeMetrics_eq distinct] at listed
  have ids := congrArg (List.map fun field : Id × AnalyticsStoreRecord => field.2.id) listed
  simp only [List.map_map] at ids
  refine ((List.perm_insertionSort _ _).map _).trans (List.Perm.of_eq ?_)
  rw [List.map_map, storeMetrics_eq distinct]
  exact ids

end

end Exetron.Analytics
