import Exetron.Analytics.Runtime
import Exetron.Lib.Grouping

/-!
# Totals

A dashboard with its amounts taken as exact cents: it adds up by store and by channel, it lists the
products that were sold most, and the order of the orders does not matter to its figures.
-/

namespace Exetron.Analytics

open Lib Grouping List

variable {stores : List AnalyticsStoreRecord}

def exactDashboard (now : Instant) (input : DashboardInput) : OwnerCabinetDashboard :=
  dashboardOf id now input

theorem toMoney_cents (cents : Int) : toMoney (cents / 100) = cents := by
  rw [toMoney, div_mul_cancel₀ _ (by norm_num), roundHalfAway_intCast]

theorem foldl_addAmount (amounts : List Money) (sum : ℚ) :
    amounts.foldl (addAmount id) sum = sum + (amounts.sum : Int) / 100 := by
  induction amounts generalizing sum with
  | nil => simp
  | cons amount amounts ih =>
    rw [foldl_cons, ih, sum_cons, addAmount, toAmount, id, id]
    push_cast
    ring

theorem sumAmounts_exact (amounts : List Money) :
    sumAmounts id amounts = (amounts.sum : Int) / 100 := by
  rw [sumAmounts, foldl_addAmount, zero_add]

def paid (orders : List AnalyticsOrderRecord) : List AnalyticsOrderRecord :=
  orders.filter fun order => 0 < order.paidAmount

def revenueOf (orders : List AnalyticsOrderRecord) : Money :=
  (orders.map AnalyticsOrderRecord.paidAmount).sum

theorem paid_eq (orders : List AnalyticsOrderRecord) :
    (orders.filter fun order => 0 < toAmount id order.paidAmount) = paid orders := by
  refine filter_congr fun order _ => decide_eq_decide.mpr ?_
  rw [toAmount, id, div_pos_iff_of_pos_right (by norm_num), Int.cast_pos]

def ofChannel (orders : List AnalyticsOrderRecord) (channel : OrderChannel) :
    List AnalyticsOrderRecord :=
  orders.filter fun order => order.channel = channel

def countOrder (metrics : Option ChannelMetrics) (order : AnalyticsOrderRecord) : ChannelMetrics :=
  let current := metrics.getD ⟨0, 0⟩
  { paidOrders := current.paidOrders + 1
    revenue := addAmount id current.revenue order.paidAmount }

def channelsOf (orders : List AnalyticsOrderRecord) : List OrderChannel :=
  (accumulate AnalyticsOrderRecord.channel countOrder [] orders).map Prod.fst

theorem foldl_countOrder (orders : List AnalyticsOrderRecord) (metrics : Option ChannelMetrics) :
    (orders.foldl (fun metrics order => some (countOrder metrics order)) metrics).getD ⟨0, 0⟩ =
      ⟨(metrics.getD ⟨0, 0⟩).paidOrders + orders.length,
        (metrics.getD ⟨0, 0⟩).revenue + (revenueOf orders : Int) / 100⟩ := by
  induction orders generalizing metrics with
  | nil => simp [revenueOf]
  | cons order orders ih =>
    rw [foldl_cons, ih, Option.getD_some, countOrder, addAmount, toAmount, id, id, revenueOf,
      revenueOf, map_cons, sum_cons, length_cons, ChannelMetrics.mk.injEq]
    refine ⟨Nat.add_right_comm _ _ _, ?_⟩
    push_cast
    ring

def channelFigures (orders : List AnalyticsOrderRecord) (channel : OrderChannel) :
    AnalyticsChannelSummary where
  channel := channel
  paidOrders := (ofChannel orders channel).length
  revenue := revenueOf (ofChannel orders channel)

theorem channelSummary_eq (orders : List AnalyticsOrderRecord) :
    channelSummary id orders = ((channelsOf orders).map (channelFigures orders)).insertionSort
      fun left right => right.revenue ≤ left.revenue := by
  have counts : orders.foldl (countChannel id) [] =
      accumulate AnalyticsOrderRecord.channel countOrder [] orders := rfl
  rw [channelSummary, counts, channelsOf]
  refine congrArg _ (map_accumulate fun channel metrics counted => ?_)
  have figures := foldl_countOrder (ofChannel orders channel) none
  rw [ofChannel, counted, Option.getD_some] at figures
  subst figures
  simp only [channelFigures, Option.getD_none, zero_add, toMoney_cents]
  rfl

theorem sum_channels {M : Type} [AddCommMonoid M] (orders : List AnalyticsOrderRecord)
    (f : AnalyticsOrderRecord → M) :
    ((channelsOf orders).map fun channel => ((ofChannel orders channel).map f).sum).sum =
      (orders.map f).sum :=
  sum_by_key (nodup_accumulate orders)
    (fun order listed => key_accumulate_iff.mpr ⟨order, listed, rfl⟩) f

def ofStore (orders : List AnalyticsOrderRecord) (storeId : Id) : List AnalyticsOrderRecord :=
  orders.filter fun order => order.storeId = storeId

def storeCounts (orders : List AnalyticsOrderRecord) (store : AnalyticsStoreRecord) :
    StoreMetrics where
  store := store
  revenue := (revenueOf (ofStore orders store.id) : Int) / 100
  paidOrders := (ofStore orders store.id).length

theorem set_store {store : AnalyticsStoreRecord}
    (distinct : (stores.map AnalyticsStoreRecord.id).Nodup) (listed : store ∈ stores)
    (f : AnalyticsStoreRecord → StoreMetrics) (metrics : StoreMetrics) :
    Record.set (stores.map fun s => (s.id, f s)) store.id metrics =
      stores.map fun s => (s.id, if s.id = store.id then metrics else f s) := by
  induction stores with
  | nil => cases listed
  | cons first stores ih =>
    obtain ⟨new, others⟩ := nodup_cons.mp distinct
    rw [map_cons, Record.set, map_cons]
    by_cases here : first.id = store.id
    · rw [if_pos here, if_pos here, here]
      congr 1
      refine map_congr_left fun s later => ?_
      rw [if_neg fun same => new (mem_map.mpr ⟨s, later, same.trans here.symm⟩)]
    · have later : store ∈ stores :=
        (mem_cons.mp listed).resolve_left fun same => here (same ▸ rfl)
      rw [if_neg here, if_neg here, ih others later]

theorem countStores_eq (distinct : (stores.map AnalyticsStoreRecord.id).Nodup)
    (orders : List AnalyticsOrderRecord) : orders.foldl (countStore id) (storeMetrics stores) =
      stores.map fun store => (store.id, storeCounts orders store) := by
  induction orders using reverseRecOn with
  | nil =>
    rw [foldl_nil, storeMetrics_eq distinct]
    exact map_congr_left fun store _ => by simp [storeCounts, ofStore, revenueOf]
  | append_singleton orders order ih =>
    have keys : ((stores.map fun store => (store.id, storeCounts orders store)).map
        Prod.fst).Nodup := by rwa [map_map]
    have other {store : AnalyticsStoreRecord} (foreign : order.storeId ≠ store.id) :
        storeCounts (orders ++ [order]) store = storeCounts orders store := by
      simp [storeCounts, ofStore, foreign]
    rw [foldl_append, foldl_cons, foldl_nil, ih, countStore]
    split
    · rename_i unknown
      refine map_congr_left fun store listed => ?_
      rw [other fun same => Record.get_eq_none_iff.mp unknown ?_]
      rw [map_map]
      exact mem_map.mpr ⟨store, listed, same.symm⟩
    · rename_i current found
      obtain ⟨store, listed, is⟩ := mem_map.mp ((Record.mem_iff_get keys).mpr found)
      obtain ⟨here, rfl⟩ := Prod.mk.inj is
      rw [← here, set_store distinct listed]
      refine map_congr_left fun s listed' => ?_
      split
      · rename_i same
        rw [inj_on_of_nodup_map distinct listed' listed same]
        simp [storeCounts, ofStore, revenueOf, addAmount, toAmount, here, add_div]
      · rename_i differs
        rw [other fun same => differs (same.symm.trans here.symm)]

def storeFigures (orders : List AnalyticsOrderRecord) (store : AnalyticsStoreRecord) :
    AnalyticsRevenueByStore where
  storeId := store.id
  storeCode := store.code
  storeName := store.name
  paidOrders := (ofStore orders store.id).length
  revenue := revenueOf (ofStore orders store.id)
  averageOrderValue := averageOf id ((revenueOf (ofStore orders store.id) : Int) / 100)
    (ofStore orders store.id).length

theorem revenueByStore_eq (distinct : (stores.map AnalyticsStoreRecord.id).Nodup)
    (orders : List AnalyticsOrderRecord) :
    revenueByStore id stores orders = (stores.map (storeFigures orders)).insertionSort
      fun left right => right.revenue ≤ left.revenue := by
  rw [revenueByStore, countStores_eq distinct, map_map]
  refine congrArg _ (map_congr_left fun store _ => ?_)
  simp only [Function.comp, storeFigures, storeCounts, toMoney_cents]

theorem sum_stores {M : Type} [AddCommMonoid M] {orders : List AnalyticsOrderRecord}
    (distinct : (stores.map AnalyticsStoreRecord.id).Nodup)
    (known : ∀ order ∈ orders, order.storeId ∈ stores.map AnalyticsStoreRecord.id)
    (f : AnalyticsOrderRecord → M) :
    (stores.map fun store => ((ofStore orders store.id).map f).sum).sum = (orders.map f).sum := by
  have sums := sum_by_key distinct known f
  rwa [map_map] at sums

def ofProduct (items : List AnalyticsOrderItem) (productId : Id) : List AnalyticsOrderItem :=
  items.filter fun item => item.productId = productId

def quantityOf (items : List AnalyticsOrderItem) (productId : Id) : Int :=
  ((ofProduct items productId).map AnalyticsOrderItem.quantity).sum

def salesOf (items : List AnalyticsOrderItem) (productId : Id) : Money :=
  ((ofProduct items productId).map AnalyticsOrderItem.lineTotal).sum

/-- `countItem` for the metrics of the item's product. -/
def countProduct (metrics : Option ProductMetrics) (item : AnalyticsOrderItem) : ProductMetrics :=
  ((countItem id (metrics.toList.map fun current => (item.productId, current)) item).get
    item.productId).getD ⟨0, none, "", 0, 0⟩

def productsOf (items : List AnalyticsOrderItem) : List ProductMetrics :=
  (items.foldl (countItem id) []).map Prod.snd

theorem countItem_eq (metrics : Record Id ProductMetrics) (item : AnalyticsOrderItem) :
    countItem id metrics item =
      metrics.set item.productId (countProduct (metrics.get item.productId) item) := by
  have own (current : Option ProductMetrics) :
      Record.get (current.toList.map fun current => (item.productId, current)) item.productId =
        current := by
    cases current with
    | none => rfl
    | some current => simp [Record.get_cons]
  rw [countProduct, countItem, countItem, own, Record.get_set, if_pos rfl, Option.getD_some]

theorem countProduct_figures (metrics : Option ProductMetrics) (item : AnalyticsOrderItem) :
    (countProduct metrics item).quantity =
        (metrics.map ProductMetrics.quantity).getD 0 + item.quantity ∧
      (countProduct metrics item).revenue =
        (metrics.map ProductMetrics.revenue).getD 0 + (item.lineTotal : Int) / 100 ∧
      (countProduct metrics item).productId =
        (metrics.map ProductMetrics.productId).getD item.productId := by
  cases metrics with
  | none => simp [countProduct, countItem, Record.get_set, addAmount, toAmount]
  | some current =>
    simp [countProduct, countItem, Record.get_set, Record.get_cons, addAmount, toAmount]

theorem foldl_countProduct {items : List AnalyticsOrderItem} {productId : Id}
    (own : ∀ item ∈ items, item.productId = productId) {metrics : Option ProductMetrics}
    {product : ProductMetrics}
    (counted : items.foldl (fun metrics item => some (countProduct metrics item)) metrics =
      some product) :
    product.quantity = (metrics.map ProductMetrics.quantity).getD 0 +
        (items.map AnalyticsOrderItem.quantity).sum ∧
      product.revenue = (metrics.map ProductMetrics.revenue).getD 0 +
        ((items.map AnalyticsOrderItem.lineTotal).sum : Int) / 100 ∧
      product.productId = (metrics.map ProductMetrics.productId).getD productId := by
  induction items generalizing metrics with
  | nil =>
    obtain rfl : metrics = some product := counted
    simp
  | cons item items ih =>
    obtain ⟨here, others⟩ := forall_mem_cons.mp own
    obtain ⟨quantity, revenue, id⟩ := ih others counted
    obtain ⟨quantity', revenue', id'⟩ := countProduct_figures metrics item
    rw [Option.map_some, Option.getD_some] at quantity revenue id
    rw [quantity, revenue, id, quantity', revenue', id', here, map_cons, map_cons,
      sum_cons, sum_cons]
    refine ⟨add_assoc _ _ _, ?_, rfl⟩
    push_cast
    ring

def productFigures (items : List AnalyticsOrderItem) (productId : Id) : Id × Int × ℚ :=
  (productId, quantityOf items productId, (salesOf items productId : Int) / 100)

def soldIds (items : List AnalyticsOrderItem) : List Id :=
  (accumulate AnalyticsOrderItem.productId countProduct [] items).map Prod.fst

theorem mem_soldIds {items : List AnalyticsOrderItem} {productId : Id} :
    productId ∈ soldIds items ↔ ∃ item ∈ items, item.productId = productId :=
  key_accumulate_iff

def ProductMetrics.figures (product : ProductMetrics) : Id × Int × ℚ :=
  (product.productId, product.quantity, product.revenue)

theorem productsOf_figures (items : List AnalyticsOrderItem) :
    (productsOf items).map ProductMetrics.figures = (soldIds items).map (productFigures items) := by
  have counts : items.foldl (countItem id) [] =
      accumulate AnalyticsOrderItem.productId countProduct [] items :=
    congrArg (fun f => items.foldl f []) (funext fun metrics => funext (countItem_eq metrics))
  rw [productsOf, counts, map_map, soldIds]
  refine map_accumulate fun id product counted => ?_
  obtain ⟨quantity, revenue, own⟩ :=
    foldl_countProduct (fun item listed => of_decide_eq_true (mem_filter.mp listed).2) counted
  simp only [Function.comp, ProductMetrics.figures, quantity, revenue, own, productFigures,
    quantityOf, salesOf, ofProduct, Option.map_none, Option.getD_none, zero_add]

instance : Std.Total SoldMore where
  total left right := by
    unfold SoldMore
    rcases lt_trichotomy left.quantity right.quantity with less | same | more
    · exact .inr (.inl less)
    · exact (le_total right.revenue left.revenue).imp (.inr ⟨same.symm, ·⟩) (.inr ⟨same, ·⟩)
    · exact .inl (.inl more)

instance : IsTrans ProductMetrics SoldMore where
  trans left middle right := by
    rintro (more | ⟨same, le⟩) (more' | ⟨same', le'⟩)
    · exact .inl (more'.trans more)
    · exact .inl (same' ▸ more)
    · exact .inl (same ▸ more')
    · exact .inr ⟨same'.trans same, le'.trans le⟩

def rankedProducts (items : List AnalyticsOrderItem) : List ProductMetrics :=
  (productsOf items).insertionSort SoldMore

/-- The products that were sold most, each with all that was sold of it. -/
structure TopProducts (items : List AnalyticsOrderItem) (top : List AnalyticsTopProduct) :
    Prop where
  few : top.length = min 10 (soldIds items).length
  distinct : (top.map AnalyticsTopProduct.productId).Nodup
  sold : ∀ product ∈ top, ∃ item ∈ items, item.productId = product.productId
  added : ∀ product ∈ top, product.quantity = quantityOf items product.productId ∧
    product.revenue = salesOf items product.productId
  ordered : top.Pairwise fun before later => later.quantity ≤ before.quantity
  largest : ∀ item ∈ items, item.productId ∉ top.map AnalyticsTopProduct.productId →
    ∀ product ∈ top, quantityOf items item.productId ≤ product.quantity

def toTopProduct (product : ProductMetrics) : AnalyticsTopProduct where
  productId := product.productId
  productCode := product.productCode
  productName := product.productName
  quantity := product.quantity
  revenue := toMoney product.revenue

theorem topProducts_spec (orders : List AnalyticsOrderRecord) :
    TopProducts (orders.flatMap AnalyticsOrderRecord.items) (topProducts id orders) := by
  generalize is : orders.flatMap AnalyticsOrderRecord.items = items
  have top : topProducts id orders = ((rankedProducts items).take 10).map toTopProduct := by
    rw [topProducts, is]
    rfl
  have perm : (rankedProducts items).Perm (productsOf items) := perm_insertionSort _ _
  have figures := productsOf_figures items
  have counted {product : ProductMetrics} (ranked : product ∈ rankedProducts items) :
      product.productId ∈ soldIds items ∧
        product.figures = productFigures items product.productId := by
    have listed : product.figures ∈ (soldIds items).map (productFigures items) :=
      figures ▸ mem_map_of_mem (perm.mem_iff.mp ranked)
    obtain ⟨id, sold, same⟩ := mem_map.mp listed
    have own : id = product.productId := congrArg Prod.fst same
    exact ⟨own ▸ sold, own ▸ same.symm⟩
  have quantity {product : ProductMetrics} (ranked : product ∈ rankedProducts items) :
      product.quantity = quantityOf items product.productId :=
    congrArg (fun figures => figures.2.1) (counted ranked).2
  have ids : ((rankedProducts items).map ProductMetrics.productId).Perm (soldIds items) := by
    refine (perm.map _).trans (List.Perm.of_eq ?_)
    have first := congrArg (map Prod.fst) figures
    rw [map_map, map_map] at first
    exact first.trans (map_id _)
  have distinct := ids.nodup_iff.mpr (nodup_accumulate items)
  have sorted : (rankedProducts items).Pairwise SoldMore := pairwise_insertionSort _ _
  have less {product later : ProductMetrics} (before : SoldMore product later) :
      later.quantity ≤ product.quantity := before.elim le_of_lt fun same => same.1.le
  have taken {product : AnalyticsTopProduct} (listed : product ∈ topProducts id orders) :
      ∃ ranked ∈ (rankedProducts items).take 10, toTopProduct ranked = product := by
    rw [top] at listed
    exact mem_map.mp listed
  have tops : (topProducts id orders).map AnalyticsTopProduct.productId =
      ((rankedProducts items).map ProductMetrics.productId).take 10 := by
    rw [top, map_map, ← map_take]
    rfl
  exact {
    few := by rw [← ids.length_eq, ← length_take, ← tops, length_map]
    distinct := tops ▸ distinct.sublist (take_sublist ..)
    sold := by
      intro product listed
      obtain ⟨ranked, first, rfl⟩ := taken listed
      exact mem_soldIds.mp (counted (mem_of_mem_take first)).1
    added := by
      intro product listed
      obtain ⟨ranked, first, rfl⟩ := taken listed
      have revenue : ranked.revenue = (salesOf items ranked.productId : Int) / 100 :=
        congrArg (fun figures => figures.2.2) (counted (mem_of_mem_take first)).2
      exact ⟨quantity (mem_of_mem_take first), by
        rw [toTopProduct, revenue, toMoney_cents]⟩
    ordered := by
      rw [top]
      exact pairwise_map.mpr ((sorted.sublist (take_sublist ..)).imp less)
    largest := by
      intro item listed unlisted product first
      obtain ⟨ranked, front, rfl⟩ := taken first
      obtain ⟨other, there, own⟩ :=
        mem_map.mp (ids.mem_iff.mpr (mem_soldIds.mpr ⟨item, listed, rfl⟩))
      have back : other ∈ (rankedProducts items).drop 10 := by
        rw [← take_append_drop 10 (rankedProducts items)] at there
        refine (mem_append.mp there).resolve_left fun also => unlisted ?_
        rw [tops, ← map_take, ← own]
        exact mem_map_of_mem also
      rw [← take_append_drop 10 (rankedProducts items)] at sorted
      have above := less ((pairwise_append.mp sorted).2.2 ranked front other back)
      rwa [quantity (mem_of_mem_drop back), own] at above }

/-- The same figures; channels of equal revenue may change places, and products that sold alike. -/
structure SameUpToTies (d d' : OwnerCabinetDashboard) : Prop where
  totalOrders : d.totalOrders = d'.totalOrders
  paidOrders : d.paidOrders = d'.paidOrders
  revenue : d.revenue = d'.revenue
  averageOrderValue : d.averageOrderValue = d'.averageOrderValue
  refundsAndCancellations : d.refundsAndCancellations = d'.refundsAndCancellations
  revenueByStore : d.revenueByStore = d'.revenueByStore
  channelSummary : d.channelSummary.Perm d'.channelSummary
  channelOrder : d.channelSummary.map AnalyticsChannelSummary.revenue =
    d'.channelSummary.map AnalyticsChannelSummary.revenue
  topProducts : (d.topProducts.map fun product => (product.quantity, product.revenue)) =
    d'.topProducts.map fun product => (product.quantity, product.revenue)

section
variable {orders orders' : List AnalyticsOrderRecord} {items items' : List AnalyticsOrderItem}

theorem revenueOf_perm (perm : orders.Perm orders') : revenueOf orders = revenueOf orders' :=
  (perm.map _).sum_eq

theorem channelSummary_perm (perm : orders.Perm orders') :
    (channelSummary id orders).Perm (channelSummary id orders') ∧
      (channelSummary id orders).map AnalyticsChannelSummary.revenue =
        (channelSummary id orders').map AnalyticsChannelSummary.revenue := by
  have figures : channelFigures orders = channelFigures orders' := by
    funext channel
    have own := perm.filter fun order => order.channel = channel
    rw [channelFigures, channelFigures, ofChannel, ofChannel, own.length_eq, revenueOf_perm own]
  have same : (channelSummary id orders).Perm (channelSummary id orders') := by
    rw [channelSummary_eq, channelSummary_eq, figures]
    refine (perm_insertionSort _ _).trans (List.Perm.trans ?_ (perm_insertionSort _ _).symm)
    exact (perm_keys perm).map _
  have sorted (orders : List AnalyticsOrderRecord) :
      ((channelSummary id orders).map AnalyticsChannelSummary.revenue).Pairwise
        fun before later => later ≤ before := by
    have : Std.Total fun left right : AnalyticsChannelSummary => right.revenue ≤ left.revenue :=
      ⟨fun left right => le_total right.revenue left.revenue⟩
    have : IsTrans AnalyticsChannelSummary fun left right => right.revenue ≤ left.revenue :=
      ⟨fun _ _ _ first second => second.trans first⟩
    exact pairwise_map.mpr (pairwise_insertionSort _ _)
  exact ⟨same, (same.map _).eq_of_pairwise
    (fun _ _ _ _ before after => le_antisymm after before) (sorted orders) (sorted orders')⟩

theorem revenueByStore_perm (distinct : (stores.map AnalyticsStoreRecord.id).Nodup)
    (perm : orders.Perm orders') :
    revenueByStore id stores orders = revenueByStore id stores orders' := by
  have figures : storeFigures orders = storeFigures orders' := by
    funext store
    have own := perm.filter fun order => order.storeId = store.id
    rw [storeFigures, storeFigures, ofStore, ofStore, own.length_eq, revenueOf_perm own]
  rw [revenueByStore_eq distinct, revenueByStore_eq distinct, figures]

def ranking (items : List AnalyticsOrderItem) : List (Int × ℚ) :=
  (rankedProducts items).map fun product => (product.quantity, product.revenue)

theorem ranking_perm (perm : items.Perm items') : ranking items = ranking items' := by
  have figures : productFigures items = productFigures items' := by
    funext productId
    have own := perm.filter fun item => item.productId = productId
    rw [productFigures, productFigures, quantityOf, quantityOf, salesOf, salesOf, ofProduct,
      ofProduct, (own.map _).sum_eq, (own.map AnalyticsOrderItem.lineTotal).sum_eq]
  have counted (items : List AnalyticsOrderItem) :
      (ranking items).Perm (((soldIds items).map (productFigures items)).map Prod.snd) := by
    refine ((perm_insertionSort _ _).map _).trans (List.Perm.of_eq ?_)
    rw [← productsOf_figures, map_map]
    rfl
  have sorted (items : List AnalyticsOrderItem) : (ranking items).Pairwise
      fun before later => later.1 < before.1 ∨ later.1 = before.1 ∧ later.2 ≤ before.2 :=
    pairwise_map.mpr (pairwise_insertionSort SoldMore _)
  have same : (ranking items).Perm (ranking items') := by
    refine (counted items).trans (List.Perm.trans ?_ (counted items').symm)
    rw [figures]
    exact ((perm_keys perm).map _).map _
  refine same.eq_of_pairwise (fun left right _ _ before after => ?_) (sorted items) (sorted items')
  rcases before with less | ⟨even, le⟩ <;> rcases after with less' | ⟨even', le'⟩
  · exact absurd less (not_lt.mpr less'.le)
  · exact absurd less (not_lt.mpr even'.le)
  · exact absurd less' (not_lt.mpr even.le)
  · exact Prod.ext even' (le_antisymm le' le)

theorem topProducts_ranking (orders : List AnalyticsOrderRecord) :
    ((topProducts id orders).map fun product => (product.quantity, product.revenue)) =
      ((ranking (orders.flatMap AnalyticsOrderRecord.items)).take 10).map
        fun figures => (figures.1, toMoney figures.2) := by
  rw [ranking, ← map_take, map_map, topProducts, map_map]
  rfl

end

structure AddsUp (input : DashboardInput) (d : OwnerCabinetDashboard) : Prop where
  revenue : d.revenue = revenueOf (paid input.orders)
  paidOrders : d.paidOrders = (paid input.orders).length
  revenueByStore : d.revenue = (d.revenueByStore.map AnalyticsRevenueByStore.revenue).sum
  ordersByStore : d.paidOrders = (d.revenueByStore.map AnalyticsRevenueByStore.paidOrders).sum
  revenueByChannel : d.revenue = (d.channelSummary.map AnalyticsChannelSummary.revenue).sum
  ordersByChannel : d.paidOrders = (d.channelSummary.map AnalyticsChannelSummary.paidOrders).sum

theorem length_eq_sum {α : Type} (xs : List α) : xs.length = (xs.map fun _ => 1).sum := by
  simp

theorem exactDashboard_addsUp {input : DashboardInput} (now : Instant)
    (distinct : (input.stores.map AnalyticsStoreRecord.id).Nodup)
    (known : ∀ order ∈ input.orders, order.storeId ∈ input.stores.map AnalyticsStoreRecord.id) :
    AddsUp input (exactDashboard now input) := by
  have known' : ∀ order ∈ paid input.orders,
      order.storeId ∈ input.stores.map AnalyticsStoreRecord.id :=
    fun order listed => known order (mem_filter.mp listed).1
  have revenue : (exactDashboard now input).revenue = revenueOf (paid input.orders) := by
    show toMoney (sumAmounts id _) = _
    rw [paid_eq, sumAmounts_exact, toMoney_cents]
    rfl
  have count : (exactDashboard now input).paidOrders = (paid input.orders).length := by
    show (input.orders.filter _).length = _
    rw [paid_eq]
  have stores : (exactDashboard now input).revenueByStore.Perm
      (input.stores.map (storeFigures (paid input.orders))) := by
    show (revenueByStore id input.stores (input.orders.filter _)).Perm _
    rw [paid_eq, revenueByStore_eq distinct]
    exact perm_insertionSort _ _
  have channels : (exactDashboard now input).channelSummary.Perm
      ((channelsOf (paid input.orders)).map (channelFigures (paid input.orders))) := by
    show (channelSummary id (input.orders.filter _)).Perm _
    rw [paid_eq, channelSummary_eq]
    exact perm_insertionSort _ _
  refine ⟨revenue, count, ?_, ?_, ?_, ?_⟩
  · rw [(stores.map _).sum_eq, map_map, revenue]
    exact (sum_stores distinct known' AnalyticsOrderRecord.paidAmount).symm
  · rw [(stores.map _).sum_eq, map_map, count, length_eq_sum,
      ← sum_stores distinct known' fun _ => 1]
    exact congrArg sum (map_congr_left fun _ _ => (length_eq_sum _).symm)
  · rw [(channels.map _).sum_eq, map_map, revenue]
    exact (sum_channels _ AnalyticsOrderRecord.paidAmount).symm
  · rw [(channels.map _).sum_eq, map_map, count, length_eq_sum, ← sum_channels _ fun _ => 1]
    exact congrArg sum (map_congr_left fun _ _ => (length_eq_sum _).symm)

theorem exactDashboard_perm {input : DashboardInput} (now : Instant)
    (distinct : (input.stores.map AnalyticsStoreRecord.id).Nodup)
    {orders : List AnalyticsOrderRecord} (perm : input.orders.Perm orders) :
    SameUpToTies (exactDashboard now input) (exactDashboard now { input with orders }) := by
  have paid' := perm.filter fun order => 0 < toAmount id order.paidAmount
  have sums {orders orders' : List AnalyticsOrderRecord} (f : AnalyticsOrderRecord → Money)
      (perm : orders.Perm orders') :
      sumAmounts id (orders.map f) = sumAmounts id (orders'.map f) := by
    rw [sumAmounts_exact, sumAmounts_exact, (perm.map f).sum_eq]
  have cancelled := perm.filter fun order => order.status = .cancelled
  have pending := cancelled.filter fun order => order.refundStatus = .pendingManual
  obtain ⟨channels, order⟩ := channelSummary_perm paid'
  exact {
    totalOrders := perm.length_eq
    paidOrders := paid'.length_eq
    revenue := congrArg toMoney (sums _ paid')
    averageOrderValue := by
      show averageOf id (sumAmounts id _) _ = averageOf id (sumAmounts id _) _
      rw [sums _ paid', paid'.length_eq]
    refundsAndCancellations := by
      show refundsAndCancellations id _ = refundsAndCancellations id _
      simp only [refundsAndCancellations, cancelled.length_eq, sums _ cancelled,
        pending.length_eq, sums _ pending]
    revenueByStore := revenueByStore_perm distinct paid'
    channelSummary := channels
    channelOrder := order
    topProducts := by
      refine (topProducts_ranking _).trans (Eq.trans ?_ (topProducts_ranking _).symm)
      rw [ranking_perm (paid'.flatMap fun _ _ => .refl _)] }

/-- The dashboard of a scope adds up over its stores and over the channels, lists what was sold
most, and is the same for the orders in any order. -/
theorem dashboard_adds_up {input : DashboardInput} (now : Instant)
    (distinct : (input.stores.map AnalyticsStoreRecord.id).Nodup)
    (known : ∀ order ∈ input.orders, order.storeId ∈ input.stores.map AnalyticsStoreRecord.id) :
    AddsUp input (exactDashboard now input) ∧
      TopProducts ((paid input.orders).flatMap AnalyticsOrderRecord.items)
        (exactDashboard now input).topProducts ∧
      ∀ orders, input.orders.Perm orders →
        SameUpToTies (exactDashboard now input) (exactDashboard now { input with orders }) := by
  refine ⟨exactDashboard_addsUp now distinct known, ?_,
    fun orders => exactDashboard_perm now distinct⟩
  show TopProducts _ (topProducts id (input.orders.filter _))
  rw [paid_eq]
  exact topProducts_spec _

def lunch : DashboardInput where
  tenantId := 1
  storeId := none
  periodStart := 0
  periodEnd := 9
  currency := "EUR"
  stores := [⟨2, "north", "North"⟩, ⟨3, "south", "South"⟩]
  orders :=
    [⟨2, .pos, .completed, .none, 500, 500, [⟨10, 2, 500, .null⟩]⟩,
     ⟨3, .kiosk, .cancelled, .pendingManual, 250, 0, [⟨10, 1, 250, .null⟩]⟩]

theorem lunch_adds_up : AddsUp lunch (exactDashboard 1 lunch) :=
  (dashboard_adds_up 1 (by decide) (by decide)).1

end Exetron.Analytics
