import Exetron.Analytics.Service
import Exetron.Lib.Trace

/-!
# Snapshots and store access

A live dashboard is made from the stores that its caller's filter lets through. A snapshot keeps
what its maker saw, and is handed to whoever asks for its tenant, store and period.
-/

namespace Exetron.Analytics

open Lib List

variable {snapshot : AnalyticsSnapshot}

/-- A request for a snapshot, or any other work in the tenant. -/
inductive AnalyticsEvent where
  | createSnapshot (now : Instant) (context : RequestContext) (dto : AnalyticsQuery)
  | createPrecomputeRun (now : Instant) (context : RequestContext) (dto : AnalyticsQuery)
  | work (shop : AnalyticsShop)

def step (db : AnalyticsDb) : AnalyticsEvent → AnalyticsDb
  | .createSnapshot now context dto =>
    (Call.exec (Call.transact (createSnapshot now context dto)) db).2
  | .createPrecomputeRun now context dto =>
    (Call.exec (Call.transact (createPrecomputeRun now context dto)) db).2
  | .work shop => { db with shop }

/-- A snapshot, who made it, and the shop it was made from. -/
structure Made where
  snapshotId : Id
  now : Instant
  context : RequestContext
  query : AnalyticsQuery
  shop : AnalyticsShop

def makes (db : AnalyticsDb) : AnalyticsEvent → List Made
  | .createSnapshot now context dto =>
    match createSnapshot now context dto db with
    | .ok (snapshot, _) => [⟨snapshot.id, now, context, dto, db.shop⟩]
    | .error _ => []
  | .createPrecomputeRun now context dto =>
    match createPrecomputeRun now context dto db with
    | .ok (run, _) => [⟨run.snapshot.id, now, context, dto, db.shop⟩]
    | .error _ => []
  | .work _ => []

def opened (nextId : Id) (shop : AnalyticsShop) : AnalyticsDb := ⟨nextId, shop, []⟩

def dbAfter (nextId : Id) (shop : AnalyticsShop) (events : List AnalyticsEvent) : AnalyticsDb :=
  Trace.run step (opened nextId shop) events

def madeBy (nextId : Id) (shop : AnalyticsShop) (events : List AnalyticsEvent) : List Made :=
  Trace.recorded step makes [] (opened nextId shop) events

structure Reader where
  now : Instant
  context : RequestContext
  query : AnalyticsQuery

/-- The live request for a scope. -/
def Reader.live (reader : Reader) (scope : AnalyticsScope) (shop : AnalyticsShop) :
    Except ApiException OwnerCabinetDashboard :=
  getOwnerCabinetDashboard reader.now reader.context
    { tenantId := reader.query.tenantId
      storeId := reader.query.storeId
      periodStart := some (some scope.periodStart)
      periodEnd := some (some scope.periodEnd)
      mode := some .live } (opened 0 shop)

def mayRead (context : RequestContext) (tenantId : Id) (order : Order) : Bool :=
  order.tenantId = tenantId && passesFilter context order.storeId

/-- Two shops differ at most in the orders that the caller may not read. -/
structure AgreeFor (context : RequestContext) (tenantId : Id) (shop shop' : AnalyticsShop) :
    Prop where
  stores : shop'.stores = shop.stores
  storeSettings : shop'.storeSettings = shop.storeSettings
  tenantSettings : shop'.tenantSettings = shop.tenantSettings
  orders : shop'.orders.filter (mayRead context tenantId) =
    shop.orders.filter (mayRead context tenantId)
  payments : ∀ order ∈ shop.orders, mayRead context tenantId order = true →
    shop'.paymentIntents.filter (fun intent => intent.orderId = order.id) =
      shop.paymentIntents.filter fun intent => intent.orderId = order.id

/-- The same figures, whatever their source and time. -/
def SameFigures (dashboard dashboard' : OwnerCabinetDashboard) : Prop :=
  { dashboard with
    generatedAt := dashboard'.generatedAt
    dataSource := dashboard'.dataSource
    snapshotId := dashboard'.snapshotId } = dashboard'

def FiguresOf (made : List Made) (present : AnalyticsShop) (shop : AnalyticsShop) :
    Option Id → Prop
  | none => shop = present
  | some snapshotId => ∃ m ∈ made, m.snapshotId = snapshotId ∧ m.shop = shop

/-- The dashboard that a request gets is the live one of its caller when its figures were taken,
whatever the orders that the caller may not read. -/
def KeepsToCaller (made : List Made) (db : AnalyticsDb) (reader : Reader) : Prop :=
  ∀ scope dashboard,
    resolveAnalyticsScope reader.now reader.context reader.query db.shop = .ok scope →
    getOwnerCabinetDashboard reader.now reader.context reader.query db = .ok dashboard →
      ∃ shop, FiguresOf made db.shop shop dashboard.snapshotId ∧
        ∀ shop', AgreeFor reader.context scope.tenantId shop shop' →
          ∃ live, reader.live scope shop' = .ok live ∧ SameFigures dashboard live

/-- The snapshot that is stored for the request's scope, if it asks for one, was made by a caller
who saw the stores that the request's own caller would have seen. -/
def SeenAlike (made : List Made) (db : AnalyticsDb) (reader : Reader) : Prop :=
  ∀ scope, resolveAnalyticsScope reader.now reader.context reader.query db.shop = .ok scope →
    reader.query.mode ∉ [none, some .live] →
      ∀ snapshot ∈ findSnapshotForScope scope db, ∀ m ∈ made, m.snapshotId = snapshot.id →
        scopeStores m.context scope.tenantId scope.storeId m.shop =
          scopeStores reader.context scope.tenantId scope.storeId m.shop

def AnalyticsScope.seenBy (scope : AnalyticsScope) (context : RequestContext)
    (shop : AnalyticsShop) : AnalyticsScope :=
  { scope with stores := scopeStores context scope.tenantId scope.storeId shop }

section
variable {now : Instant} {context : RequestContext} {query : AnalyticsQuery}
  {shop shop' : AnalyticsShop} {scope : AnalyticsScope}

theorem resolveAnalyticsScope_ok (h : resolveAnalyticsScope now context query shop = .ok scope) :
    resolveTenantId context (query.tenantId.or context.tenantId) = .ok scope.tenantId ∧
      enforceAskedStore context query.storeId = .ok () ∧
      resolvePeriod now query = .ok (scope.periodStart, scope.periodEnd) ∧
      scope.storeId = query.storeId ∧ scope.seenBy context shop = scope := by
  simp only [resolveAnalyticsScope, except_bind_ok_iff, except_pure_ok_iff] at h
  obtain ⟨tenantId, tenant, _, store, ⟨periodStart, periodEnd⟩, period, rfl⟩ := h
  exact ⟨tenant, store, period, rfl, rfl⟩

theorem resolvePeriod_given {periodStart periodEnd : Date} {now' : Instant}
    {query' : AnalyticsQuery} (h : resolvePeriod now query = .ok (periodStart, periodEnd))
    (starts : query'.periodStart = some (some periodStart))
    (ends : query'.periodEnd = some (some periodEnd)) :
    resolvePeriod now' query' = .ok (periodStart, periodEnd) := by
  simp only [resolvePeriod, except_bind_ok_iff, required_ok_iff, rejectIf_ok_iff,
    except_pure_ok_iff, Prod.mk.injEq] at h ⊢
  obtain ⟨_, _, _, _, _, valid, rfl, rfl⟩ := h
  refine ⟨_, by rw [ends]; rfl, _, by rw [starts]; rfl, (), valid, rfl, rfl⟩

theorem live_ok {reader : Reader} {present : AnalyticsShop}
    (resolved : resolveAnalyticsScope reader.now reader.context reader.query present = .ok scope)
    (shop : AnalyticsShop) : reader.live scope shop =
      .ok (buildLiveDashboard reader.now (scope.seenBy reader.context shop) shop) := by
  obtain ⟨tenant, store, period, asked, -⟩ := resolveAnalyticsScope_ok resolved
  have again : resolveAnalyticsScope reader.now reader.context
      { tenantId := reader.query.tenantId
        storeId := reader.query.storeId
        periodStart := some (some scope.periodStart)
        periodEnd := some (some scope.periodEnd)
        mode := some .live } shop = .ok (scope.seenBy reader.context shop) := by
    simp only [resolveAnalyticsScope, except_bind_ok_iff, except_pure_ok_iff]
    refine ⟨_, tenant, (), store, _, resolvePeriod_given period rfl rfl, ?_⟩
    rw [AnalyticsScope.seenBy, asked]
  simp only [Reader.live, getOwnerCabinetDashboard, except_bind_ok_iff]
  exact ⟨_, again, rfl⟩

theorem passesFilter_of_inScope {storeId : Option Id} {store : AnalyticsStore}
    (allowed : enforceAskedStore context storeId = .ok ())
    (listed : inScope context scope.tenantId storeId store = true) :
    passesFilter context store.id = true := by
  cases storeId with
  | none => exact (Bool.and_eq_true_iff.mp listed).2
  | some asked =>
    have own : store.id = asked := of_decide_eq_true (Bool.and_eq_true_iff.mp listed).2
    rw [own, passesFilter, storeFilter]
    simp only [enforceAskedStore, enforceStoreAccess] at allowed
    split at allowed
    · rename_i admin
      rw [if_pos (.inl admin)]
    · rename_i member
      split
      · rfl
      · rename_i storeIds filtered
        split at filtered
        · cases filtered
        · rename_i limited
          obtain rfl := Option.some.inj filtered
          have checked := rejectIf_ok_iff.mp allowed
          simp only [not_or] at limited
          simp only [limited.2, ne_eq, not_false_eq_true, true_and, not_not] at checked
          exact decide_eq_true checked

theorem liveOrders_readable (allowed : enforceAskedStore context scope.storeId = .ok ())
    {order : Order} (own : order.tenantId = scope.tenantId)
    (listed : order.storeId ∈ (scope.seenBy context shop).stores.map AnalyticsStore.id) :
    mayRead context scope.tenantId order = true := by
  obtain ⟨store, seen, same⟩ := mem_map.mp listed
  have kept := (mem_filter.mp ((mem_insertionSort _).mp seen)).2
  rw [mayRead, ← same, passesFilter_of_inScope allowed kept, Bool.and_true]
  exact decide_eq_true own

theorem filter_agree {α : Type} {p q : α → Bool} {rows rows' : List α}
    (within : ∀ row, p row = true → q row = true) (agree : rows'.filter q = rows.filter q) :
    rows'.filter p = rows.filter p := by
  have narrowed : ∀ rows : List α, (rows.filter q).filter p = rows.filter p := by
    intro rows
    rw [filter_filter]
    refine filter_congr fun row _ => ?_
    by_cases asked : p row = true
    · rw [asked, within row asked, Bool.and_self]
    · rw [Bool.not_eq_true] at asked
      rw [asked, Bool.false_and]
  rw [← narrowed rows', agree, narrowed]

theorem liveOrders_agree (allowed : enforceAskedStore context scope.storeId = .ok ())
    (agree : AgreeFor context scope.tenantId shop shop') :
    liveOrders (scope.seenBy context shop) shop' = liveOrders (scope.seenBy context shop) shop := by
  unfold liveOrders
  congr 1
  refine filter_agree (fun order kept => ?_) agree.orders
  obtain ⟨own, listed, _⟩ := of_decide_eq_true kept
  exact liveOrders_readable allowed own listed

theorem paidAmountOf_agree {intents intents' : List PaymentIntent} {orderId : Id}
    (agree : intents'.filter (fun intent => intent.orderId = orderId) =
      intents.filter fun intent => intent.orderId = orderId) :
    paidAmountOf intents' orderId = paidAmountOf intents orderId := by
  have same := filter_agree (p := fun intent => decide
    (intent.orderId = orderId ∧ intent.status = .completed)) (fun intent kept =>
      decide_eq_true (of_decide_eq_true kept).1) agree
  rw [paidAmountOf, paidAmountOf, same]

theorem buildLiveDashboard_agree (allowed : enforceAskedStore context scope.storeId = .ok ())
    (agree : AgreeFor context scope.tenantId shop shop') :
    buildLiveDashboard now (scope.seenBy context shop') shop' =
      buildLiveDashboard now (scope.seenBy context shop) shop := by
  have stores : scope.seenBy context shop' = scope.seenBy context shop := by
    rw [AnalyticsScope.seenBy, scopeStores, agree.stores]
    rfl
  have currency : resolveCurrency (scope.seenBy context shop) shop' =
      resolveCurrency (scope.seenBy context shop) shop := by
    rw [resolveCurrency, agree.storeSettings, agree.tenantSettings]
    rfl
  have records : (liveOrders (scope.seenBy context shop) shop').map
      (mapOrderRecord shop'.paymentIntents) =
      (liveOrders (scope.seenBy context shop) shop).map (mapOrderRecord shop.paymentIntents) := by
    rw [liveOrders_agree allowed agree]
    refine map_congr_left fun order listed => ?_
    obtain ⟨stored, kept⟩ := mem_filter.mp ((mem_insertionSort _).mp listed)
    obtain ⟨own, inStore, _⟩ := of_decide_eq_true kept
    have readable := liveOrders_readable allowed own inStore
    rw [mapOrderRecord, paidAmountOf_agree (agree.payments order stored readable)]
    rfl
  rw [stores, buildLiveDashboard, currency, records]
  rfl

end

section
variable {now now' : Instant} {scope scope' : AnalyticsScope} {shop : AnalyticsShop}

theorem sameFigures_refl (dashboard : OwnerCabinetDashboard) : SameFigures dashboard dashboard :=
  rfl

theorem sameFigures_live (snapshot : AnalyticsSnapshot)
    (payload : snapshot.payload = buildLiveDashboard now scope shop) :
    SameFigures (mapDashboardFromSnapshot snapshot) (buildLiveDashboard now' scope shop) := by
  rw [SameFigures, mapDashboardFromSnapshot, payload]
  rfl

theorem storeRecords_ids (stores : List AnalyticsStore) :
    (stores.map fun store => (⟨store.id, store.code, store.name⟩ : AnalyticsStoreRecord)).map
      AnalyticsStoreRecord.id = stores.map AnalyticsStore.id := by
  rw [map_map]
  rfl

theorem scopeStores_distinct (context : RequestContext) (tenantId : Id) (storeId : Option Id)
    (shop : AnalyticsShop) :
    ((scopeStores context tenantId storeId shop).map AnalyticsStore.id).Nodup := by
  have perm := (perm_insertionSort (fun left right : AnalyticsStore => left.name ≤ right.name)
    (shop.stores.val.filter (inScope context tenantId storeId))).map AnalyticsStore.id
  exact perm.nodup_iff.mpr (shop.stores.property.sublist (filter_sublist.map AnalyticsStore.id))

theorem scopeStores_of_sameFigures {context context' : RequestContext}
    (payload : snapshot.payload = buildLiveDashboard now (scope.seenBy context shop) shop)
    (same : SameFigures (mapDashboardFromSnapshot snapshot)
      (buildLiveDashboard now' (scope.seenBy context' shop) shop)) :
    scopeStores context scope.tenantId scope.storeId shop =
      scopeStores context' scope.tenantId scope.storeId shop := by
  have rows := congrArg (fun d => d.revenueByStore.map AnalyticsRevenueByStore.storeId) same
  have listed : ∀ (n : Instant) (context : RequestContext),
      ((buildLiveDashboard n (scope.seenBy context shop) shop).revenueByStore.map
        AnalyticsRevenueByStore.storeId).Perm
        ((scopeStores context scope.tenantId scope.storeId shop).map AnalyticsStore.id) := by
    intro n context
    have ids := storeRecords_ids (scopeStores context scope.tenantId scope.storeId shop)
    have perm := @revenueByStore_stores Binary64.round _
      (by rw [ids]; exact scopeStores_distinct _ _ _ _)
      (((liveOrders (scope.seenBy context shop) shop).map
        (mapOrderRecord shop.paymentIntents)).filter fun order =>
          0 < toAmount Binary64.round order.paidAmount)
    rw [ids] at perm
    exact perm
  have ids : ((scopeStores context scope.tenantId scope.storeId shop).map AnalyticsStore.id).Perm
      ((scopeStores context' scope.tenantId scope.storeId shop).map AnalyticsStore.id) := by
    have middle : ((buildLiveDashboard now (scope.seenBy context shop) shop).revenueByStore.map
        AnalyticsRevenueByStore.storeId).Perm
        ((buildLiveDashboard now' (scope.seenBy context' shop) shop).revenueByStore.map
          AnalyticsRevenueByStore.storeId) := by
      rw [← payload]
      exact List.Perm.of_eq rows
    exact ((listed now context).symm.trans middle).trans (listed now' context')
  refine congrArg _ (filter_congr fun store stored => ?_)
  have seen : ∀ context : RequestContext,
      store.id ∈ (scopeStores context scope.tenantId scope.storeId shop).map AnalyticsStore.id ↔
        inScope context scope.tenantId scope.storeId store = true := by
    intro context
    constructor
    · intro listed
      obtain ⟨other, there, same⟩ := mem_map.mp listed
      obtain ⟨here, kept⟩ := mem_filter.mp ((mem_insertionSort _).mp there)
      rwa [← Rows.eq_of_key shop.stores.property here stored same]
    · intro kept
      have here := mem_filter.mpr ⟨stored, kept⟩
      exact mem_map_of_mem ((mem_insertionSort _).mpr here)
  exact Bool.eq_iff_iff.mpr (((seen context).symm.trans ids.mem_iff).trans (seen context'))

end

/-- Each snapshot is what a request has made, and its key tells which. -/
structure History (made : List Made) (db : AnalyticsDb) : Prop where
  kept : ∀ snapshot ∈ db.snapshots, ∃ m ∈ made, ∃ scope,
    resolveAnalyticsScope m.now m.context m.query m.shop = .ok scope ∧
      snapshot = newSnapshot m.snapshotId m.now m.context scope m.shop
  distinct : (made.map Made.snapshotId).Nodup
  old : ∀ m ∈ made, m.snapshotId < db.nextId

section
variable {now : Instant} {context : RequestContext} {dto : AnalyticsQuery} {db db' : AnalyticsDb}
  {made : List Made}

theorem createSnapshot_ok (h : createSnapshot now context dto db = .ok (snapshot, db')) :
    ∃ scope, resolveAnalyticsScope now context dto db.shop = .ok scope ∧
      snapshot = newSnapshot db.nextId now context scope db.shop ∧
      db' = { db with nextId := db.nextId + 1, snapshots := db.snapshots ++ [snapshot] } := by
  simp only [createSnapshot, createOwnerDashboardSnapshotTx, Tx.bind_ok_iff, Tx.read_ok_iff,
    Tx.write_ok_iff, Tx.pure_ok_iff] at h
  obtain ⟨scope, _, ⟨resolved, rfl⟩, _, _, ⟨read, rfl⟩, _, _, rfl, rfl, rfl⟩ := h
  obtain rfl := Except.ok.inj read
  exact ⟨scope, resolved, rfl, rfl⟩

theorem createPrecomputeRun_ok {run : AnalyticsPrecomputeRun}
    (h : createPrecomputeRun now context dto db = .ok (run, db')) :
    createSnapshot now context dto db = .ok (run.snapshot, db') := by
  simp only [createPrecomputeRun, Tx.bind_ok_iff, Tx.pure_ok_iff] at h
  obtain ⟨scope, _, resolved, snapshot, _, created, rfl, rfl⟩ := h
  exact Tx.bind_ok_iff.mpr ⟨scope, _, resolved, created⟩

theorem History.create (history : History made db)
    (h : createSnapshot now context dto db = .ok (snapshot, db')) :
    History (⟨snapshot.id, now, context, dto, db.shop⟩ :: made) db' := by
  obtain ⟨scope, resolved, rfl, rfl⟩ := createSnapshot_ok h
  refine ⟨fun listed there => ?_, ?_, ?_⟩
  · rcases mem_append.mp there with before | new
    · obtain ⟨m, recorded, made⟩ := history.kept listed before
      exact ⟨m, mem_cons_of_mem _ recorded, made⟩
    · rw [mem_singleton.mp new]
      exact ⟨_, mem_cons_self, scope, resolved, rfl⟩
  · refine nodup_cons.mpr ⟨fun taken => ?_, history.distinct⟩
    obtain ⟨m, recorded, same⟩ := mem_map.mp taken
    exact Nat.lt_irrefl _ (same ▸ history.old m recorded)
  · intro m recorded
    rcases mem_cons.mp recorded with rfl | before
    · exact Nat.lt_succ_self _
    · exact Nat.lt_succ_of_lt (history.old m before)

theorem history_step (made : List Made) (db : AnalyticsDb) (event : AnalyticsEvent)
    (history : History made db) : History (makes db event ++ made) (step db event) := by
  cases event with
  | createSnapshot now context dto =>
    simp only [makes, step, Call.exec_transact]
    cases h : createSnapshot now context dto db with
    | ok answer => exact history.create h
    | error e => exact history
  | createPrecomputeRun now context dto =>
    simp only [makes, step, Call.exec_transact]
    cases h : createPrecomputeRun now context dto db with
    | ok answer => exact history.create (createPrecomputeRun_ok h)
    | error e => exact history
  | work shop => exact ⟨history.kept, history.distinct, history.old⟩

theorem history_after (nextId : Id) (shop : AnalyticsShop) (events : List AnalyticsEvent) :
    History (madeBy nextId shop events) (dbAfter nextId shop events) := by
  have begun : History [] (opened nextId shop) :=
    { kept := fun _ listed => absurd listed not_mem_nil
      distinct := nodup_nil
      old := fun _ listed => absurd listed not_mem_nil }
  exact Trace.run_recorded history_step begun events

theorem History.found (history : History made db) {scope : AnalyticsScope}
    (found : findSnapshotForScope scope db = some snapshot) :
    ∃ m ∈ made, m.snapshotId = snapshot.id ∧
      snapshot.payload = buildLiveDashboard m.now (scope.seenBy m.context m.shop) m.shop := by
  have listed := (mem_insertionSort _).mp (mem_of_mem_head? found)
  obtain ⟨stored, kept⟩ := mem_filter.mp listed
  obtain ⟨tenant, store, _, starts, ends⟩ := of_decide_eq_true kept
  obtain ⟨m, recorded, scope', resolved, rfl⟩ := history.kept snapshot stored
  have own := (resolveAnalyticsScope_ok resolved).2.2.2.2
  have same : scope'.seenBy m.context m.shop = scope.seenBy m.context m.shop := by
    rw [AnalyticsScope.seenBy, AnalyticsScope.seenBy, ← show scope'.tenantId = _ from tenant,
      ← show scope'.storeId = _ from store, ← show scope'.periodStart = _ from starts,
      ← show scope'.periodEnd = _ from ends]
  refine ⟨m, recorded, rfl, ?_⟩
  rw [← same, own]
  rfl

end

section
variable {reader : Reader} {scope : AnalyticsScope} {db : AnalyticsDb} {made : List Made}

theorem answered_snapshot
    (resolved : resolveAnalyticsScope reader.now reader.context reader.query db.shop = .ok scope)
    (asks : reader.query.mode ∉ [none, some .live])
    (found : findSnapshotForScope scope db = some snapshot) :
    getOwnerCabinetDashboard reader.now reader.context reader.query db =
      .ok (mapDashboardFromSnapshot snapshot) := by
  simp only [getOwnerCabinetDashboard, except_bind_ok_iff]
  refine ⟨scope, resolved, ?_⟩
  rw [if_neg asks, found]
  cases mode : reader.query.mode with
  | none => simp [mode] at asks
  | some mode' =>
    cases mode' with
    | live => simp [mode] at asks
    | preferSnapshot => rfl
    | snapshotOnly => rfl

theorem answered_cases {dashboard : OwnerCabinetDashboard}
    (resolved : resolveAnalyticsScope reader.now reader.context reader.query db.shop = .ok scope)
    (answered : getOwnerCabinetDashboard reader.now reader.context reader.query db =
      .ok dashboard) :
    (∃ snapshot, reader.query.mode ∉ [none, some .live] ∧
      findSnapshotForScope scope db = some snapshot ∧
      dashboard = mapDashboardFromSnapshot snapshot) ∨
    dashboard = buildLiveDashboard reader.now scope db.shop := by
  by_cases asks : reader.query.mode ∈ [none, some .live]
  · right
    simp only [getOwnerCabinetDashboard, except_bind_ok_iff] at answered
    obtain ⟨scope', again, answered⟩ := answered
    obtain rfl := Except.ok.inj (again.symm.trans resolved)
    rw [if_pos asks] at answered
    cases mode : reader.query.mode with
    | none =>
      rw [mode] at answered
      exact (Except.ok.inj answered).symm
    | some mode' =>
      rw [mode] at answered
      cases mode' with
      | live => exact (Except.ok.inj answered).symm
      | preferSnapshot => simp [mode] at asks
      | snapshotOnly => simp [mode] at asks
  · cases found : findSnapshotForScope scope db with
    | some snapshot =>
      rw [answered_snapshot resolved asks found] at answered
      exact .inl ⟨snapshot, asks, rfl, (Except.ok.inj answered).symm⟩
    | none =>
      right
      simp only [getOwnerCabinetDashboard, except_bind_ok_iff] at answered
      obtain ⟨scope', again, answered⟩ := answered
      obtain rfl := Except.ok.inj (again.symm.trans resolved)
      rw [if_neg asks, found] at answered
      cases mode : reader.query.mode with
      | none => simp [mode] at asks
      | some mode' =>
        rw [mode] at answered
        cases mode' with
        | live => simp [mode] at asks
        | preferSnapshot => exact (Except.ok.inj answered).symm
        | snapshotOnly => cases answered

theorem agreeFor_refl (context : RequestContext) (tenantId : Id) (shop : AnalyticsShop) :
    AgreeFor context tenantId shop shop := ⟨rfl, rfl, rfl, rfl, fun _ _ _ => rfl⟩

theorem seenAlike_of_keepsToCaller (history : History made db)
    (keeps : KeepsToCaller made db reader) : SeenAlike made db reader := by
  intro scope resolved asks snapshot found m recorded same
  obtain ⟨shop, ⟨m', recorded', same', rfl⟩, live⟩ :=
    keeps scope _ resolved (answered_snapshot resolved asks found)
  obtain rfl := Rows.eq_of_key history.distinct recorded' recorded (same'.trans same.symm)
  obtain ⟨m'', recorded'', same'', payload⟩ := history.found found
  obtain rfl := Rows.eq_of_key history.distinct recorded'' recorded (same''.trans same.symm)
  obtain ⟨dashboard, answered, figures⟩ := live m''.shop (agreeFor_refl _ _ _)
  rw [live_ok resolved] at answered
  obtain rfl := Except.ok.inj answered
  exact scopeStores_of_sameFigures payload figures

theorem keepsToCaller_of_seenAlike (history : History made db)
    (alike : SeenAlike made db reader) : KeepsToCaller made db reader := by
  intro scope dashboard resolved answered
  obtain ⟨_, allowed, _, asked, own⟩ := resolveAnalyticsScope_ok resolved
  rw [← asked] at allowed
  rcases answered_cases resolved answered with ⟨snapshot, asks, found, rfl⟩ | rfl
  · obtain ⟨m, recorded, same, payload⟩ := history.found found
    refine ⟨m.shop, ⟨m, recorded, same, rfl⟩, fun shop' agree => ⟨_, live_ok resolved shop', ?_⟩⟩
    have stores : scope.seenBy m.context m.shop = scope.seenBy reader.context m.shop := by
      rw [AnalyticsScope.seenBy, alike scope resolved asks snapshot found m recorded same]
      rfl
    rw [buildLiveDashboard_agree allowed agree]
    rw [stores] at payload
    exact sameFigures_live snapshot payload
  · refine ⟨db.shop, rfl, fun shop' agree => ⟨_, live_ok resolved shop', ?_⟩⟩
    rw [buildLiveDashboard_agree allowed agree, own]
    exact sameFigures_refl _

end

/-- After any history of a tenant, a request is shown the figures that its caller would have been
shown live when they were taken, just when the snapshot stored for its scope, if it asks for one,
was made by a caller who saw the same stores. -/
theorem keepsToCaller_iff (nextId : Id) (shop : AnalyticsShop) (events : List AnalyticsEvent)
    (reader : Reader) :
    KeepsToCaller (madeBy nextId shop events) (dbAfter nextId shop events) reader ↔
      SeenAlike (madeBy nextId shop events) (dbAfter nextId shop events) reader :=
  ⟨seenAlike_of_keepsToCaller (history_after nextId shop events),
    keepsToCaller_of_seenAlike (history_after nextId shop events)⟩

def orderIn (storeId id : Id) : Order where
  id := id
  tenantId := 1
  storeId := storeId
  cartId := none
  customerProfileId := none
  number := "A-1"
  channel := .pos
  status := .completed
  refundStatus := .none
  customerName := none
  customerPhone := none
  note := none
  subtotal := 1000
  modifierTotal := 0
  fulfillmentFee := 0
  discountTotal := 0
  total := 1000
  promotionCode := none
  promotionSnapshot := none
  fulfillmentMode := none
  fulfillmentStatus := none
  fulfillmentPayload := none
  promisedAt := none
  etaAt := none
  placedAt := 5
  confirmedAt := none
  readyAt := none
  completedAt := none
  cancelledAt := none
  cancelReason := none
  deviceId := none
  createdByUserId := none
  items := []

def twoBranches : AnalyticsShop where
  stores := ⟨[⟨21, 1, "a", "Airport"⟩, ⟨22, 1, "b", "Beach"⟩], by decide⟩
  orders := [orderIn 21 31, orderIn 22 32]
  paymentIntents := []
  storeSettings := []
  tenantSettings := []

def member (storeIds : List Id) : RequestContext :=
  ⟨"member", some 1, .tenantMember, storeIds, none⟩

def firstWeek (mode : AnalyticsMode) : AnalyticsQuery :=
  { periodStart := some (some 0), periodEnd := some (some 10), mode := some mode }

/-- The owner has a snapshot made, and the manager of a branch asks for it. -/
theorem branch_manager_shown_all :
    ¬∀ (nextId : Id) (shop : AnalyticsShop) (events : List AnalyticsEvent) (reader : Reader),
      KeepsToCaller (madeBy nextId shop events) (dbAfter nextId shop events) reader := by
  intro always
  let reader : Reader := ⟨20, member [21], firstWeek .preferSnapshot⟩
  let events : List AnalyticsEvent := [.createSnapshot 10 (member []) (firstWeek .live)]
  have keeps := always 50 twoBranches events reader
  have resolved : resolveAnalyticsScope reader.now reader.context reader.query
      (dbAfter 50 twoBranches events).shop =
      .ok ⟨1, none, [⟨21, 1, "a", "Airport"⟩], 0, 10⟩ := rfl
  have made : madeBy 50 twoBranches events =
      [⟨50, 10, member [], firstWeek .live, twoBranches⟩] := rfl
  have shown : (getOwnerCabinetDashboard reader.now reader.context reader.query
      (dbAfter 50 twoBranches events)).toOption.map (fun d => (d.totalOrders, d.snapshotId)) =
      some (2, some 50) := by decide +kernel
  have live : (reader.live ⟨1, none, [⟨21, 1, "a", "Airport"⟩], 0, 10⟩
      twoBranches).toOption.map OwnerCabinetDashboard.totalOrders = some 1 := by decide +kernel
  obtain ⟨dashboard, answered, is⟩ := Option.map_eq_some_iff.mp shown
  obtain ⟨total, origin⟩ := Prod.mk.inj is
  cases result : getOwnerCabinetDashboard reader.now reader.context reader.query
      (dbAfter 50 twoBranches events) with
  | error e =>
    rw [result] at answered
    cases answered
  | ok shown =>
    rw [result] at answered
    obtain rfl := Option.some.inj answered
    obtain ⟨shop, figures, lives⟩ := keeps _ _ resolved result
    rw [origin, made] at figures
    obtain ⟨m, recorded, _, rfl⟩ := figures
    obtain rfl := List.mem_singleton.mp recorded
    obtain ⟨own, there, same⟩ := lives twoBranches (agreeFor_refl _ _ _)
    rw [there] at live
    have counts := congrArg OwnerCabinetDashboard.totalOrders same
    rw [show _ = own.totalOrders from counts] at total
    exact absurd (total.symm.trans (Option.some.inj live)) (by decide)

end Exetron.Analytics
