import Exetron.Inventory.Alone
import Exetron.Lib.Record

/-!
# What a checkout reserves

The plan of a checkout adds up what its lines require by ingredient. A checkout that succeeds
reserves exactly these amounts in the store's warehouse, and one that fails writes nothing.
-/

namespace Exetron.Inventory

open Lib Concurrent

def requirements (setup : Setup) (tenantId : Id) (lines : List PlanLine) : List (Id × Quantity) :=
  lines.flatMap fun line => (effectiveRows setup tenantId line).map fun row =>
    (row.ingredientId, row.quantity * line.quantity)

def needed (requirements : List (Id × Quantity)) (ingredientId : Id) : Quantity :=
  ((requirements.filter fun r => r.1 = ingredientId).map Prod.snd).sum

def demanded (requirements : List (Id × Quantity)) (ingredientId : Id) : Quantity :=
  needed (requirements.filter fun r => 0 < r.2) ingredientId

def addRequirement (totals : List (Id × Quantity)) (r : Id × Quantity) : List (Id × Quantity) :=
  if r.2 ≤ 0 then totals else addToTotal r.1 r.2 totals

theorem ingredientTotals_eq (setup : Setup) (tenantId : Id) (lines : List PlanLine) :
    ingredientTotals setup tenantId lines =
      (requirements setup tenantId lines).foldl addRequirement [] := by
  rw [requirements, List.foldl_flatMap]
  simp only [List.foldl_map]
  rfl

def totalOf (totals : List (Id × Quantity)) (ingredientId : Id) : Quantity :=
  (Record.get totals ingredientId).getD 0

theorem totalOf_addToTotal (id i : Id) (q : Quantity) (totals : List (Id × Quantity)) :
    totalOf (addToTotal id q totals) i = totalOf totals i + if id = i then q else 0 := by
  induction totals with
  | nil => by_cases same : id = i <;> simp [totalOf, addToTotal, Record.get_cons, same]
  | cons e rest ih =>
    obtain ⟨key, total⟩ := e
    rw [addToTotal]
    by_cases here : key = id
    · subst here
      by_cases same : key = i <;> simp [totalOf, Record.get_cons, same]
    · rw [if_neg here]
      by_cases there : key = i
      · have other : id ≠ i := fun same => here (there.trans same.symm)
        simp [totalOf, Record.get_cons, there, other]
      · simpa [totalOf, Record.get_cons, there] using ih

theorem totalOf_foldl (rs totals : List (Id × Quantity)) (i : Id) :
    totalOf (rs.foldl addRequirement totals) i = totalOf totals i + demanded rs i := by
  induction rs generalizing totals with
  | nil => simp [demanded, needed]
  | cons r rs ih =>
    rw [List.foldl_cons, ih, addRequirement]
    by_cases none : r.2 ≤ 0
    · rw [if_pos none]
      simp [demanded, needed, not_lt.mpr none]
    · rw [if_neg none, totalOf_addToTotal]
      by_cases same : r.1 = i <;>
        simp [demanded, needed, not_le.mp none, same, add_assoc]

theorem totalOf_ingredientTotals (setup : Setup) (tenantId : Id) (lines : List PlanLine) (i : Id) :
    totalOf (ingredientTotals setup tenantId lines) i =
      demanded (requirements setup tenantId lines) i := by
  rw [ingredientTotals_eq, totalOf_foldl]
  exact zero_add (demanded _ i)

theorem Totals.totalOf_of_mem {totals : List (Id × Quantity)} (h : Totals totals)
    {e : Id × Quantity} (listed : e ∈ totals) : totalOf totals e.1 = e.2 := by
  rw [totalOf, (Record.mem_iff_get h.keys).mp listed]
  rfl

theorem Totals.mem_of_totalOf {totals : List (Id × Quantity)} (h : Totals totals) {i : Id}
    (some_ : totalOf totals i ≠ 0) : (i, totalOf totals i) ∈ totals := by
  cases read : Record.get totals i with
  | none => simp [totalOf, read] at some_
  | some q =>
    rw [totalOf, read]
    exact (Record.mem_iff_get h.keys).mpr read

section
variable {tenantId storeId : Id} {lines : List PlanLine}
  {plan : List InventoryReservationPlanEntry} {db : Db}

def availableAt (db : Db) (place : Place) : Quantity := onHandAt db place - reservedAt db place

/-- A plan for a warehouse has what is demanded of each ingredient, and all of it is available there
above the ingredient's stop threshold. -/
structure PlansDemand (demand : Id → Quantity) (threshold : Id → Quantity) (warehouseId : Id)
    (db : Db) (plan : List InventoryReservationPlanEntry) : Prop where
  entries : ∀ e ∈ plan, e.warehouseId = warehouseId ∧ e.quantity = demand e.ingredientId
  covered : ∀ i, demand i ≠ 0 → ⟨warehouseId, i, demand i⟩ ∈ plan
  available : ∀ e ∈ plan, e.quantity ≤ availableAt db e.place ∧
    threshold e.ingredientId < availableAt db e.place

theorem plansDemand_of_ok {warehouse : Warehouse}
    (selected : selectWarehouse db.setup tenantId storeId = some warehouse)
    (h : buildReservationPlanTx tenantId storeId lines db = .ok plan) :
    PlansDemand (demanded (requirements db.setup tenantId lines))
      (stopThreshold db.setup tenantId storeId warehouse.id) warehouse.id db plan := by
  have totals := ingredientTotals_totals db.setup tenantId lines
  have amounts := totalOf_ingredientTotals db.setup tenantId lines
  have read : (ingredientTotals db.setup tenantId lines).mapM (fun e => do
      let item := findItem db warehouse.id e.1
      let available := (item.map InventoryItem.onHand).getD 0 -
        (item.map InventoryItem.reserved).getD 0
      rejectIf (available < e.2 ∨
          available ≤ stopThreshold db.setup tenantId storeId warehouse.id e.1)
        (.badRequest "Order cannot be placed because stock is unavailable.")
      pure (⟨warehouse.id, e.1, e.2⟩ : InventoryReservationPlanEntry)) = .ok plan := by
    unfold buildReservationPlanTx at h
    split at h
    · rename_i none
      rw [none]
      exact h
    · rw [selected] at h
      exact h
  generalize ingredientTotals db.setup tenantId lines = entries at totals amounts read
  obtain ⟨rfl, admitted⟩ := mapM_ok (g := fun e => ⟨warehouse.id, e.1, e.2⟩) (fun x y answer => by
    simp only [except_bind_ok_iff, except_pure_ok_iff] at answer
    obtain ⟨_, _, rfl⟩ := answer
    rfl) read
  refine ⟨fun entry listed => ?_, fun i some_ => ?_, fun entry listed => ?_⟩
  · obtain ⟨e, member, rfl⟩ := List.mem_map.mp listed
    exact ⟨rfl, by rw [← amounts, totals.totalOf_of_mem member]⟩
  · rw [← amounts] at some_ ⊢
    exact List.mem_map.mpr ⟨_, totals.mem_of_totalOf some_, rfl⟩
  · obtain ⟨e, member, rfl⟩ := List.mem_map.mp listed
    have answer := admitted e member
    simp only [except_bind_ok_iff, rejectIf_ok_iff, not_or, not_lt, not_le] at answer
    obtain ⟨_, granted, _⟩ := answer
    exact granted

theorem plan_unmanaged (none : selectWarehouse db.setup tenantId storeId = none)
    (h : buildReservationPlanTx tenantId storeId lines db = .ok plan) : plan = [] := by
  unfold buildReservationPlanTx at h
  rw [none] at h
  split at h <;> exact (Except.ok.inj h).symm

end

/-- What a checkout has reserved: in the store's warehouse what its lines demand of each ingredient,
which was available there above the stop threshold, and nothing anywhere else. -/
structure Reserves (tenantId storeId : Id) (lines : List PlanLine) (db db' : Db) : Prop where
  grown : ∀ warehouse ∈ selectWarehouse db.setup tenantId storeId, ∀ i,
    reservedAt db' (warehouse.id, i) =
      reservedAt db (warehouse.id, i) + demanded (requirements db.setup tenantId lines) i
  elsewhere : ∀ place, (∀ warehouse ∈ selectWarehouse db.setup tenantId storeId,
    place.1 ≠ warehouse.id) → reservedAt db' place = reservedAt db place
  available : ∀ warehouse ∈ selectWarehouse db.setup tenantId storeId, ∀ i,
    demanded (requirements db.setup tenantId lines) i ≠ 0 →
      demanded (requirements db.setup tenantId lines) i ≤ availableAt db (warehouse.id, i) ∧
      stopThreshold db.setup tenantId storeId warehouse.id i < availableAt db (warehouse.id, i)

section
variable {env : Env} {context : RequestContext} {cartId : Id} {dto : Orders.CheckoutCartDto}
  {db db' : Db}

def planLines (cart : Cart) : List PlanLine :=
  cart.items.map fun item => ⟨item.productId, item.variantId, item.quantity⟩

theorem checkoutTx_reserves {order : Order}
    (h : Orders.checkoutTx env context cartId dto db = .ok (order, db')) :
    ∃ cart plan m m', carts.findUnique cartId db = some cart ∧
      buildReservationPlanTx cart.tenantId cart.storeId (planLines cart) db = .ok plan ∧
      m.stock = db.stock ∧ db.nextId ≤ m.nextId ∧
      reserveOrderInventoryTx order.tenantId order.id plan m = .ok ((), m') ∧
      db'.stock = m'.stock := by
  simp only [Orders.checkoutTx, Tx.bind_ok_iff, Tx.read_ok_iff, freshId_ok_iff, freshIds_ok_iff,
    Table.create_ok_iff, Table.update_ok_iff, Tx.pure_ok_iff] at h
  obtain ⟨⟨cart, plan⟩, _, ⟨admitted, rfl⟩, _, _, ⟨rfl, rfl⟩, _, _, ⟨rfl, rfl⟩, _, _, ⟨_, rfl⟩,
    _, _, ⟨made, rfl⟩, _, m, reserved, _, _, ⟨_, _, _, rfl⟩, _, _, recorded, _, _, queued, rfl,
    rfl⟩ := h
  obtain ⟨_, rfl⟩ := Orders.recordEverywhere_ok recorded
  obtain ⟨_, rfl⟩ := Orders.enqueueStorefrontCustomerUpdates_ok queued
  simp only [Orders.admitCheckout, except_bind_ok_iff, except_pure_ok_iff,
    Table.findUniqueOrThrow_ok_iff] at admitted
  obtain ⟨_, found, _, _, _, _, _, _, _, planned, same⟩ := admitted
  obtain ⟨rfl, rfl⟩ := Prod.mk.inj same
  refine ⟨_, _, _, m, found, planned, ?_, ?_, reserved, rfl⟩
  · rfl
  · show db.nextId ≤ db.nextId + 1 + _
    lia

theorem reservedAt_reserved {tenantId orderId : Id} {plan : List InventoryReservationPlanEntry}
    (keys : StockKeys (stockState db)) (planned : Planned plan (stockState db))
    (h : reserveOrderInventoryTx tenantId orderId plan db = .ok ((), db')) (place : Place) :
    (place ∉ plan.map InventoryReservationPlanEntry.place →
        reservedAt db' place = reservedAt db place) ∧
      ∀ e ∈ plan, e.place = place → reservedAt db' place = reservedAt db place + e.quantity := by
  have shown : Shows db place ⟨onHandAt db place, reservedAt db place, []⟩ := ⟨rfl, rfl⟩
  obtain ⟨absent, present⟩ := reserveOrderInventoryTx_shows keys planned shown h
  exact ⟨fun gone => (absent gone).reserved, fun e listed there =>
    (present e listed there).2.reserved⟩

theorem reservedAt_of_stock (same : db'.stock = db.stock) (place : Place) :
    reservedAt db' place = reservedAt db place := by
  simp only [reservedAt, findItem, same]

theorem reserves_of_checkout (keys : StockKeys (stockState db)) {order : Order}
    (h : Orders.checkoutTx env context cartId dto db = .ok (order, db')) :
    ∃ cart, carts.findUnique cartId db = some cart ∧
      Reserves cart.tenantId cart.storeId (planLines cart) db db' := by
  obtain ⟨cart, plan, m, m', found, built, before, grows, reserved, after⟩ := checkoutTx_reserves h
  have keysM : StockKeys (stockState m) := by
    have same : stockState m = (StockMove.keysGiven m.nextId).apply (stockState db) := by
      rw [stockState, before]
      rfl
    rw [same]
    exact keys.apply grows
  have planned : Planned plan (stockState m) := by
    obtain ⟨places, available⟩ := planned_of_ok built
    exact ⟨places, by rw [stockState, before]; exact available⟩
  have effect (place : Place) := reservedAt_reserved keysM planned reserved place
  have ends (place : Place) : reservedAt db' place = reservedAt m' place :=
    reservedAt_of_stock after place
  have starts (place : Place) : reservedAt m place = reservedAt db place :=
    reservedAt_of_stock before place
  refine ⟨cart, found, ?_, ?_, ?_⟩
  · intro warehouse selected i
    have demands := plansDemand_of_ok selected built
    rw [ends, ← starts]
    by_cases none : demanded (requirements db.setup cart.tenantId (planLines cart)) i = 0
    · rw [none, add_zero]
      refine (effect _).1 fun listed => ?_
      obtain ⟨e, member, there⟩ := List.mem_map.mp listed
      have amount := (demands.entries e member).2
      rw [show e.ingredientId = i from congrArg Prod.snd there, none] at amount
      exact absurd (planned.available e member).1 (by rw [amount]; exact lt_irrefl _)
    · exact (effect _).2 _ (demands.covered i none) rfl
  · intro place other
    rw [ends, ← starts]
    refine (effect place).1 fun listed => ?_
    obtain ⟨e, member, there⟩ := List.mem_map.mp listed
    cases selected : selectWarehouse db.setup cart.tenantId cart.storeId with
    | none =>
      rw [plan_unmanaged selected built] at member
      cases member
    | some warehouse =>
      have home := ((plansDemand_of_ok selected built).entries e member).1
      exact other warehouse selected (there ▸ home)
  · intro warehouse selected i some_
    have demands := plansDemand_of_ok selected built
    exact demands.available _ (demands.covered i some_)

end

theorem shop_keys : StockKeys (stockState shop) := by
  constructor <;> decide

end Exetron.Inventory
