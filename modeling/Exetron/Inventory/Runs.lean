import Exetron.Inventory.Transactions
import Exetron.System

/-!
# Runs of the stock

The requests of the system and the calls of the inventory service, one after another, and what
each does to the stock.
-/

namespace Exetron.Inventory

open Lib Payments Tx Table Call

variable {env : Env} {context : RequestContext} {db' : Db}
  {result : ReceivingRecord × List ReceivingLine} {now : Instant}

inductive StockEvent where
  | request (r : Request)
  | inventory (now : Instant) (context : RequestContext) (call : Service.InventoryCall)

def stockStep (db : Db) : StockEvent → Db
  | .request r => step db r
  | .inventory now context call => Service.perform now context call db

abbrev stockRun : Db → List StockEvent → Db := Trace.run stockStep

/-- The order that a request completes. -/
def completedOrder (db : Db) (r : Request) : Option Order :=
  match r.call with
  | .transitionOrder orderId dto =>
    if dto.toStatus = .completed then
      match Orders.admitTransition r.context orderId dto db with
      | .ok order => some order
      | .error _ => none
    else none
  | _ => none

/-- What a request does to the stock. -/
inductive StockServed (db : Db) (r : Request) (db' : Db) : Prop
  | quiet (stock : db'.stock = db.stock) (grows : db.nextId ≤ db'.nextId)
  | reserved {tenantId orderId : Id} {plan : List InventoryReservationPlanEntry} {m m' : Db}
      {u : Unit} (planned : Planned plan (stockState db)) (stock : m.stock = db.stock)
      (grows : db.nextId ≤ m.nextId)
      (reserves : reserveOrderInventoryTx tenantId orderId plan m = .ok (u, m'))
      (after : stockState db' = stockState m')
  | released {order : Order} {m m' : Db} {n : Nat} (before : stockState m = stockState db)
      (releases : releaseOrderInventoryReservationsTx order.tenantId order.id m = .ok (n, m'))
      (after : stockState db' = stockState m')
  | consumed {order : Order} {m m' : Db} {n : Nat} (completes : completedOrder db r = some order)
      (before : stockState m = stockState db)
      (consumes : consumeOrderInventoryReservationsTx order.tenantId order.id m = .ok (n, m'))
      (after : stockState db' = stockState m')

theorem quiet_of_same (db : Db) (r : Request) : StockServed db r db :=
  StockServed.quiet rfl (le_refl _)

theorem transitionOrderTx_settles {orderId : Id} {dto : Orders.TransitionOrderDto} {db : Db}
    {result : Order} (h : Orders.transitionOrderTx env context orderId dto db = .ok (result, db')) :
    ∃ current m, Orders.admitTransition context orderId dto db = .ok current ∧
      stockState m = stockState db ∧ result.tenantId = current.tenantId ∧
      result.id = current.id ∧
      Orders.settleTransition env context result dto.toStatus m = .ok ((), db') := by
  obtain ⟨current, _, admitted', made, _⟩ := Orders.transitionOrderTx_ok h
  simp only [Orders.transitionOrderTx, bind_ok_iff, read_ok_iff, update_ok_iff, pure_ok_iff] at h
  obtain ⟨_, _, ⟨admitted, rfl⟩, _, _, ⟨_, _, rfl, rfl⟩, _, _, recorded, _, m, queued, _, _, settles,
    rfl, rfl⟩ := h
  obtain ⟨_, rfl⟩ := Orders.recordEverywhere_ok recorded
  obtain ⟨_, rfl⟩ := Orders.enqueueStorefrontCustomerUpdates_ok queued
  refine ⟨current, _, admitted', ?_, ?_, ?_, settles⟩
  · rfl
  · rw [made]
    rfl
  · rw [made]
    rfl

theorem confirmed_quiet {order : Order} {u : Unit} {db : Db}
    (h : Orders.settleTransition env context order .confirmed db = .ok (u, db')) :
    db'.stock = db.stock ∧ db.nextId ≤ db'.nextId := by
  simp only [Orders.settleTransition, bind_ok_iff] at h
  obtain ⟨_, _, recorded, created⟩ := h
  obtain ⟨_, rfl⟩ := Orders.recordEverywhere_ok recorded
  have opened := Orders.createKitchenTicketsForOrder_ok created
  exact ⟨by rw [opened.rest], opened.grows⟩

theorem confirmation_quiet (env : Env) (context : RequestContext) (orderId : Id) (db : Db) :
    (Call.exec (Orders.transitionOrder env context orderId { toStatus := .confirmed }) db).2.stock =
        db.stock ∧
      db.nextId ≤ (Call.exec (Orders.transitionOrder env context orderId
        { toStatus := .confirmed }) db).2.nextId := by
  refine transact_related
    (R := fun (db db' : Db) => db'.stock = db.stock ∧ db.nextId ≤ db'.nextId) ⟨rfl, le_refl _⟩ ?_
  intro _ db' h
  obtain ⟨_, m, _, same, _, _, settles⟩ := transitionOrderTx_settles h
  obtain ⟨stock, grows⟩ := confirmed_quiet settles
  exact ⟨stock.trans (congrArg StockState.tables same),
    le_trans (le_of_eq (congrArg StockState.nextId same).symm) grows⟩

theorem transitionOrder_stockServed {db : Db} {orderId : Id} {dto : Orders.TransitionOrderDto} :
    StockServed db ⟨env, context, .transitionOrder orderId dto⟩
      (step db ⟨env, context, .transitionOrder orderId dto⟩) := by
  refine transact_related (R := fun _ (db' : Db) => StockServed db _ db')
    (quiet_of_same db _) fun result db' h => ?_
  obtain ⟨current, m, admitted, same, tenant, key, settles⟩ := transitionOrderTx_settles h
  have stock : m.stock = db.stock := congrArg StockState.tables same
  have nextId : m.nextId = db.nextId := congrArg StockState.nextId same
  cases target : dto.toStatus with
  | confirmed =>
    rw [target] at settles
    obtain ⟨stock', grows⟩ := confirmed_quiet settles
    exact StockServed.quiet (stock'.trans stock) (nextId ▸ grows)
  | placed | inPreparation | ready =>
    rw [target] at settles
    obtain ⟨_, rfl⟩ := pure_ok_iff.mp settles
    exact StockServed.quiet stock (le_of_eq nextId.symm)
  | cancelled =>
    rw [target] at settles
    simp only [Orders.settleTransition, bind_ok_iff, Orders.cancelKitchenTicketsForOrder,
      updateMany_ok_iff] at settles
    obtain ⟨_, m', released, _, _, ⟨_, rfl⟩, _, _, noted, noted'⟩ := settles
    obtain ⟨_, rfl⟩ := Orders.noteIfAny_ok noted
    obtain ⟨_, rfl⟩ := Orders.noteIfAny_ok noted'
    exact StockServed.released same released rfl
  | completed =>
    rw [target] at settles
    simp only [Orders.settleTransition, bind_ok_iff] at settles
    obtain ⟨_, m', consumed, noted⟩ := settles
    obtain ⟨_, rfl⟩ := Orders.noteIfAny_ok noted
    rw [tenant, key] at consumed
    exact StockServed.consumed (by simp only [completedOrder, target, if_true, admitted]) same
      consumed rfl

theorem checkout_stockServed {db : Db} {cartId : Id} {dto : Orders.CheckoutCartDto} :
    StockServed db ⟨env, context, .checkout cartId dto⟩
      (step db ⟨env, context, .checkout cartId dto⟩) := by
  refine transact_related (R := fun _ (db' : Db) => StockServed db _ db')
    (quiet_of_same db _) fun order db' h => ?_
  simp only [Orders.checkoutTx, bind_ok_iff, read_ok_iff, freshId_ok_iff, freshIds_ok_iff,
    create_ok_iff, update_ok_iff, pure_ok_iff] at h
  obtain ⟨⟨cart, plan⟩, _, ⟨admitted, rfl⟩, _, _, ⟨rfl, rfl⟩, _, _, ⟨rfl, rfl⟩, _, _, ⟨_, rfl⟩,
    _, _, ⟨made, rfl⟩, _, m, reserved, _, _, ⟨_, _, _, rfl⟩, _, _, recorded, _, _, queued, rfl,
    rfl⟩ := h
  obtain ⟨_, rfl⟩ := Orders.recordEverywhere_ok recorded
  obtain ⟨_, rfl⟩ := Orders.enqueueStorefrontCustomerUpdates_ok queued
  simp only [Orders.admitCheckout, except_bind_ok_iff, except_pure_ok_iff] at admitted
  obtain ⟨_, _, _, _, _, _, _, _, plan', planned, same⟩ := admitted
  obtain ⟨rfl, rfl⟩ := Prod.mk.inj same
  refine StockServed.reserved (planned_of_ok planned) ?_ ?_ reserved rfl
  · rfl
  · show db.nextId ≤ db.nextId + 1 + _
    lia

/-- Every request does to the stock what its transactions do. -/
theorem step_stockServed {db : Db} (consistent : Consistent db.payments db.nextId) (r : Request) :
    StockServed db r (step db r) := by
  obtain ⟨env, context, call⟩ := r
  cases call with
  | createIntent dto =>
    refine transact_related (R := fun _ (db' : Db) => StockServed db _ db')
      (quiet_of_same db _) fun created db' h => ?_
    obtain ⟨a, logs, _, _, _, rfl⟩ := createIntentTx_ok h
    exact StockServed.quiet rfl (by show db.nextId ≤ db.nextId + 1 + _; lia)
  | processAllocation intentId allocationId providerKey =>
    cases h : processAllocationTx env context intentId allocationId providerKey db with
    | error e =>
      simp only [step, processAllocation_of_error h]
      exact quiet_of_same db _
    | ok answer =>
      obtain ⟨a, logs, _, same, _⟩ := processAllocationTx_ok consistent h
      have stock : answer.2.stock = db.stock := by rw [same]
      have grows : db.nextId ≤ answer.2.nextId := by
        rw [same]
        exact Nat.le_succ _
      rcases processAllocation_of_ok h with after | ⟨orderId, after⟩
      · simp only [step, after]
        exact StockServed.quiet stock grows
      · obtain ⟨stock', grows'⟩ := confirmation_quiet env context orderId answer.2
        simp only [step, after]
        exact StockServed.quiet (stock'.trans stock) (le_trans grows grows')
  | cancelIntent intentId =>
    refine transact_related (R := fun _ (db' : Db) => StockServed db _ db')
      (quiet_of_same db _) fun _ db' h => ?_
    obtain ⟨loaded, logs, _, rfl⟩ := cancelIntentTx_ok h
    exact StockServed.quiet rfl (le_refl _)
  | createOperation dto =>
    refine transact_related (R := fun _ (db' : Db) => StockServed db _ db')
      (quiet_of_same db _) fun _ db' h => ?_
    obtain ⟨a, logs, _, _, rfl⟩ := createOperationTx_ok consistent h
    exact StockServed.quiet rfl (Nat.le_succ _)
  | receiveWebhook providerKey dto =>
    cases h : receiveWebhookTx env providerKey dto db with
    | error e =>
      simp only [step, receiveWebhook_of_error h]
      exact quiet_of_same db _
    | ok answer =>
      have quiet : answer.2.stock = db.stock ∧ db.nextId ≤ answer.2.nextId := by
        obtain ⟨n, events, logs, grows, after⟩ := receiveWebhookTx_ok consistent h
        rw [after]
        cases acceptDelivery env providerKey dto db with
        | none => exact ⟨rfl, grows⟩
        | some meaning => exact ⟨rfl, Nat.le_succ _⟩
      rcases receiveWebhook_of_ok h with after | ⟨orderId, after⟩
      · simp only [step, after]
        exact StockServed.quiet quiet.1 quiet.2
      · obtain ⟨stock', grows'⟩ := confirmation_quiet env (buildWebhookContext dto) orderId answer.2
        simp only [step, after]
        exact StockServed.quiet (stock'.trans quiet.1) (le_trans quiet.2 grows')
  | checkout cartId dto => exact checkout_stockServed
  | transitionOrder orderId dto => exact transitionOrder_stockServed
  | transitionTicket ticketId dto =>
    refine transact_related (R := fun _ (db' : Db) => StockServed db _ db')
      (quiet_of_same db _) fun _ db' h => ?_
    obtain ⟨_, _, _, _, _, rfl⟩ := Kitchen.transitionTicketTx_ok h
    exact StockServed.quiet rfl (le_refl _)
  | elsewhere setup carts => exact StockServed.quiet rfl (le_refl _)

section
variable {C : StockState → StockMove → Prop} {db : Db}

/-- The moves of a request meet `C` when those of its transactions do: `I` and `J` are what the
loops that release and consume reservations need of what is left to settle. -/
theorem request_moved (neutral : Neutral C)
    (reserves : ∀ s item r amount, ReservesPlan s (.reserved item r amount) →
      C s (.reserved item r amount))
    {I J : List StockReservation → StockState → Prop}
    (releases : ∀ s item r rs, (StockMove.released item r).Fits s → I (r :: rs) s →
      C s (.released item r) ∧ I rs ((StockMove.released item r).apply s))
    (consumes : ∀ s item r entry rs, StockKeys s → (StockMove.consumed item r entry).Fits s →
      J (r :: rs) s →
      C s (.consumed item r entry) ∧ J rs ((StockMove.consumed item r entry).apply s))
    (consistent : Consistent db.payments db.nextId) (keys : StockKeys (stockState db)) (r : Request)
    (releasing : ∀ order : Order, I (db.stock.reservations.filter
      (isActiveFor order.tenantId order.id)) (stockState db))
    (consuming : ∀ order ∈ completedOrder db r, J (db.stock.reservations.filter
      (isActiveFor order.tenantId order.id)) (stockState db)) :
    Moved C (stockState db) (stockState (step db r)) := by
  cases step_stockServed consistent r with
  | quiet stock grows =>
    rw [stockState, stockState, stock]
    exact moved_keysGiven neutral grows
  | @reserved tenantId orderId plan m m' u planned stock grows tx after =>
    have same : stockState m = ⟨db.stock, m.nextId⟩ := by rw [stockState, stock]
    have keys' : StockKeys (stockState m) := by
      rw [same]
      exact keys.later grows
    have planned' : Planned plan (stockState m) := by
      rw [same]
      exact ⟨planned.places, planned.available⟩
    have plan_moved := reserveOrderInventoryTx_moved keys' planned' tx
    rw [after]
    refine Trace.path_trans (t := stockState m) ?_ (Trace.path_mono ?_ plan_moved)
    · rw [same]
      exact moved_keysGiven neutral grows
    · rintro s move ⟨fits, meets⟩
      refine ⟨fits, ?_⟩
      cases move with
      | keysGiven nextId => exact neutral.keysGiven s nextId
      | opened item => exact neutral.opened s item
      | reserved item r amount => exact reserves s item r amount meets
      | released item r => exact meets.elim
      | consumed item r entry => exact meets.elim
      | counted item entry => exact meets.elim
  | @released order m m' n before tx after =>
    have stock : m.stock = db.stock := congrArg StockState.tables before
    rw [after, ← before]
    refine releaseOrder_moved releases (before ▸ keys) ?_ tx
    rw [before, stock]
    exact releasing order
  | @consumed order m m' n completes before tx after =>
    have stock : m.stock = db.stock := congrArg StockState.tables before
    rw [after, ← before]
    refine consumeOrder_moved consumes (before ▸ keys) ?_ tx
    rw [before, stock]
    exact consuming order completes

end

/-- The moves that a call of the inventory service can make meet `C`. -/
def CallMeets (C : StockState → StockMove → Prop) (context : RequestContext) (db : Db) :
    Service.InventoryCall → Prop
  | .createAdjustment dto => ∀ s item entry, (Service.resolveTenantId context dto.tenantId).isOk →
      item.place = (dto.warehouseId, dto.ingredientId) →
      item.onHand = onHandAt db (dto.warehouseId, dto.ingredientId) →
      item.reserved = reservedAt db (dto.warehouseId, dto.ingredientId) →
      entry.quantity = Service.toDecimal (Service.adjustmentDelta dto item.onHand) →
      entry.balanceAfter =
        Service.toDecimal (item.onHand + Service.adjustmentDelta dto item.onHand) →
      C s (.counted item entry)
  | .createReceivingRecord _ => True
  | .completeReceivingRecord _ _ => ∀ s item entry (line : ReceivingLine),
      entry.quantity = line.quantity → entry.balanceAfter = item.onHand + line.quantity →
      C s (.counted item entry)
  | .createReservation dto => (Service.admitReservation context dto db).isOk →
      ∀ item ∈ db.stock.items, ∀ r, dto.quantity ≤ ((item.onHand - item.reserved : Quantity) : ℚ) →
      r.quantity = Service.toDecimal dto.quantity →
      C (stockState db) (.reserved item r (Service.toDecimal (item.reserved + dto.quantity)))
  | .releaseReservation _ => ∀ item ∈ db.stock.items, ∀ r ∈ db.stock.reservations,
      C (stockState db) (.released item r)
  | .consumeReservation reservationId => ∀ item ∈ db.stock.items, ∀ r ∈ db.stock.reservations,
      ∀ entry, Service.admitSettlement context reservationId db = .ok r → r.status = .active →
      item.place = r.place → C (stockState db) (.consumed item r entry)

theorem perform_moved {C : StockState → StockMove → Prop} (neutral : Neutral C) {db : Db}
    {call : Service.InventoryCall} (meets : CallMeets C context db call) :
    Moved C (stockState db) (stockState (Service.perform now context call db)) := by
  have idle : Moved C (stockState db) (stockState db) := Trace.path_refl _
  cases call with
  | createAdjustment dto =>
    exact transact_related (R := fun (a b : Db) => Moved C (stockState a) (stockState b)) idle
      fun _ _ => createAdjustmentTx_moved neutral meets
  | createReceivingRecord dto =>
    exact transact_related (R := fun (a b : Db) => Moved C (stockState a) (stockState b)) idle
      fun _ _ => createReceivingRecordTx_moved neutral
  | completeReceivingRecord id receivedBy =>
    exact transact_related (R := fun (a b : Db) => Moved C (stockState a) (stockState b)) idle
      fun _ _ => receiveTx_moved neutral meets
  | createReservation dto =>
    exact transact_related (R := fun (a b : Db) => Moved C (stockState a) (stockState b)) idle
      fun _ _ => createReservationTx_moved meets
  | releaseReservation reservationId =>
    exact transact_related (R := fun (a b : Db) => Moved C (stockState a) (stockState b)) idle
      fun _ _ => releaseReservationTx_moved meets
  | consumeReservation reservationId =>
    exact transact_related (R := fun (a b : Db) => Moved C (stockState a) (stockState b)) idle
      fun _ _ => consumeReservationTx_moved meets

theorem paymentsKept_trans {a b c : Db} (hab : PaymentsKept a b) (hbc : PaymentsKept b c) :
    PaymentsKept a c :=
  ⟨hbc.payments.trans hab.payments, le_trans hab.grows hbc.grows⟩

theorem getOrCreateItemTx_paymentsKept {tenantId w i : Id} {db : Db} {item : InventoryItem}
    (h : getOrCreateItemTx tenantId w i db = .ok (item, db')) : PaymentsKept db db' := by
  obtain ⟨rest, grows, _, _⟩ := getOrCreateItemTx_ok h
  exact ⟨by rw [rest], grows⟩

theorem applyStockDeltaTx_paymentsKept {input : Service.StockDelta} {db : Db} {u : Unit}
    (h : Service.applyStockDeltaTx input db = .ok (u, db')) : PaymentsKept db db' := by
  simp only [Service.applyStockDeltaTx, bind_ok_iff, freshId_ok_iff, create_ok_iff,
    update_ok_iff, pure_ok_iff] at h
  obtain ⟨_, m, got, _, _, ⟨_, _, _, rfl⟩, _, _, ⟨rfl, rfl⟩, _, _, ⟨_, rfl⟩, _, rfl⟩ := h
  exact paymentsKept_trans (getOrCreateItemTx_paymentsKept got) ⟨rfl, Nat.le_succ _⟩

theorem createAdjustmentTx_paymentsKept {dto : Service.CreateInventoryAdjustmentDto} {db : Db}
    {result : InventoryAdjustment}
    (h : Service.createAdjustmentTx context dto db = .ok (result, db')) : PaymentsKept db db' := by
  simp only [Service.createAdjustmentTx, bind_ok_iff, lift_ok_iff, freshId_ok_iff,
    create_ok_iff] at h
  obtain ⟨_, _, ⟨_, rfl⟩, _, m, got, _, _, ⟨rfl, rfl⟩, _, m', counted, _, _, ⟨rfl, rfl⟩, _,
    rfl⟩ := h
  refine paymentsKept_trans (getOrCreateItemTx_paymentsKept got) ?_
  refine paymentsKept_trans (b := { m with nextId := m.nextId + 1 }) ⟨rfl, Nat.le_succ _⟩ ?_
  exact paymentsKept_trans (applyStockDeltaTx_paymentsKept counted) ⟨rfl, Nat.le_succ _⟩

theorem createReceivingRecordTx_paymentsKept {dto : Service.CreateReceivingDto} {db : Db}
    (h : Service.createReceivingRecordTx context dto db = .ok (result, db')) :
    PaymentsKept db db' := by
  simp only [Service.createReceivingRecordTx, bind_ok_iff, lift_ok_iff, read_ok_iff,
    freshId_ok_iff, create_ok_iff] at h
  obtain ⟨_, _, ⟨_, rfl⟩, _, _, ⟨rfl, rfl⟩, _, _, ⟨rfl, rfl⟩, _, m, lines, _, rfl⟩ := h
  refine paymentsKept_trans ?_ (forM_related paymentsKept_refl
    (fun _ _ _ => paymentsKept_trans) ?_ lines)
  · exact ⟨rfl, Nat.le_succ _⟩
  intro line _ a b u step
  simp only [bind_ok_iff, freshId_ok_iff, create_ok_iff, pure_ok_iff] at step
  obtain ⟨_, _, ⟨rfl, rfl⟩, _, _, ⟨_, rfl⟩, _, rfl⟩ := step
  exact ⟨rfl, Nat.le_succ _⟩

theorem completeReceivingRecordTx_paymentsKept {id : Id} {receivedBy : Option String} {db : Db}
    (h : Service.completeReceivingRecordTx now id receivedBy db = .ok (result, db')) :
    PaymentsKept db db' := by
  simp only [Service.completeReceivingRecordTx, bind_ok_iff, read_ok_iff] at h
  obtain ⟨⟨record, lines⟩, _, ⟨_, rfl⟩, h⟩ := h
  split at h
  · obtain ⟨_, rfl⟩ := pure_ok_iff.mp h
    exact paymentsKept_refl _
  · simp only [bind_ok_iff, read_ok_iff, update_ok_iff] at h
    obtain ⟨_, m, loop, _, _, ⟨_, _, _, rfl⟩, _, rfl⟩ := h
    have kept : PaymentsKept db m := forM_related paymentsKept_refl
      (fun _ _ _ => paymentsKept_trans) (fun _ _ _ _ _ => applyStockDeltaTx_paymentsKept) loop
    exact paymentsKept_trans kept ⟨rfl, le_refl _⟩

theorem receiveTx_paymentsKept {id : Id} {receivedBy : Option String} {db : Db}
    (h : Service.receiveTx now context id receivedBy db = .ok (result, db')) :
    PaymentsKept db db' := by
  simp only [Service.receiveTx, bind_ok_iff, read_ok_iff, lift_ok_iff] at h
  obtain ⟨_, _, ⟨_, rfl⟩, _, _, ⟨_, rfl⟩, completed⟩ := h
  exact completeReceivingRecordTx_paymentsKept completed

theorem createReservationTx_paymentsKept {dto : Service.CreateStockReservationDto} {db : Db}
    {result : StockReservation}
    (h : Service.createReservationTx context dto db = .ok (result, db')) : PaymentsKept db db' := by
  simp only [Service.createReservationTx, bind_ok_iff, read_ok_iff, freshId_ok_iff,
    create_ok_iff, update_ok_iff, pure_ok_iff] at h
  obtain ⟨_, _, ⟨_, rfl⟩, _, _, ⟨rfl, rfl⟩, _, _, ⟨rfl, rfl⟩, _, _, ⟨_, _, _, rfl⟩, _, rfl⟩ := h
  exact ⟨rfl, Nat.le_succ _⟩

theorem releaseReservationTx_paymentsKept {reservationId : Id} {db : Db} {result : StockReservation}
    (h : Service.releaseReservationTx context reservationId db = .ok (result, db')) :
    PaymentsKept db db' := by
  simp only [Service.releaseReservationTx, bind_ok_iff, read_ok_iff] at h
  obtain ⟨_, _, ⟨_, rfl⟩, h⟩ := h
  split at h
  · obtain ⟨_, rfl⟩ := pure_ok_iff.mp h
    exact paymentsKept_refl _
  · simp only [bind_ok_iff, read_ok_iff, update_ok_iff] at h
    obtain ⟨_, _, ⟨_, rfl⟩, _, _, ⟨_, _, _, rfl⟩, _, _, ⟨_, _, _, rfl⟩, _, rfl⟩ := h
    exact ⟨rfl, le_refl _⟩

theorem consumeReservationTx_paymentsKept {reservationId : Id} {db : Db} {result : StockReservation}
    (h : Service.consumeReservationTx context reservationId db = .ok (result, db')) :
    PaymentsKept db db' := by
  simp only [Service.consumeReservationTx, bind_ok_iff, read_ok_iff] at h
  obtain ⟨_, _, ⟨_, rfl⟩, h⟩ := h
  split at h
  · obtain ⟨_, rfl⟩ := pure_ok_iff.mp h
    exact paymentsKept_refl _
  · simp only [bind_ok_iff, read_ok_iff, update_ok_iff, freshId_ok_iff, create_ok_iff] at h
    obtain ⟨_, _, ⟨_, rfl⟩, _, _, ⟨_, _, _, rfl⟩, _, _, ⟨_, _, _, rfl⟩, _, _, ⟨rfl, rfl⟩, _, _,
      ⟨_, rfl⟩, _, rfl⟩ := h
    exact ⟨rfl, Nat.le_succ _⟩

theorem perform_paymentsKept (now : Instant) (context : RequestContext)
    (call : Service.InventoryCall) (db : Db) :
    PaymentsKept db (Service.perform now context call db) := by
  cases call with
  | createAdjustment dto =>
    exact transact_related (paymentsKept_refl db) fun _ _ => createAdjustmentTx_paymentsKept
  | createReceivingRecord dto =>
    exact transact_related (paymentsKept_refl db) fun _ _ =>
      createReceivingRecordTx_paymentsKept
  | completeReceivingRecord id receivedBy =>
    exact transact_related (paymentsKept_refl db) fun _ _ => receiveTx_paymentsKept
  | createReservation dto =>
    exact transact_related (paymentsKept_refl db) fun _ _ => createReservationTx_paymentsKept
  | releaseReservation reservationId =>
    exact transact_related (paymentsKept_refl db) fun _ _ => releaseReservationTx_paymentsKept
  | consumeReservation reservationId =>
    exact transact_related (paymentsKept_refl db) fun _ _ => consumeReservationTx_paymentsKept

theorem stockStep_consistent {db : Db} (consistent : Consistent db.payments db.nextId)
    (e : StockEvent) : Consistent (stockStep db e).payments (stockStep db e).nextId := by
  cases e with
  | request r => exact step_consistent consistent r
  | inventory now context call =>
    have kept := perform_paymentsKept now context call db
    rw [stockStep, kept.payments]
    exact consistent.mono kept.grows

/-- A database whose keys are in order. -/
structure StockStart (db : Db) : Prop where
  consistent : Consistent db.payments db.nextId
  keys : StockKeys (stockState db)

theorem stockStep_start {db : Db} (start : StockStart db) (e : StockEvent) :
    StockStart (stockStep db e) := by
  have neutral : Neutral fun _ _ => True := ⟨fun _ _ => trivial, fun _ _ => trivial⟩
  have moved : Moved (fun _ _ => True) (stockState db) (stockState (stockStep db e)) := by
    cases e with
    | request r =>
      exact request_moved neutral (fun _ _ _ _ _ => trivial) (I := fun _ _ => True)
        (J := fun _ _ => True) (fun _ _ _ _ _ _ => ⟨trivial, trivial⟩)
        (fun _ _ _ _ _ _ _ _ => ⟨trivial, trivial⟩) start.consistent start.keys r
        (fun _ => trivial) (fun _ _ => trivial)
    | inventory now context call =>
      refine perform_moved neutral ?_
      cases call <;> simp [CallMeets]
  have keeps : ∀ (s : StockState) (m : StockMove), StockKeys s → m.Fits s → True → True → True :=
    fun _ _ _ _ _ _ => trivial
  exact ⟨stockStep_consistent start.consistent e, (moved_invariant keeps moved start.keys trivial).1⟩

theorem stock_run_invariant {D : Db → StockEvent → Prop} {P : StockState → Prop} {db : Db}
    {es : List StockEvent}
    (keeps : ∀ db e, StockStart db → P (stockState db) → D db e → P (stockState (stockStep db e)))
    (start : StockStart db) (holds : P (stockState db)) (along : Trace.Along stockStep D db es) :
    P (stockState (stockRun db es)) := by
  have both : ∀ (db : Db) (e : StockEvent), StockStart db ∧ P (stockState db) → D db e →
      StockStart (stockStep db e) ∧ P (stockState (stockStep db e)) :=
    fun db e inv meets => ⟨stockStep_start inv.1 e, keeps db e inv.1 inv.2 meets⟩
  exact (Trace.run_invariant both ⟨start, holds⟩ along).2

/-- What the moves that meet `C` keep of the stock holds after every run whose events, each in the
state it finds, make such moves. -/
theorem stock_invariant {C : StockState → StockMove → Prop} {D : Db → StockEvent → Prop}
    {P : StockState → Prop} {db : Db} {es : List StockEvent}
    (keeps : ∀ s m, StockKeys s → m.Fits s → C s m → P s → P (m.apply s))
    (moves : ∀ db e, StockStart db → D db e →
      Moved C (stockState db) (stockState (stockStep db e)))
    (start : StockStart db) (holds : P (stockState db)) (along : Trace.Along stockStep D db es) :
    P (stockState (stockRun db es)) := by
  have step_keeps : ∀ (db : Db) (e : StockEvent), StockStart db → P (stockState db) → D db e →
      P (stockState (stockStep db e)) :=
    fun db e start holds meets => (moved_invariant keeps (moves db e start meets) start.keys holds).2
  exact stock_run_invariant step_keeps start holds along

theorem shop_stockStart : StockStart shop :=
  ⟨initial_consistent shop_initial, by
    constructor <;> decide⟩

end Exetron.Inventory
