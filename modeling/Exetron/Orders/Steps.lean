import Exetron.Inventory.Steps
import Exetron.Orders.Service

/-!
# Transactions of the orders service

What `checkout` and `transitionOrder` do to the database when they succeed.
-/

namespace Exetron.Orders

open Lib Inventory List Tx

variable {u : Unit} {db db' : Db} {context : RequestContext} {order : Order} {orderId : Id}
  {env : Env}

theorem recordOrderEvent_ok {event : OrderEvent} (h : recordOrderEvent event db = .ok (u, db')) :
    ∃ logs, db' = { db with logs := logs } :=
  ⟨_, log_ok_iff.mp h⟩

theorem recordEverywhere_ok {name entityType : String} {entityId : Id}
    (h : recordEverywhere context order name entityType entityId db = .ok (u, db')) :
    ∃ logs, db' = { db with logs := logs } := by
  simp only [recordEverywhere, bind_ok_iff] at h
  obtain ⟨_, _, first, _, _, second, third⟩ := h
  rw [log_ok_iff.mp third, log_ok_iff.mp second, log_ok_iff.mp first]
  exact ⟨_, rfl⟩

theorem enqueueStorefrontCustomerUpdates_ok {templateKey : Option String}
    (h : enqueueStorefrontCustomerUpdates order templateKey db = .ok (u, db')) :
    ∃ logs, db' = { db with logs := logs } := by
  unfold enqueueStorefrontCustomerUpdates at h
  split at h
  · obtain ⟨_, _, first, h⟩ := bind_ok h
    obtain ⟨_, _, second, h⟩ := bind_ok h
    have both := log_ok_iff.mp second
    rw [log_ok_iff.mp first] at both
    split at h
    · obtain ⟨_, _, third, fourth⟩ := bind_ok h
      rw [log_ok_iff.mp fourth, log_ok_iff.mp third, both]
      exact ⟨_, rfl⟩
    · rw [← (pure_ok_iff.mp h).2, both]
      exact ⟨_, rfl⟩
  · rw [← (pure_ok_iff.mp h).2]
    exact ⟨_, rfl⟩

def TicketKeys (db : Db) : Prop :=
  (db.kitchenTickets.map KitchenTicket.id).Nodup ∧
    ∀ k ∈ db.kitchenTickets.map KitchenTicket.id, k < db.nextId

theorem ticketKeys_of_same
    (same : db'.kitchenTickets.map KitchenTicket.id = db.kitchenTickets.map KitchenTicket.id)
    (grows : db.nextId ≤ db'.nextId) (keys : TicketKeys db) : TicketKeys db' := by
  unfold TicketKeys
  rw [same]
  exact ⟨keys.1, fun k listed => lt_of_lt_of_le (keys.2 k listed) grows⟩

/-- A change of the store that only opens new tickets of an order. -/
structure TicketsOpened (orderId : Id) (db db' : Db) : Prop where
  rest : db' = { db with
    nextId := db'.nextId
    kitchenTickets := db'.kitchenTickets
    logs := db'.logs }
  grows : db.nextId ≤ db'.nextId
  keys : TicketKeys db → TicketKeys db'
  tickets : ∃ new, db'.kitchenTickets = db.kitchenTickets ++ new ∧
    ∀ t ∈ new, t.orderId = orderId ∧ t.status = .new

theorem ticketsOpened_refl (orderId : Id) (db : Db) : TicketsOpened orderId db db where
  rest := rfl
  grows := le_refl _
  keys := id
  tickets := ⟨[], (append_nil _).symm, fun _ member => absurd member not_mem_nil⟩

theorem ticketsOpened_trans (orderId : Id) (a b c : Db) (hab : TicketsOpened orderId a b)
    (hbc : TicketsOpened orderId b c) : TicketsOpened orderId a c where
  rest := by rw [hbc.rest, hab.rest]
  grows := le_trans hab.grows hbc.grows
  keys before := hbc.keys (hab.keys before)
  tickets := by
    obtain ⟨first, eq₁, all₁⟩ := hab.tickets
    obtain ⟨second, eq₂, all₂⟩ := hbc.tickets
    refine ⟨first ++ second, by rw [eq₂, eq₁, append_assoc], fun t member => ?_⟩
    rcases mem_append.mp member with member | member
    · exact all₁ t member
    · exact all₂ t member

theorem createKitchenTicket_ok {stationKey : String} {items : List LineItem}
    (h : createKitchenTicket context order stationKey items db = .ok (u, db')) :
    TicketsOpened order.id db db' := by
  simp only [createKitchenTicket, bind_ok_iff, freshId_ok_iff, Table.create_ok_iff] at h
  obtain ⟨_, _, ⟨rfl, rfl⟩, ticket, _, ⟨made, rfl⟩, recorded⟩ := h
  obtain ⟨logs, rfl⟩ := recordEverywhere_ok recorded
  rw [← made]
  have key : ticket.id = db.nextId := by rw [made]
  refine ⟨rfl, Nat.le_succ _, fun keys => ?_, [ticket], rfl, fun t member => ?_⟩
  · show (map KitchenTicket.id (db.kitchenTickets ++ [ticket])).Nodup ∧
      ∀ k ∈ map KitchenTicket.id (db.kitchenTickets ++ [ticket]), k < db.nextId + 1
    rw [map_append, map_singleton, key]
    refine ⟨nodup_append'.mpr ⟨keys.1, nodup_singleton _, fun k before new => ?_⟩,
      fun k listed => ?_⟩
    · rw [mem_singleton.mp new] at before
      exact lt_irrefl _ (keys.2 _ before)
    · rcases mem_append.mp listed with before | new
      · exact Nat.lt_succ_of_lt (keys.2 k before)
      · rw [mem_singleton.mp new]
        exact Nat.lt_succ_self _
  · rw [mem_singleton.mp member, made]
    exact ⟨rfl, rfl⟩

theorem createKitchenTicketsForOrder_ok
    (h : createKitchenTicketsForOrder context order db = .ok (u, db')) :
    TicketsOpened order.id db db' := by
  simp only [createKitchenTicketsForOrder, bind_ok_iff, read_ok_iff] at h
  obtain ⟨existing, _, ⟨_, rfl⟩, h⟩ := h
  split at h
  · rw [← (pure_ok_iff.mp h).2]
    exact ticketsOpened_refl _ _
  · simp only [bind_ok_iff, read_ok_iff] at h
    obtain ⟨groups, _, ⟨_, rfl⟩, loop⟩ := h
    refine forM_related (ticketsOpened_refl order.id) (ticketsOpened_trans order.id) ?_ loop
    rintro ⟨stationKey, items⟩ _ _ _ _ step
    cases stationKey with
    | text stationKey => exact createKitchenTicket_ok step
    | inherited name => cases (lift_ok_iff.mp step).1

theorem findOrder_ok_iff : findOrder context orderId db = .ok order ↔
      orders.findUnique orderId db = some order ∧
        authorize context order.tenantId order.storeId = .ok () := by
  simp only [findOrder, except_bind_ok_iff, except_pure_ok_iff, Table.findUniqueOrThrow_ok_iff]
  constructor
  · rintro ⟨_, found, _, authorized, rfl⟩
    exact ⟨found, authorized⟩
  · rintro ⟨found, authorized⟩
    exact ⟨order, found, (), authorized, rfl⟩

theorem admitTransition_ok {dto : TransitionOrderDto} {current : Order}
    (h : admitTransition context orderId dto db = .ok current) :
    orders.findUnique orderId db = some current ∧
      canTransitionOrder current.status dto.toStatus = true := by
  simp only [admitTransition, except_bind_ok_iff, except_pure_ok_iff, rejectIf_ok_iff,
    Table.findUniqueOrThrow_ok_iff, Bool.not_eq_false] at h
  obtain ⟨_, found, _, _, _, allowed, rfl⟩ := h
  exact ⟨found, allowed⟩

def TicketsAfter (toStatus : OrderStatus) (orderId : Id) (before after : List KitchenTicket) :
    Prop :=
  match toStatus with
  | .confirmed => ∃ new, after = before ++ new ∧ ∀ t ∈ new, t.orderId = orderId ∧ t.status = .new
  | .cancelled => ∃ now, after = Rows.updateWhere (isOpenTicketOf orderId) (cancelTicket now) before
  | _ => after = before

/-- What a new status sets in motion. -/
structure TransitionSettled (order : Order) (toStatus : OrderStatus) (db db' : Db) : Prop where
  rest : db' = { db with
    nextId := db'.nextId
    kitchenTickets := db'.kitchenTickets
    stock := db'.stock
    logs := db'.logs }
  grows : db.nextId ≤ db'.nextId
  ticketKeys : TicketKeys db → TicketKeys db'
  tickets : TicketsAfter toStatus order.id db.kitchenTickets db'.kitchenTickets
  items : itemKeys db' = itemKeys db
  reservations : List.Forall₂ SettledFrom db.stock.reservations db'.stock.reservations
  /-- The end of an order settles its stock. -/
  finished : toStatus = .completed ∨ toStatus = .cancelled →
    (∀ r ∈ db.stock.reservations, isActiveFor order.tenantId order.id r →
      (r.warehouseId, r.ingredientId) ∈ itemKeys db) →
    ∀ r ∈ db'.stock.reservations, isActiveFor order.tenantId order.id r = false

theorem noteIfAny_ok {count : Nat} {type : String}
    (h : noteIfAny count order type db = .ok (u, db')) :
    ∃ logs, db' = { db with logs := logs } := by
  unfold noteIfAny at h
  split at h
  · exact recordOrderEvent_ok h
  · rw [← (pure_ok_iff.mp h).2]
    exact ⟨_, rfl⟩

theorem transitionSettled_refl (order : Order) {toStatus : OrderStatus} (db : Db)
    (inert : toStatus ≠ .confirmed ∧ toStatus ≠ .cancelled ∧ toStatus ≠ .completed) :
    TransitionSettled order toStatus db db where
  rest := rfl
  grows := le_refl _
  ticketKeys := id
  tickets := by
    obtain ⟨notConfirmed, notCancelled, notCompleted⟩ := inert
    cases toStatus with
    | confirmed => exact absurd rfl notConfirmed
    | cancelled => exact absurd rfl notCancelled
    | completed => exact absurd rfl notCompleted
    | placed | inPreparation | ready => rfl
  items := rfl
  reservations := (stockSettled_refl db).reservations
  finished ended := by
    rcases ended with ended | ended
    · exact absurd ended inert.2.2
    · exact absurd ended inert.2.1

theorem settleTransition_confirmed
    (h : settleTransition env context order .confirmed db = .ok (u, db')) :
    TransitionSettled order .confirmed db db' := by
  simp only [settleTransition, bind_ok_iff] at h
  obtain ⟨_, _, recorded, created⟩ := h
  obtain ⟨logs, rfl⟩ := recordEverywhere_ok recorded
  have opened := createKitchenTicketsForOrder_ok created
  have stock : db'.stock = db.stock := by rw [opened.rest]
  exact
    { rest := by rw [opened.rest]
      grows := opened.grows
      ticketKeys := opened.keys
      tickets := opened.tickets
      items := by rw [itemKeys, itemKeys, stock]
      reservations := by
        rw [stock]
        exact (stockSettled_refl db).reservations
      finished := fun ended => by simp at ended }

theorem settleTransition_cancelled
    (h : settleTransition env context order .cancelled db = .ok (u, db')) :
    TransitionSettled order .cancelled db db' := by
  simp only [settleTransition, bind_ok_iff, cancelKitchenTicketsForOrder,
    Table.updateMany_ok_iff] at h
  obtain ⟨_, m, released, _, _, ⟨_, rfl⟩, _, _, noted, noted'⟩ := h
  obtain ⟨logs, rfl⟩ := noteIfAny_ok noted
  obtain ⟨logs', rfl⟩ := noteIfAny_ok noted'
  obtain ⟨settled, none_active⟩ := releaseOrderInventoryReservationsTx_ok released
  have tickets : m.kitchenTickets = db.kitchenTickets := by rw [settled.rest]
  have keeps : ∀ t, (cancelTicket env.now t).id = t.id := fun _ => rfl
  exact
    { rest := by
        rw [settled.rest]
        rfl
      grows := settled.grows
      ticketKeys := ticketKeys_of_same
        ((Rows.map_updateWhere keeps m.kitchenTickets).trans (congrArg _ tickets)) settled.grows
      tickets := ⟨env.now, by rw [← tickets]; rfl⟩
      items := settled.items
      reservations := settled.reservations
      finished := fun _ present => none_active present }

theorem settleTransition_completed
    (h : settleTransition env context order .completed db = .ok (u, db')) :
    TransitionSettled order .completed db db' := by
  simp only [settleTransition, bind_ok_iff] at h
  obtain ⟨_, m, consumed, noted⟩ := h
  obtain ⟨logs, rfl⟩ := noteIfAny_ok noted
  obtain ⟨settled, none_active⟩ := consumeOrderInventoryReservationsTx_ok consumed
  have tickets : m.kitchenTickets = db.kitchenTickets := by rw [settled.rest]
  exact
    { rest := by rw [settled.rest]
      grows := settled.grows
      ticketKeys := ticketKeys_of_same (congrArg _ tickets) settled.grows
      tickets := tickets
      items := settled.items
      reservations := settled.reservations
      finished := fun _ present => none_active present }

theorem settleTransition_ok {toStatus : OrderStatus}
    (h : settleTransition env context order toStatus db = .ok (u, db')) :
    TransitionSettled order toStatus db db' := by
  cases toStatus with
  | confirmed => exact settleTransition_confirmed h
  | cancelled => exact settleTransition_cancelled h
  | completed => exact settleTransition_completed h
  | placed | inPreparation | ready =>
    rw [← (pure_ok_iff.mp h).2]
    exact transitionSettled_refl order db (by decide)

/-- A successful transition moves the order along an edge of the lifecycle and settles what the
new status sets in motion. -/
theorem transitionOrderTx_ok {dto : TransitionOrderDto} {result : Order}
    (h : transitionOrderTx env context orderId dto db = .ok (result, db')) :
    ∃ current logs, admitTransition context orderId dto db = .ok current ∧
      result = applyTransition env.now dto current ∧
      TransitionSettled current dto.toStatus
        { db with
          orders := Rows.modify Order.id current.id (applyTransition env.now dto) db.orders
          logs := logs } db' := by
  simp only [transitionOrderTx, bind_ok_iff, read_ok_iff, Table.update_ok_iff, pure_ok_iff] at h
  obtain ⟨current, _, ⟨admitted, rfl⟩, _, _, ⟨row, found, rfl, rfl⟩, _, _, recorded, _, _, queued,
    _, _, settled, rfl, rfl⟩ := h
  obtain ⟨_, rfl⟩ := recordEverywhere_ok recorded
  obtain ⟨logs, rfl⟩ := enqueueStorefrontCustomerUpdates_ok queued
  obtain ⟨located, _⟩ := admitTransition_ok admitted
  obtain ⟨_, same⟩ := Table.findUnique_mem located
  have rowIs : row = current := by
    have located' : orders.findUnique current.id db = some current := by
      rw [show current.id = orderId from same]
      exact located
    exact Option.some.inj (found.symm.trans located')
  subst rowIs
  have moved := settleTransition_ok settled
  refine ⟨row, logs, admitted, rfl, ?_⟩
  exact
    { rest := moved.rest
      grows := moved.grows
      ticketKeys := moved.ticketKeys
      tickets := moved.tickets
      items := moved.items
      reservations := moved.reservations
      finished := moved.finished }

theorem transitionOrderTx_found {dto : TransitionOrderDto} {result : Order}
    (h : transitionOrderTx env context orderId dto db = .ok (result, db')) :
    ∃ current, findOrder context orderId db = .ok current ∧
      canTransitionOrder current.status dto.toStatus = true ∧
      result = applyTransition env.now dto current ∧
      findOrder context orderId db' = .ok result := by
  obtain ⟨current, logs, admitted, made, moved⟩ := transitionOrderTx_ok h
  obtain ⟨located, allowed⟩ := admitTransition_ok admitted
  have authorized : authorize context current.tenantId current.storeId = .ok () := by
    simp only [admitTransition, except_bind_ok_iff, except_pure_ok_iff] at admitted
    obtain ⟨_, _, _, authorized, _, _, rfl⟩ := admitted
    exact authorized
  have same : current.id = orderId := (Table.findUnique_mem located).2
  have keeps : ∀ row, (applyTransition env.now dto row).id = row.id := fun _ => rfl
  refine ⟨current, findOrder_ok_iff.mpr ⟨located, authorized⟩, allowed, made,
    findOrder_ok_iff.mpr ⟨?_, ?_⟩⟩
  · show Rows.find Order.id db'.orders orderId = _
    rw [moved.rest]
    show Rows.find Order.id (Rows.modify Order.id current.id _ db.orders) orderId = _
    rw [Rows.find_modify keeps, if_pos same.symm, made]
    exact congrArg (Option.map (applyTransition env.now dto)) located
  · rw [made]
    exact authorized

def converted (order : Order) (row : Cart) : Cart :=
  { row with
    status := .converted
    customerProfileId := order.customerProfileId
    customerName := order.customerName
    customerPhone := order.customerPhone
    note := order.note
    fulfillmentStatus := order.fulfillmentStatus }

/-- What a checkout does to the store. -/
structure CheckedOut (order : Order) (db db' : Db) : Prop where
  rest : db' = { db with
    nextId := db'.nextId
    carts := db'.carts
    orders := db.orders ++ [order]
    stock := db'.stock
    logs := db'.logs }
  grows : db.nextId < db'.nextId
  carts : ∀ cartId ∈ order.cartId,
    db'.carts = Rows.modify Cart.id cartId (converted order) db.carts
  first : ∀ other ∈ db.orders, ∀ cartId ∈ order.cartId, other.cartId ≠ some cartId
  items : ∀ k ∈ itemKeys db, k ∈ itemKeys db'
  reservations : ∃ new, db'.stock.reservations = db.stock.reservations ++ new ∧
    ∀ r ∈ new, r.tenantId = order.tenantId ∧ r.sourceType = "order" ∧ r.sourceId = order.id ∧
      (r.warehouseId, r.ingredientId) ∈ itemKeys db'

theorem checkoutTx_ok {cartId : Id} {dto : CheckoutCartDto}
    (h : checkoutTx env context cartId dto db = .ok (order, db')) :
    ∃ cart plan, admitCheckout context cartId db = .ok (cart, plan) ∧
      order = orderOfCart env db.nextId (List.range' (db.nextId + 1) cart.items.length) cart dto ∧
      CheckedOut order db db' := by
  simp only [checkoutTx, bind_ok_iff, read_ok_iff, freshId_ok_iff, freshIds_ok_iff,
    Table.create_ok_iff, Table.update_ok_iff, pure_ok_iff] at h
  obtain ⟨⟨cart, plan⟩, _, ⟨admitted, rfl⟩, _, _, ⟨rfl, rfl⟩, _, _, ⟨rfl, rfl⟩, _, _,
    ⟨unordered, rfl⟩, placed, _, ⟨made, rfl⟩, _, m, reserved, _, _, ⟨_, _, _, rfl⟩, _, _, recorded, _, _, queued, rfl,
    rfl⟩ := h
  obtain ⟨_, rfl⟩ := recordEverywhere_ok recorded
  obtain ⟨logs, rfl⟩ := enqueueStorefrontCustomerUpdates_ok queued
  have stock := reserveOrderInventoryTx_ok reserved
  have linked : placed.cartId = some cart.id := by rw [made]; rfl
  refine ⟨cart, plan, admitted, made, ?_⟩
  exact
    { rest := by
        rw [stock.rest, made]
        rfl
      grows := lt_of_lt_of_le (by show db.nextId < db.nextId + 1 + _; lia) stock.grows
      carts := by
        intro cartId same
        rw [linked] at same
        obtain rfl := Option.some.inj same
        show Rows.modify Cart.id cart.id _ m.carts = _
        rw [stock.rest]
        rfl
      first := by
        intro other stored cartId same taken
        rw [linked] at same
        obtain rfl := Option.some.inj same
        exact rejectIf_ok_iff.mp unordered
          (any_eq_true.mpr ⟨other, stored, decide_eq_true (Or.inl taken)⟩)
      items := stock.items
      reservations := stock.reservations }

end Exetron.Orders
