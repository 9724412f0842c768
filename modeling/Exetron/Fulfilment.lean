import Exetron.System

/-!
# Orders, kitchen and stock

What a request does to the orders, to their tickets and to their stock: the side of `step` that
the life of an order is about.
-/

namespace Exetron

open Lib Payments

variable {dto : Orders.TransitionOrderDto} {db db' : Db} {now : Instant} {ticket : KitchenTicket}
  {order current o o' : Order} {toStatus : KitchenTicketStatus} {r : Request} {env : Env}

/-- An occasion to write the refund flag of an order. -/
inductive RefundEvent where
  | cancellation (hasExternalPayment : Option Bool)
  | operation (outcome : ExecutionOutcome)
  | delivery (outcome : WebhookOutcome)

def RefundEvent.flag : RefundEvent → RefundStatus
  | .cancellation hasExternalPayment => Orders.resolveRefundStatusOnCancel hasExternalPayment
  | .operation outcome => flagAfterOperation outcome
  | .delivery outcome => flagAfterDelivery outcome

/-- The order whose refund flag a request writes, and why: a cancellation, a refund or a void,
or a delivery for one, when it is committed. -/
def refundEvent (db : Db) (r : Request) : Option (Id × RefundEvent) :=
  match r.call with
  | .transitionOrder orderId dto =>
    match Orders.transitionOrderTx r.env r.context orderId dto db with
    | .ok (order, _) =>
      if dto.toStatus = .cancelled then some (order.id, .cancellation dto.hasExternalPayment)
      else none
    | .error _ => none
  | .createOperation dto =>
    match createOperationTx r.env r.context dto db with
    | .ok _ =>
      match admitOperation r.env r.context dto db with
      | .ok a => some (a.loaded.intent.orderId, .operation a.execution.status)
      | .error _ => none
    | .error _ => none
  | .receiveWebhook providerKey dto =>
    match receiveWebhookTx r.env providerKey dto db with
    | .ok _ =>
      match acceptDelivery r.env providerKey dto db with
      | some (webhook, .operation operation) =>
        some (operation.orderId, .delivery webhook.outcome)
      | _ => none
    | .error _ => none
  | _ => none

def flagWith (event : Option (Id × RefundEvent)) (rows : List Order) : List Order :=
  match event with
  | none => rows
  | some (orderId, event) => flagOrder orderId event.flag rows

/-- Tickets and stock stay as they are, and the orders but for a refund flag. -/
structure Quiet (event : Option (Id × RefundEvent)) (db db' : Db) : Prop where
  orders : db'.orders = flagWith event db.orders
  tickets : db'.kitchenTickets = db.kitchenTickets
  stock : db'.stock = db.stock
  grows : db.nextId ≤ db'.nextId

theorem quiet_refl (db : Db) : Quiet none db db := ⟨rfl, rfl, rfl, le_refl _⟩

/-- An order moves along an edge of the lifecycle. -/
structure OrderMoved (now : Instant) (current : Order) (dto : Orders.TransitionOrderDto)
    (db db' : Db) : Prop where
  stored : current ∈ db.orders
  allowed : Orders.canTransitionOrder current.status dto.toStatus = true
  orders : db'.orders =
    Rows.modify Order.id current.id (Orders.applyTransition now dto) db.orders
  grows : db.nextId ≤ db'.nextId
  ticketKeys : Orders.TicketKeys db → Orders.TicketKeys db'
  tickets : Orders.TicketsAfter dto.toStatus current.id db.kitchenTickets db'.kitchenTickets
  items : Inventory.itemKeys db' = Inventory.itemKeys db
  reservations :
    List.Forall₂ Inventory.SettledFrom db.stock.reservations db'.stock.reservations
  finished : dto.toStatus = .completed ∨ dto.toStatus = .cancelled →
    (∀ r ∈ db.stock.reservations, Inventory.isActiveFor current.tenantId current.id r →
      (r.warehouseId, r.ingredientId) ∈ Inventory.itemKeys db) →
    ∀ r ∈ db'.stock.reservations,
      Inventory.isActiveFor current.tenantId current.id r = false

theorem orderMoved_of_ok {context : RequestContext} {orderId : Id} {result : Order}
    (h : Orders.transitionOrderTx env context orderId dto db = .ok (result, db')) :
    ∃ current, result.id = current.id ∧ OrderMoved env.now current dto db db' := by
  obtain ⟨current, logs, admitted, same, moved⟩ := Orders.transitionOrderTx_ok h
  obtain ⟨located, allowed⟩ := Orders.admitTransition_ok admitted
  refine ⟨current, by rw [same]; rfl, ?_⟩
  exact
    { stored := (Table.findUnique_mem located).1
      allowed := allowed
      orders := by rw [moved.rest]
      grows := moved.grows
      ticketKeys := moved.ticketKeys
      tickets := moved.tickets
      items := moved.items
      reservations := moved.reservations
      finished := moved.finished }

/-- A ticket moves along an edge of its own, and its order follows. -/
structure TicketMoved (now : Instant) (ticket : KitchenTicket) (order : Order)
    (toStatus : KitchenTicketStatus) (db db' : Db) : Prop where
  stored : ticket ∈ db.kitchenTickets
  allowed : Kitchen.canTransitionKitchenTicket ticket.status toStatus = true
  storedOrder : order ∈ db.orders
  owner : order.id = ticket.orderId
  tickets : db'.kitchenTickets = Kitchen.movedTickets now toStatus ticket.id db.kitchenTickets
  orders : db'.orders = Kitchen.syncedOrders now order
    (Kitchen.ticketStatuses db'.kitchenTickets order.id) db.orders
  stock : db'.stock = db.stock
  nextId : db'.nextId = db.nextId

theorem TicketMoved.mem_statuses (h : TicketMoved now ticket order toStatus db db')
    (s : KitchenTicketStatus) : s ∈ Kitchen.ticketStatuses db'.kitchenTickets order.id ↔
      s ∈ Kitchen.statusesAfter db.kitchenTickets ticket toStatus := by
  rw [h.tickets, h.owner]
  exact Kitchen.mem_ticketStatuses_moved h.stored now toStatus s

theorem ticketMoved_of_ok {context : RequestContext} {ticketId : Id}
    {dto : Kitchen.TransitionKitchenTicketDto} {result : KitchenTicket}
    (h : Kitchen.transitionTicketTx env context ticketId dto db = .ok (result, db')) :
    ∃ ticket order, Kitchen.admitTicketTransition context ticketId dto db = .ok ticket ∧
      TicketMoved env.now ticket order dto.toStatus db db' := by
  obtain ⟨ticket, order, logs, admitted, ordered, rfl⟩ := Kitchen.transitionTicketTx_ok h
  obtain ⟨located, allowed⟩ := Kitchen.admitTicketTransition_ok admitted
  obtain ⟨storedOrder, owner⟩ := Table.findUnique_mem ordered
  refine ⟨ticket, order, admitted, ?_⟩
  exact
    { stored := (Table.findUnique_mem located).1
      allowed := allowed
      storedOrder := storedOrder
      owner := owner
      tickets := rfl
      orders := by rw [show order.id = ticket.orderId from owner]
      stock := rfl
      nextId := rfl }

/-- The ticket that a request moves, and where to. -/
def acceptedTicket (db : Db) (r : Request) : Option (KitchenTicket × KitchenTicketStatus) :=
  match r.call with
  | .transitionTicket ticketId dto =>
    match Kitchen.admitTicketTransition r.context ticketId dto db with
    | .ok ticket => some (ticket, dto.toStatus)
    | .error _ => none
  | _ => none

/-- The committed transactions of a request. -/
inductive Served (db : Db) (r : Request) : Db → Prop
  | quiet {db' : Db} (h : Quiet (refundEvent db r) db db') : Served db r db'
  /-- A payment that confirms its order. -/
  | confirmed {m db' : Db} {current : Order} (quiet : Quiet (refundEvent db r) db m)
      (h : OrderMoved r.env.now current { toStatus := .confirmed } m db') : Served db r db'
  | moved {db' : Db} {current : Order} {orderId : Id} {dto : Orders.TransitionOrderDto}
      (call : r.call = .transitionOrder orderId dto)
      (event : refundEvent db r = if dto.toStatus = .cancelled
        then some (current.id, .cancellation dto.hasExternalPayment) else none)
      (h : OrderMoved r.env.now current dto db db') : Served db r db'
  | checkedOut {db' : Db} {order : Order} (unflagged : refundEvent db r = none)
      (id : order.id = db.nextId) (status : order.status = .placed)
      (refundStatus : order.refundStatus = .none) (h : Orders.CheckedOut order db db') :
      Served db r db'
  | ticket {db' : Db} {ticket : KitchenTicket} {order : Order} {toStatus : KitchenTicketStatus}
      (accepted : acceptedTicket db r = some (ticket, toStatus))
      (h : TicketMoved r.env.now ticket order toStatus db db') : Served db r db'

theorem served_confirmation {m : Db} (quiet : Quiet (refundEvent db r) db m)
    (context : RequestContext) (orderId : Id) :
    Served db r (Call.exec (Orders.transitionOrder r.env context orderId
      { toStatus := .confirmed }) m).2 := by
  refine Call.transact_related (R := fun _ db' => Served db r db') (Served.quiet quiet) ?_
  intro result db' h
  obtain ⟨current, _, moved⟩ := orderMoved_of_ok h
  exact Served.confirmed quiet moved

theorem served_createOperation (consistent : Consistent db.payments db.nextId) (env : Env)
    (context : RequestContext) (dto : CreatePaymentOperationDto) :
    Served db ⟨env, context, .createOperation dto⟩
      (step db ⟨env, context, .createOperation dto⟩) := by
  simp only [step, createOperation, Call.exec_transact]
  refine Served.quiet ?_
  cases h : createOperationTx env context dto db with
  | error e =>
    simp only [refundEvent, h]
    exact quiet_refl db
  | ok answer =>
    obtain ⟨result, m⟩ := answer
    obtain ⟨a, logs, admitted, _, rfl⟩ := createOperationTx_ok consistent h
    simp only [refundEvent, h, admitted]
    exact ⟨rfl, rfl, rfl, Nat.le_succ _⟩

theorem quiet_receiveWebhookTx (consistent : Consistent db.payments db.nextId)
    (context : RequestContext) {providerKey : String} {dto : ReceivePaymentWebhookDto}
    {result : PaymentWebhookEvent × Option Id}
    (h : receiveWebhookTx env providerKey dto db = .ok (result, db')) :
    Quiet (refundEvent db ⟨env, context, .receiveWebhook providerKey dto⟩) db db' := by
  obtain ⟨n, events, logs, grows, after⟩ := receiveWebhookTx_ok consistent h
  simp only [refundEvent, h]
  cases accepted : acceptDelivery env providerKey dto db with
  | none =>
    rw [accepted] at after
    subst after
    exact ⟨rfl, rfl, rfl, grows⟩
  | some meaning =>
    obtain ⟨webhook, delivery⟩ := meaning
    rw [accepted] at after
    subst after
    cases delivery with
    | attempt externalReference attempt | operation operation =>
      exact ⟨rfl, rfl, rfl, Nat.le_succ _⟩

theorem served_receiveWebhook (consistent : Consistent db.payments db.nextId) (env : Env)
    (context : RequestContext) (providerKey : String) (dto : ReceivePaymentWebhookDto) :
    Served db ⟨env, context, .receiveWebhook providerKey dto⟩
      (step db ⟨env, context, .receiveWebhook providerKey dto⟩) := by
  cases h : receiveWebhookTx env providerKey dto db with
  | error e =>
    have unflagged : refundEvent db ⟨env, context, .receiveWebhook providerKey dto⟩ = none := by
      simp only [refundEvent, h]
    simp only [step, receiveWebhook_of_error h]
    refine Served.quiet ?_
    rw [unflagged]
    exact quiet_refl db
  | ok answer =>
    have quiet := quiet_receiveWebhookTx consistent context h
    rcases receiveWebhook_of_ok h with after | ⟨orderId, after⟩
    · simp only [step, after]
      exact Served.quiet quiet
    · simp only [step, after]
      exact served_confirmation quiet _ orderId

theorem served_processAllocation (consistent : Consistent db.payments db.nextId) (env : Env)
    (context : RequestContext) (intentId allocationId : Id) (providerKey : Option String) :
    Served db ⟨env, context, .processAllocation intentId allocationId providerKey⟩
      (step db ⟨env, context, .processAllocation intentId allocationId providerKey⟩) := by
  cases h : processAllocationTx env context intentId allocationId providerKey db with
  | error e =>
    simp only [step, processAllocation_of_error h]
    exact Served.quiet (quiet_refl db)
  | ok answer =>
    obtain ⟨result, m⟩ := answer
    obtain ⟨a, logs, _, same, _⟩ := processAllocationTx_ok consistent h
    have quiet : Quiet none db m := by
      rw [same]
      exact ⟨rfl, rfl, rfl, Nat.le_succ _⟩
    rcases processAllocation_of_ok h with after | ⟨orderId, after⟩
    · simp only [step, after]
      exact Served.quiet quiet
    · simp only [step, after]
      exact served_confirmation
        (r := ⟨env, context, .processAllocation intentId allocationId providerKey⟩) quiet context
        orderId

theorem served_transitionOrder (db : Db) (env : Env) (context : RequestContext) (orderId : Id)
    (dto : Orders.TransitionOrderDto) : Served db ⟨env, context, .transitionOrder orderId dto⟩
      (step db ⟨env, context, .transitionOrder orderId dto⟩) := by
  simp only [step, Orders.transitionOrder, Call.exec_transact]
  cases h : Orders.transitionOrderTx env context orderId dto db with
  | error e =>
    refine Served.quiet ?_
    simp only [refundEvent, h]
    exact quiet_refl db
  | ok answer =>
    obtain ⟨current, same, moved⟩ := orderMoved_of_ok h
    refine Served.moved rfl ?_ moved
    simp only [refundEvent, h, same]

/-- Every request does to orders, tickets and stock what its transactions do. -/
theorem step_served (consistent : Consistent db.payments db.nextId) (r : Request) :
    Served db r (step db r) := by
  obtain ⟨env, context, call⟩ := r
  cases call with
  | createIntent dto =>
    refine Call.transact_related (R := fun _ db' => Served db _ db')
      (Served.quiet (quiet_refl db)) fun created db' h => ?_
    obtain ⟨a, logs, _, _, _, rfl⟩ := createIntentTx_ok h
    exact Served.quiet ⟨rfl, rfl, rfl, by show db.nextId ≤ db.nextId + 1 + _; lia⟩
  | processAllocation intentId allocationId providerKey =>
    exact served_processAllocation consistent env context intentId allocationId providerKey
  | cancelIntent intentId =>
    refine Call.transact_related (R := fun _ db' => Served db _ db')
      (Served.quiet (quiet_refl db)) fun _ db' h => ?_
    obtain ⟨loaded, logs, _, rfl⟩ := cancelIntentTx_ok h
    exact Served.quiet ⟨rfl, rfl, rfl, le_refl _⟩
  | createOperation dto => exact served_createOperation consistent env context dto
  | receiveWebhook providerKey dto => exact served_receiveWebhook consistent env context providerKey dto
  | checkout cartId dto =>
    refine Call.transact_related (R := fun _ db' => Served db _ db')
      (Served.quiet (quiet_refl db)) fun order db' h => ?_
    obtain ⟨cart, plan, _, made, done⟩ := Orders.checkoutTx_ok h
    exact Served.checkedOut rfl (by rw [made]; rfl) (by rw [made]; rfl) (by rw [made]; rfl) done
  | transitionOrder orderId dto => exact served_transitionOrder db env context orderId dto
  | transitionTicket ticketId dto =>
    refine Call.transact_related (R := fun _ db' => Served db _ db')
      (Served.quiet (quiet_refl db)) fun _ db' h => ?_
    obtain ⟨ticket, order, admitted, moved⟩ := ticketMoved_of_ok h
    exact Served.ticket (by simp only [acceptedTicket, admitted]) moved
  | elsewhere setup carts => exact Served.quiet ⟨rfl, rfl, rfl, le_refl _⟩

/-- Orders and tickets have keys of their own, older than the supply, and every ticket belongs
to an order. -/
structure Sound (db : Db) : Prop where
  orderIds : (db.orders.map Order.id).Nodup
  ordersOld : ∀ id ∈ db.orders.map Order.id, id < db.nextId
  ticketKeys : Orders.TicketKeys db
  ticketOrders : ∀ t ∈ db.kitchenTickets, t.orderId ∈ db.orders.map Order.id

theorem initial_sound (init : Initial db) : Sound db where
  orderIds := by simp [init.orders]
  ordersOld := by simp [init.orders]
  ticketKeys := by simp [Orders.TicketKeys, init.tickets]
  ticketOrders := by simp [init.tickets]

theorem Sound.order_eq (sound : Sound db) {q : Order} (ho : o ∈ db.orders) (hq : q ∈ db.orders)
    (same : o.id = q.id) : o = q :=
  Rows.eq_of_key sound.orderIds ho hq same

theorem Sound.ticket_eq (sound : Sound db) {t u : KitchenTicket} (ht : t ∈ db.kitchenTickets)
    (hu : u ∈ db.kitchenTickets) (same : t.id = u.id) : t = u :=
  Rows.eq_of_key sound.ticketKeys.1 ht hu same

theorem Sound.order_lt (sound : Sound db) (stored : o ∈ db.orders) : o.id < db.nextId :=
  sound.ordersOld o.id (List.mem_map_of_mem stored)

theorem Sound.ticket_lt (sound : Sound db) {t : KitchenTicket} (stored : t ∈ db.kitchenTickets) :
    t.orderId < db.nextId :=
  sound.ordersOld t.orderId (sound.ticketOrders t stored)

theorem ticketMoved_of_accepted (sound : Sound db)
    (accepted : acceptedTicket db r = some (ticket, toStatus)) (stored : o ∈ db.orders)
    (owner : o.id = ticket.orderId) :
    ∃ order, TicketMoved r.env.now ticket order toStatus db (step db r) := by
  obtain ⟨env, context, call⟩ := r
  cases call with
  | transitionTicket ticketId dto =>
    simp only [acceptedTicket] at accepted
    cases admitted : Kitchen.admitTicketTransition context ticketId dto db with
    | error e =>
      rw [admitted] at accepted
      cases accepted
    | ok current =>
      rw [admitted] at accepted
      obtain ⟨rfl, rfl⟩ := Prod.mk.inj (Option.some.inj accepted)
      have ordered : Exetron.orders.findUnique current.orderId db = some o := by
        rw [← owner]
        exact Rows.find_of_mem sound.orderIds stored
      obtain ⟨result, db', h⟩ := Kitchen.transitionTicketTx_succeeds env admitted ordered
      obtain ⟨current', order, admitted', moved⟩ := ticketMoved_of_ok h
      obtain rfl := Except.ok.inj (admitted.symm.trans admitted')
      simp only [step, Kitchen.transitionTicket, Call.transact_ok h]
      exact ⟨order, moved⟩
  | _ => cases accepted

theorem sound_rewritten (sound : Sound db) (ids : db'.orders.map Order.id = db.orders.map Order.id)
    (grows : db.nextId ≤ db'.nextId) (ticketKeys : Orders.TicketKeys db')
    (owners : ∀ t' ∈ db'.kitchenTickets, t'.orderId ∈ db.orders.map Order.id) : Sound db' where
  orderIds := by
    rw [ids]
    exact sound.orderIds
  ordersOld id listed := by
    rw [ids] at listed
    exact lt_of_lt_of_le (sound.ordersOld id listed) grows
  ticketKeys := ticketKeys
  ticketOrders t' stored := by
    rw [ids]
    exact owners t' stored

theorem mem_flagWith {event : Option (Id × RefundEvent)} {rows : List Order}
    (member : o' ∈ flagWith event rows) :
    ∃ o ∈ rows, o' = { o with refundStatus := o'.refundStatus } := by
  cases event with
  | none => exact ⟨o', member, rfl⟩
  | some event =>
    obtain ⟨o, stored, rfl⟩ := Rows.mem_modify.mp member
    refine ⟨o, stored, ?_⟩
    split <;> rfl

theorem OrderMoved.order_before (h : OrderMoved now current dto db db') (member : o' ∈ db'.orders) :
    ∃ o ∈ db.orders, (o.id = current.id ∧ o' = Orders.applyTransition now dto o) ∨
      (o.id ≠ current.id ∧ o' = o) := by
  rw [h.orders] at member
  obtain ⟨o, stored, rfl⟩ := Rows.mem_modify.mp member
  refine ⟨o, stored, ?_⟩
  by_cases same : o.id = current.id
  · exact Or.inl ⟨same, if_pos same⟩
  · exact Or.inr ⟨same, if_neg same⟩

theorem OrderMoved.ticket_before (h : OrderMoved now current dto db db') {t' : KitchenTicket}
    (member : t' ∈ db'.kitchenTickets) : t' ∈ db.kitchenTickets ∨
      (t'.orderId = current.id ∧ dto.toStatus = .confirmed ∧ t'.status = .new) ∨
      (t'.orderId = current.id ∧ dto.toStatus = .cancelled) := by
  have after := h.tickets
  cases moved : dto.toStatus with
  | confirmed =>
    rw [moved] at after
    obtain ⟨new, same, fresh⟩ := after
    rw [same] at member
    rcases List.mem_append.mp member with member | member
    · exact Or.inl member
    · obtain ⟨owner, status⟩ := fresh t' member
      exact Or.inr (Or.inl ⟨owner, rfl, status⟩)
  | cancelled =>
    rw [moved] at after
    obtain ⟨at_, same⟩ := after
    rw [same] at member
    obtain ⟨t, stored, rfl⟩ := Rows.mem_updateWhere.mp member
    split
    · rename_i opened
      simp only [Orders.isOpenTicketOf, decide_eq_true_eq] at opened
      exact Or.inr (Or.inr ⟨opened.1, rfl⟩)
    · exact Or.inl stored
  | placed | inPreparation | ready | completed =>
    rw [moved] at after
    rw [show db'.kitchenTickets = db.kitchenTickets from after] at member
    exact Or.inl member

theorem TicketMoved.order_before (h : TicketMoved now ticket order toStatus db db')
    (sound : Sound db) (member : o' ∈ db'.orders) : o' ∈ db.orders ∨
      (o'.id = order.id ∧ o'.tenantId = order.tenantId ∧ o'.refundStatus = order.refundStatus ∧
        Kitchen.SyncsTo order.status
          (Kitchen.ticketStatuses db'.kitchenTickets order.id) o'.status) := by
  rw [h.orders, Kitchen.syncedOrders] at member
  cases update : Kitchen.syncUpdate now order (Kitchen.ticketStatuses db'.kitchenTickets order.id) with
  | none =>
    rw [update] at member
    exact Or.inl member
  | some change =>
    rw [update] at member
    obtain ⟨target, kept, syncs⟩ := Kitchen.syncUpdate_some update
    obtain ⟨o, stored, rfl⟩ := Rows.mem_modify.mp member
    by_cases same : o.id = order.id
    · rw [if_pos same]
      obtain rfl := sound.order_eq stored h.storedOrder same
      rw [kept.id, kept.tenantId, kept.refundStatus, kept.status]
      exact Or.inr ⟨rfl, rfl, rfl, syncs⟩
    · rw [if_neg same]
      exact Or.inl stored

def orderKey (o : Order) : Id × Id := (o.id, o.tenantId)

theorem ids_of_orderKeys {rows rows' : List Order} (same : rows'.map orderKey = rows.map orderKey) :
    rows'.map Order.id = rows.map Order.id := by
  have first : (rows'.map orderKey).map Prod.fst = (rows.map orderKey).map Prod.fst :=
    congrArg _ same
  rw [List.map_map, List.map_map] at first
  exact first

theorem Quiet.orderKeys {event : Option (Id × RefundEvent)} (h : Quiet event db db') :
    db'.orders.map orderKey = db.orders.map orderKey := by
  rw [h.orders]
  cases event with
  | none => rfl
  | some event =>
    have keeps : ∀ o : Order, orderKey { o with refundStatus := event.2.flag } = orderKey o :=
      fun _ => rfl
    exact Rows.map_modify keeps db.orders

theorem OrderMoved.orderKeys (h : OrderMoved now current dto db db') :
    db'.orders.map orderKey = db.orders.map orderKey := by
  have keeps : ∀ o, orderKey (Orders.applyTransition now dto o) = orderKey o := fun _ => rfl
  rw [h.orders]
  exact Rows.map_modify keeps db.orders

theorem TicketMoved.orderKeys (h : TicketMoved now ticket order toStatus db db') :
    db'.orders.map orderKey = db.orders.map orderKey := by
  rw [h.orders, Kitchen.syncedOrders]
  cases update : Kitchen.syncUpdate now order
      (Kitchen.ticketStatuses db'.kitchenTickets order.id) with
  | none => rfl
  | some change =>
    obtain ⟨_, kept, _⟩ := Kitchen.syncUpdate_some update
    have keeps : ∀ o, orderKey (change o) = orderKey o := fun o => by
      rw [orderKey, kept.id, kept.tenantId, orderKey]
    exact Rows.map_modify keeps db.orders

theorem Quiet.sound {event : Option (Id × RefundEvent)} (h : Quiet event db db')
    (sound : Sound db) : Sound db' := by
  refine sound_rewritten sound (ids_of_orderKeys h.orderKeys) h.grows ?_ ?_
  · exact Orders.ticketKeys_of_same (congrArg _ h.tickets) h.grows sound.ticketKeys
  · rw [h.tickets]
    exact sound.ticketOrders

theorem OrderMoved.sound (h : OrderMoved now current dto db db') (sound : Sound db) :
    Sound db' := by
  refine sound_rewritten sound (ids_of_orderKeys h.orderKeys) h.grows
    (h.ticketKeys sound.ticketKeys) fun t' stored => ?_
  rcases h.ticket_before stored with before | ⟨owner, _⟩ | ⟨owner, _⟩
  · exact sound.ticketOrders t' before
  all_goals
    rw [owner]
    exact List.mem_map_of_mem h.stored

theorem TicketMoved.sound (h : TicketMoved now ticket order toStatus db db') (sound : Sound db) :
    Sound db' := by
  have keeps : ∀ t, (Kitchen.applyTicketTransition now toStatus t).id = t.id := fun _ => rfl
  have grows : db.nextId ≤ db'.nextId := le_of_eq h.nextId.symm
  refine sound_rewritten sound (ids_of_orderKeys h.orderKeys) grows ?_ fun t' stored => ?_
  · refine Orders.ticketKeys_of_same ?_ grows sound.ticketKeys
    rw [h.tickets]
    exact Rows.map_modify keeps db.kitchenTickets
  · rw [h.tickets] at stored
    obtain ⟨t, before, rfl⟩ := Rows.mem_modify.mp stored
    have owner := sound.ticketOrders t before
    split
    · exact owner
    · exact owner

theorem checkedOut_sound (h : Orders.CheckedOut order db db') (id : order.id = db.nextId)
    (sound : Sound db) : Sound db' := by
  have orders : db'.orders = db.orders ++ [order] := by rw [h.rest]
  have tickets : db'.kitchenTickets = db.kitchenTickets := by rw [h.rest]
  have ids : db'.orders.map Order.id = db.orders.map Order.id ++ [db.nextId] := by
    rw [orders, List.map_append, List.map_singleton, id]
  constructor
  · rw [ids]
    exact Rows.nodup_append_new sound.orderIds sound.ordersOld
  · intro k listed
    rw [ids] at listed
    rcases List.mem_append.mp listed with before | new
    · exact lt_trans (sound.ordersOld k before) h.grows
    · rw [List.mem_singleton.mp new]
      exact h.grows
  · exact Orders.ticketKeys_of_same (congrArg _ tickets) (le_of_lt h.grows) sound.ticketKeys
  · intro t stored
    rw [tickets] at stored
    rw [ids]
    exact List.mem_append_left _ (sound.ticketOrders t stored)

theorem Served.sound (h : Served db r db') (sound : Sound db) : Sound db' := by
  cases h with
  | quiet quiet => exact quiet.sound sound
  | confirmed quiet moved => exact moved.sound (quiet.sound sound)
  | moved call event moved => exact moved.sound sound
  | checkedOut unflagged id status refundStatus done => exact checkedOut_sound done id sound
  | ticket accepted moved => exact moved.sound sound

theorem Served.orderKeys (h : Served db r db') :
    db.orders.map orderKey ⊆ db'.orders.map orderKey := by
  cases h with
  | quiet quiet => rw [quiet.orderKeys]; exact List.Subset.refl _
  | confirmed quiet moved => rw [moved.orderKeys, quiet.orderKeys]; exact List.Subset.refl _
  | moved call event moved => rw [moved.orderKeys]; exact List.Subset.refl _
  | checkedOut unflagged id status refundStatus done =>
    rw [done.rest, List.map_append]
    exact List.subset_append_left _ _
  | ticket accepted moved => rw [moved.orderKeys]; exact List.Subset.refl _

theorem fulfilment_invariant {C : Db → Request → Prop} {P : Db → Prop} {rs : List Request}
    (keeps : ∀ db r db', Sound db → Served db r db' → C db r → P db → P db') (init : Initial db)
    (start : P db) (along : Trace.Along step C db rs) : Sound (run db rs) ∧ P (run db rs) := by
  have step_keeps : ∀ (db : Db) (r : Request),
      Consistent db.payments db.nextId ∧ Sound db ∧ P db → C db r →
        Consistent (step db r).payments (step db r).nextId ∧ Sound (step db r) ∧ P (step db r) := by
    intro db r inv meets
    have served := step_served inv.1 r
    exact ⟨step_consistent inv.1 r, served.sound inv.2.1, keeps db r _ inv.2.1 served meets inv.2.2⟩
  exact (Trace.run_invariant step_keeps ⟨initial_consistent init, initial_sound init, start⟩ along).2

theorem sound_run (init : Initial db) (rs : List Request) : Sound (run db rs) := by
  have keeps : ∀ db r db', Sound db → Served db r db' → True → True → True := by
    intro _ _ _ _ _ _ _
    trivial
  exact (fulfilment_invariant keeps init trivial (Trace.along_true db rs)).1

end Exetron
