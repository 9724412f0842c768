import Exetron.Fulfilment

/-!
# Stock of finished orders

`transitionOrder` releases or consumes what an order has reserved when it ends the order. The
kitchen ends an order too, and leaves the reservations as they are.
-/

namespace Exetron.Orders

open Lib Inventory Kitchen

variable {db db' : Db}

def ReservedFor (orderId : Id) (r : StockReservation) : Prop :=
  r.sourceType = "order" ∧ r.sourceId = orderId ∧ r.status = .active

instance (orderId : Id) (r : StockReservation) : Decidable (ReservedFor orderId r) :=
  inferInstanceAs (Decidable (_ ∧ _ ∧ _))

def NothingKept (db : Db) : Prop :=
  ∀ o ∈ db.orders, o.status = .completed ∨ o.status = .cancelled →
    ∀ r ∈ db.stock.reservations, ¬ReservedFor o.id r

/-- Once the ticket has moved, all tickets of the order are finished, and the order is ready or
one of them is cancelled. -/
def FinishesOrder (rows : List KitchenTicket) (o : Order) (ticket : KitchenTicket)
    (toStatus : KitchenTicketStatus) : Prop :=
  (∀ s ∈ statusesAfter rows ticket toStatus, s = .completed ∨ s = .cancelled) ∧
    (.cancelled ∈ statusesAfter rows ticket toStatus ∨ o.status = .ready)

instance (rows : List KitchenTicket) (o : Order) (ticket : KitchenTicket)
    (toStatus : KitchenTicketStatus) : Decidable (FinishesOrder rows o ticket toStatus) :=
  inferInstanceAs (Decidable (_ ∧ _))

def FinishesUnreserved (db : Db) (r : Request) : Prop :=
  ∀ m ∈ acceptedTicket db r, ∀ o ∈ db.orders, o.id = m.1.orderId →
    o.status ∉ [.completed, .cancelled] → FinishesOrder db.kitchenTickets o m.1 m.2 →
      ∀ r ∈ db.stock.reservations, ¬ReservedFor o.id r

instance (db : Db) (r : Request) : Decidable (FinishesUnreserved db r) :=
  inferInstanceAs (Decidable (∀ m ∈ acceptedTicket db r, ∀ o ∈ db.orders, _ → _ → _ → _))

def ReservationsKnown (db : Db) : Prop :=
  ∀ r ∈ db.stock.reservations, r.sourceType = "order" → r.status = .active →
    (r.sourceId, r.tenantId) ∈ db.orders.map orderKey ∧
      (r.warehouseId, r.ingredientId) ∈ itemKeys db

theorem initial_reservationsKnown (init : Initial db) : ReservationsKnown db :=
  fun r listed order => absurd order (init.reservations r listed)

theorem initial_nothingKept (init : Initial db) : NothingKept db := by
  simp [NothingKept, init.orders]

theorem reservation_before {rows rows' : List StockReservation}
    (settled : List.Forall₂ SettledFrom rows rows') {r' : StockReservation} (member : r' ∈ rows')
    (active : r'.status = .active) : r' ∈ rows := by
  obtain ⟨k, bound, rfl⟩ := List.mem_iff_getElem.mp member
  have length := settled.length_eq
  have bound' : k < rows.length := by omega
  obtain ⟨same, status⟩ := List.Forall₂.get settled bound' bound
  simp only [List.get_eq_getElem] at same status
  have kept := status.resolve_right (not_not.mpr active)
  rw [kept] at same
  rw [same]
  exact List.getElem_mem bound'

theorem known_settled (known : ReservationsKnown db)
    (keys : db'.orders.map orderKey = db.orders.map orderKey) (items : itemKeys db' = itemKeys db)
    (settled : List.Forall₂ SettledFrom db.stock.reservations db'.stock.reservations) :
    ReservationsKnown db' := by
  intro r member order active
  rw [keys, items]
  exact known r (reservation_before settled member active) order active

theorem known_unsettled (known : ReservationsKnown db)
    (keys : db'.orders.map orderKey = db.orders.map orderKey) (stock : db'.stock = db.stock) :
    ReservationsKnown db' := by
  unfold ReservationsKnown itemKeys
  rw [keys, stock]
  exact known

theorem known_checkedOut {order : Order} (h : CheckedOut order db db')
    (known : ReservationsKnown db) : ReservationsKnown db' := by
  have orders : db'.orders = db.orders ++ [order] := by rw [h.rest]
  obtain ⟨new, same, made⟩ := h.reservations
  intro r member fromOrder active
  rw [same] at member
  rw [orders, List.map_append]
  rcases List.mem_append.mp member with before | added
  · obtain ⟨owner, item⟩ := known r before fromOrder active
    exact ⟨List.mem_append_left _ owner, h.items _ item⟩
  · obtain ⟨tenant, _, source, item⟩ := made r added
    refine ⟨List.mem_append_right _ ?_, item⟩
    rw [source, tenant]
    exact List.mem_singleton_self _

theorem served_known {r : Request} (h : Served db r db') (known : ReservationsKnown db) :
    ReservationsKnown db' := by
  cases h with
  | quiet quiet => exact known_unsettled known quiet.orderKeys quiet.stock
  | confirmed quiet moved =>
    have before := known_unsettled known quiet.orderKeys quiet.stock
    exact known_settled before moved.orderKeys moved.items moved.reservations
  | moved call event moved =>
    exact known_settled known moved.orderKeys moved.items moved.reservations
  | checkedOut unflagged id status refundStatus done => exact known_checkedOut done known
  | ticket accepted moved => exact known_unsettled known moved.orderKeys moved.stock

theorem quiet_nothingKept {event : Option (Id × RefundEvent)} (h : Quiet event db db')
    (kept : NothingKept db) : NothingKept db' := by
  intro o' member finished r listed
  rw [h.orders] at member
  rw [h.stock] at listed
  obtain ⟨o, before, same⟩ := mem_flagWith member
  rw [same] at finished ⊢
  exact kept o before finished r listed

theorem moved_nothingKept {now : Instant} {current : Order} {dto : TransitionOrderDto}
    (h : OrderMoved now current dto db db') (sound : Sound db) (known : ReservationsKnown db)
    (kept : NothingKept db) : NothingKept db' := by
  intro o' member finished r listed reserved
  obtain ⟨fromOrder, source, active⟩ := reserved
  have before := reservation_before h.reservations listed active
  obtain ⟨o, stored, ⟨same, rfl⟩ | ⟨other, rfl⟩⟩ := h.order_before member
  · obtain rfl := sound.order_eq stored h.stored same
    have present : ∀ r ∈ db.stock.reservations, isActiveFor o.tenantId o.id r →
        (r.warehouseId, r.ingredientId) ∈ itemKeys db := by
      intro r listed live
      obtain ⟨_, fromOrder, _, active⟩ := of_decide_eq_true live
      exact (known r listed fromOrder active).2
    have settled := h.finished finished present r listed
    obtain ⟨q, storedQ, key⟩ := List.mem_map.mp (known r before fromOrder active).1
    obtain ⟨keyId, keyTenant⟩ := Prod.mk.inj key
    obtain rfl := sound.order_eq storedQ h.stored (keyId.trans source)
    have live : isActiveFor q.tenantId q.id r = true :=
      decide_eq_true ⟨keyTenant.symm, fromOrder, source, active⟩
    rw [live] at settled
    cases settled
  · exact kept o' stored finished r before ⟨fromOrder, source, active⟩

theorem ticket_nothingKept {now : Instant} {ticket : KitchenTicket} {order : Order}
    {toStatus : KitchenTicketStatus} (h : TicketMoved now ticket order toStatus db db')
    (sound : Sound db) (unreserved : order.status ∉ [.completed, .cancelled] →
      FinishesOrder db.kitchenTickets order ticket toStatus →
        ∀ r ∈ db.stock.reservations, ¬ReservedFor order.id r) (kept : NothingKept db) :
    NothingKept db' := by
  intro o' member finished r listed
  rw [h.stock] at listed
  rcases h.order_before sound member with before | ⟨same, _, _, syncs⟩
  · exact kept o' before finished r listed
  · rw [same]
    rcases finished with completed | cancelled
    · rw [completed] at syncs
      obtain ⟨all, open_, reason⟩ := syncs
      refine unreserved open_ ⟨fun s member => all s ((h.mem_statuses s).mpr member), ?_⟩ r listed
      rcases reason with cancelled | ready
      · exact Or.inl ((h.mem_statuses _).mp cancelled)
      · exact Or.inr ready
    · rw [cancelled] at syncs
      exact syncs.elim

theorem checkedOut_nothingKept {order : Order} (h : CheckedOut order db db')
    (id : order.id = db.nextId) (status : order.status = .placed) (sound : Sound db)
    (kept : NothingKept db) : NothingKept db' := by
  have orders : db'.orders = db.orders ++ [order] := by rw [h.rest]
  obtain ⟨new, same, made⟩ := h.reservations
  intro o member finished r listed reserved
  rw [orders] at member
  rw [same] at listed
  rcases List.mem_append.mp member with stored | isNew
  · rcases List.mem_append.mp listed with before | added
    · exact kept o stored finished r before reserved
    · obtain ⟨_, _, source, _⟩ := made r added
      have old := sound.order_lt stored
      rw [← reserved.2.1, source, id] at old
      exact lt_irrefl _ old
  · rw [List.mem_singleton.mp isNew, status] at finished
    rcases finished with done | done <;> cases done

theorem served_nothingKept {r : Request} (h : Served db r db') (sound : Sound db)
    (known : ReservationsKnown db) (unreserved : FinishesUnreserved db r) (kept : NothingKept db) :
    NothingKept db' := by
  cases h with
  | quiet quiet => exact quiet_nothingKept quiet kept
  | confirmed quiet moved =>
    exact moved_nothingKept moved (quiet.sound sound)
      (known_unsettled known quiet.orderKeys quiet.stock) (quiet_nothingKept quiet kept)
  | moved call event moved => exact moved_nothingKept moved sound known kept
  | checkedOut unflagged id status refundStatus done =>
    exact checkedOut_nothingKept done id status sound kept
  | ticket accepted moved =>
    exact ticket_nothingKept moved sound (unreserved _ accepted _ moved.storedOrder moved.owner)
      kept

/-- In every run in which the kitchen finishes no order with stock reserved for it, no finished
order keeps any. -/
theorem nothing_kept {db : Db} {rs : List Request} (init : Initial db)
    (along : Trace.Along step FinishesUnreserved db rs) : NothingKept (run db rs) := by
  have keeps : ∀ db r db', Sound db → Served db r db' → FinishesUnreserved db r →
      ReservationsKnown db ∧ NothingKept db → ReservationsKnown db' ∧ NothingKept db' := by
    intro db r db' sound served unreserved inv
    exact ⟨served_known served inv.1, served_nothingKept served sound inv.1 unreserved inv.2⟩
  exact (fulfilment_invariant keeps init
    ⟨initial_reservationsKnown init, initial_nothingKept init⟩ along).2.2

def servedOrder : List Request :=
  [cashierAt 1 (.checkout 50 {}),
   cashierAt 2 (.transitionOrder 100 { toStatus := .confirmed }),
   cashierAt 3 (.transitionTicket 103 { toStatus := .inProgress }),
   cashierAt 4 (.transitionTicket 103 { toStatus := .ready }),
   cashierAt 5 (.transitionTicket 103 { toStatus := .completed })]

theorem nothing_kept_transition : NothingKept (run shop (servedOrder.take 4 ++
      [cashierAt 5 (.transitionOrder 100 { toStatus := .completed })])) :=
  nothing_kept shop_initial (by decide +kernel)

theorem servedOrder_keeps :
    Initial shop ∧ ∃ o ∈ (run shop servedOrder).orders, o.status = .completed ∧
      ∃ r ∈ (run shop servedOrder).stock.reservations, ReservedFor o.id r :=
  ⟨shop_initial, by decide +kernel⟩

end Exetron.Orders
