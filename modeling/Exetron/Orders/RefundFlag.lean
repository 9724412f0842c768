import Exetron.Fulfilment

/-!
# Refund flags

The refund flag of an order does not follow its money. A cancellation writes what the caller
says of external payments, a refund or a void writes its outcome, and a provider's delivery for
one writes the outcome it brings: the flag shows the latest of these.
-/

namespace Exetron.Orders

open Lib Payments List Option

variable {db db' : Db} {history : List (Id × RefundEvent)}

def refundedOf (p : PaymentTables) (intentId : Id) : Money :=
  ((p.operations.filter fun o =>
    o.paymentIntentId = intentId ∧ o.status ∈ [.succeeded, .completed]).map
      PaymentOperation.amount).sum

def MoneyFlagged (db : Db) : Prop :=
  ∀ o ∈ db.orders, o.status = .cancelled → ∀ i ∈ db.payments.intents, i.orderId = o.id →
    refundedOf db.payments i.id < i.paidAmount → o.refundStatus = .pendingManual

def Shows : RefundEvent → RefundStatus → Prop
  | .cancellation hasExternalPayment, flag =>
    flag = if hasExternalPayment = some true then .pendingManual else .notRequired
  | .operation .pending, flag => flag = .pendingManual
  | .operation .succeeded, flag => flag = .notRequired
  | .operation .failed, _ => True
  | .delivery .succeeded, flag => flag = .notRequired
  | .delivery .failed, flag => flag = .pendingManual

def ShowsLatest : Option RefundEvent → RefundStatus → Prop
  | none, flag => flag = .none
  | some event, flag => Shows event flag

theorem shows_flag (event : RefundEvent) : Shows event event.flag := by
  cases event with
  | cancellation hasExternalPayment =>
    cases hasExternalPayment with
    | none => rfl
    | some value => cases value <;> rfl
  | operation outcome =>
    cases outcome with
    | pending => rfl
    | succeeded => rfl
    | failed => trivial
  | delivery outcome => cases outcome <;> rfl

def refundHistory : Db → List Request → List (Id × RefundEvent) :=
  Trace.recorded step (fun db r => (refundEvent db r).toList) []

/-- The flags show the latest events of a history, and a cancelled order has one. -/
structure FlagsShow (history : List (Id × RefundEvent)) (db : Db) : Prop where
  shows : ∀ o ∈ db.orders, ShowsLatest (history.lookup o.id) o.refundStatus
  cancelled : ∀ o ∈ db.orders, o.status = .cancelled → (history.lookup o.id).isSome
  known : ∀ e ∈ history, e.1 ∈ db.orders.map Order.id

theorem refundEvent_known {r : Request} {e : Id × RefundEvent} (h : refundEvent db r = some e) :
    e.1 ∈ db.orders.map Order.id := by
  obtain ⟨env, context, call⟩ := r
  cases call with
  | transitionOrder orderId dto =>
    simp only [refundEvent] at h
    cases moves : transitionOrderTx env context orderId dto db with
    | error reason =>
      rw [moves] at h
      cases h
    | ok answer =>
      obtain ⟨order, after⟩ := answer
      obtain ⟨current, same, moved⟩ := orderMoved_of_ok moves
      simp only [moves] at h
      split at h
      · obtain rfl := some.inj h
        exact mem_map.mpr ⟨current, moved.stored, same.symm⟩
      · cases h
  | createOperation dto =>
    simp only [refundEvent] at h
    split at h
    · split at h
      · rename_i a admitted
        obtain rfl := some.inj h
        obtain ⟨load, _⟩ := admitOperation_ok admitted
        obtain ⟨stored, same⟩ := Table.findUnique_mem (loadIntent_ok load).2.2.1
        exact mem_map.mpr ⟨_, stored, same⟩
      · cases h
    · cases h
  | receiveWebhook providerKey dto =>
    simp only [refundEvent] at h
    split at h
    · rename_i answer received
      split at h
      · rename_i webhook operation accepted
        obtain rfl := some.inj h
        exact receiveWebhookTx_found received accepted
      · cases h
    · cases h
  | _ => cases h

theorem refundEvent_ticket {r : Request} {m : KitchenTicket × KitchenTicketStatus}
    (accepted : acceptedTicket db r = some m) : refundEvent db r = none := by
  obtain ⟨env, context, call⟩ := r
  cases call with
  | transitionTicket ticketId dto => rfl
  | _ => cases accepted

theorem initial_flagsShow (init : Initial db) : FlagsShow [] db where
  shows := by simp [init.orders]
  cancelled := by simp [init.orders]
  known := by simp

theorem lookup_event {event : Option (Id × RefundEvent)} {orderId : Id}
    (other : ∀ e ∈ event, e.1 ≠ orderId) :
    (event.toList ++ history).lookup orderId = history.lookup orderId := by
  cases event with
  | none => rfl
  | some e =>
    obtain ⟨id, event⟩ := e
    have differs : (orderId == id) = false := beq_false_of_ne (other _ rfl).symm
    simp only [toList_some, singleton_append, lookup_cons, differs]

theorem quiet_flagsShow {event : Option (Id × RefundEvent)} (h : Quiet event db db')
    (known : ∀ e ∈ event, e.1 ∈ db.orders.map Order.id) (flags : FlagsShow history db) :
    FlagsShow (event.toList ++ history) db' := by
  have ids := ids_of_orderKeys h.orderKeys
  have after : ∀ o' ∈ db'.orders, (∃ e ∈ event, e.1 = o'.id ∧ o'.refundStatus = e.2.flag) ∨
      (o' ∈ db.orders ∧ ∀ e ∈ event, e.1 ≠ o'.id) := by
    intro o' member
    rw [h.orders] at member
    cases event with
    | none => exact Or.inr ⟨member, by simp⟩
    | some e =>
      obtain ⟨o, stored, rfl⟩ := Rows.mem_modify.mp member
      by_cases same : o.id = e.1
      · rw [if_pos same]
        exact Or.inl ⟨e, rfl, same.symm, rfl⟩
      · rw [if_neg same]
        refine Or.inr ⟨stored, fun e' is => ?_⟩
        rw [← some.inj is]
        exact fun back => same back.symm
  constructor
  · intro o' member
    rcases after o' member with ⟨e, rfl, same, flag⟩ | ⟨before, other⟩
    · rw [flag, ← same]
      obtain ⟨id, event⟩ := e
      simp only [toList_some, singleton_append, lookup_cons, beq_self_eq_true]
      exact shows_flag event
    · rw [lookup_event other]
      exact flags.shows o' before
  · intro o' member cancelled
    rcases after o' member with ⟨e, rfl, same, _⟩ | ⟨before, other⟩
    · rw [← same]
      obtain ⟨id, event⟩ := e
      simp only [toList_some, singleton_append, lookup_cons, beq_self_eq_true,
        isSome_some]
    · rw [lookup_event other]
      exact flags.cancelled o' before cancelled
  · intro e listed
    rw [ids]
    rcases mem_append.mp listed with new | old
    · exact known e (mem_toList.mp new)
    · exact flags.known e old

def transitionEvent (current : Order) (dto : TransitionOrderDto) : Option (Id × RefundEvent) :=
  if dto.toStatus = .cancelled then some (current.id, .cancellation dto.hasExternalPayment) else none

theorem moved_flagsShow {now : Instant} {current : Order} {dto : TransitionOrderDto}
    (h : OrderMoved now current dto db db') (flags : FlagsShow history db) :
    FlagsShow ((transitionEvent current dto).toList ++ history) db' := by
  have ids := ids_of_orderKeys h.orderKeys
  have other : ∀ id, id ≠ current.id → ∀ e ∈ transitionEvent current dto, e.1 ≠ id := by
    intro id differs e is
    unfold transitionEvent at is
    split at is
    · rw [← some.inj is]
      exact fun back => differs back.symm
    · cases is
  by_cases cancels : dto.toStatus = .cancelled
  · have event : transitionEvent current dto =
        some (current.id, .cancellation dto.hasExternalPayment) := if_pos cancels
    have latest : ((transitionEvent current dto).toList ++ history).lookup current.id =
        some (.cancellation dto.hasExternalPayment) := by
      simp only [event, toList_some, singleton_append, lookup_cons, beq_self_eq_true]
    constructor
    · intro o' member
      obtain ⟨o, stored, ⟨same, rfl⟩ | ⟨differs, rfl⟩⟩ := h.order_before member
      · rw [show (applyTransition now dto o).id = current.id from same, latest]
        have flag : (applyTransition now dto o).refundStatus =
            resolveRefundStatusOnCancel dto.hasExternalPayment := if_pos cancels
        rw [flag]
        exact shows_flag (.cancellation dto.hasExternalPayment)
      · rw [lookup_event (other _ differs)]
        exact flags.shows o' stored
    · intro o' member cancelled
      obtain ⟨o, stored, ⟨same, rfl⟩ | ⟨differs, rfl⟩⟩ := h.order_before member
      · rw [show (applyTransition now dto o).id = current.id from same, latest]
        rfl
      · rw [lookup_event (other _ differs)]
        exact flags.cancelled o' stored cancelled
    · intro e listed
      rw [ids]
      rw [event] at listed
      rcases mem_cons.mp listed with rfl | old
      · exact mem_map_of_mem h.stored
      · exact flags.known e old
  · have event : transitionEvent current dto = none := if_neg cancels
    rw [event]
    constructor
    · intro o' member
      obtain ⟨o, stored, ⟨_, rfl⟩ | ⟨_, rfl⟩⟩ := h.order_before member
      · have flag : (applyTransition now dto o).refundStatus = o.refundStatus := if_neg cancels
        rw [flag]
        exact flags.shows o stored
      · exact flags.shows o' stored
    · intro o' member cancelled
      obtain ⟨o, stored, ⟨_, rfl⟩ | ⟨_, rfl⟩⟩ := h.order_before member
      · exact absurd cancelled cancels
      · exact flags.cancelled o' stored cancelled
    · intro e listed
      rw [ids]
      exact flags.known e listed

theorem checkedOut_flagsShow {order : Order} (h : CheckedOut order db db')
    (id : order.id = db.nextId) (status : order.status = .placed)
    (refundStatus : order.refundStatus = .none) (sound : Sound db) (flags : FlagsShow history db) :
    FlagsShow history db' := by
  have orders : db'.orders = db.orders ++ [order] := by rw [h.rest]
  have unknown : history.lookup order.id = none := by
    rw [lookup_eq_none_iff]
    intro e listed
    have old := sound.ordersOld e.1 (flags.known e listed)
    rw [id]
    exact bne_iff_ne.mpr (ne_of_gt old)
  constructor
  · intro o member
    rw [orders] at member
    rcases mem_append.mp member with before | new
    · exact flags.shows o before
    · rw [mem_singleton.mp new, unknown]
      exact refundStatus
  · intro o member cancelled
    rw [orders] at member
    rcases mem_append.mp member with before | new
    · exact flags.cancelled o before cancelled
    · rw [mem_singleton.mp new, status] at cancelled
      cases cancelled
  · intro e listed
    rw [orders, map_append]
    exact mem_append_left _ (flags.known e listed)

theorem ticket_flagsShow {now : Instant} {ticket : KitchenTicket} {order : Order}
    {toStatus : KitchenTicketStatus} (h : TicketMoved now ticket order toStatus db db')
    (sound : Sound db) (flags : FlagsShow history db) : FlagsShow history db' := by
  constructor
  · intro o' member
    rcases h.order_before sound member with before | ⟨same, _, flag, _⟩
    · exact flags.shows o' before
    · rw [same, flag]
      exact flags.shows order h.storedOrder
  · intro o' member cancelled
    rcases h.order_before sound member with before | ⟨_, _, _, syncs⟩
    · exact flags.cancelled o' before cancelled
    · rw [cancelled] at syncs
      exact syncs.elim
  · intro e listed
    rw [ids_of_orderKeys h.orderKeys]
    exact flags.known e listed

theorem served_flagsShow {r : Request} (h : Served db r db') (sound : Sound db)
    (flags : FlagsShow history db) : FlagsShow ((refundEvent db r).toList ++ history) db' := by
  have known : ∀ e ∈ refundEvent db r, e.1 ∈ db.orders.map Order.id :=
    fun _ is => refundEvent_known is
  cases h with
  | quiet quiet => exact quiet_flagsShow quiet known flags
  | confirmed quiet moved => exact moved_flagsShow moved (quiet_flagsShow quiet known flags)
  | moved call event moved =>
    rw [event]
    exact moved_flagsShow moved flags
  | checkedOut unflagged id status refundStatus done =>
    rw [unflagged]
    exact checkedOut_flagsShow done id status refundStatus sound flags
  | ticket accepted moved =>
    rw [refundEvent_ticket accepted]
    exact ticket_flagsShow moved sound flags

/-- In every reachable state the flag of an order shows the latest refund event of the order,
and a cancelled order has had one. -/
theorem refund_flags_show {db : Db} (init : Initial db) (rs : List Request) :
    ∀ o ∈ (run db rs).orders, ShowsLatest ((refundHistory db rs).lookup o.id) o.refundStatus ∧
      (o.status = .cancelled → ((refundHistory db rs).lookup o.id).isSome) := by
  have extend : ∀ (history : List (Id × RefundEvent)) (db : Db) (r : Request),
      Consistent db.payments db.nextId ∧ Sound db ∧ FlagsShow history db →
        Consistent (step db r).payments (step db r).nextId ∧ Sound (step db r) ∧
          FlagsShow ((refundEvent db r).toList ++ history) (step db r) := by
    intro history db r inv
    have served := step_served inv.1 r
    exact ⟨step_consistent inv.1 r, served.sound inv.2.1,
      served_flagsShow served inv.2.1 inv.2.2⟩
  have flags := (Trace.run_recorded extend
    ⟨initial_consistent init, initial_sound init, initial_flagsShow init⟩ rs).2.2
  exact fun o member => ⟨flags.shows o member, flags.cancelled o member⟩

def cancelledPaid : List Request :=
  [cashierAt 1 (.checkout 50 {}),
   cashierAt 2 (.createIntent { storeId := 2, orderId := 100, allocations := [⟨.cash, 1000⟩] }),
   cashierAt 3 (.processAllocation 103 104 none),
   cashierAt 4 (.transitionOrder 100 { toStatus := .cancelled })]

theorem refund_flags_show_cancelled : Initial shop ∧
    ∀ o ∈ (run shop cancelledPaid).orders,
      ShowsLatest ((refundHistory shop cancelledPaid).lookup o.id) o.refundStatus ∧
        (o.status = .cancelled → ((refundHistory shop cancelledPaid).lookup o.id).isSome) :=
  ⟨shop_initial, refund_flags_show shop_initial cancelledPaid⟩

theorem cancelledPaid_unflagged : Initial shop ∧ ¬MoneyFlagged (run shop cancelledPaid) := by
  refine ⟨shop_initial, fun flagged => ?_⟩
  have shown : ∃ o ∈ (run shop cancelledPaid).orders, o.status = .cancelled ∧
      (∃ i ∈ (run shop cancelledPaid).payments.intents, i.orderId = o.id ∧
        refundedOf (run shop cancelledPaid).payments i.id < i.paidAmount) ∧
          o.refundStatus = .notRequired := by
    decide +kernel
  obtain ⟨o, stored, cancelled, ⟨i, listed, owner, kept⟩, unflagged⟩ := shown
  have waits := flagged o stored cancelled i listed owner kept
  rw [unflagged] at waits
  cases waits

end Exetron.Orders
