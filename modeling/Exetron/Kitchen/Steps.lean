import Exetron.Kitchen.Service

/-!
# Transactions of the kitchen service

What a ticket transition does to the tickets and, through them, to the order.
-/

namespace Exetron.Kitchen

open Lib Table

variable {context : RequestContext} {db : Db} {ticketId : Id} {dto : TransitionKitchenTicketDto}
  {order : Order}

theorem admitTicketTransition_ok {current : KitchenTicket}
    (h : admitTicketTransition context ticketId dto db = .ok current) :
    kitchenTickets.findUnique ticketId db = some current ∧
      canTransitionKitchenTicket current.status dto.toStatus = true := by
  simp only [admitTicketTransition, except_bind_ok_iff, except_pure_ok_iff, rejectIf_ok_iff,
    findUniqueOrThrow_ok_iff, Bool.not_eq_false] at h
  obtain ⟨_, found, _, _, _, allowed, rfl⟩ := h
  exact ⟨found, allowed⟩

def movedTickets (now : Instant) (toStatus : KitchenTicketStatus) (ticketId : Id)
    (rows : List KitchenTicket) : List KitchenTicket :=
  Rows.modify KitchenTicket.id ticketId (applyTicketTransition now toStatus) rows

def syncedOrders (now : Instant) (order : Order) (statuses : List KitchenTicketStatus)
    (rows : List Order) : List Order :=
  match syncUpdate now order statuses with
  | none => rows
  | some change => Rows.modify Order.id order.id change rows

theorem syncOrderStatusFromTickets_ok {env : Env} {orderId : Id} {u : Unit} {db' : Db}
    (h : syncOrderStatusFromTickets env context orderId db = .ok (u, db')) :
    ∃ order logs, orders.findUnique orderId db = some order ∧
      db' = { db with
        orders := syncedOrders env.now order (ticketStatuses db.kitchenTickets orderId) db.orders
        logs := logs } := by
  simp only [syncOrderStatusFromTickets, Tx.bind_ok_iff, Tx.read_ok_iff,
    findUniqueOrThrow_ok_iff] at h
  obtain ⟨order, _, ⟨found, rfl⟩, statuses, _, ⟨read, rfl⟩, h⟩ := h
  rw [Except.ok.inj read]
  cases change : syncUpdate env.now order statuses with
  | none =>
    rw [change] at h
    obtain ⟨_, rfl⟩ := Tx.pure_ok_iff.mp h
    refine ⟨order, db.logs, found, ?_⟩
    simp only [syncedOrders, change]
  | some f =>
    simp only [change, Tx.bind_ok_iff, update_ok_iff] at h
    obtain ⟨_, _, ⟨_, _, _, rfl⟩, _, _, first, _, _, second, third⟩ := h
    refine ⟨order, db'.logs, found, ?_⟩
    rw [log_ok_iff.mp third, log_ok_iff.mp second, log_ok_iff.mp first]
    simp only [syncedOrders, change]
    rfl

theorem transitionTicketTx_ok {env : Env} {db' : Db} {result : KitchenTicket}
    (h : transitionTicketTx env context ticketId dto db = .ok (result, db')) :
    ∃ current order logs, admitTicketTransition context ticketId dto db = .ok current ∧
      orders.findUnique current.orderId db = some order ∧
      db' = { db with
        kitchenTickets := movedTickets env.now dto.toStatus current.id db.kitchenTickets
        orders := syncedOrders env.now order
          (ticketStatuses (movedTickets env.now dto.toStatus current.id db.kitchenTickets)
            current.orderId) db.orders
        logs := logs } := by
  simp only [transitionTicketTx, Tx.bind_ok_iff, Tx.read_ok_iff, update_ok_iff, Tx.pure_ok_iff] at h
  obtain ⟨current, _, ⟨admitted, rfl⟩, _, _, ⟨row, found, rfl, rfl⟩, _, _, first, _, _, second,
    _, _, synced, _, rfl⟩ := h
  obtain ⟨located, _⟩ := admitTicketTransition_ok admitted
  obtain ⟨_, same⟩ := findUnique_mem located
  have rowIs : row = current := by
    have located' : kitchenTickets.findUnique current.id db = some current := by
      rw [show current.id = ticketId from same]
      exact located
    exact Option.some.inj (found.symm.trans located')
  obtain ⟨order, logs, ordered, rest⟩ := syncOrderStatusFromTickets_ok synced
  rw [log_ok_iff.mp second, log_ok_iff.mp first] at ordered rest
  rw [rowIs] at ordered rest
  exact ⟨current, order, logs, admitted, ordered, rest⟩

theorem syncOrderStatusFromTickets_succeeds (env : Env) (context : RequestContext) {orderId : Id}
    (found : orders.findUnique orderId db = some order) :
    ∃ u db', syncOrderStatusFromTickets env context orderId db = .ok (u, db') := by
  have again : orders.findUnique order.id db = some order := by
    rw [show order.id = orderId from (findUnique_mem found).2]
    exact found
  refine Tx.bind_succeeds
    ⟨order, db, Tx.read_ok_iff.mpr ⟨findUniqueOrThrow_ok_iff.mpr found, rfl⟩⟩ ?_
  intro a u read
  obtain ⟨found', rfl⟩ := Tx.read_ok_iff.mp read
  obtain rfl := Option.some.inj (found.symm.trans (findUniqueOrThrow_ok_iff.mp found'))
  refine Tx.bind_succeeds ⟨_, db, rfl⟩ fun statuses u read => ?_
  obtain ⟨_, rfl⟩ := Tx.read_ok_iff.mp read
  cases syncUpdate env.now order statuses with
  | none => exact ⟨_, _, rfl⟩
  | some change =>
    exact Tx.bind_succeeds ⟨_, _, update_found again change⟩ fun _ _ _ => ⟨_, _, rfl⟩

theorem transitionTicketTx_succeeds (env : Env) {ticket : KitchenTicket}
    (admitted : admitTicketTransition context ticketId dto db = .ok ticket)
    (ordered : orders.findUnique ticket.orderId db = some order) :
    ∃ result db', transitionTicketTx env context ticketId dto db = .ok (result, db') := by
  have located := (admitTicketTransition_ok admitted).1
  have again : kitchenTickets.findUnique ticket.id db = some ticket := by
    rw [show ticket.id = ticketId from (findUnique_mem located).2]
    exact located
  refine Tx.bind_succeeds ⟨ticket, db, Tx.read_ok_iff.mpr ⟨admitted, rfl⟩⟩ fun a u read => ?_
  obtain ⟨admitted', rfl⟩ := Tx.read_ok_iff.mp read
  obtain rfl := Except.ok.inj (admitted.symm.trans admitted')
  refine Tx.bind_succeeds ⟨_, _, update_found again _⟩ fun moved u update => ?_
  obtain ⟨row, found, rfl, rfl⟩ := update_ok_iff.mp update
  obtain rfl := Option.some.inj (again.symm.trans found)
  refine Tx.bind_succeeds ⟨(), _, log_ok_iff.mpr rfl⟩ fun _ u logged => ?_
  obtain rfl := log_ok_iff.mp logged
  refine Tx.bind_succeeds ⟨(), _, log_ok_iff.mpr rfl⟩ fun _ u logged => ?_
  obtain rfl := log_ok_iff.mp logged
  exact Tx.bind_succeeds (syncOrderStatusFromTickets_succeeds env context ordered) fun _ _ _ =>
    ⟨_, _, rfl⟩

def SyncsTo (status : OrderStatus) (statuses : List KitchenTicketStatus) : OrderStatus → Prop
  | .inPreparation => .inProgress ∈ statuses ∧ status = .confirmed
  | .ready => (∀ s ∈ statuses, s = .ready ∨ s = .completed) ∧
      status ∉ [.ready, .completed, .cancelled]
  | .completed => (∀ s ∈ statuses, s = .completed ∨ s = .cancelled) ∧
      status ∉ [.completed, .cancelled] ∧ (.cancelled ∈ statuses ∨ status = .ready)
  | _ => False

/-- A change that the synchronisation makes to an order's row. -/
structure Synchronises (change : Order → Order) (target : OrderStatus) : Prop where
  id : ∀ row, (change row).id = row.id
  tenantId : ∀ row, (change row).tenantId = row.tenantId
  refundStatus : ∀ row, (change row).refundStatus = row.refundStatus
  status : ∀ row, (change row).status = target

theorem syncUpdate_some {now : Instant} {statuses : List KitchenTicketStatus}
    {change : Order → Order} (h : syncUpdate now order statuses = some change) :
    ∃ target, Synchronises change target ∧ SyncsTo order.status statuses target := by
  unfold syncUpdate at h
  split_ifs at h with started ready finished
  · obtain rfl := Option.some.inj h
    exact ⟨.inPreparation, ⟨fun _ => rfl, fun _ => rfl, fun _ => rfl, fun _ => rfl⟩, started⟩
  · obtain rfl := Option.some.inj h
    exact ⟨.ready, ⟨fun _ => rfl, fun _ => rfl, fun _ => rfl, fun _ => rfl⟩, ready.2⟩
  · obtain rfl := Option.some.inj h
    refine ⟨.completed, ⟨fun _ => rfl, fun _ => rfl, fun _ => rfl, fun _ => rfl⟩,
      finished.2.1, finished.2.2, ?_⟩
    by_cases cancelled : .cancelled ∈ statuses
    · exact Or.inl cancelled
    · -- every ticket is completed, so only the order's status can have kept `READY` away
      have completed : ∀ s ∈ statuses, s = .ready ∨ s = .completed := by
        intro s listed
        rcases finished.2.1 s listed with done | gone
        · exact Or.inr done
        · rw [gone] at listed
          exact absurd listed cancelled
      refine Or.inr ?_
      have passed : order.status ∈ [.ready, .completed, .cancelled] := by
        by_contra early
        exact ready ⟨finished.1, completed, early⟩
      have unfinished := finished.2.2
      cases status : order.status <;> simp [status] at passed unfinished ⊢

def statusesAfter (rows : List KitchenTicket) (ticket : KitchenTicket)
    (toStatus : KitchenTicketStatus) : List KitchenTicketStatus :=
  toStatus :: (rows.filter fun t => t.orderId = ticket.orderId ∧ t.id ≠ ticket.id).map
    KitchenTicket.status

theorem mem_ticketStatuses_moved {rows : List KitchenTicket} {ticket : KitchenTicket}
    (stored : ticket ∈ rows) (now : Instant) (toStatus s : KitchenTicketStatus) :
    s ∈ ticketStatuses (movedTickets now toStatus ticket.id rows) ticket.orderId ↔
      s ∈ statusesAfter rows ticket toStatus := by
  unfold ticketStatuses statusesAfter
  constructor
  · intro listed
    obtain ⟨t', member, rfl⟩ := List.mem_map.mp listed
    obtain ⟨member, mine⟩ := List.mem_filter.mp member
    obtain ⟨t, before, rfl⟩ := Rows.mem_modify.mp member
    by_cases same : t.id = ticket.id
    · rw [if_pos same]
      exact List.mem_cons_self
    · rw [if_neg same] at mine ⊢
      refine List.mem_cons_of_mem _ (List.mem_map.mpr ⟨t, List.mem_filter.mpr ⟨before, ?_⟩, rfl⟩)
      exact decide_eq_true ⟨of_decide_eq_true mine, same⟩
  · intro listed
    rcases List.mem_cons.mp listed with rfl | listed
    · refine List.mem_map.mpr ⟨applyTicketTransition now s ticket, ?_, rfl⟩
      refine List.mem_filter.mpr ⟨Rows.mem_modify.mpr ⟨ticket, stored, if_pos rfl⟩, ?_⟩
      exact decide_eq_true rfl
    · obtain ⟨t, member, rfl⟩ := List.mem_map.mp listed
      obtain ⟨before, other⟩ := List.mem_filter.mp member
      obtain ⟨mine, different⟩ := of_decide_eq_true other
      refine List.mem_map.mpr ⟨t, List.mem_filter.mpr ⟨?_, decide_eq_true mine⟩, rfl⟩
      exact Rows.mem_modify.mpr ⟨t, before, if_neg different⟩

end Exetron.Kitchen
