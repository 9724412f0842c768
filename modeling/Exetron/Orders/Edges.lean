import Exetron.Fulfilment

/-!
# Edges of the lifecycle

`transitionOrder` checks every move against `canTransitionOrder`. The kitchen derives an order's
status from its tickets instead: that is an edge too, unless it finishes an order whose tickets
were not all prepared.
-/

namespace Exetron.Orders

open Lib Kitchen

/-- Once the ticket has moved, all tickets of its order are finished, one of them by being
cancelled. -/
def FinishesCancelled (rows : List KitchenTicket) (ticket : KitchenTicket)
    (toStatus : KitchenTicketStatus) : Prop :=
  (∀ s ∈ statusesAfter rows ticket toStatus, s = .completed ∨ s = .cancelled) ∧
    .cancelled ∈ statusesAfter rows ticket toStatus

instance (rows : List KitchenTicket) (ticket : KitchenTicket) (toStatus : KitchenTicketStatus) :
    Decidable (FinishesCancelled rows ticket toStatus) :=
  inferInstanceAs (Decidable (_ ∧ _))

def SkipsNothing (db : Db) (r : Request) : Prop :=
  ∀ m ∈ acceptedTicket db r, ∀ o ∈ db.orders, o.id = m.1.orderId →
    o.status ∈ [.confirmed, .inPreparation] → ¬FinishesCancelled db.kitchenTickets m.1 m.2

instance (db : Db) (r : Request) : Decidable (SkipsNothing db r) :=
  inferInstanceAs (Decidable (∀ m ∈ acceptedTicket db r, ∀ o ∈ db.orders, _ → _ → ¬_))

def MovesAlongEdges (db db' : Db) : Prop :=
  ∀ o ∈ db.orders, ∀ o' ∈ db'.orders, o'.id = o.id → o'.status ≠ o.status →
    canTransitionOrder o.status o'.status = true

/-- A placed order has no tickets, and a confirmed one no ticket that was started. -/
structure TicketsFollow (db : Db) : Prop where
  placed : ∀ o ∈ db.orders, o.status = .placed → ∀ t ∈ db.kitchenTickets, t.orderId ≠ o.id
  confirmed : ∀ o ∈ db.orders, o.status = .confirmed → ∀ t ∈ db.kitchenTickets,
    t.orderId = o.id → t.status = .new ∨ t.status = .cancelled

theorem initial_ticketsFollow {db : Db} (init : Initial db) : TicketsFollow db where
  placed := by simp [init.orders]
  confirmed := by simp [init.orders]

theorem quiet_ticketsFollow {event : Option (Id × RefundEvent)} {db db' : Db}
    (h : Quiet event db db') (follow : TicketsFollow db) : TicketsFollow db' := by
  constructor
  · intro o' member placed t stored
    rw [h.orders] at member
    rw [h.tickets] at stored
    obtain ⟨o, before, same⟩ := mem_flagWith member
    rw [same] at placed ⊢
    exact follow.placed o before placed t stored
  · intro o' member confirmed t stored owner
    rw [h.orders] at member
    rw [h.tickets] at stored
    obtain ⟨o, before, same⟩ := mem_flagWith member
    rw [same] at confirmed owner
    exact follow.confirmed o before confirmed t stored owner

theorem moved_ticketsFollow {now : Instant} {current : Order} {dto : TransitionOrderDto} {db db' : Db}
    (h : OrderMoved now current dto db db') (follow : TicketsFollow db) : TicketsFollow db' := by
  constructor
  · intro o' member placed t stored owner
    obtain ⟨o, before, ⟨_, rfl⟩ | ⟨other, rfl⟩⟩ := h.order_before member
    · have allowed := h.allowed
      rw [show dto.toStatus = .placed from placed, canTransitionOrder_placed] at allowed
      cases allowed
    · rcases h.ticket_before stored with before' | ⟨mine, _⟩ | ⟨mine, _⟩
      · exact follow.placed o' before placed t before' owner
      · exact other (owner.symm.trans mine)
      · exact other (owner.symm.trans mine)
  · intro o' member confirmed t stored owner
    obtain ⟨o, before, ⟨same, rfl⟩ | ⟨other, rfl⟩⟩ := h.order_before member
    · have target : dto.toStatus = .confirmed := confirmed
      have allowed := h.allowed
      rw [target] at allowed
      have placed := placed_of_canTransition_confirmed allowed
      rcases h.ticket_before stored with before' | ⟨_, _, new⟩ | ⟨_, cancels⟩
      · exact absurd (owner.trans same) (follow.placed current h.stored placed t before')
      · exact Or.inl new
      · rw [target] at cancels
        cases cancels
    · rcases h.ticket_before stored with before' | ⟨mine, _⟩ | ⟨mine, _⟩
      · exact follow.confirmed o' before confirmed t before' owner
      all_goals exact absurd (owner.symm.trans mine) other

section
variable {now : Instant} {ticket : KitchenTicket} {order : Order} {toStatus : KitchenTicketStatus}
  {db db' : Db} (h : TicketMoved now ticket order toStatus db db')
include h

theorem ticket_of_confirmed (follow : TicketsFollow db) (confirmed : order.status = .confirmed) :
    toStatus = .inProgress ∨ toStatus = .cancelled := by
  have allowed := h.allowed
  rcases follow.confirmed order h.storedOrder confirmed ticket h.stored h.owner.symm with new | gone
  · rw [new] at allowed
    exact inProgress_or_cancelled_of_new allowed
  · rw [gone, not_canTransition_cancelled] at allowed
    cases allowed

theorem started_takes_order (confirmed : order.status = .confirmed) (started : toStatus = .inProgress)
    {o' : Order} (member : o' ∈ db'.orders) (same : o'.id = order.id) :
    o'.status = .inPreparation := by
  have listed : .inProgress ∈ ticketStatuses db'.kitchenTickets order.id := by
    rw [h.mem_statuses, started]
    exact List.mem_cons_self
  rw [h.orders, syncedOrders, syncUpdate, if_pos ⟨listed, confirmed⟩] at member
  obtain ⟨o, before, rfl⟩ := Rows.mem_modify.mp member
  split
  · rfl
  · rename_i other
    rw [if_neg other] at same
    exact absurd same other

theorem ticket_ticketsFollow (sound : Sound db) (follow : TicketsFollow db) : TicketsFollow db' := by
  have owners : ∀ t' ∈ db'.kitchenTickets, ∃ t ∈ db.kitchenTickets, t'.orderId = t.orderId ∧
      ((t.id = ticket.id ∧ t'.status = toStatus) ∨ t' = t) := by
    intro t' stored
    rw [h.tickets] at stored
    obtain ⟨t, before, rfl⟩ := Rows.mem_modify.mp stored
    refine ⟨t, before, ?_⟩
    split
    · exact ⟨rfl, Or.inl ⟨‹_›, rfl⟩⟩
    · exact ⟨rfl, Or.inr rfl⟩
  constructor
  · intro o' member placed t' stored owner
    obtain ⟨t, before, same, _⟩ := owners t' stored
    rcases h.order_before sound member with kept | ⟨_, _, _, syncs⟩
    · exact follow.placed o' kept placed t before (same.symm.trans owner)
    · rw [placed] at syncs
      exact syncs
  · intro o' member confirmed t' stored owner
    obtain ⟨t, before, same, moved⟩ := owners t' stored
    rcases h.order_before sound member with kept | ⟨_, _, _, syncs⟩
    · rcases moved with ⟨isTicket, status⟩ | rfl
      · have mine : o'.id = order.id := by
          rw [h.owner, ← sound.ticket_eq before h.stored isTicket, ← same, owner]
        obtain rfl := sound.order_eq kept h.storedOrder mine
        rcases ticket_of_confirmed h follow confirmed with started | gone
        · have prepares := started_takes_order h confirmed started member rfl
          rw [confirmed] at prepares
          cases prepares
        · exact Or.inr (status.trans gone)
      · exact follow.confirmed o' kept confirmed t' before owner
    · rw [confirmed] at syncs
      exact syncs.elim

end

theorem checkedOut_ticketsFollow {order : Order} {db db' : Db} (h : CheckedOut order db db')
    (id : order.id = db.nextId) (status : order.status = .placed) (sound : Sound db)
    (follow : TicketsFollow db) : TicketsFollow db' := by
  have orders : db'.orders = db.orders ++ [order] := by rw [h.rest]
  have tickets : db'.kitchenTickets = db.kitchenTickets := by rw [h.rest]
  constructor
  · intro o member placed t stored owner
    rw [orders] at member
    rw [tickets] at stored
    rcases List.mem_append.mp member with before | new
    · exact follow.placed o before placed t stored owner
    · rw [List.mem_singleton.mp new, id] at owner
      exact absurd owner (ne_of_lt (sound.ticket_lt stored))
  · intro o member confirmed t stored owner
    rw [orders] at member
    rw [tickets] at stored
    rcases List.mem_append.mp member with before | new
    · exact follow.confirmed o before confirmed t stored owner
    · rw [List.mem_singleton.mp new, status] at confirmed
      cases confirmed

theorem served_ticketsFollow {db db' : Db} {r : Request} (h : Served db r db') (sound : Sound db)
    (follow : TicketsFollow db) : TicketsFollow db' := by
  cases h with
  | quiet quiet => exact quiet_ticketsFollow quiet follow
  | confirmed quiet moved => exact moved_ticketsFollow moved (quiet_ticketsFollow quiet follow)
  | moved call event moved => exact moved_ticketsFollow moved follow
  | checkedOut unflagged id status refundStatus done =>
    exact checkedOut_ticketsFollow done id status sound follow
  | ticket accepted moved => exact ticket_ticketsFollow moved sound follow

theorem moved_alongEdges {now : Instant} {current : Order} {dto : TransitionOrderDto} {db m db' : Db}
    {event : Option (Id × RefundEvent)} (quiet : Quiet event db m) (sound : Sound db)
    (h : OrderMoved now current dto m db') : MovesAlongEdges db db' := by
  intro o stored o' member same changed
  obtain ⟨q, before, moved⟩ := h.order_before member
  rw [quiet.orders] at before
  obtain ⟨p, stored', kept⟩ := mem_flagWith before
  rcases moved with ⟨isCurrent, rfl⟩ | ⟨_, rfl⟩
  · have target : p = o := by
      refine sound.order_eq stored' stored ?_
      rw [← same, show (applyTransition now dto q).id = q.id from rfl, kept]
    have status : current.status = o.status := by
      have current_is : q = current :=
        (quiet.sound sound).order_eq (by rw [quiet.orders]; exact before) h.stored isCurrent
      rw [← current_is, kept, target]
    rw [← status]
    exact h.allowed
  · have target : p = o := by
      refine sound.order_eq stored' stored ?_
      rw [← same, kept]
    rw [kept, target] at changed
    exact absurd rfl changed

/-- The synchronisation follows the edges when it finishes no order in preparation with a
cancelled ticket. -/
theorem ticket_alongEdges {now : Instant} {ticket : KitchenTicket} {order : Order}
    {toStatus : KitchenTicketStatus} {db db' : Db} (h : TicketMoved now ticket order toStatus db db')
    (sound : Sound db) (follow : TicketsFollow db)
    (skips : order.status ∈ [.confirmed, .inPreparation] →
      ¬FinishesCancelled db.kitchenTickets ticket toStatus) : MovesAlongEdges db db' := by
  intro o stored o' member same changed
  rcases h.order_before sound member with kept | ⟨isOrder, _, _, syncs⟩
  · rw [sound.order_eq kept stored same] at changed
    exact absurd rfl changed
  · obtain rfl := sound.order_eq stored h.storedOrder (same.symm.trans isOrder)
    have unplaced : o.status ≠ .placed := fun placed =>
      follow.placed o stored placed ticket h.stored h.owner.symm
    have toListed : toStatus ∈ ticketStatuses db'.kitchenTickets o.id := by
      rw [h.mem_statuses]
      exact List.mem_cons_self
    cases target : o'.status with
    | placed | confirmed | cancelled =>
      rw [target] at syncs
      exact syncs.elim
    | inPreparation =>
      rw [target] at syncs
      rw [syncs.2]
      rfl
    | ready =>
      rw [target] at syncs
      obtain ⟨prepared, early⟩ := syncs
      have unconfirmed : o.status ≠ .confirmed := by
        intro confirmed
        have finished := prepared toStatus toListed
        rcases ticket_of_confirmed h follow confirmed with is | is
        all_goals
          rw [is] at finished
          simp at finished
      cases status : o.status <;> simp [status] at early unplaced unconfirmed ⊢
      rfl
    | completed =>
      rw [target] at syncs
      obtain ⟨finished, early, reason⟩ := syncs
      have prepared : o.status ∉ [.confirmed, .inPreparation] := by
        intro inWork
        have all := fun s listed => finished s ((h.mem_statuses s).mpr listed)
        rcases reason with cancelled | ready
        · exact skips inWork ⟨all, (h.mem_statuses .cancelled).mp cancelled⟩
        · rw [ready] at inWork
          simp at inWork
      cases status : o.status <;> simp [status] at early unplaced prepared ⊢
      rfl

theorem served_alongEdges {db db' : Db} {r : Request} (h : Served db r db') (sound : Sound db)
    (follow : TicketsFollow db) (skips : SkipsNothing db r) : MovesAlongEdges db db' := by
  cases h with
  | quiet quiet =>
    intro o stored o' member same changed
    rw [quiet.orders] at member
    obtain ⟨p, before, kept⟩ := mem_flagWith member
    have target : p = o := by
      refine sound.order_eq before stored ?_
      rw [← same, kept]
    rw [kept, target] at changed
    exact absurd rfl changed
  | confirmed quiet moved => exact moved_alongEdges quiet sound moved
  | moved call event moved => exact moved_alongEdges (quiet_refl db) sound moved
  | @checkedOut db' order unflagged id status refundStatus done =>
    intro o stored o' member same changed
    have orders : db'.orders = db.orders ++ [order] := by rw [done.rest]
    rw [orders] at member
    rcases List.mem_append.mp member with before | new
    · rw [sound.order_eq before stored same] at changed
      exact absurd rfl changed
    · rw [List.mem_singleton.mp new, id] at same
      exact absurd same.symm (ne_of_lt (sound.order_lt stored))
  | ticket accepted moved =>
    exact ticket_alongEdges moved sound follow (skips _ accepted _ moved.storedOrder moved.owner)

/-- A ticket transition that finishes the tickets of an order in preparation, one of them
cancelled, completes the order at once. -/
theorem ticket_skips {db : Db} {r : Request} {ticket : KitchenTicket} {toStatus : KitchenTicketStatus}
    {o : Order} (sound : Sound db) (accepted : acceptedTicket db r = some (ticket, toStatus))
    (stored : o ∈ db.orders) (owner : o.id = ticket.orderId)
    (inWork : o.status ∈ [.confirmed, .inPreparation])
    (finishes : FinishesCancelled db.kitchenTickets ticket toStatus) :
    ¬MovesAlongEdges db (step db r) := by
  obtain ⟨finished, cancelled⟩ := finishes
  obtain ⟨order, moved⟩ := ticketMoved_of_accepted sound accepted stored owner
  obtain rfl := sound.order_eq stored moved.storedOrder (owner.trans moved.owner.symm)
  have statuses := moved.mem_statuses
  generalize step db r = db' at moved statuses ⊢
  have update : ∃ change, syncUpdate r.env.now o (ticketStatuses db'.kitchenTickets o.id) =
      some change ∧ (change o).id = o.id ∧ (change o).status = .completed := by
    have unstarted : .inProgress ∉ ticketStatuses db'.kitchenTickets o.id := by
      intro listed
      rcases finished _ ((statuses _).mp listed) with is | is
      · cases is
      · cases is
    have unprepared : ¬∀ s ∈ ticketStatuses db'.kitchenTickets o.id, s = .ready ∨ s = .completed := by
      intro all
      rcases all .cancelled ((statuses _).mpr cancelled) with is | is
      · cases is
      · cases is
    have nonempty : (ticketStatuses db'.kitchenTickets o.id).length > 0 :=
      List.length_pos_of_mem ((statuses _).mpr cancelled)
    have all : ∀ s ∈ ticketStatuses db'.kitchenTickets o.id, s = .completed ∨ s = .cancelled :=
      fun s listed => finished s ((statuses s).mp listed)
    have early : o.status ∉ [.completed, .cancelled] := by
      rcases List.mem_pair.mp inWork with is | is <;> simp [is]
    unfold syncUpdate
    rw [if_neg (fun h => unstarted h.1), if_neg (fun h => unprepared h.2.1),
      if_pos ⟨nonempty, all, early⟩]
    exact ⟨_, rfl, rfl, rfl⟩
  obtain ⟨change, update, id, status⟩ := update
  have member : change o ∈ db'.orders := by
    rw [moved.orders, syncedOrders, update]
    exact Rows.mem_modify.mpr ⟨o, stored, if_pos rfl⟩
  intro edges
  have edge := edges o stored (change o) member id
  rw [status] at edge
  rcases List.mem_pair.mp inWork with is | is
  all_goals
    rw [is] at edge
    exact absurd (edge (by decide)) (by decide)

theorem ticketsFollow_run {db : Db} (init : Initial db) (rs : List Request) :
    TicketsFollow (run db rs) := by
  have keeps : ∀ db r db', Sound db → Served db r db' → True → TicketsFollow db →
      TicketsFollow db' :=
    fun _ _ _ sound served _ => served_ticketsFollow served sound
  exact (fulfilment_invariant keeps init (initial_ticketsFollow init) (Trace.along_true db rs)).2

/-- In every reachable state, a request changes the statuses of orders along the edges of the
lifecycle exactly when it skips nothing. -/
theorem moves_along_edges_iff {db : Db} {rs : List Request} (init : Initial db) (r : Request) :
    MovesAlongEdges (run db rs) (step (run db rs) r) ↔ SkipsNothing (run db rs) r := by
  have sound := sound_run init rs
  constructor
  · intro edges m accepted o stored owner inWork finishes
    exact ticket_skips sound accepted stored owner inWork finishes edges
  · intro skips
    exact served_alongEdges (step_served (consistent_run init rs) r) sound
      (ticketsFollow_run init rs) skips

def cancelledTicket : List Request :=
  [cashierAt 1 (.checkout 50 {}),
   cashierAt 2 (.transitionOrder 100 { toStatus := .confirmed }),
   cashierAt 3 (.transitionTicket 103 { toStatus := .cancelled })]

theorem moves_along_edges_started :
    MovesAlongEdges (run shop (cancelledTicket.take 2)) (step (run shop (cancelledTicket.take 2))
      (cashierAt 3 (.transitionTicket 103 { toStatus := .inProgress }))) :=
  (moves_along_edges_iff shop_initial _).mpr (by decide +kernel)

theorem cancelledTicket_completes : Initial shop ∧ ∃ o ∈ (run shop (cancelledTicket.take 2)).orders,
      ∃ o' ∈ (run shop cancelledTicket).orders, o'.id = o.id ∧ o.status = .confirmed ∧
        o'.status = .completed ∧ canTransitionOrder o.status o'.status = false :=
  ⟨shop_initial, by decide +kernel⟩

end Exetron.Orders
