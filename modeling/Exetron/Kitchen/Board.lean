import Exetron.Orders.Edges

/-!
# The board and the order

Two summaries of the tickets of an order: the status the synchronisation gives the order, and
the status the board shows.
-/

namespace Exetron.Kitchen

open Lib Orders List

variable {status : OrderStatus} {statuses : List KitchenTicketStatus} {orderId : Id}

def syncedStatus (status : OrderStatus) (statuses : List KitchenTicketStatus) : OrderStatus :=
  if .inProgress ∈ statuses ∧ status = .confirmed then .inPreparation
  else if statuses.length > 0 ∧ (∀ s ∈ statuses, s = .ready ∨ s = .completed) ∧
      status ∉ [.ready, .completed, .cancelled] then .ready
  else if statuses.length > 0 ∧ (∀ s ∈ statuses, s = .completed ∨ s = .cancelled) ∧
      status ∉ [.completed, .cancelled] then .completed
  else status

theorem syncedStatus_eq (now : Instant) (order : Order) (statuses : List KitchenTicketStatus) :
    syncedStatus order.status statuses = match syncUpdate now order statuses with
      | none => order.status
      | some change => (change order).status := by
  unfold syncedStatus syncUpdate
  split_ifs <;> rfl

def EndsAgree (status : OrderStatus) (statuses : List KitchenTicketStatus) : Prop :=
  (deriveBoardStatus status statuses = .completed ↔ status = .completed) ∧
    (deriveBoardStatus status statuses = .cancelled ↔ status = .cancelled)

theorem endsAgree_cancelled (statuses : List KitchenTicketStatus) :
    EndsAgree .cancelled statuses := by
  simp [EndsAgree, deriveBoardStatus]

theorem endsAgree_iff (nonempty : statuses ≠ []) (uncancelled : status ≠ .cancelled) :
    EndsAgree status statuses ↔
      ((∀ s ∈ statuses, s = .completed) ↔ status = .completed) ∧
        ¬∀ s ∈ statuses, s = .cancelled := by
  obtain ⟨first, listed⟩ := exists_mem_of_ne_nil statuses nonempty
  have exclusive : (∀ s ∈ statuses, s = .completed) → ¬∀ s ∈ statuses, s = .cancelled := by
    intro completed cancelled
    have is := completed first listed
    rw [cancelled first listed] at is
    cases is
  unfold EndsAgree deriveBoardStatus
  rw [if_neg uncancelled, if_neg nonempty]
  by_cases completed : ∀ s ∈ statuses, s = .completed
  · rw [if_pos completed, eq_true completed, eq_false (exclusive completed)]
    simp [uncancelled]
  · by_cases cancelled : ∀ s ∈ statuses, s = .cancelled
    · rw [if_neg completed, if_pos cancelled, eq_false completed, eq_true cancelled]
      simp [uncancelled]
    · rw [if_neg completed, if_neg cancelled, eq_false completed, eq_false cancelled]
      split_ifs <;> simp [uncancelled]

/-- A completed order has no ticket that is not completed, and no unfinished one is finished by
its tickets while one of them is cancelled. -/
def LeavesNoneBehind (status : OrderStatus) (statuses : List KitchenTicketStatus) : Prop :=
  (status = .completed → ∀ s ∈ statuses, s = .completed) ∧
    (status ∉ [.completed, .cancelled] →
      ¬((∀ s ∈ statuses, s = .completed ∨ s = .cancelled) ∧ .cancelled ∈ statuses))

instance (status : OrderStatus) (statuses : List KitchenTicketStatus) :
    Decidable (LeavesNoneBehind status statuses) :=
  inferInstanceAs (Decidable (_ ∧ _))

theorem endsAgree_synced_unfinished (nonempty : statuses ≠ [])
    (unfinished : status ∉ [.completed, .cancelled])
    (prepared : (∀ s ∈ statuses, s = .completed) → status = .ready) :
    EndsAgree (syncedStatus status statuses) statuses ↔
      ¬((∀ s ∈ statuses, s = .completed ∨ s = .cancelled) ∧ .cancelled ∈ statuses) := by
  have ⟨uncompleted, uncancelled⟩ : status ≠ .completed ∧ status ≠ .cancelled := by
    simpa using unfinished
  have positive : statuses.length > 0 := length_pos_of_ne_nil nonempty
  by_cases finished : ∀ s ∈ statuses, s = .completed ∨ s = .cancelled
  · have idle : .inProgress ∉ statuses := fun listed => by simpa using finished _ listed
    by_cases cancelled : .cancelled ∈ statuses
    · -- the order is completed, and the board does not show it
      have left : ¬∀ s ∈ statuses, s = .completed := fun all => by simpa using all _ cancelled
      have unprepared : ¬∀ s ∈ statuses, s = .ready ∨ s = .completed := fun all => by
        simpa using all _ cancelled
      have synced : syncedStatus status statuses = .completed := by
        rw [syncedStatus, if_neg (fun h => idle h.1), if_neg (fun h => unprepared h.2.1),
          if_pos ⟨positive, finished, unfinished⟩]
      rw [synced, endsAgree_iff nonempty (by decide)]
      constructor
      · intro agree
        exact absurd (agree.1.mpr rfl) left
      · intro none_cancelled
        exact absurd ⟨finished, cancelled⟩ none_cancelled
    · have all : ∀ s ∈ statuses, s = .completed := by
        intro s listed
        rcases finished s listed with is | is
        · exact is
        · rw [is] at listed
          exact absurd listed cancelled
      have ready := prepared all
      have synced : syncedStatus status statuses = .completed := by
        rw [syncedStatus, if_neg (fun h => idle h.1), if_neg (by simp [ready]),
          if_pos ⟨positive, finished, unfinished⟩]
      rw [synced, endsAgree_iff nonempty (by decide)]
      refine iff_of_true ⟨iff_of_true all rfl, fun gone => ?_⟩ fun h => cancelled h.2
      obtain ⟨first, listed⟩ := exists_mem_of_ne_nil statuses nonempty
      exact cancelled (gone first listed ▸ listed)
  · have left : ¬∀ s ∈ statuses, s = .completed := fun all =>
      finished fun s listed => Or.inl (all s listed)
    have kept : ¬∀ s ∈ statuses, s = .cancelled := fun all =>
      finished fun s listed => Or.inr (all s listed)
    have synced : syncedStatus status statuses ≠ .completed ∧
        syncedStatus status statuses ≠ .cancelled := by
      unfold syncedStatus
      rw [if_neg (fun h : _ ∧ _ ∧ _ => finished h.2.1)]
      split_ifs <;> simp [uncompleted, uncancelled]
    rw [endsAgree_iff nonempty synced.2]
    exact iff_of_true ⟨iff_of_false left synced.1, kept⟩ fun h => finished h.1

theorem endsAgree_synced_iff (nonempty : statuses ≠ [])
    (prepared : (∀ s ∈ statuses, s = .completed) → status ∈ [.ready, .completed, .cancelled]) :
    EndsAgree (syncedStatus status statuses) statuses ↔ LeavesNoneBehind status statuses := by
  by_cases finished : status ∈ [.completed, .cancelled]
  · have synced : syncedStatus status statuses = status := by
      rcases mem_pair.mp finished with rfl | rfl <;> simp [syncedStatus]
    rw [synced]
    rcases mem_pair.mp finished with rfl | rfl
    · rw [endsAgree_iff nonempty (by decide)]
      simp only [LeavesNoneBehind, true_implies, iff_true, mem_cons, true_or, not_true,
        false_implies, and_true]
      refine and_iff_left_of_imp fun all gone => ?_
      obtain ⟨first, listed⟩ := exists_mem_of_ne_nil statuses nonempty
      have is := all first listed
      rw [gone first listed] at is
      cases is
    · simp [endsAgree_cancelled, LeavesNoneBehind]
  · have uncompleted : status ≠ .completed := fun is => finished (by simp [is])
    rw [endsAgree_synced_unfinished nonempty finished fun all => ?_]
    · simp only [LeavesNoneBehind, uncompleted, false_implies, true_and, finished,
        not_false_eq_true, true_implies]
    · have listed := prepared all
      rcases mem_cons.mp listed with is | is
      · exact is
      · exact absurd is finished

def Unprepared (db : Db) : Prop :=
  ∀ o ∈ db.orders, o.status ∉ [.ready, .completed, .cancelled] → ∀ t ∈ db.kitchenTickets,
    t.orderId = o.id → ∃ s ∈ ticketStatuses db.kitchenTickets o.id, s ∉ [.ready, .completed]

theorem mem_ticketStatuses {tickets : List KitchenTicket} {t : KitchenTicket} (stored : t ∈ tickets)
    (owner : t.orderId = orderId) : t.status ∈ ticketStatuses tickets orderId :=
  mem_map_of_mem (mem_filter.mpr ⟨stored, decide_eq_true owner⟩)

theorem quiet_unprepared {event : Option (Id × RefundEvent)} {db db' : Db}
    (h : Quiet event db db') (unprepared : Unprepared db) : Unprepared db' := by
  intro o' member early t stored owner
  rw [h.orders] at member
  rw [h.tickets] at stored ⊢
  obtain ⟨o, before, same⟩ := mem_flagWith member
  rw [same] at early owner ⊢
  exact unprepared o before early t stored owner

theorem ticketStatuses_of_other {now : Instant} {current : Order} {dto : TransitionOrderDto}
    {db db' : Db} (h : OrderMoved now current dto db db') (other : orderId ≠ current.id) :
    ticketStatuses db'.kitchenTickets orderId = ticketStatuses db.kitchenTickets orderId := by
  have after := h.tickets
  unfold ticketStatuses
  cases moved : dto.toStatus with
  | confirmed =>
    rw [moved] at after
    obtain ⟨new, same, mine⟩ := after
    have none_new : new.filter (fun t => t.orderId = orderId) = [] := by
      rw [filter_eq_nil_iff]
      intro t listed is
      exact other ((of_decide_eq_true is).symm.trans (mine t listed).1)
    rw [same, filter_append, none_new, append_nil]
  | cancelled =>
    rw [moved] at after
    obtain ⟨at_, same⟩ := after
    have keeps : ∀ t, decide ((cancelTicket at_ t).orderId = orderId) =
        decide (t.orderId = orderId) := fun _ => rfl
    rw [same, Rows.filter_updateWhere keeps, Rows.updateWhere_eq_self]
    intro t listed
    have owner := of_decide_eq_true (mem_filter.mp listed).2
    refine decide_eq_false fun opened => other ?_
    rw [← owner]
    exact opened.1
  | placed | inPreparation | ready | completed =>
    rw [moved] at after
    rw [show db'.kitchenTickets = db.kitchenTickets from after]

theorem moved_unprepared {now : Instant} {current : Order} {dto : TransitionOrderDto} {db db' : Db}
    (h : OrderMoved now current dto db db') (follow : TicketsFollow db)
    (unprepared : Unprepared db) : Unprepared db' := by
  intro o' member early t stored owner
  obtain ⟨o, before, ⟨same, rfl⟩ | ⟨other, rfl⟩⟩ := h.order_before member
  · -- the order is confirmed or started now: each of its tickets is new or cancelled
    have mine : t.orderId = current.id := owner.trans same
    have status : t.status = .new ∨ t.status = .cancelled := by
      have allowed := h.allowed
      rcases h.ticket_before stored with before' | ⟨_, _, new⟩ | ⟨_, cancels⟩
      · cases target : dto.toStatus with
        | placed =>
          rw [target, canTransitionOrder_placed] at allowed
          cases allowed
        | confirmed =>
          rw [target] at allowed
          have placed := placed_of_canTransition_confirmed allowed
          exact absurd mine (follow.placed current h.stored placed t before')
        | inPreparation =>
          rw [target] at allowed
          have confirmed : current.status = .confirmed := by
            cases is : current.status <;> rw [is] at allowed <;> first | rfl | cases allowed
          exact follow.confirmed current h.stored confirmed t before' mine
        | ready | completed | cancelled =>
          exact absurd (show (applyTransition now dto o).status ∈ _ by simp [applyTransition, target])
            early
      · exact Or.inl new
      · exact absurd (show (applyTransition now dto o).status ∈ _ by simp [applyTransition, cancels])
          early
    refine ⟨t.status, mem_ticketStatuses stored owner, ?_⟩
    rcases status with is | is <;> simp [is]
  · have mine : o'.id ≠ current.id := other
    have listed : t.status ∈ ticketStatuses db.kitchenTickets o'.id := by
      rw [← ticketStatuses_of_other h mine]
      exact mem_ticketStatuses stored owner
    obtain ⟨t₀, kept, _⟩ := mem_map.mp listed
    obtain ⟨stored₀, owner₀⟩ := mem_filter.mp kept
    rw [ticketStatuses_of_other h mine]
    exact unprepared o' before early t₀ stored₀ (of_decide_eq_true owner₀)

section
variable {now : Instant} {ticket : KitchenTicket} {order : Order} {toStatus : KitchenTicketStatus}
  {db db' : Db} (h : TicketMoved now ticket order toStatus db db')
include h

theorem synced_status {o' : Order} (sound : Sound db) (member : o' ∈ db'.orders)
    (same : o'.id = order.id) :
    o'.status = syncedStatus order.status (ticketStatuses db'.kitchenTickets order.id) := by
  rw [syncedStatus_eq now order]
  rw [h.orders, syncedOrders] at member
  cases update : syncUpdate now order (ticketStatuses db'.kitchenTickets order.id) with
  | none =>
    rw [update] at member
    rw [sound.order_eq member h.storedOrder same]
  | some change =>
    rw [update] at member
    obtain ⟨o, before, rfl⟩ := Rows.mem_modify.mp member
    by_cases is : o.id = order.id
    · rw [if_pos is, sound.order_eq before h.storedOrder is]
    · rw [if_neg is] at same
      exact absurd same is

theorem ticketStatuses_of_unmoved (other : orderId ≠ order.id) (sound : Sound db) :
    ticketStatuses db'.kitchenTickets orderId = ticketStatuses db.kitchenTickets orderId := by
  unfold ticketStatuses
  have keeps : ∀ t, decide ((applyTicketTransition now toStatus t).orderId = orderId) =
      decide (t.orderId = orderId) := fun _ => rfl
  rw [h.tickets, movedTickets, Rows.filter_modify keeps, Rows.modify_eq_self]
  intro t listed is
  obtain ⟨stored, owner⟩ := mem_filter.mp listed
  obtain rfl := sound.ticket_eq stored h.stored is
  exact absurd ((of_decide_eq_true owner).symm.trans h.owner.symm) other

theorem uncompleted_of_unprepared (sound : Sound db) (unprepared : Unprepared db)
    (early : order.status ∉ [.ready, .completed, .cancelled]) :
    ¬∀ s ∈ ticketStatuses db'.kitchenTickets order.id, s = .completed := by
  intro completed
  obtain ⟨s, listed, unready⟩ := unprepared order h.storedOrder early ticket h.stored h.owner.symm
  obtain ⟨t, member, rfl⟩ := mem_map.mp listed
  obtain ⟨stored, owner⟩ := mem_filter.mp member
  by_cases moved : t.id = ticket.id
  · obtain rfl := sound.ticket_eq stored h.stored moved
    have last : toStatus = .completed := by
      refine completed _ ((h.mem_statuses _).mpr mem_cons_self)
    have allowed := h.allowed
    rw [last] at allowed
    have ready : t.status = .ready := by
      cases is : t.status <;> rw [is] at allowed <;> first | rfl | cases allowed
    simp [ready] at unready
  · have kept : t.status ∈ statusesAfter db.kitchenTickets ticket toStatus := by
      refine mem_cons_of_mem _ (mem_map_of_mem (mem_filter.mpr ⟨stored, ?_⟩))
      exact decide_eq_true ⟨(of_decide_eq_true owner).trans h.owner, moved⟩
    have is := completed _ ((h.mem_statuses _).mpr kept)
    simp [is] at unready

theorem ticket_unprepared (sound : Sound db) (unprepared : Unprepared db) : Unprepared db' := by
  intro o' member early t stored owner
  by_cases mine : o'.id = order.id
  · have status := synced_status h sound member mine
    rw [mine] at owner ⊢
    by_contra none_left
    have prepared : ∀ s ∈ ticketStatuses db'.kitchenTickets order.id, s = .ready ∨ s = .completed := by
      intro s listed
      by_contra unready
      exact none_left ⟨s, listed, by simpa using unready⟩
    have nonempty : (ticketStatuses db'.kitchenTickets order.id).length > 0 :=
      length_pos_of_mem (mem_ticketStatuses stored owner)
    have idle : .inProgress ∉ ticketStatuses db'.kitchenTickets order.id := fun listed => by
      simpa using prepared _ listed
    rw [status] at early
    unfold syncedStatus at early
    split_ifs at early with started readies completes
    · exact idle started.1
    · simp at early
    · simp at early
    · exact readies ⟨nonempty, prepared, early⟩
  · rw [ticketStatuses_of_unmoved h mine sound]
    have listed : t.status ∈ ticketStatuses db.kitchenTickets o'.id := by
      rw [← ticketStatuses_of_unmoved h mine sound]
      exact mem_ticketStatuses stored owner
    obtain ⟨t₀, kept, _⟩ := mem_map.mp listed
    obtain ⟨stored₀, owner₀⟩ := mem_filter.mp kept
    rcases h.order_before sound member with before | ⟨same, _⟩
    · exact unprepared o' before early t₀ stored₀ (of_decide_eq_true owner₀)
    · exact absurd same mine

end

theorem served_unprepared {db db' : Db} {r : Request} (h : Served db r db') (sound : Sound db)
    (follow : TicketsFollow db) (unprepared : Unprepared db) : Unprepared db' := by
  cases h with
  | quiet quiet => exact quiet_unprepared quiet unprepared
  | confirmed quiet moved =>
    exact moved_unprepared moved (quiet_ticketsFollow quiet follow)
      (quiet_unprepared quiet unprepared)
  | moved call event moved => exact moved_unprepared moved follow unprepared
  | @checkedOut db' order unflagged id status refundStatus done =>
    have orders : db'.orders = db.orders ++ [order] := by rw [done.rest]
    have tickets : db'.kitchenTickets = db.kitchenTickets := by rw [done.rest]
    intro o member early t stored owner
    rw [orders] at member
    rw [tickets] at stored ⊢
    rcases mem_append.mp member with before | new
    · exact unprepared o before early t stored owner
    · rw [mem_singleton.mp new, id] at owner
      exact absurd owner (ne_of_lt (sound.ticket_lt stored))
  | ticket accepted moved => exact ticket_unprepared moved sound unprepared

theorem unprepared_run {db : Db} (init : Initial db) (rs : List Request) :
    Unprepared (run db rs) := by
  have start : Unprepared db := by simp [Unprepared, init.orders]
  have keeps : ∀ db r db', Sound db → Served db r db' → True →
      TicketsFollow db ∧ Unprepared db → TicketsFollow db' ∧ Unprepared db' :=
    fun _ _ _ sound served _ inv =>
      ⟨served_ticketsFollow served sound inv.1, served_unprepared served sound inv.1 inv.2⟩
  exact (fulfilment_invariant keeps init ⟨initial_ticketsFollow init, start⟩
    (Trace.along_true db rs)).2.2

/-- In every reachable state a placed order has no tickets, those of a confirmed one are new or
cancelled, and one that is not ready has a ticket that is not. -/
theorem tickets_keep_up {db : Db} (init : Initial db) (rs : List Request) :
    TicketsFollow (run db rs) ∧ Unprepared (run db rs) :=
  ⟨Orders.ticketsFollow_run init rs, unprepared_run init rs⟩

theorem tickets_keep_up_checkout : TicketsFollow (run shop [cashierAt 1 (.checkout 50 {})]) ∧
    Unprepared (run shop [cashierAt 1 (.checkout 50 {})]) :=
  tickets_keep_up shop_initial _

def boardStatus (db : Db) (order : Order) : KitchenBoardStatus :=
  deriveBoardStatus order.status (ticketStatuses db.kitchenTickets order.id)

def BoardAgrees (db : Db) (orderId : Id) : Prop :=
  ∀ o ∈ db.orders, o.id = orderId →
    (boardStatus db o = .completed ↔ o.status = .completed) ∧
      (boardStatus db o = .cancelled ↔ o.status = .cancelled)

instance (db : Db) (orderId : Id) : Decidable (BoardAgrees db orderId) :=
  inferInstanceAs (Decidable (∀ o ∈ db.orders, o.id = orderId → _))

def EndsWhole (db : Db) (ticket : KitchenTicket) (toStatus : KitchenTicketStatus) : Prop :=
  ∀ o ∈ db.orders, o.id = ticket.orderId →
    LeavesNoneBehind o.status (statusesAfter db.kitchenTickets ticket toStatus)

instance (db : Db) (ticket : KitchenTicket) (toStatus : KitchenTicketStatus) :
    Decidable (EndsWhole db ticket toStatus) :=
  inferInstanceAs (Decidable (∀ o ∈ db.orders, _ → _))

theorem leavesNoneBehind_congr {left right : List KitchenTicketStatus}
    (same : ∀ s, s ∈ left ↔ s ∈ right) :
    LeavesNoneBehind status left ↔ LeavesNoneBehind status right := by
  simp only [LeavesNoneBehind, same]

theorem acceptedTicket_stored {db : Db} {r : Request} {ticket : KitchenTicket}
    {toStatus : KitchenTicketStatus} (accepted : acceptedTicket db r = some (ticket, toStatus)) :
    ticket ∈ db.kitchenTickets := by
  obtain ⟨env, context, call⟩ := r
  cases call with
  | transitionTicket ticketId dto =>
    simp only [acceptedTicket] at accepted
    split at accepted
    · rename_i row admitted
      obtain ⟨rfl, _⟩ := Prod.mk.inj (Option.some.inj accepted)
      exact (Table.findUnique_mem (admitTicketTransition_ok admitted).1).1
    · cases accepted
  | _ => cases accepted

theorem ticket_board_iff {now : Instant} {ticket : KitchenTicket} {order : Order}
    {toStatus : KitchenTicketStatus} {db db' : Db} (h : TicketMoved now ticket order toStatus db db')
    (sound : Sound db) (unprepared : Unprepared db) :
    BoardAgrees db' ticket.orderId ↔ EndsWhole db ticket toStatus := by
  have nonempty : ticketStatuses db'.kitchenTickets order.id ≠ [] :=
    ne_nil_of_mem ((h.mem_statuses toStatus).mpr mem_cons_self)
  have prepared : (∀ s ∈ ticketStatuses db'.kitchenTickets order.id, s = .completed) →
      order.status ∈ [.ready, .completed, .cancelled] := by
    intro completed
    by_contra early
    exact uncompleted_of_unprepared h sound unprepared early completed
  have summaries := endsAgree_synced_iff nonempty prepared
  rw [leavesNoneBehind_congr h.mem_statuses] at summaries
  constructor
  · intro agrees o stored owner
    obtain rfl := sound.order_eq stored h.storedOrder (owner.trans h.owner.symm)
    have kept : o.id ∈ db'.orders.map Order.id := by
      rw [ids_of_orderKeys h.orderKeys]
      exact mem_map_of_mem stored
    obtain ⟨o', member, same⟩ := mem_map.mp kept
    have agree := agrees o' member (same.trans owner)
    rw [boardStatus, same, synced_status h sound member same] at agree
    exact summaries.mp agree
  · intro whole o' member owner
    have same : o'.id = order.id := owner.trans h.owner.symm
    rw [boardStatus, same, synced_status h sound member same]
    exact summaries.mpr (whole order h.storedOrder h.owner)

/-- In every reachable state, a ticket transition, with the synchronisation it ends in, leaves
the board in agreement with the order exactly when the order ends whole. -/
theorem board_agrees_iff {db : Db} (init : Initial db) (rs : List Request) {r : Request}
    {ticket : KitchenTicket} {toStatus : KitchenTicketStatus}
    (accepted : acceptedTicket (run db rs) r = some (ticket, toStatus)) :
    BoardAgrees (step (run db rs) r) ticket.orderId ↔ EndsWhole (run db rs) ticket toStatus := by
  have sound := sound_run init rs
  have unprepared := unprepared_run init rs
  have stored := acceptedTicket_stored accepted
  obtain ⟨o, listed, owner⟩ := List.mem_map.mp (sound.ticketOrders ticket stored)
  obtain ⟨order, moved⟩ := ticketMoved_of_accepted sound accepted listed owner
  exact ticket_board_iff moved sound unprepared

/-- The ticket of a confirmed order, as the confirmation opens it. -/
theorem board_agrees_started : ∃ ticket, acceptedTicket (run shop (cancelledTicket.take 2))
        (cashierAt 3 (.transitionTicket 103 { toStatus := .inProgress })) =
          some (ticket, .inProgress) ∧
      BoardAgrees (step (run shop (cancelledTicket.take 2))
        (cashierAt 3 (.transitionTicket 103 { toStatus := .inProgress }))) ticket.orderId := by
  have accepted : ∃ ticket ∈ acceptedTicket (run shop (cancelledTicket.take 2))
      (cashierAt 3 (.transitionTicket 103 { toStatus := .inProgress })),
      ticket.2 = .inProgress ∧ EndsWhole (run shop (cancelledTicket.take 2)) ticket.1 ticket.2 := by
    decide +kernel
  obtain ⟨⟨ticket, _⟩, accepted, rfl, whole⟩ := accepted
  exact ⟨ticket, accepted, (board_agrees_iff shop_initial _ accepted).mpr whole⟩

/-- The only ticket of an order is cancelled: the order is completed, and the board shows it
cancelled. -/
theorem cancelledTicket_disagrees : Initial shop ∧
      (∃ ticket ∈ acceptedTicket (run shop (cancelledTicket.take 2))
        (cashierAt 3 (.transitionTicket 103 { toStatus := .cancelled })),
        ¬BoardAgrees (run shop cancelledTicket) ticket.1.orderId) ∧
      ∃ o ∈ (run shop cancelledTicket).orders, o.status = .completed ∧
        boardStatus (run shop cancelledTicket) o = .cancelled :=
  ⟨shop_initial, by decide +kernel, by decide +kernel⟩

end Exetron.Kitchen
