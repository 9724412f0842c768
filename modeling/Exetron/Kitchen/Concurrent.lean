import Exetron.Kitchen.Sync
import Exetron.Lib.ReadCommitted
import Exetron.Lib.Sessions

/-!
# Concurrent ticket transitions

Two tickets of one order are moved at the same time. Each transaction writes its own ticket and
then works out the order's status from the tickets it sees, which are those committed by then.
-/

namespace Exetron.Kitchen.Concurrent

open Lib Sessions
open ReadCommitted (Side)

instance : Fintype Side := ⟨{.left, .right}, fun side => by cases side <;> decide⟩

/-! ### The statements of a transition -/

/-- The rows that a transition locks. -/
inductive Key where
  | ticket (id : Id)
  | order (id : Id)
  deriving DecidableEq

abbrev KitchenProgram := Program Db Key (Except ApiException KitchenTicket)

abbrev KitchenWorld := World Side Db Key (Except ApiException KitchenTicket)

structure TicketTransition where
  env : Env
  context : RequestContext
  ticketId : Id
  dto : TransitionKitchenTicketDto

def TicketTransition.move (call : TicketTransition) : KitchenTicket → KitchenTicket :=
  applyTicketTransition call.env.now call.dto.toStatus

def moveTicket (call : TicketTransition) (ticket : KitchenTicket) (db : Db) : Db :=
  { db with
    kitchenTickets :=
      movedTickets call.env.now call.dto.toStatus ticket.id db.kitchenTickets
    logs := { db.logs with
      audit := db.logs.audit ++
        [{ tenantId := ticket.tenantId
           storeId := ticket.storeId
           actorType := .user
           actorId := .user call.context.userId
           action := "kitchen.ticket_status_changed"
           entityType := "kitchen_ticket"
           entityId := ticket.id }]
      domainEvents := db.logs.domainEvents ++
        [⟨ticket.tenantId, "kitchen.ticket_status_changed", "kitchen_ticket", ticket.id⟩] } }

def moveOrder (call : TicketTransition) (order : Order) (change : Order → Order) (db : Db) : Db :=
  { db with
    orders := Rows.modify Order.id order.id change db.orders
    logs := { db.logs with
      orderEvents := db.logs.orderEvents ++
        [⟨order.id, order.tenantId, order.storeId, "order.status_changed"⟩]
      audit := db.logs.audit ++
        [{ tenantId := order.tenantId
           storeId := order.storeId
           actorType := .user
           actorId := .user call.context.userId
           action := "order.status_changed"
           entityType := "order"
           entityId := order.id }]
      domainEvents := db.logs.domainEvents ++
        [⟨order.tenantId, "order.status_changed", "order", order.id⟩] } }

def settle (call : TicketTransition) (ticket : KitchenTicket) (order : Order)
    (statuses : List KitchenTicketStatus) : KitchenProgram :=
  match syncUpdate call.env.now order statuses with
  | none => .commit (.stop (.ok ticket))
  | some change =>
    .write [.order order.id] (moveOrder call order change) (.commit (.stop (.ok ticket)))

def synchronise (call : TicketTransition) (ticket : KitchenTicket) : KitchenProgram :=
  .read fun db =>
    match orders.findUniqueOrThrow ticket.orderId db with
    | .error e => .rollback (.stop (.error e))
    | .ok order =>
      .read fun db => settle call ticket order (ticketStatuses db.kitchenTickets ticket.orderId)

def statements (call : TicketTransition) : KitchenProgram :=
  .read fun db =>
    match admitTicketTransition call.context call.ticketId call.dto db with
    | .error e => .rollback (.stop (.error e))
    | .ok current =>
      .write [.ticket current.id] (moveTicket call current) (synchronise call (call.move current))

section
variable {call : TicketTransition} {db : Db} {ticket : KitchenTicket}

/-- The synchronisation, by a session that sees `db`. -/
theorem synchronise_alone (base : Db) : alone (synchronise call ticket) base db =
      match syncOrderStatusFromTickets call.env call.context ticket.orderId db with
      | .ok (_, db') => (db', .ok ticket)
      | .error e => (base, .error e) := by
  cases found : orders.findUniqueOrThrow ticket.orderId db with
  | error e =>
    simp only [synchronise, alone, found, syncOrderStatusFromTickets, bind, StateT.bind, Tx.read,
      Except.map, Except.bind]
  | ok order =>
    obtain ⟨_, same⟩ := Table.findUnique_mem (Table.findUniqueOrThrow_ok_iff.mp found)
    have again : orders.findUnique order.id db = some order := by
      rw [show order.id = ticket.orderId from same]
      exact Table.findUniqueOrThrow_ok_iff.mp found
    cases change : syncUpdate call.env.now order
        (ticketStatuses db.kitchenTickets ticket.orderId) with
    | none =>
      have done : syncOrderStatusFromTickets call.env call.context ticket.orderId db =
          .ok ((), db) := by
        simp only [syncOrderStatusFromTickets, Tx.bind_ok_iff, Tx.read_ok_iff]
        refine ⟨order, db, ⟨found, rfl⟩, _, db, ⟨rfl, rfl⟩, ?_⟩
        rw [change]
        rfl
      simp only [synchronise, alone, found, settle, change, done]
    | some f =>
      obtain ⟨⟨id, tenantId, storeId⟩, _⟩ := syncUpdate_eq_some change order
      have done : syncOrderStatusFromTickets call.env call.context ticket.orderId db =
          .ok ((), moveOrder call order f db) := by
        simp only [syncOrderStatusFromTickets, Tx.bind_ok_iff, Tx.read_ok_iff]
        refine ⟨order, db, ⟨found, rfl⟩, _, db, ⟨rfl, rfl⟩, ?_⟩
        rw [change]
        simp only [Tx.bind_ok_iff]
        refine ⟨_, _, Table.update_found again f, (), _, log_ok_iff.mpr rfl, (), _,
          log_ok_iff.mpr rfl, log_ok_iff.mpr ?_⟩
        rw [id, tenantId, storeId]
        rfl
      simp only [synchronise, alone, found, settle, change, done]

/-- The statements of a transition, with nothing between them, do what the transition does. -/
theorem ticketStatements_alone (call : TicketTransition) (db : Db) : alone (statements call) db db =
      ((Call.exec (transitionTicket call.env call.context call.ticketId call.dto) db).2,
        (Call.exec (transitionTicket call.env call.context call.ticketId call.dto) db).1) := by
  rw [transitionTicket, Call.exec_transact]
  cases admitted : admitTicketTransition call.context call.ticketId call.dto db with
  | error e =>
    have failed : transitionTicketTx call.env call.context call.ticketId call.dto db =
        .error e := by
      refine Tx.bind_of_error ?_ _
      rw [Tx.read, admitted]
      rfl
    simp only [statements, alone, admitted, failed]
  | ok current =>
    obtain ⟨located, _⟩ := admitTicketTransition_ok admitted
    have again : kitchenTickets.findUnique current.id db = some current := by
      rw [show current.id = call.ticketId from (Table.findUnique_mem located).2]
      exact located
    have moved : transitionTicketTx call.env call.context call.ticketId call.dto db =
        match syncOrderStatusFromTickets call.env call.context current.orderId
          (moveTicket call current db) with
        | .ok (_, db') => .ok (call.move current, db')
        | .error e => .error e := by
      rw [transitionTicketTx, Tx.bind_of_ok (Tx.read_ok_iff.mpr ⟨admitted, rfl⟩),
        Tx.bind_of_ok (Table.update_found again _), recordAudit, recordDomainEvent,
        Tx.bind_of_ok (log_ok_iff (u := ()) |>.mpr rfl),
        Tx.bind_of_ok (log_ok_iff (u := ()) |>.mpr rfl)]
      cases synced : syncOrderStatusFromTickets call.env call.context current.orderId
          (moveTicket call current db) with
      | ok r => exact Tx.bind_of_ok synced _
      | error e => exact Tx.bind_of_error synced _
    have order : (call.move current).orderId = current.orderId := rfl
    rw [moved]
    simp only [statements, alone, admitted, synchronise_alone, order]
    cases syncOrderStatusFromTickets call.env call.context current.orderId
      (moveTicket call current db) with
    | ok r => rfl
    | error e => rfl

end

/-! ### What the store shows -/

/-- Two transitions of tickets of one order, the statuses these tickets start from and those of
the order's other tickets. -/
structure Scene where
  calls : Side → TicketTransition
  orderId : Id
  origin : Side → KitchenTicketStatus
  others : List KitchenTicketStatus

namespace Scene
variable (scene : Scene)

def goal (side : Side) : KitchenTicketStatus := (scene.calls side).dto.toStatus

/-- A ticket's status, when the sides in `moved` have moved theirs. -/
def status (moved : Side → Bool) (side : Side) : KitchenTicketStatus :=
  if moved side then scene.goal side else scene.origin side

def statuses (moved : Side → Bool) : List KitchenTicketStatus :=
  scene.status moved .left :: scene.status moved .right :: scene.others

end Scene

def joined (side : Side) (moved : Side → Bool) : Side → Bool := fun s => s = side ∨ moved s

def neither : Side → Bool := fun _ => false

def both : Side → Bool := fun _ => true

def only (side : Side) : Side → Bool := fun s => s = side

def orderStatus (orderId : Id) (db : Db) : Option OrderStatus :=
  (orders.findUnique orderId db).map Order.status

/-- The store has the order in a status and the tickets as some sides have moved them. -/
structure Shows (scene : Scene) (db : Db) (status : OrderStatus) (moved : Side → Bool) : Prop where
  order : orderStatus scene.orderId db = some status
  stored : ∀ side, (scene.calls side).ticketId ∈ db.kitchenTickets.map KitchenTicket.id
  moved : ∀ side, ∀ t ∈ db.kitchenTickets, t.id = (scene.calls side).ticketId →
    t.orderId = scene.orderId ∧ t.status = scene.status moved side
  others : ∀ s, s ∈ scene.others ↔ ∃ t ∈ db.kitchenTickets, t.orderId = scene.orderId ∧
    (∀ side, t.id ≠ (scene.calls side).ticketId) ∧ t.status = s

section
variable {scene : Scene} {db : Db} {status : OrderStatus} {moved : Side → Bool} {side : Side}

theorem mem_statuses (side : Side) {s : KitchenTicketStatus} : s ∈ scene.statuses moved ↔
      s = scene.status moved side ∨ s = scene.status moved side.other ∨ s ∈ scene.others := by
  cases side with
  | left => simp [Scene.statuses, Side.other]
  | right => simp [Scene.statuses, Side.other, or_left_comm]

theorem Shows.statuses (shows_ : Shows scene db status moved) (s : KitchenTicketStatus) :
    s ∈ ticketStatuses db.kitchenTickets scene.orderId ↔ s ∈ scene.statuses moved := by
  rw [mem_statuses .left]
  simp only [ticketStatuses, List.mem_map, List.mem_filter, decide_eq_true_eq]
  constructor
  · rintro ⟨t, ⟨stored, mine⟩, rfl⟩
    by_cases left : t.id = (scene.calls .left).ticketId
    · exact .inl (shows_.moved .left t stored left).2
    · by_cases right : t.id = (scene.calls .right).ticketId
      · exact .inr (.inl (shows_.moved .right t stored right).2)
      · refine .inr (.inr ((shows_.others _).mpr ⟨t, stored, mine, fun side => ?_, rfl⟩))
        cases side
        · exact left
        · exact right
  · have own : ∀ side, ∃ t, (t ∈ db.kitchenTickets ∧ t.orderId = scene.orderId) ∧
        t.status = scene.status moved side := by
      intro side
      obtain ⟨t, stored, same⟩ := List.mem_map.mp (shows_.stored side)
      obtain ⟨mine, is⟩ := shows_.moved side t stored same
      exact ⟨t, ⟨stored, mine⟩, is⟩
    rintro (rfl | rfl | other)
    · exact own .left
    · exact own .right
    · obtain ⟨t, stored, mine, _, is⟩ := (shows_.others s).mp other
      exact ⟨t, ⟨stored, mine⟩, is⟩

theorem Shows.moveTicket (different : (scene.calls .left).ticketId ≠ (scene.calls .right).ticketId)
    (shows_ : Shows scene db status moved) {ticket : KitchenTicket}
    (is : ticket.id = (scene.calls side).ticketId) :
    Shows scene (moveTicket (scene.calls side) ticket db) status (joined side moved) := by
  let f := (scene.calls side).move
  have keeps : ∀ t, (f t).id = t.id := fun _ => rfl
  have rows : ∀ t', t' ∈ (Concurrent.moveTicket (scene.calls side) ticket db).kitchenTickets ↔
      ∃ t ∈ db.kitchenTickets, (if t.id = ticket.id then f t else t) = t' := fun _ => Rows.mem_modify
  have apart : ∀ side', side' ≠ side → (scene.calls side').ticketId ≠ ticket.id := by
    intro side' other
    rw [is]
    cases side <;> cases side' <;> first | exact different | exact different.symm | exact absurd rfl other
  refine ⟨shows_.order, fun side' => ?_, fun side' t' listed same => ?_, fun s => ?_⟩
  · show _ ∈ (Rows.modify KitchenTicket.id ticket.id f db.kitchenTickets).map KitchenTicket.id
    rw [Rows.map_modify keeps]
    exact shows_.stored side'
  · obtain ⟨t, before, rfl⟩ := (rows t').mp listed
    have id : t.id = (scene.calls side').ticketId := by
      rw [← same]
      split
      · rfl
      · rfl
    obtain ⟨mine, status⟩ := shows_.moved side' t before id
    by_cases own : side' = side
    · subst own
      rw [if_pos (id.trans is.symm)]
      exact ⟨mine, by simp [Scene.status, joined, f, TicketTransition.move, Scene.goal, applyTicketTransition]⟩
    · rw [if_neg (fun there => apart side' own (id.symm.trans there))]
      exact ⟨mine, by simpa [Scene.status, joined, own] using status⟩
  · rw [shows_.others]
    constructor
    · rintro ⟨t, before, mine, other, rfl⟩
      have elsewhere : t.id ≠ ticket.id := fun there => other side (there.trans is)
      exact ⟨t, (rows t).mpr ⟨t, before, if_neg elsewhere⟩, mine, other, rfl⟩
    · rintro ⟨t', listed, mine, other, rfl⟩
      obtain ⟨t, before, rfl⟩ := (rows t').mp listed
      have elsewhere : t.id ≠ ticket.id := by
        intro there
        rw [if_pos there] at other
        exact other side (there.trans is)
      rw [if_neg elsewhere] at mine other ⊢
      exact ⟨t, before, mine, other, rfl⟩

theorem Shows.moveOrder (shows_ : Shows scene db status moved) {call : TicketTransition}
    {order : Order} {change : Order → Order} {target : OrderStatus} (is : order.id = scene.orderId)
    (changes : ∀ row, (change row).id = row.id ∧ (change row).status = target) :
    Shows scene (moveOrder call order change db) target moved := by
  refine ⟨?_, shows_.stored, shows_.moved, shows_.others⟩
  have before := shows_.order
  obtain ⟨row, found, _⟩ := Option.map_eq_some_iff.mp before
  have after : orders.findUnique scene.orderId (Concurrent.moveOrder call order change db) =
      some (change row) := by
    show Rows.find Order.id (Rows.modify Order.id order.id change db.orders) scene.orderId = _
    rw [Rows.find_modify (fun row => (changes row).1), if_pos is.symm]
    exact congrArg (Option.map change) found
  rw [orderStatus, after, Option.map_some, (changes row).2]

end

/-! ### A transition under way -/

abbrev KitchenSession := Session Db Key (Except ApiException KitchenTicket)

/-- When a side reads the tickets that the other has read and not committed, neither sees the
other's move; a side that writes the order may do so after the other has moved it. -/
def Sighted (calls : Side → TicketTransition) (orderId : Id) (w : KitchenWorld) (side : Side) :
    Prop :=
  let session := w.sessions side
  let other := w.sessions side.other
  (session.reads = true → session.seen.length = 2 → other.seen.length = 3 → other.answer = none →
    ∀ status ∈ orderStatus orderId w.committed,
      ¬Missed status (ticketStatuses (other.own (w.view side)).kitchenTickets orderId)
        (calls side).dto.toStatus (calls side.other).dto.toStatus) ∧
  (session.seen.length = 3 → ∀ change ∈ session.writes,
    ∀ status ∈ orderStatus orderId w.committed,
      ∀ status' ∈ orderStatus orderId (change w.committed),
        ¬SetsBack status status' (ticketStatuses (w.view side).kitchenTickets orderId))

instance (calls : Side → TicketTransition) (orderId : Id) (w : KitchenWorld) (side : Side) :
    Decidable (Sighted calls orderId w side) :=
  inferInstanceAs (Decidable ((_ → _ → _ → _ → ∀ status ∈ orderStatus orderId w.committed, _) ∧
    (_ → ∀ change ∈ (w.sessions side).writes, ∀ status ∈ orderStatus orderId w.committed,
      ∀ status' ∈ orderStatus orderId (change w.committed), _)))

def Carries (scene : Scene) (side : Side) (own : Db → Db) : Prop :=
  ∀ {db status moved}, Shows scene db status moved → Shows scene (own db) status (joined side moved)

def Writes (scene : Scene) (side : Side) (own : Db → Db) (target : OrderStatus) : Prop :=
  ∀ {db status moved}, Shows scene db status moved → Shows scene (own db) target (joined side moved)

/-- How far a transition is. `Ordered` holds of what it may have read of the order, `Seen` of that
and what it may have read of the tickets, `Wrote` of what it may have written. -/
inductive Phase (scene : Scene) (side : Side) (Ordered : OrderStatus → Prop)
    (Seen : OrderStatus → List KitchenTicketStatus → Prop) (Wrote : OrderStatus → Prop)
    (session : KitchenSession) : Prop
  | fresh (rest : session.rest = statements (scene.calls side)) (own : session.own = id)
    (seen : session.seen.length = 0)
  | admitted (current : KitchenTicket)
    (rest : session.rest = .write [.ticket current.id] (moveTicket (scene.calls side) current)
      (synchronise (scene.calls side) ((scene.calls side).move current)))
    (own : session.own = id) (seen : session.seen.length = 1)
    (is : current.id = (scene.calls side).ticketId) (mine : current.orderId = scene.orderId)
    (allowed : canTransitionKitchenTicket (scene.origin side) (scene.goal side) = true)
  | moved (ticket : KitchenTicket) (rest : session.rest = synchronise (scene.calls side) ticket)
    (carries : Carries scene side session.own) (seen : session.seen.length = 1)
    (mine : ticket.orderId = scene.orderId)
    (allowed : canTransitionKitchenTicket (scene.origin side) (scene.goal side) = true)
  | ordered (ticket : KitchenTicket) (order : Order)
    (rest : session.rest = .read fun db => settle (scene.calls side) ticket order
      (ticketStatuses db.kitchenTickets scene.orderId))
    (carries : Carries scene side session.own) (seen : session.seen.length = 2)
    (is : order.id = scene.orderId) (shown : Ordered order.status)
    (allowed : canTransitionKitchenTicket (scene.origin side) (scene.goal side) = true)
  | decided (ticket : KitchenTicket) (order : Order) (statuses listed : List KitchenTicketStatus)
    (rest : session.rest = settle (scene.calls side) ticket order statuses)
    (carries : Carries scene side session.own) (seen : session.seen.length = 3)
    (is : order.id = scene.orderId) (same : ∀ s, s ∈ statuses ↔ s ∈ listed)
    (shown : Seen order.status listed)
    (allowed : canTransitionKitchenTicket (scene.origin side) (scene.goal side) = true)
  | written (ticket : KitchenTicket) (target : OrderStatus)
    (rest : session.rest = .commit (.stop (.ok ticket)))
    (writes : Writes scene side session.own target) (seen : session.seen.length = 3)
    (wrote : Wrote target) (locked : .order scene.orderId ∈ session.locks)
    (allowed : canTransitionKitchenTicket (scene.origin side) (scene.goal side) = true)

def Failing (session : KitchenSession) : Prop :=
  ∃ e, session.rest = .rollback (.stop (.error e)) ∨ session.rest = .stop (.error e)

/-- What a step makes of a transition, in a store that shows the order in `status`. -/
inductive Turn (scene : Scene) (side : Side) (Ordered : OrderStatus → Prop)
    (Seen : OrderStatus → List KitchenTicketStatus → Prop) (Wrote : OrderStatus → Prop)
    (w : KitchenWorld) (status : OrderStatus) (moved : Side → Bool) : Prop
  | on (committed : (step w side).committed = w.committed)
    (phase : Phase scene side Ordered Seen Wrote ((step w side).sessions side))
  | kept (ended : ∃ ticket, ((step w side).sessions side).answer = some (.ok ticket))
    (shows_ : Shows scene (step w side).committed status (joined side moved))
    (seen : (w.sessions side).seen.length = 3) (from_ : OrderStatus)
    (listed : List KitchenTicketStatus) (shown : Seen from_ listed) (inStep : InStep from_ listed)
    (allowed : canTransitionKitchenTicket (scene.origin side) (scene.goal side) = true)
  | moved (ended : ∃ ticket, ((step w side).sessions side).answer = some (.ok ticket))
    (target : OrderStatus)
    (shows_ : Shows scene (step w side).committed target (joined side moved))
    (seen : (w.sessions side).seen.length = 3) (wrote : Wrote target)
    (locked : .order scene.orderId ∈ (w.sessions side).locks)
    (allowed : canTransitionKitchenTicket (scene.origin side) (scene.goal side) = true)
  | failed (failing : Failing ((step w side).sessions side))

section
variable {scene : Scene} {side : Side} {Ordered : OrderStatus → Prop}
  {Seen : OrderStatus → List KitchenTicketStatus → Prop} {Wrote : OrderStatus → Prop}
  {w : KitchenWorld} {db : Db} {status : OrderStatus} {moved : Side → Bool}
  {listed : List KitchenTicketStatus}

theorem admitted_of_shows (shows_ : Shows scene db status moved) (before : moved side = false)
    {current : KitchenTicket} (admitted : admitTicketTransition (scene.calls side).context
      (scene.calls side).ticketId (scene.calls side).dto db = .ok current) :
    current.id = (scene.calls side).ticketId ∧ current.orderId = scene.orderId ∧
      canTransitionKitchenTicket (scene.origin side) (scene.goal side) = true := by
  obtain ⟨found, allowed⟩ := admitTicketTransition_ok admitted
  obtain ⟨stored, same⟩ := Table.findUnique_mem found
  obtain ⟨mine, is⟩ := shows_.moved side current stored same
  rw [is, Scene.status, before] at allowed
  exact ⟨same, mine, allowed⟩

theorem phase_step (different : (scene.calls .left).ticketId ≠ (scene.calls .right).ticketId)
    (shows_ : Shows scene w.committed status moved) (before : moved side = false)
    (phase : Phase scene side Ordered Seen Wrote (w.sessions side))
    (sighted : Sighted scene.calls scene.orderId w side) (ordered : Ordered status)
    (same : ∀ s, s ∈ scene.statuses (joined side moved) ↔ s ∈ listed)
    (seen : ∀ status', Ordered status' → Seen status' listed)
    (wrote : canTransitionKitchenTicket (scene.origin side) (scene.goal side) = true →
      ∀ status' listed', Seen status' listed' → ¬InStep status' listed' →
        ¬SetsBack status (syncStatus status' listed') listed → Wrote (syncStatus status' listed')) :
    Turn scene side Ordered Seen Wrote w status moved := by
  have waits : step w side = w → Turn scene side Ordered Seen Wrote w status moved :=
    fun waits => .on (by rw [waits]) (by rw [waits]; exact phase)
  cases phase with
  | fresh rest own zero =>
    have view : w.view side = w.committed := by rw [World.view, own]; rfl
    have after := step_read rest
    rw [view] at after
    cases admitted : admitTicketTransition (scene.calls side).context (scene.calls side).ticketId
        (scene.calls side).dto w.committed with
    | error e =>
      refine .failed ⟨e, .inl ?_⟩
      rw [after, put_self]
      simp only [admitted]
    | ok current =>
      obtain ⟨is, mine, allowed⟩ := admitted_of_shows shows_ before admitted
      refine .on (by rw [after]; rfl) (.admitted current ?_ ?_ ?_ is mine allowed)
      · rw [after, put_self]
        simp only [admitted]
      · rw [after, put_self]
        exact own
      · rw [after, put_self]
        exact List.length_append.trans (by rw [zero]; rfl)
  | admitted current rest own one is mine allowed =>
    by_cases blocked : Blocked w side [.ticket current.id]
    · exact waits (step_blocked rest blocked)
    · have after := step_write rest blocked
      refine .on (by rw [after]; rfl)
        (.moved ((scene.calls side).move current) ?_ ?_ ?_ mine allowed)
      · rw [after, put_self]
      · rw [after, put_self, own]
        exact fun shows_ => shows_.moveTicket different is
      · rw [after, put_self]
        exact one
  | moved ticket rest carries one mine allowed =>
    have after := step_read rest
    have shown := carries shows_
    obtain ⟨order, found, is⟩ := Option.map_eq_some_iff.mp shown.order
    have read : orders.findUniqueOrThrow ticket.orderId (w.view side) = .ok order := by
      rw [mine]
      exact Table.findUniqueOrThrow_ok_iff.mpr found
    refine .on (by rw [after]; rfl)
      (.ordered ticket order ?_ ?_ ?_ (Table.findUnique_mem found).2 (is ▸ ordered) allowed)
    · rw [after, put_self]
      simp only [read]
      rw [mine]
    · rw [after, put_self]
      exact carries
    · rw [after, put_self]
      exact List.length_append.trans (by rw [one]; rfl)
  | ordered ticket order rest carries two is shown allowed =>
    have after := step_read rest
    refine .on (by rw [after]; rfl)
      (.decided ticket order (ticketStatuses (w.view side).kitchenTickets scene.orderId) listed
        ?_ ?_ ?_ is ?_ (seen _ shown) allowed)
    · rw [after, put_self]
    · rw [after, put_self]
      exact carries
    · rw [after, put_self]
      exact List.length_append.trans (by rw [two]; rfl)
    · exact fun s => ((carries shows_).statuses s).trans (same s)
  | decided ticket order statuses listed' rest carries three is same' shown allowed =>
    have status_ : syncStatus order.status _ = syncStatus order.status _ := syncStatus_congr same'
    cases change : syncUpdate (scene.calls side).env.now order statuses with
    | none =>
      have after := step_commit (show (w.sessions side).rest = .commit (.stop (.ok ticket)) by
        rw [rest, settle, change])
      refine .kept ⟨ticket, ?_⟩ ?_ three order.status listed' shown ?_ allowed
      · rw [after, put_self]
        rfl
      · rw [after]
        exact carries shows_
      · exact status_.symm.trans (syncUpdate_eq_none_iff.mp change)
    | some f =>
      have writes : (w.sessions side).rest = .write [.order order.id]
          (moveOrder (scene.calls side) order f) (.commit (.stop (.ok ticket))) := by
        rw [rest, settle, change]
      by_cases blocked : Blocked w side [.order order.id]
      · exact waits (step_blocked writes blocked)
      · have after := step_write writes blocked
        have changes := syncUpdate_eq_some change
        have out : ¬InStep order.status listed' := by
          intro inStep
          rw [syncUpdate_eq_none_iff.mpr (status_.trans inStep)] at change
          cases change
        have moves : Shows scene (moveOrder (scene.calls side) order f w.committed) _ moved :=
          shows_.moveOrder is fun row => ⟨(changes row).1.1, (changes row).2⟩
        have target := moves.order
        rw [status_] at target
        have forward : ¬SetsBack status (syncStatus order.status listed') listed := by
          have kept := sighted.2 three _ (by rw [Session.writes, writes]; rfl) status shows_.order _
            target
          have view : ∀ s, s ∈ ticketStatuses (w.view side).kitchenTickets scene.orderId ↔
              s ∈ listed := fun s => ((carries shows_).statuses s).trans (same s)
          exact fun back => kept ((setsBack_congr view).mpr back)
        refine .on (by rw [after]; rfl) (.written ticket _ ?_ ?_ ?_
          (wrote allowed _ _ shown out forward) ?_ allowed)
        · rw [after, put_self]
        · rw [after, put_self, ← status_]
          exact fun shows_ => (carries shows_).moveOrder is fun row =>
            ⟨(changes row).1.1, (changes row).2⟩
        · rw [after, put_self]
          exact three
        · rw [after, put_self, ← is]
          exact List.mem_append_left _ List.mem_cons_self
  | written ticket target rest writes three done locked allowed =>
    have after := step_commit rest
    refine .moved ⟨ticket, ?_⟩ target ?_ three done locked allowed
    · rw [after, put_self]
      rfl
    · rw [after]
      exact writes shows_

end

/-! ### Both transitions -/

namespace Scene
variable (scene : Scene)

def halfway (side : Side) : List KitchenTicketStatus :=
  scene.goal side :: scene.origin side.other :: scene.others

def final (side : Side) : List KitchenTicketStatus :=
  scene.goal side :: scene.goal side.other :: scene.others

def Later (status : OrderStatus) (first : Side) (status' : OrderStatus)
    (listed : List KitchenTicketStatus) : Prop :=
  (status' = status ∧ listed = scene.halfway first.other ∧
    ¬Missed status (scene.final first) (scene.goal first) (scene.goal first.other)) ∨
  ((status' = status ∨ status' = syncStatus status (scene.halfway first)) ∧
    listed = scene.final first)

end Scene

/-- The stages of a run of two transitions, of an order in `status`. -/
inductive Stage (scene : Scene) (status : OrderStatus) (w : KitchenWorld) : Prop
  | under (shows_ : Shows scene w.committed status neither)
    (phases : ∀ side, Phase scene side (· = status)
      (fun status' listed => status' = status ∧ listed = scene.halfway side)
      (fun target => target = syncStatus status (scene.halfway side) ∧ target ≠ status)
      (w.sessions side))
    (sighted : (∀ side, (w.sessions side).seen.length = 3) →
      ∀ side, ¬Missed status (scene.final side) (scene.goal side) (scene.goal side.other))
  | half (first : Side) (ended : ∃ ticket, (w.sessions first).answer = some (.ok ticket))
    (allowed : canTransitionKitchenTicket (scene.origin first) (scene.goal first) = true)
    (shows_ : Shows scene w.committed (syncStatus status (scene.halfway first)) (only first))
    (phase : Phase scene first.other
      (fun status' => status' = status ∨ status' = syncStatus status (scene.halfway first))
      (scene.Later status first) (fun target => InStep target (scene.final first))
      (w.sessions first.other))
  | ended (ended : ∀ side, ∃ ticket, (w.sessions side).answer = some (.ok ticket))
    (status' : OrderStatus) (shows_ : Shows scene w.committed status' both)
    (inStep : InStep status' (scene.statuses both))
  | failed (side : Side) (failing : Failing (w.sessions side))

section
variable {scene : Scene} {status : OrderStatus} {first side : Side} {w : KitchenWorld}

theorem joined_neither (side : Side) : joined side neither = only side := by
  funext side'
  simp [joined, neither, only]

theorem joined_only (first : Side) : joined first.other (only first) = both := by
  funext side
  cases first <;> cases side <;> rfl

theorem mem_halfway (s : KitchenTicketStatus) :
    s ∈ scene.statuses (only side) ↔ s ∈ scene.halfway side := by
  rw [mem_statuses side]
  simp [Scene.status, only, Scene.halfway, side.other_ne]

theorem mem_final (side : Side) (s : KitchenTicketStatus) :
    s ∈ scene.statuses both ↔ s ∈ scene.final side := by
  rw [mem_statuses side]
  simp [Scene.status, both, Scene.final]

theorem missed_final : Missed status (scene.final side) (scene.goal side) (scene.goal side.other) ↔
    Missed status (scene.final side.other) (scene.goal side.other) (scene.goal side) := by
  have same : ∀ s, s ∈ scene.final side ↔ s ∈ scene.final side.other :=
    fun s => (mem_final side s).symm.trans (mem_final side.other s)
  rw [missed_congr same]
  unfold Missed
  rw [and_comm (a := scene.goal side = .ready)]

theorem later_inStep
    (allowed : canTransitionKitchenTicket (scene.origin first) (scene.goal first) = true)
    (allowed' : canTransitionKitchenTicket (scene.origin first.other) (scene.goal first.other) = true)
    {status' : OrderStatus} {listed : List KitchenTicketStatus}
    (shown : scene.Later status first status' listed)
    (forward : syncStatus status' listed ≠ status' →
      ¬SetsBack (syncStatus status (scene.halfway first)) (syncStatus status' listed)
        (scene.final first)) :
    InStep (leftBy status' (syncStatus status (scene.halfway first)) (syncStatus status' listed))
      (scene.final first) := by
  rcases shown with ⟨rfl, rfl, sighted⟩ | ⟨rfl | rfl, rfl⟩
  · simp only [Scene.halfway, Side.other_other] at forward ⊢
    exact inStep_apart allowed allowed' sighted forward
  · exact inStep_behind allowed' forward
  · have after : InStep (syncStatus (syncStatus status (scene.halfway first)) (scene.final first))
        (scene.final first) := inStep_after allowed'
    unfold leftBy
    split
    · exact ‹_›
    · exact after

section
variable {Ordered : OrderStatus → Prop} {Seen : OrderStatus → List KitchenTicketStatus → Prop}
  {Wrote : OrderStatus → Prop} {session : KitchenSession}

theorem Phase.answer (phase : Phase scene side Ordered Seen Wrote session) :
    session.answer = none := by
  cases phase with
  | decided ticket order statuses listed rest =>
    rw [Session.answer, rest, settle]
    cases syncUpdate (scene.calls side).env.now order statuses <;> rfl
  | fresh rest | moved _ rest =>
    rw [Session.answer, rest]
    rfl
  | admitted _ rest | ordered _ _ rest | written _ _ rest => rw [Session.answer, rest]

theorem Phase.shows (phase : Phase scene side Ordered Seen Wrote session)
    (read : 2 ≤ session.seen.length) {db : Db} {moved : Side → Bool}
    (shows_ : Shows scene db status moved) :
    ∃ status', Shows scene (session.own db) status' (joined side moved) := by
  cases phase with
  | fresh _ _ seen => rw [seen] at read; cases read
  | admitted _ _ _ seen | moved _ _ _ seen => rw [seen] at read; simp at read
  | ordered _ _ _ carries | decided _ _ _ _ _ carries => exact ⟨status, carries shows_⟩
  | written _ target _ writes => exact ⟨target, writes shows_⟩

theorem Phase.later (phase : Phase scene first.other (· = status)
      (fun status' listed => status' = status ∧ listed = scene.halfway first.other)
      (fun target => target = syncStatus status (scene.halfway first.other) ∧ target ≠ status)
      session)
    (sighted : session.seen.length = 3 →
      ¬Missed status (scene.final first) (scene.goal first) (scene.goal first.other))
    (wrote : ∀ target, target = syncStatus status (scene.halfway first.other) ∧ target ≠ status →
      session.seen.length = 3 → .order scene.orderId ∈ session.locks →
      canTransitionKitchenTicket (scene.origin first.other) (scene.goal first.other) = true →
        InStep target (scene.final first)) :
    Phase scene first.other
      (fun status' => status' = status ∨ status' = syncStatus status (scene.halfway first))
      (scene.Later status first) (fun target => InStep target (scene.final first)) session := by
  cases phase with
  | fresh rest own seen => exact .fresh rest own seen
  | admitted current rest own seen is mine allowed =>
    exact .admitted current rest own seen is mine allowed
  | moved ticket rest carries seen mine allowed => exact .moved ticket rest carries seen mine allowed
  | ordered ticket order rest carries seen is shown allowed =>
    exact .ordered ticket order rest carries seen is (.inl shown) allowed
  | decided ticket order statuses listed rest carries seen is same shown allowed =>
    exact .decided ticket order statuses listed rest carries seen is same
      (.inl ⟨shown.1, shown.2, sighted seen⟩) allowed
  | written ticket target rest writes seen made locked allowed =>
    exact .written ticket target rest writes seen (wrote target made seen locked allowed) locked
      allowed

end

theorem half_of_ended (phases : ∀ side, Phase scene side (· = status)
      (fun status' listed => status' = status ∧ listed = scene.halfway side)
      (fun target => target = syncStatus status (scene.halfway side) ∧ target ≠ status)
      (w.sessions side))
    (seen : (∀ side, (w.sessions side).seen.length = 3) →
      ∀ side, ¬Missed status (scene.final side) (scene.goal side) (scene.goal side.other))
    (three : (w.sessions side).seen.length = 3)
    (ended : ∃ ticket, ((step w side).sessions side).answer = some (.ok ticket))
    (allowed : canTransitionKitchenTicket (scene.origin side) (scene.goal side) = true)
    (shows_ : Shows scene (step w side).committed (syncStatus status (scene.halfway side))
      (joined side neither))
    (wrote : ∀ target, target = syncStatus status (scene.halfway side.other) ∧ target ≠ status →
      ¬Missed status (scene.final side) (scene.goal side) (scene.goal side.other) →
      .order scene.orderId ∈ (w.sessions side.other).locks →
      canTransitionKitchenTicket (scene.origin side.other) (scene.goal side.other) = true →
        InStep target (scene.final side)) :
    Stage scene status (step w side) := by
  have sighted : (w.sessions side.other).seen.length = 3 →
      ¬Missed status (scene.final side) (scene.goal side) (scene.goal side.other) := by
    intro both
    refine seen (fun side' => ?_) side
    rcases side.eq_or_other side' with rfl | rfl
    · exact three
    · exact both
  rw [joined_neither] at shows_
  refine .half side ended allowed shows_ ?_
  rw [step_other w side.other_ne]
  exact (phases side.other).later sighted fun target made read => wrote target made (sighted read)

theorem unmissed_of_sighted (shows_ : Shows scene w.committed status neither)
    (phases : ∀ side, Phase scene side (· = status)
      (fun status' listed => status' = status ∧ listed = scene.halfway side)
      (fun target => target = syncStatus status (scene.halfway side) ∧ target ≠ status)
      (w.sessions side))
    (sighted : Sighted scene.calls scene.orderId w side) (reads : (w.sessions side).reads = true)
    (two : (w.sessions side).seen.length = 2) (three : (w.sessions side.other).seen.length = 3) :
    ¬Missed status (scene.final side) (scene.goal side) (scene.goal side.other) := by
  obtain ⟨_, mine⟩ := (phases side).shows (ge_of_eq two) shows_
  obtain ⟨_, theirs⟩ := (phases side.other).shows (by rw [three]; decide) mine
  have all : joined side.other (joined side neither) = both := by
    rw [joined_neither, joined_only]
  rw [all] at theirs
  have unmissed := sighted.1 reads two three (phases side.other).answer status shows_.order
  exact fun missed =>
    unmissed ((missed_congr fun s => (theirs.statuses s).trans (mem_final side s)).mpr missed)

theorem stage_step (different : (scene.calls .left).ticketId ≠ (scene.calls .right).ticketId)
    (exclusive : Exclusive w) (stage : Stage scene status w)
    (sighted : Sighted scene.calls scene.orderId w side) : Stage scene status (step w side) := by
  cases stage with
  | under shows_ phases seen =>
    have same : ∀ s, s ∈ scene.statuses (joined side neither) ↔ s ∈ scene.halfway side :=
      fun s => by rw [joined_neither]; exact mem_halfway s
    have turn := phase_step different shows_ rfl (phases side) sighted
      rfl same (fun _ is => ⟨is, rfl⟩)
      (by rintro _ _ _ ⟨rfl, rfl⟩ out _; exact ⟨rfl, out⟩)
    cases turn with
    | on committed phase =>
      refine .under (by rw [committed]; exact shows_) (fun side' => ?_) fun all => ?_
      · rcases side.eq_or_other side' with rfl | rfl
        · exact phase
        · rw [step_other w side.other_ne]
          exact phases _
      · have other := all side.other
        rw [step_other w side.other_ne] at other
        rcases step_seen w side with same | ⟨reads, one_more⟩
        · refine seen fun side' => ?_
          rcases side.eq_or_other side' with rfl | rfl
          · exact same.symm.trans (all _)
          · exact other
        · have two : (w.sessions side).seen.length = 2 := Nat.succ.inj (one_more.symm.trans (all side))
          have unmissed := unmissed_of_sighted shows_ phases sighted reads two other
          intro side'
          rcases side.eq_or_other side' with rfl | rfl
          · exact unmissed
          · rw [missed_final, Side.other_other]
            exact unmissed
    | kept ended shows' three from_ listed shown inStep allowed =>
      obtain ⟨rfl, rfl⟩ := shown
      refine half_of_ended phases seen three ended allowed ?_ ?_
      · rw [inStep]
        exact shows'
      · rintro target ⟨made, changed⟩ unmissed _ allowed'
        have changed' := made ▸ changed
        have left := later_inStep allowed allowed' (.inl ⟨rfl, rfl, unmissed⟩) fun _ => by
          rw [inStep]
          exact forward_of_changed changed'
        rwa [leftBy, ← made, if_neg changed] at left
    | moved ended target shows' three wrote locked allowed =>
      obtain ⟨rfl, _⟩ := wrote
      refine half_of_ended phases seen three ended allowed shows' ?_
      intro target _ _ locked' _
      exact absurd locked' (exclusive side side.other side.other_ne _ locked)
    | failed failing => exact .failed side failing
  | half first ended allowed shows_ phase =>
    rcases first.eq_or_other side with rfl | rfl
    · obtain ⟨_, answer⟩ := ended
      rw [step_answered answer]
      exact .half _ ⟨_, answer⟩ allowed shows_ phase
    · have same : ∀ s, s ∈ scene.statuses (joined first.other (only first)) ↔
          s ∈ scene.final first := fun s => by rw [joined_only]; exact mem_final first s
      have turn := phase_step different shows_
        (decide_eq_false first.other_ne) phase sighted (.inr rfl)
        same (fun _ read => .inr ⟨read, rfl⟩) (by
          intro allowed' _ _ shown out forward
          have left := later_inStep allowed allowed' shown fun _ => forward
          rwa [leftBy_changed out] at left)
      have untouched : (step w first.other).sessions first = w.sessions first :=
        step_other w first.other_ne.symm
      have both_ended : (∃ ticket, ((step w first.other).sessions first.other).answer =
          some (.ok ticket)) → ∀ side, ∃ ticket, ((step w first.other).sessions side).answer =
            some (.ok ticket) := by
        intro ended' side
        rcases first.eq_or_other side with rfl | rfl
        · rw [untouched]
          exact ended
        · exact ended'
      cases turn with
      | on committed phase =>
        refine .half first ?_ allowed ?_ phase
        · rw [untouched]
          exact ended
        · rw [committed]
          exact shows_
      | kept ended' shows' _ from_ listed shown inStep allowed' =>
        have left := later_inStep allowed allowed' shown fun changed => absurd inStep changed
        rw [leftBy_inStep inStep] at left
        refine .ended (both_ended ended') _ (by rwa [joined_only] at shows') ?_
        exact (syncStatus_congr (mem_final first)).trans left
      | moved ended' target shows' _ wrote =>
        refine .ended (both_ended ended') target (by rwa [joined_only] at shows') ?_
        exact (syncStatus_congr (mem_final first)).trans wrote
      | failed failing => exact .failed _ failing
  | ended ended status' shows_ inStep =>
    obtain ⟨_, answer⟩ := ended side
    rw [step_answered answer]
    exact .ended ended status' shows_ inStep
  | failed side' failing =>
    obtain ⟨e, rest⟩ := failing
    by_cases here : side' = side
    · subst here
      refine .failed side' ⟨e, .inr ?_⟩
      rcases rest with undoing | undone
      · rw [step_rollback undoing, put_self]
      · rw [step_stop undone]
        exact undone
    · exact .failed side' ⟨e, by rw [step_other w here]; exact rest⟩

theorem stage_start {db : Db} (shows_ : Shows scene db status neither) :
    Stage scene status (start (fun side => statements (scene.calls side)) db) := by
  refine .under shows_ (fun side => .fresh rfl rfl rfl) fun all => ?_
  cases all .left

theorem inStep_of_ended (stage : Stage scene status w)
    (ended : ∀ side, ∃ ticket, (w.sessions side).answer = some (.ok ticket)) :
    ∃ status', Shows scene w.committed status' both ∧ InStep status' (scene.statuses both) := by
  cases stage with
  | under shows_ phases =>
    obtain ⟨_, answer⟩ := ended .left
    rw [(phases .left).answer] at answer
    cases answer
  | half first _ _ _ phase =>
    obtain ⟨_, answer⟩ := ended first.other
    rw [phase.answer] at answer
    cases answer
  | ended _ status' shows_ inStep => exact ⟨status', shows_, inStep⟩
  | failed side failing =>
    obtain ⟨_, answer⟩ := ended side
    obtain ⟨e, undoing | undone⟩ := failing
    · rw [Session.answer, undoing] at answer
      cases answer
    · rw [Session.answer, undone] at answer
      cases answer

end

/-! ### Every schedule -/

def transitions (calls : Side → TicketTransition) (db : Db) (schedule : List Side) : KitchenWorld :=
  Trace.run step (start (fun side => statements (calls side)) db) schedule

def Committed (w : KitchenWorld) : Prop :=
  ∀ side, (w.sessions side).answer.any Except.isOk = true

instance (w : KitchenWorld) : Decidable (Committed w) :=
  inferInstanceAs (Decidable (∀ _, _))

def Synchronised (orderId : Id) (db : Db) : Prop :=
  ∃ order, orders.findUnique orderId db = some order ∧
    ∀ now, syncUpdate now order (ticketStatuses db.kitchenTickets orderId) = none

section
variable {db : Db} {orderId : Id} {tickets : Side → KitchenTicket}

/-- Two tickets of an order, and the calls that move them. -/
structure TwoTickets (db : Db) (orderId : Id) (tickets : Side → KitchenTicket)
    (calls : Side → TicketTransition) : Prop where
  keys : (db.kitchenTickets.map KitchenTicket.id).Nodup
  ordered : orderId ∈ db.orders.map Order.id
  stored : ∀ side, tickets side ∈ db.kitchenTickets
  siblings : ∀ side, (tickets side).orderId = orderId
  different : (tickets .left).id ≠ (tickets .right).id
  about : ∀ side, (calls side).ticketId = (tickets side).id

def sceneOf (db : Db) (orderId : Id) (tickets : Side → KitchenTicket)
    (calls : Side → TicketTransition) : Scene where
  calls := calls
  orderId := orderId
  origin := fun side => (tickets side).status
  others := (db.kitchenTickets.filter fun t =>
    t.orderId = orderId ∧ ∀ side, t.id ≠ (calls side).ticketId).map KitchenTicket.status

theorem TwoTickets.shows {calls : Side → TicketTransition} (two : TwoTickets db orderId tickets calls) :
    ∃ status, Shows (sceneOf db orderId tickets calls) db status neither := by
  obtain ⟨order, found⟩ := Rows.exists_find_iff.mpr two.ordered
  refine ⟨order.status, ?_, fun side => ?_, fun side t stored same => ?_, fun s => ?_⟩
  · exact congrArg (Option.map Order.status) found
  · show (calls side).ticketId ∈ _
    rw [two.about side]
    exact List.mem_map_of_mem (two.stored side)
  · obtain rfl := Rows.eq_of_key two.keys stored (two.stored side) (same.trans (two.about side))
    exact ⟨two.siblings side, rfl⟩
  · simp only [sceneOf, List.mem_map, List.mem_filter, decide_eq_true_eq, and_assoc]

/-- When two transitions of different tickets of an order have both committed, the order is in step
with its tickets, if every step was sighted. -/
theorem ticket_moves_synchronised {calls : Side → TicketTransition}
    (two : TwoTickets db orderId tickets calls) {schedule : List Side}
    (sighted : Trace.Along step (Sighted calls orderId)
      (start (fun side => statements (calls side)) db) schedule)
    (committed : Committed (transitions calls db schedule)) :
    Synchronised orderId (transitions calls db schedule).committed := by
  obtain ⟨status, shows_⟩ := two.shows
  have different : (calls .left).ticketId ≠ (calls .right).ticketId := by
    rw [two.about, two.about]
    exact two.different
  have keeps : ∀ (w : KitchenWorld) (side : Side),
      Exclusive w ∧ Stage (sceneOf db orderId tickets calls) status w → Sighted calls orderId w side →
      Exclusive (step w side) ∧ Stage (sceneOf db orderId tickets calls) status (step w side) :=
    fun _ _ ⟨exclusive, stage⟩ sighted =>
      ⟨exclusive_step exclusive _, stage_step different exclusive stage sighted⟩
  have stage := (Trace.run_invariant keeps ⟨exclusive_start _ _, stage_start shows_⟩ sighted).2
  have ended : ∀ side, ∃ ticket, ((transitions calls db schedule).sessions side).answer =
      some (.ok ticket) := by
    intro side
    obtain ⟨answer, is, ok⟩ := (Option.any_eq_true _ _).mp (committed side)
    cases answer with
    | ok ticket => exact ⟨ticket, is⟩
    | error e => cases ok
  obtain ⟨status', final, inStep⟩ := inStep_of_ended stage ended
  obtain ⟨order, found, rfl⟩ := Option.map_eq_some_iff.mp final.order
  refine ⟨order, found, fun now => syncUpdate_eq_none_iff.mpr ?_⟩
  exact (syncStatus_congr final.statuses).trans inStep

end

/-! ### Two stations -/

def ticketAt (id : Id) (stationKey : String) (status : KitchenTicketStatus) : KitchenTicket where
  id := id
  orderId := 70
  tenantId := 1
  storeId := 2
  stationKey := stationKey
  status := status
  sourceChannel := .pos
  displayNumber := "A-1"
  note := none
  itemCount := 1
  startedAt := none
  readyAt := none
  completedAt := none
  cancelledAt := none
  items := []

def pass (status : OrderStatus) (ticketStatus : KitchenTicketStatus) : Db where
  nextId := 100
  setup :=
    { stores := []
      devices := []
      posShifts := []
      posSessions := []
      products := []
      storeSettings := []
      tenantSettings := []
      paymentProviderConfigs := []
      warehouses := []
      recipeBoms := []
      stopListRules := [] }
  carts := []
  orders :=
    [{ id := 70, tenantId := 1, storeId := 2, cartId := none, customerProfileId := none,
       number := "A-1", channel := .pos, status, refundStatus := .none, customerName := none,
       customerPhone := none, note := none, subtotal := 1000, modifierTotal := 0,
       fulfillmentFee := 0, discountTotal := 0, total := 1000, promotionCode := none,
       promotionSnapshot := none, fulfillmentMode := none, fulfillmentStatus := none,
       fulfillmentPayload := none, promisedAt := none, etaAt := none, placedAt := 0,
       confirmedAt := none, readyAt := none, completedAt := none, cancelledAt := none,
       cancelReason := none, deviceId := none, createdByUserId := none, items := [] }]
  kitchenTickets := [ticketAt 71 "BAR" ticketStatus, ticketAt 72 "GRILL" ticketStatus]
  stock := ⟨[], [], []⟩
  payments := ⟨[], [], [], [], []⟩
  customers := ⟨[], [], [], []⟩
  logs := ⟨[], [], [], []⟩

def bothTo (toStatus : KitchenTicketStatus) : Side → TicketTransition := fun side =>
  { env := Env.shipped 1 "r" "A-1" fun _ => .ok []
    context := ⟨"cook", some 1, .tenantMember, [2], none⟩
    ticketId := match side with | .left => 71 | .right => 72
    dto := ⟨toStatus⟩ }

def passTickets (status : KitchenTicketStatus) : Side → KitchenTicket
  | .left => ticketAt 71 "BAR" status
  | .right => ticketAt 72 "GRILL" status

theorem pass_twoTickets (status : OrderStatus) (ticketStatus toStatus : KitchenTicketStatus) :
    TwoTickets (pass status ticketStatus) 70 (passTickets ticketStatus) (bothTo toStatus) where
  keys := by simp [pass, ticketAt]
  ordered := by simp [pass]
  stored := by
    intro side
    cases side <;> simp [pass, passTickets]
  siblings := by
    intro side
    cases side <;> rfl
  different := by simp [passTickets, ticketAt]
  about := by
    intro side
    cases side <;> rfl

def startAtOnce : List Side :=
  [.left, .left, .left, .left, .right, .right, .right, .right, .left, .right, .left, .right, .right]

theorem ticket_moves_synchronised_started : Synchronised 70
    (transitions (bothTo .inProgress) (pass .confirmed .new) startAtOnce).committed :=
  ticket_moves_synchronised (pass_twoTickets .confirmed .new .inProgress) (by decide +kernel)
    (by decide +kernel)

def readyAtOnce : List Side :=
  [.left, .left, .left, .left, .right, .right, .right, .right, .left, .right]

/-- Both have committed, both tickets are ready, and the order is not. -/
theorem ready_at_once_unsynchronised :
    Committed (transitions (bothTo .ready) (pass .inPreparation .inProgress) readyAtOnce) ∧
      ¬Synchronised 70
        (transitions (bothTo .ready) (pass .inPreparation .inProgress) readyAtOnce).committed := by
  refine ⟨by decide +kernel, ?_⟩
  rintro ⟨order, found, synchronised⟩
  have left : orderStatus 70 (transitions (bothTo .ready) (pass .inPreparation .inProgress)
      readyAtOnce).committed = some .inPreparation := by decide +kernel
  have read : ticketStatuses (transitions (bothTo .ready) (pass .inPreparation .inProgress)
      readyAtOnce).committed.kitchenTickets 70 = [.ready, .ready] := by decide +kernel
  have inStep := syncUpdate_eq_none_iff.mp (synchronised 0)
  rw [orderStatus, found] at left
  rw [read, Option.some.inj left] at inStep
  exact absurd inStep (by decide)

end Exetron.Kitchen.Concurrent
