import Exetron.Access
import Exetron.Database
import Exetron.Environment
import Exetron.Kitchen.Runtime

/-!
# Kitchen service

`KitchenService.transitionTicket` and the synchronisation of the order with its tickets.
-/

namespace Exetron.Kitchen

open Lib

structure TransitionKitchenTicketDto where
  toStatus : KitchenTicketStatus

def admitTicketTransition (context : RequestContext) (ticketId : Id)
    (dto : TransitionKitchenTicketDto) (db : Db) : Except ApiException KitchenTicket := do
  let current ← kitchenTickets.findUniqueOrThrow ticketId db
  authorize context current.tenantId current.storeId
  rejectIf (canTransitionKitchenTicket current.status dto.toStatus = false)
    (.badRequest ("Kitchen ticket transition " ++ current.status.text ++ " -> " ++
      dto.toStatus.text ++ " is not allowed."))
  pure current

def applyTicketTransition (now : Instant) (toStatus : KitchenTicketStatus)
    (ticket : KitchenTicket) : KitchenTicket :=
  { ticket with
    status := toStatus
    startedAt := if toStatus = .inProgress then some now else ticket.startedAt
    readyAt := if toStatus = .ready then some now else ticket.readyAt
    completedAt := if toStatus = .completed then some now else ticket.completedAt
    cancelledAt := if toStatus = .cancelled then some now else ticket.cancelledAt }

def ticketStatuses (tickets : List KitchenTicket) (orderId : Id) : List KitchenTicketStatus :=
  (tickets.filter fun ticket => ticket.orderId = orderId).map KitchenTicket.status

def syncUpdate (now : Instant) (order : Order) (statuses : List KitchenTicketStatus) :
    Option (Order → Order) :=
  if .inProgress ∈ statuses ∧ order.status = .confirmed then
    some fun row => { row with status := .inPreparation }
  else if statuses.length > 0 ∧ (∀ s ∈ statuses, s = .ready ∨ s = .completed) ∧
      order.status ∉ [.ready, .completed, .cancelled] then
    some fun row => { row with status := .ready, readyAt := order.readyAt.or (some now) }
  else if statuses.length > 0 ∧ (∀ s ∈ statuses, s = .completed ∨ s = .cancelled) ∧
      order.status ∉ [.completed, .cancelled] then
    some fun row => { row with status := .completed, completedAt := order.completedAt.or (some now) }
  else none

def syncOrderStatusFromTickets (env : Env) (context : RequestContext) (orderId : Id) :
    Transaction Unit := do
  let order ← Tx.read (orders.findUniqueOrThrow orderId)
  let statuses ← Tx.read fun db => .ok (ticketStatuses db.kitchenTickets orderId)
  match syncUpdate env.now order statuses with
  | none => pure ()
  | some change =>
    let synced ← orders.update order.id change
    recordOrderEvent ⟨synced.id, synced.tenantId, synced.storeId, "order.status_changed"⟩
    recordAudit
      { tenantId := synced.tenantId
        storeId := synced.storeId
        actorType := .user
        actorId := .user context.userId
        action := "order.status_changed"
        entityType := "order"
        entityId := synced.id }
    recordDomainEvent ⟨synced.tenantId, "order.status_changed", "order", synced.id⟩

def transitionTicketTx (env : Env) (context : RequestContext) (ticketId : Id)
    (dto : TransitionKitchenTicketDto) : Transaction KitchenTicket := do
  let current ← Tx.read (admitTicketTransition context ticketId dto)
  let ticket ← kitchenTickets.update current.id (applyTicketTransition env.now dto.toStatus)
  recordAudit
    { tenantId := ticket.tenantId
      storeId := ticket.storeId
      actorType := .user
      actorId := .user context.userId
      action := "kitchen.ticket_status_changed"
      entityType := "kitchen_ticket"
      entityId := ticket.id }
  recordDomainEvent
    ⟨ticket.tenantId, "kitchen.ticket_status_changed", "kitchen_ticket", ticket.id⟩
  syncOrderStatusFromTickets env context ticket.orderId
  pure ticket

def transitionTicket (env : Env) (context : RequestContext) (ticketId : Id)
    (dto : TransitionKitchenTicketDto) : ServiceCall KitchenTicket :=
  Call.transact (transitionTicketTx env context ticketId dto)

end Exetron.Kitchen
