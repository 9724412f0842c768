import Exetron.Access
import Exetron.Environment
import Exetron.Inventory.OrderStock
import Exetron.Kitchen.Runtime
import Exetron.Orders.Lifecycle

/-!
# Orders service

`OrdersService`: the checkout of a cart and the transitions of an order, with the kitchen
tickets a confirmation opens and the stock a completion or a cancellation settles.
-/

namespace Exetron.Orders

open Lib Inventory

def recordEverywhere (context : RequestContext) (order : Order) (name entityType : String)
    (entityId : Id) : Transaction Unit := do
  recordOrderEvent ⟨order.id, order.tenantId, order.storeId, name⟩
  recordAudit
    { tenantId := order.tenantId
      storeId := order.storeId
      actorType := resolveActorType context
      actorId := resolveActorId context
      action := name
      entityType
      entityId }
  recordDomainEvent ⟨order.tenantId, name, entityType, entityId⟩

def enqueueStorefrontCustomerUpdates (order : Order) (templateKey : Option String) :
    Transaction Unit := do
  if order.channel = .delivery then
    recordOrderEvent ⟨order.id, order.tenantId, order.storeId, "storefront.status_hook_emitted"⟩
    recordDomainEvent ⟨order.tenantId, "storefront.status_hook_emitted", "order", order.id⟩
    if Text.isFilled order.customerPhone ∧ templateKey.isSome then
      recordOrderEvent ⟨order.id, order.tenantId, order.storeId, "storefront.notification_queued"⟩
      recordDomainEvent ⟨order.tenantId, "storefront.notification_queued", "order", order.id⟩

structure CheckoutCartDto where
  customerName : Option String := none
  customerPhone : Option String := none
  note : Option String := none

/-- The reads and checks of `checkout`, and the plan of the stock to reserve. -/
def admitCheckout (context : RequestContext) (cartId : Id) (db : Db) :
    Except ApiException (Cart × List InventoryReservationPlanEntry) := do
  let cart ← carts.findUniqueOrThrow cartId db
  rejectIf (cart.status ≠ .open) (.badRequest "Only open carts can be modified.")
  authorize context cart.tenantId cart.storeId
  rejectIf (cart.items = [])
    (.badRequest "Cart must have at least one item before checkout.")
  let plan ← buildReservationPlanTx cart.tenantId cart.storeId
    (cart.items.map fun item => ⟨item.productId, item.variantId, item.quantity⟩) db
  pure (cart, plan)

def orderOfCart (env : Env) (orderId : Id) (itemIds : List Id) (cart : Cart)
    (dto : CheckoutCartDto) : Order where
  id := orderId
  tenantId := cart.tenantId
  storeId := cart.storeId
  cartId := some cart.id
  customerProfileId := cart.customerProfileId
  number := env.orderNumber
  channel := cart.channel
  status := .placed
  refundStatus := .none
  customerName := dto.customerName.or cart.customerName
  customerPhone := dto.customerPhone.or cart.customerPhone
  note := dto.note.or cart.note
  subtotal := cart.subtotal
  modifierTotal := cart.modifierTotal
  fulfillmentFee := cart.fulfillmentFee
  discountTotal := cart.discountTotal
  total := cart.total
  promotionCode := cart.promotionCode
  promotionSnapshot := cart.promotionSnapshot
  fulfillmentMode := cart.fulfillmentMode
  fulfillmentStatus := cart.fulfillmentStatus
  fulfillmentPayload := cart.fulfillmentPayload
  promisedAt := cart.promisedAt
  etaAt := cart.etaAt
  placedAt := env.now
  confirmedAt := none
  readyAt := none
  completedAt := none
  cancelledAt := none
  cancelReason := none
  deviceId := cart.deviceId
  createdByUserId := cart.createdByUserId
  items := List.zipWith (fun id item => { item.toLineItem with id := id }) itemIds cart.items

def checkoutTx (env : Env) (context : RequestContext) (cartId : Id) (dto : CheckoutCartDto) :
    Transaction Order := do
  let (cart, plan) ← Tx.read (admitCheckout context cartId)
  let orderId ← freshId
  let itemIds ← freshIds cart.items.length
  Tx.read fun db => rejectIf
    (db.orders.any fun order => order.cartId = some cart.id ∨ order.number = env.orderNumber)
    (.uniqueConstraint "Order")
  let order ← orders.create (orderOfCart env orderId itemIds cart dto)
  reserveOrderInventoryTx order.tenantId order.id plan
  let _ ← carts.update cart.id fun row =>
    { row with
      status := .converted
      customerProfileId := order.customerProfileId
      customerName := order.customerName
      customerPhone := order.customerPhone
      note := order.note
      fulfillmentStatus := order.fulfillmentStatus }
  recordEverywhere context order "order.placed" "order" order.id
  enqueueStorefrontCustomerUpdates order (some "storefront-order-placed")
  pure order

def checkout (env : Env) (context : RequestContext) (cartId : Id) (dto : CheckoutCartDto) :
    ServiceCall Order :=
  Call.transact (checkoutTx env context cartId dto)

def findOrder (context : RequestContext) (orderId : Id) (db : Db) : Except ApiException Order := do
  let order ← orders.findUniqueOrThrow orderId db
  authorize context order.tenantId order.storeId
  pure order

def getOrder (context : RequestContext) (orderId : Id) : ServiceCall Order :=
  Call.transact (Tx.read (findOrder context orderId))

def getCart (context : RequestContext) (cartId : Id) : ServiceCall Cart :=
  Call.transact <| Tx.read fun db => do
    let cart ← carts.findUniqueOrThrow cartId db
    authorize context cart.tenantId cart.storeId
    pure cart

/-- `group.set(key, [...(group.get(key) ?? []), item])` on a map in insertion order. -/
def addToGroup (stationKey : Kitchen.StationKey) (item : LineItem) :
    List (Kitchen.StationKey × List LineItem) → List (Kitchen.StationKey × List LineItem)
  | [] => [(stationKey, [item])]
  | (key, items) :: rest =>
    if key = stationKey then (key, items ++ [item]) :: rest
    else (key, items) :: addToGroup stationKey item rest

def groupByStation (setup : Setup) (order : Order) : List (Kitchen.StationKey × List LineItem) :=
  let setting (rows : List Setting) (ownerId : Id) : Option Json :=
    Json.present
      ((rows.find? fun s => s.ownerId = ownerId ∧ s.key = "kitchen.routing").map Setting.value)
  let routing := Kitchen.resolveKitchenRoutingConfig
    ((setting setup.storeSettings order.storeId).or (setting setup.tenantSettings order.tenantId))
  order.items.foldl (fun groups item =>
    match setup.products.find? fun product => product.id = item.productId with
    | none => groups
    | some product =>
      addToGroup (Kitchen.resolveKitchenStationKey routing product.code product.categoryCode) item
        groups) []

def createKitchenTicket (context : RequestContext) (order : Order) (stationKey : String)
    (items : List LineItem) : Transaction Unit := do
  let id ← freshId
  let ticket ← kitchenTickets.create
    { id
      orderId := order.id
      tenantId := order.tenantId
      storeId := order.storeId
      stationKey
      status := .new
      sourceChannel := order.channel
      displayNumber := order.number
      note := order.note
      itemCount := (items.map LineItem.quantity).sum
      startedAt := none
      readyAt := none
      completedAt := none
      cancelledAt := none
      items := items.map fun item =>
        ⟨item.id, item.productId, item.variantId, item.quantity, item.lineTotal, item.snapshot⟩ }
  recordEverywhere context order "kitchen.ticket_created" "kitchen_ticket" ticket.id

/-- The ticket of a station. The database takes no key that is not a text. -/
def createStationTicket (context : RequestContext) (order : Order) :
    Kitchen.StationKey × List LineItem → Transaction Unit
  | (.text stationKey, items) => createKitchenTicket context order stationKey items
  | (.inherited _, _) => Tx.lift (.error .typeError)

def createKitchenTicketsForOrder (context : RequestContext) (order : Order) : Transaction Unit := do
  let existingTickets ← Tx.read fun db =>
    .ok (db.kitchenTickets.countP fun ticket => ticket.orderId = order.id)
  if existingTickets > 0 then pure ()
  else
    let groupedItems ← Tx.read fun db => .ok (groupByStation db.setup order)
    groupedItems.forM (createStationTicket context order)

def isOpenTicketOf (orderId : Id) (ticket : KitchenTicket) : Bool :=
  ticket.orderId = orderId ∧ ticket.status ∈ [.new, .inProgress, .ready]

def cancelTicket (now : Instant) (ticket : KitchenTicket) : KitchenTicket :=
  { ticket with status := .cancelled, cancelledAt := some now }

def cancelKitchenTicketsForOrder (env : Env) (orderId : Id) : Transaction Nat :=
  kitchenTickets.updateMany (isOpenTicketOf orderId) (cancelTicket env.now)

structure TransitionOrderDto where
  toStatus : OrderStatus
  reason : Option String := none
  hasExternalPayment : Option Bool := none

def admitTransition (context : RequestContext) (orderId : Id) (dto : TransitionOrderDto) (db : Db) :
    Except ApiException Order := do
  let current ← orders.findUniqueOrThrow orderId db
  authorize context current.tenantId current.storeId
  rejectIf (canTransitionOrder current.status dto.toStatus = false)
    (.badRequest ("Order transition " ++ current.status.text ++ " -> " ++ dto.toStatus.text ++
      " is not allowed."))
  pure current

def applyTransition (now : Instant) (dto : TransitionOrderDto) (order : Order) : Order :=
  { order with
    status := dto.toStatus
    confirmedAt := if dto.toStatus = .confirmed then some now else order.confirmedAt
    readyAt := if dto.toStatus = .ready then some now else order.readyAt
    completedAt := if dto.toStatus = .completed then some now else order.completedAt
    cancelledAt := if dto.toStatus = .cancelled then some now else order.cancelledAt
    cancelReason := if dto.toStatus = .cancelled then dto.reason else order.cancelReason
    refundStatus :=
      if dto.toStatus = .cancelled then resolveRefundStatusOnCancel dto.hasExternalPayment
      else order.refundStatus }

def templateKeyOf : OrderStatus → Option String
  | .confirmed => some "storefront-order-confirmed"
  | .ready => some "storefront-order-ready"
  | .completed => some "storefront-order-completed"
  | .cancelled => some "storefront-order-cancelled"
  | _ => none

def noteIfAny (count : Nat) (order : Order) (type : String) : Transaction Unit :=
  if count > 0 then recordOrderEvent ⟨order.id, order.tenantId, order.storeId, type⟩ else pure ()

def settleTransition (env : Env) (context : RequestContext) (order : Order)
    (toStatus : OrderStatus) : Transaction Unit := do
  match toStatus with
  | .confirmed =>
    recordEverywhere context order "order.kitchen_handoff_requested" "order" order.id
    createKitchenTicketsForOrder context order
  | .cancelled =>
    let released ← releaseOrderInventoryReservationsTx order.tenantId order.id
    let cancelled ← cancelKitchenTicketsForOrder env order.id
    noteIfAny released order "inventory.reservations_released"
    noteIfAny cancelled order "kitchen.ticket_cancelled"
  | .completed =>
    let consumed ← consumeOrderInventoryReservationsTx order.tenantId order.id
    noteIfAny consumed order "inventory.reservations_consumed"
  | _ => pure ()

def transitionOrderTx (env : Env) (context : RequestContext) (orderId : Id)
    (dto : TransitionOrderDto) : Transaction Order := do
  let current ← Tx.read (admitTransition context orderId dto)
  let order ← orders.update current.id (applyTransition env.now dto)
  let eventName := if dto.toStatus = .cancelled then "order.cancelled" else "order.status_changed"
  recordEverywhere context order eventName "order" order.id
  enqueueStorefrontCustomerUpdates order (templateKeyOf dto.toStatus)
  settleTransition env context order dto.toStatus
  pure order

def transitionOrder (env : Env) (context : RequestContext) (orderId : Id)
    (dto : TransitionOrderDto) : ServiceCall Order :=
  Call.transact (transitionOrderTx env context orderId dto)

end Exetron.Orders
