import Exetron.Types
import Exetron.Lib.Table

/-!
# The database

The rows the modelled services read and write, grouped by the service that owns them, and the
tables as statements see them. `Setup` holds what these services only read. Payloads that no
service reads back (requests, responses, events) are not kept.
-/

namespace Exetron

open Lib

structure Store where
  (id tenantId : Id)
  status : StoreStatus
  timezone : String := "UTC"

structure Device where
  (id tenantId storeId : Id)
  code : String
  type : DeviceType
  status : DeviceStatus

structure PosShift where
  (id tenantId storeId : Id)

structure PosSession where
  (id tenantId storeId deviceId shiftId : Id)
  status : PosSessionStatus

structure Category where
  (id tenantId : Id)
  parentId : Option Id
  (code name : String)
  sortOrder : Int
  status : CatalogStatus

structure ModifierGroup where
  id : Id
  (code name : String)
  selectionMode : ModifierSelectionMode := .single
  minSelection : Int := 0
  maxSelection : Option Int := none
  required : Bool := false
  status : CatalogStatus := .active

/-- `modifierGroupLinks` are the groups linked to the product, in the order of their links. -/
structure Product where
  (id tenantId : Id)
  (code name : String)
  (description categoryCode : Option String)
  basePrice : Option Money
  modifierGroupLinks : List ModifierGroup
  categoryId : Option Id := none
  brandId : Option Id := none
  status : ProductStatus := .active
  isVisible : Bool := true
  isAvailable : Bool := true
  isOutOfStock : Bool := false

structure ProductVariant where
  (id productId : Id)
  (code name : String)
  (sku barcode : Option String)
  basePrice : Option Money
  status : ProductStatus := .active
  isVisible : Bool := true
  isAvailable : Bool := true
  isOutOfStock : Bool := false

structure ModifierOption where
  (id groupId : Id)
  (code name : String)
  priceDelta : Money
  status : CatalogStatus := .active

structure PriceListItem where
  targetType : CatalogTargetType
  targetId : Id
  price : Money

def PriceListItem.target (item : PriceListItem) : CatalogTargetType × Id :=
  (item.targetType, item.targetId)

structure PriceList where
  (id tenantId : Id)
  items : Rows.Keyed PriceListItem PriceListItem.target

structure StoreCatalogOverride where
  storeId : Id
  targetType : CatalogTargetType
  targetId : Id
  priceOverride : Option Money
  isVisible : Option Bool := none
  isAvailable : Option Bool := none
  isOutOfStock : Option Bool := none

def StoreCatalogOverride.target (override : StoreCatalogOverride) : Id × CatalogTargetType × Id :=
  (override.storeId, override.targetType, override.targetId)

/-- A window without a store holds in every store. -/
structure AvailabilityWindow where
  storeId : Option Id
  targetType : AvailabilityTargetType
  targetId : Id
  weekday : Int
  (startTime endTime : String)

/-- A row of `StoreSetting` or `TenantSetting`: `ownerId` is the store or the tenant. -/
structure Setting where
  ownerId : Id
  key : String
  value : Json

structure PaymentProviderConfig where
  (id tenantId : Id)
  storeId : Option Id
  providerKey : String
  providerType : PaymentProviderType
  method : PaymentMethodKind
  enabled : Bool
  priority : Int
  allowedChannels : List OrderChannel
  autoConfirmOrderOnSuccess : Bool
  settings : Option (List (String × Json))
  createdAt : Instant

structure Warehouse where
  (id tenantId : Id)
  storeId : Option Id
  isActive : Bool

structure RecipeBom where
  (tenantId productId : Id)
  variantId : Option Id
  ingredientId : Id
  quantity : Quantity

structure StopListRule where
  tenantId : Id
  (storeId warehouseId ingredientId : Option Id)
  ruleType : String
  threshold : Quantity
  isActive : Bool

structure Setup where
  stores : List Store
  devices : List Device
  posShifts : List PosShift
  posSessions : List PosSession
  products : List Product
  (storeSettings tenantSettings : List Setting)
  paymentProviderConfigs : List PaymentProviderConfig
  warehouses : List Warehouse
  recipeBoms : List RecipeBom
  stopListRules : List StopListRule
  productVariants : Rows.Keyed ProductVariant ProductVariant.id := Rows.noRows
  modifierOptions : Rows.Keyed ModifierOption ModifierOption.id := Rows.noRows
  priceLists : Rows.Keyed PriceList PriceList.id := Rows.noRows
  storeCatalogOverrides : Rows.Keyed StoreCatalogOverride StoreCatalogOverride.target :=
    Rows.noRows
  categories : List Category := []
  availabilityWindows : List AvailabilityWindow := []

/-- A chosen option of a cart or order line. -/
structure LineModifier where
  (modifierGroupId modifierOptionId : Id)
  nameSnapshot : String
  priceDelta : Money

/-- A line of a cart or of an order. -/
structure LineItem where
  (id productId : Id)
  variantId : Option Id
  quantity : Int
  unitBasePrice : Option Money
  (modifierTotal lineTotal : Money)
  snapshot : Json
  modifiers : List LineModifier

/-- A cart's line also names the price list it was priced by. -/
structure CartItem extends LineItem where
  priceListId : Option Id

structure Cart where
  (id tenantId storeId : Id)
  customerProfileId : Option Id
  channel : OrderChannel
  status : CartStatus
  (customerName customerPhone note : Option String)
  (subtotal modifierTotal fulfillmentFee discountTotal total : Money)
  promotionCode : Option String
  promotionSnapshot : Option Json
  (fulfillmentMode fulfillmentStatus : Option String)
  fulfillmentPayload : Option Json
  (promisedAt etaAt : Option Instant)
  deviceId : Option Id
  createdByUserId : Option String
  items : List CartItem

structure Order where
  (id tenantId storeId : Id)
  (cartId customerProfileId : Option Id)
  number : String
  channel : OrderChannel
  status : OrderStatus
  refundStatus : RefundStatus
  (customerName customerPhone note : Option String)
  (subtotal modifierTotal fulfillmentFee discountTotal total : Money)
  promotionCode : Option String
  promotionSnapshot : Option Json
  (fulfillmentMode fulfillmentStatus : Option String)
  fulfillmentPayload : Option Json
  (promisedAt etaAt : Option Instant)
  placedAt : Instant
  (confirmedAt readyAt completedAt cancelledAt : Option Instant)
  cancelReason : Option String
  deviceId : Option Id
  createdByUserId : Option String
  items : List LineItem

structure KitchenTicketItem where
  (orderItemId productId : Id)
  variantId : Option Id
  quantity : Int
  lineTotal : Money
  snapshot : Json

structure KitchenTicket where
  (id orderId tenantId storeId : Id)
  stationKey : String
  status : KitchenTicketStatus
  sourceChannel : OrderChannel
  displayNumber : String
  note : Option String
  itemCount : Int
  (startedAt readyAt completedAt cancelledAt : Option Instant)
  items : List KitchenTicketItem

structure InventoryItem where
  (id tenantId warehouseId ingredientId : Id)
  (onHand reserved reorderPoint : Quantity)

/-- `sourceId` is a text column; for the source type `order` it is the order's id. -/
structure StockReservation where
  (id tenantId warehouseId ingredientId : Id)
  sourceType : String
  sourceId : Id
  quantity : Quantity
  status : ReservationStatus

structure StockLedgerEntry where
  (id tenantId warehouseId ingredientId : Id)
  entryType : String
  (quantity balanceAfter : Quantity)
  sourceType : String
  sourceId : Id

structure StockTables where
  items : List InventoryItem
  reservations : List StockReservation
  ledger : List StockLedgerEntry

/-- The column is a plain text. -/
inductive ReceivingStatus where
  | open
  | completed
  deriving DecidableEq

structure ReceivingRecord where
  (id tenantId warehouseId : Id)
  reference : String
  status : ReceivingStatus
  receivedBy : Option String
  completedAt : Option Instant

structure ReceivingLine where
  (id recordId ingredientId : Id)
  quantity : Quantity

inductive AdjustmentType where
  | add
  | remove
  | set
  deriving DecidableEq

structure InventoryAdjustment where
  (id tenantId warehouseId ingredientId : Id)
  adjustmentType : AdjustmentType
  quantity : Quantity
  reason : Option String

/-- What moves stock apart from orders. -/
structure InventoryTables where
  receivingRecords : List ReceivingRecord
  receivingLines : List ReceivingLine
  adjustments : List InventoryAdjustment

structure PaymentIntent where
  (id tenantId storeId orderId : Id)
  channel : OrderChannel
  (deviceId posSessionId shiftId : Option Id)
  status : PaymentIntentStatus
  (totalAmount paidAmount : Money)
  createdByUserId : Option String

structure PaymentAllocation where
  (id tenantId paymentIntentId : Id)
  method : PaymentMethodKind
  amount : Money
  status : PaymentAllocationStatus
  (providerKey externalReference : Option String)
  (completedAt failedAt : Option Instant)
  failureReason : Option String

structure PaymentAttempt where
  (id paymentIntentId paymentAllocationId tenantId storeId orderId : Id)
  providerKey : String
  providerType : PaymentProviderType
  method : PaymentMethodKind
  status : PaymentAttemptStatus
  (externalReference errorCode errorMessage : Option String)
  finishedAt : Option Instant

structure PaymentOperation where
  (id tenantId storeId paymentIntentId : Id)
  paymentAllocationId : Option Id
  orderId : Id
  kind : PaymentOperationKind
  status : PaymentOperationStatus
  amount : Money
  providerKey : String
  (externalReference reason createdByUserId : Option String)
  processedAt : Option Instant

structure PaymentWebhookEvent where
  id : Id
  (tenantId storeId : Option Id)
  (providerKey deliveryId eventType : String)
  status : PaymentWebhookStatus
  signatureValid : Bool
  failureReason : Option String
  processedAt : Option Instant

structure PaymentTables where
  intents : List PaymentIntent
  allocations : List PaymentAllocation
  attempts : List PaymentAttempt
  operations : List PaymentOperation
  webhookEvents : List PaymentWebhookEvent

structure RetentionState where
  (action templateKey : String)
  recommendedAt : Instant

structure CustomerProfile where
  (id tenantId : Id)
  preferredStoreId : Option Id
  fullName : Option String
  (phone phoneNormalized : String)
  status : CustomerProfileStatus
  (orderCount completedOrderCount : Nat)
  totalSpent : Money
  (lastOrderAt lastSeenAt : Option Instant)
  segments : List String
  retentionState : Option RetentionState

structure LoyaltyAccount where
  (id tenantId customerProfileId : Id)
  (pointsBalance totalEarnedPoints totalRedeemedPoints : Int)
  tierKey : Option String

structure LoyaltyLedgerEntry where
  (id tenantId customerProfileId loyaltyAccountId : Id)
  orderId : Option Id
  entryKind : LoyaltyLedgerEntryKind
  points : Int
  amount : Option Money
  description : Option String

/-- A campaign is named by the text of its id, as the snapshots of carts and orders name it. -/
structure PromotionCampaign where
  id : String
  tenantId : Id
  storeId : Option Id
  (code name : String)
  status : PromotionStatus
  type : PromotionType
  (value minimumOrderTotal : Money)
  maxDiscountAmount : Option Money
  pointsCost : Option Int
  segmentKeys : List String
  usageLimit : Option Int
  usedCount : Int
  (activeFrom activeTo : Option Instant)

structure CustomerTables where
  profiles : List CustomerProfile
  accounts : List LoyaltyAccount
  ledger : List LoyaltyLedgerEntry
  campaigns : List PromotionCampaign

structure OrderEvent where
  (orderId tenantId storeId : Id)
  type : String
  deriving DecidableEq

inductive ActorType where
  | user
  | device
  deriving DecidableEq

inductive ActorId where
  | user (userId : String)
  | device (deviceId : Id)
  deriving DecidableEq

structure AuditEntry where
  tenantId : Id
  storeId : Option Id
  actorType : ActorType
  actorId : ActorId
  (action entityType : String)
  entityId : Id
  deriving DecidableEq

structure DomainEvent where
  tenantId : Id
  (eventName aggregate : String)
  aggregateId : Id
  deriving DecidableEq

inductive ExecutionStatus where
  | pending
  | completed
  | failed
  deriving DecidableEq

structure ConnectorExecutionLog where
  tenantId : Id
  storeId : Option Id
  (connectorKind connectorKey action : String)
  status : ExecutionStatus
  errorMessage : Option String
  finishedAt : Option Instant

structure Logs where
  orderEvents : List OrderEvent
  audit : List AuditEntry
  domainEvents : List DomainEvent
  connectorExecutions : List ConnectorExecutionLog

structure Db where
  nextId : Id
  setup : Setup
  carts : List Cart
  orders : List Order
  kitchenTickets : List KitchenTicket
  stock : StockTables
  payments : PaymentTables
  customers : CustomerTables
  logs : Logs
  inventory : InventoryTables := ⟨[], [], []⟩

abbrev Transaction := Lib.Tx Db ApiException

abbrev ServiceCall := Lib.Call Db ApiException

/-- `randomUUID()`. -/
def freshId : Transaction Id := fun db => .ok (db.nextId, { db with nextId := db.nextId + 1 })

theorem freshId_ok_iff {db db' : Db} {id : Id} :
    freshId db = .ok (id, db') ↔ id = db.nextId ∧ db' = { db with nextId := db.nextId + 1 } := by
  simp [freshId, eq_comm]

def freshIds (n : Nat) : Transaction (List Id) := fun db =>
  .ok (List.range' db.nextId n, { db with nextId := db.nextId + n })

theorem freshIds_ok_iff {n : Nat} {db db' : Db} {ids : List Id} : freshIds n db = .ok (ids, db') ↔
      ids = List.range' db.nextId n ∧ db' = { db with nextId := db.nextId + n } := by
  simp [freshIds, eq_comm]

abbrev DbTable (α : Type) := Table Db ApiException α Id

def carts : DbTable Cart where
  rows db := db.carts
  put rows db := { db with carts := rows }
  key := Cart.id
  missing := .recordNotFound "Cart"

def orders : DbTable Order where
  rows db := db.orders
  put rows db := { db with orders := rows }
  key := Order.id
  missing := .recordNotFound "Order"

def kitchenTickets : DbTable KitchenTicket where
  rows db := db.kitchenTickets
  put rows db := { db with kitchenTickets := rows }
  key := KitchenTicket.id
  missing := .recordNotFound "KitchenTicket"

def inventoryItems : DbTable InventoryItem where
  rows db := db.stock.items
  put rows db := { db with stock := { db.stock with items := rows } }
  key := InventoryItem.id
  missing := .recordNotFound "InventoryItem"

def stockReservations : DbTable StockReservation where
  rows db := db.stock.reservations
  put rows db := { db with stock := { db.stock with reservations := rows } }
  key := StockReservation.id
  missing := .recordNotFound "StockReservation"

def stockLedgerEntries : DbTable StockLedgerEntry where
  rows db := db.stock.ledger
  put rows db := { db with stock := { db.stock with ledger := rows } }
  key := StockLedgerEntry.id
  missing := .recordNotFound "StockLedgerEntry"

def receivingRecords : DbTable ReceivingRecord where
  rows db := db.inventory.receivingRecords
  put rows db := { db with inventory := { db.inventory with receivingRecords := rows } }
  key := ReceivingRecord.id
  missing := .recordNotFound "ReceivingRecord"

def receivingLines : DbTable ReceivingLine where
  rows db := db.inventory.receivingLines
  put rows db := { db with inventory := { db.inventory with receivingLines := rows } }
  key := ReceivingLine.id
  missing := .recordNotFound "ReceivingLine"

def inventoryAdjustments : DbTable InventoryAdjustment where
  rows db := db.inventory.adjustments
  put rows db := { db with inventory := { db.inventory with adjustments := rows } }
  key := InventoryAdjustment.id
  missing := .recordNotFound "InventoryAdjustment"

def paymentIntents : DbTable PaymentIntent where
  rows db := db.payments.intents
  put rows db := { db with payments := { db.payments with intents := rows } }
  key := PaymentIntent.id
  missing := .recordNotFound "PaymentIntent"

def paymentAllocations : DbTable PaymentAllocation where
  rows db := db.payments.allocations
  put rows db := { db with payments := { db.payments with allocations := rows } }
  key := PaymentAllocation.id
  missing := .recordNotFound "PaymentAllocation"

def paymentAttempts : DbTable PaymentAttempt where
  rows db := db.payments.attempts
  put rows db := { db with payments := { db.payments with attempts := rows } }
  key := PaymentAttempt.id
  missing := .recordNotFound "PaymentAttempt"

def paymentOperations : DbTable PaymentOperation where
  rows db := db.payments.operations
  put rows db := { db with payments := { db.payments with operations := rows } }
  key := PaymentOperation.id
  missing := .recordNotFound "PaymentOperation"

def paymentWebhookEvents : DbTable PaymentWebhookEvent where
  rows db := db.payments.webhookEvents
  put rows db := { db with payments := { db.payments with webhookEvents := rows } }
  key := PaymentWebhookEvent.id
  missing := .recordNotFound "PaymentWebhookEvent"

def customerProfiles : DbTable CustomerProfile where
  rows db := db.customers.profiles
  put rows db := { db with customers := { db.customers with profiles := rows } }
  key := CustomerProfile.id
  missing := .recordNotFound "CustomerProfile"

def loyaltyAccounts : DbTable LoyaltyAccount where
  rows db := db.customers.accounts
  put rows db := { db with customers := { db.customers with accounts := rows } }
  key := LoyaltyAccount.id
  missing := .recordNotFound "LoyaltyAccount"

def loyaltyLedgerEntries : DbTable LoyaltyLedgerEntry where
  rows db := db.customers.ledger
  put rows db := { db with customers := { db.customers with ledger := rows } }
  key := LoyaltyLedgerEntry.id
  missing := .recordNotFound "LoyaltyLedgerEntry"

def promotionCampaigns : Table Db ApiException PromotionCampaign String where
  rows db := db.customers.campaigns
  put rows db := { db with customers := { db.customers with campaigns := rows } }
  key := PromotionCampaign.id
  missing := .recordNotFound "PromotionCampaign"

def log (f : Logs → Logs) : Transaction Unit := Tx.write fun db => { db with logs := f db.logs }

theorem log_ok_iff {f : Logs → Logs} {u : Unit} {db db' : Db} :
    log f db = .ok (u, db') ↔ db' = { db with logs := f db.logs } :=
  Tx.write_ok_iff

def recordOrderEvent (event : OrderEvent) : Transaction Unit :=
  log fun l => { l with orderEvents := l.orderEvents ++ [event] }

def recordAudit (entry : AuditEntry) : Transaction Unit :=
  log fun l => { l with audit := l.audit ++ [entry] }

def recordDomainEvent (event : DomainEvent) : Transaction Unit :=
  log fun l => { l with domainEvents := l.domainEvents ++ [event] }

def recordConnectorExecution (entry : ConnectorExecutionLog) : Transaction Unit :=
  log fun l => { l with connectorExecutions := l.connectorExecutions ++ [entry] }

def resolveActorType (context : RequestContext) : ActorType :=
  if context.scope = .device then .device else .user

def resolveActorId (context : RequestContext) : ActorId :=
  match context.scope, context.deviceId with
  | .device, some deviceId => .device deviceId
  | _, _ => .user context.userId

def resolveCreatedByUserId (context : RequestContext) : Option String :=
  if context.scope = .device then none else some context.userId

end Exetron
