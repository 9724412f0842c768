import Exetron.Checkout.Payment

/-!
# Kiosk service

`kiosk-config.util.ts` and `KioskService.checkout`.
-/

namespace Exetron.Kiosk

open Lib Payments Checkout

structure KioskRules where
  (allowNotes requireCustomerName : Bool)
  allowedPaymentMethods : List PaymentMethodKind
  autoConfirmPaidOrders : Bool
  deriving DecidableEq

def defaultRules : KioskRules where
  allowNotes := true
  requireCustomerName := false
  allowedPaymentMethods := [.card, .qr]
  autoConfirmPaidOrders := true

def asBoolean (value : Option Json) (fallback : Bool) : Bool :=
  match value with
  | some (.bool b) => b
  | _ => fallback

def resolveKioskRules (value : Json) : KioskRules where
  allowNotes := asBoolean (value.get? "allowNotes") defaultRules.allowNotes
  requireCustomerName :=
    asBoolean (value.get? "requireCustomerName") defaultRules.requireCustomerName
  allowedPaymentMethods :=
    paymentMethods (value.get? "allowedPaymentMethods") defaultRules.allowedPaymentMethods
  autoConfirmPaidOrders :=
    asBoolean (value.get? "autoConfirmPaidOrders") defaultRules.autoConfirmPaidOrders

structure KioskAccessTokenClaims where
  (sub tenantId storeId : Id)
  code : String
  type : DeviceType
  scope : String

structure KioskCheckoutItemDto where
  productId : Id
  variantId : Option Id
  quantity : Nat
  priceListId : Option Id
  modifierOptionIds : List Id

structure KioskCheckoutDto where
  deviceId : Id
  (accessToken customerName note : Option String)
  paymentMethod : PaymentMethodKind
  items : List KioskCheckoutItemDto

/-- What creating a cart and adding its items leaves behind: the carts and the number of keys
handed out. A failure may come after some of it. -/
structure FilledCart where
  answer : Except ApiException Id
  carts : List Cart
  keys : Nat

/-- What a kiosk checkout takes from outside: the verification of tokens, the customization in
force, the filling of a cart, and the environments of its calls. -/
structure KioskEnv where
  verifyAsync : String → Option KioskAccessTokenClaims
  resolveEffectiveCustomization :
    RequestContext → Device → KioskCheckoutDto → Db → Except ApiException Fields
  fillCart : RequestContext → Device → KioskCheckoutDto → Db → FilledCart
  (ordering paying confirming : Env)

def buildDeviceContext (device : Device) : RequestContext where
  userId := toString device.id
  tenantId := some device.tenantId
  scope := .device
  storeIds := [device.storeId]
  deviceId := some device.id

def verifyAccessToken (env : KioskEnv) (deviceId : Id) (accessToken : Option String) :
    Except ApiException KioskAccessTokenClaims := do
  let token ← readToken accessToken (.unauthorized "Kiosk access token is required.")
  let claims ← required (env.verifyAsync token)
    (.unauthorized "Kiosk access token is invalid or expired.")
  rejectIf (claims.scope ≠ "kiosk_public" ∨ claims.type ≠ .kiosk ∨ claims.sub ≠ deviceId)
    (.unauthorized "Kiosk access token does not match this device.")
  pure claims

def loadKioskDevice (deviceId : Id) (db : Db) : Except ApiException Device := do
  let device ← required (Rows.find Device.id db.setup.devices deviceId) (.recordNotFound "Device")
  rejectIf (device.type ≠ .kiosk) (.badRequest "Selected device is not a kiosk device.")
  rejectIf (device.status ≠ .active) (.badRequest "Kiosk device is not active.")
  pure device

def loadAuthorizedKioskDevice (env : KioskEnv) (deviceId : Id) (accessToken : Option String)
    (db : Db) : Except ApiException Device := do
  let claims ← verifyAccessToken env deviceId accessToken
  let device ← loadKioskDevice deviceId db
  rejectIf
    (claims.tenantId ≠ device.tenantId ∨ claims.storeId ≠ device.storeId ∨
      claims.code ≠ device.code ∨ claims.type ≠ device.type)
    (.unauthorized "Kiosk access token is no longer valid for this device.")
  pure device

/-- The reads and checks of `checkout` before there is a cart. -/
def admitCheckout (env : KioskEnv) (dto : KioskCheckoutDto) (db : Db) :
    Except ApiException (Device × KioskRules) := do
  rejectIf (dto.items = []) (.badRequest "Kiosk checkout requires at least one item.")
  let device ← loadAuthorizedKioskDevice env dto.deviceId dto.accessToken db
  let settings ← env.resolveEffectiveCustomization (buildDeviceContext device) device dto db
  let rules := resolveKioskRules (Json.orElse (readField "kiosk.rules" (some settings)) .null)
  rejectIf (rules.requireCustomerName ∧ ¬Text.isFilled dto.customerName)
    (.badRequest "Customer name is required for this kiosk.")
  rejectIf (¬rules.allowNotes ∧ Text.isFilled dto.note)
    (.badRequest "Notes are disabled for this kiosk.")
  rejectIf (dto.paymentMethod ∉ rules.allowedPaymentMethods)
    (.badRequest "Payment method is not allowed for this kiosk.")
  pure (device, rules)

/-- `createCart` and `addItem` for every item. -/
def fillCart (env : KioskEnv) (context : RequestContext) (device : Device) (dto : KioskCheckoutDto) :
    ServiceCall Id := fun db =>
  let filled := env.fillCart context device dto db
  (filled.answer, { db with carts := filled.carts, nextId := db.nextId + filled.keys })

def place (env : KioskEnv) (dto : KioskCheckoutDto) : ServiceCall (Device × Placed) := do
  let (device, rules) ← Call.transact (Tx.read (admitCheckout env dto))
  let context := buildDeviceContext device
  let cartId ← fillCart env context device dto
  let order ← Orders.checkout env.ordering context cartId
    { customerName := dto.customerName, note := dto.note }
  let placed ← openPayment context rules.autoConfirmPaidOrders order
    { tenantId := some device.tenantId
      storeId := device.storeId
      orderId := order.id
      channel := some .kiosk
      deviceId := some (some device.id)
      allocations := [⟨dto.paymentMethod, order.total⟩] }
    "Kiosk payment intent was created without allocations."
  pure (device, placed)

inductive PaymentHandoffStatus where
  | initiated
  | completed
  | failed
  | cancelled

def handoffStatusOf : PaymentIntentStatus → PaymentHandoffStatus
  | .completed => .completed
  | .failed => .failed
  | .cancelled => .cancelled
  | .pending | .partiallyPaid => .initiated

structure KioskPaymentHandoff where
  (id orderId tenantId storeId deviceId : Id)
  method : PaymentMethodKind
  status : PaymentHandoffStatus
  amount : Money
  provider : String
  externalReference : Option String
  completedAt : Option Instant

structure KioskCheckoutResponse where
  order : Order
  paymentHandoff : KioskPaymentHandoff

def mapKioskPaymentHandoff (device : Device) (processedIntent : PaymentIntent)
    (processedAllocation : PaymentAllocation) : KioskPaymentHandoff where
  id := processedAllocation.id
  orderId := processedIntent.orderId
  tenantId := processedIntent.tenantId
  storeId := processedIntent.storeId
  deviceId := processedIntent.deviceId.getD device.id
  method := processedAllocation.method
  status := handoffStatusOf processedIntent.status
  amount := processedAllocation.amount
  provider := processedAllocation.providerKey.getD "kiosk-default-provider"
  externalReference := processedAllocation.externalReference
  completedAt := processedAllocation.completedAt

def finish (env : KioskEnv) (device : Device) (placed : Placed)
    (processedIntent : LoadedPaymentIntent) : ServiceCall KioskCheckoutResponse := do
  match processedIntent.allocations.head? with
  | none => throw (.badRequest "Processed kiosk payment intent has no allocation.")
  | some processedAllocation =>
    let order ← orderAfterPayment env.confirming placed processedIntent
    pure ⟨order, mapKioskPaymentHandoff device processedIntent.intent processedAllocation⟩

def checkout (env : KioskEnv) (dto : KioskCheckoutDto) : ServiceCall KioskCheckoutResponse := do
  let (device, placed) ← place env dto
  let processedIntent ← pay env.paying placed
  finish env device placed processedIntent

end Exetron.Kiosk
