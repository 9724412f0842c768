import Exetron.Checkout.Payment

/-!
# Storefront service

The rules of `storefront-config.util.ts` and `StorefrontService.checkout`.
-/

namespace Exetron.Storefront

open Lib Payments Checkout

structure StorefrontRules where
  (allowGuestCheckout allowCustomerSessions requireCustomerName requireCustomerPhone : Bool)
  (allowNotes autoConfirmPaidOrders : Bool)
  allowedPaymentMethods : List PaymentMethodKind
  deriving DecidableEq

def isFalse : Option Json → Bool
  | some (.bool false) => true
  | _ => false

def isTrue : Option Json → Bool
  | some (.bool true) => true
  | _ => false

def resolveStorefrontRules (raw : Json) : StorefrontRules where
  allowGuestCheckout := !isFalse (raw.get? "allowGuestCheckout")
  allowCustomerSessions := !isFalse (raw.get? "allowCustomerSessions")
  requireCustomerName := isTrue (raw.get? "requireCustomerName")
  requireCustomerPhone := !isFalse (raw.get? "requireCustomerPhone")
  allowNotes := !isFalse (raw.get? "allowNotes")
  autoConfirmPaidOrders := !isFalse (raw.get? "autoConfirmPaidOrders")
  allowedPaymentMethods :=
    paymentMethods (raw.get? "allowedPaymentMethods") [.card, .qr, .cash]

def ensureStorefrontEnabled (value : Json) : Except ApiException Unit :=
  rejectIf (isFalse (value.get? "enabled")) (.badRequest "Storefront is disabled for this store.")

inductive CustomerMode where
  | guest
  | customer
  deriving DecidableEq

structure StorefrontCartAccessTokenClaims where
  (sub tenantId storeId : Id)
  (pointKey customerPhone : Option String)
  mode : CustomerMode
  scope : String

structure StorefrontCustomerSessionClaims where
  (tenantId storeId : Id)
  customerName : Option String
  (customerPhone scope : String)

structure StorefrontOrderTrackingTokenClaims where
  (sub tenantId storeId : Id)
  (pointKey customerPhone : Option String)
  scope : String

structure StorefrontCheckoutDto where
  accessToken : String
  (customerSessionToken customerName customerPhone note : Option String)
  paymentMethod : PaymentMethodKind

/-- What a storefront checkout takes from outside: tokens, the customization in force, and the
environments of its calls. -/
structure StorefrontEnv where
  verifyCartToken : String → Option StorefrontCartAccessTokenClaims
  verifySessionToken : String → Option StorefrontCustomerSessionClaims
  signTrackingToken : StorefrontOrderTrackingTokenClaims → String
  resolveEffectiveCustomization : RequestContext → StorefrontCartAccessTokenClaims →
    StorefrontCheckoutDto → Option StorefrontCustomerSessionClaims → Db → Except ApiException Fields
  (ordering paying confirming growing : Env)

def buildPublicContext (store : Store) : RequestContext where
  userId := toString store.id
  tenantId := some store.tenantId
  scope := .device
  storeIds := [store.id]
  deviceId := some store.id

def verifyStorefrontToken {Claims : Type} (verifyAsync : String → Option Claims)
    (accessToken : String) : Except ApiException Claims := do
  let token ← readToken (some accessToken)
    (.unauthorized "Storefront access token is required.")
  required (verifyAsync token) (.unauthorized "Storefront access token is invalid or expired.")

def verifyCartAccessToken (env : StorefrontEnv) (cartId : Id) (accessToken : String) :
    Except ApiException StorefrontCartAccessTokenClaims := do
  let claims ← verifyStorefrontToken env.verifyCartToken accessToken
  rejectIf (claims.scope ≠ "storefront_cart_public" ∨ claims.sub ≠ cartId)
    (.unauthorized "Storefront cart access token does not match this cart.")
  pure claims

def verifyCustomerSessionToken (env : StorefrontEnv) (accessToken : String) (store : Store) :
    Except ApiException StorefrontCustomerSessionClaims := do
  let claims ← verifyStorefrontToken env.verifySessionToken accessToken
  rejectIf (claims.scope ≠ "storefront_customer_session" ∨ Text.trim claims.customerPhone = "")
    (.unauthorized "Storefront customer session token is invalid.")
  rejectIf (claims.storeId ≠ store.id ∨ claims.tenantId ≠ store.tenantId)
    (.unauthorized "Storefront customer session is not valid for this store.")
  pure claims

def loadPublicStoreById (storeId : Id) (db : Db) : Except ApiException Store := do
  let store ← required (Rows.find Store.id db.setup.stores storeId) (.recordNotFound "Store")
  rejectIf (store.status ≠ .active) (.badRequest "Storefront store is not active.")
  pure store

def readCustomerSession (env : StorefrontEnv) (token : Option String) (store : Store) :
    Except ApiException (Option StorefrontCustomerSessionClaims) :=
  match token.filter fun token => Text.trim token ≠ "" with
  | none => .ok none
  | some token => (verifyCustomerSessionToken env token store).map some

structure AdmittedCheckout where
  claims : StorefrontCartAccessTokenClaims
  store : Store
  customerSession : Option StorefrontCustomerSessionClaims
  rules : StorefrontRules

/-- The reads and checks of `checkout` before the cart is looked at. -/
def admitCheckout (env : StorefrontEnv) (cartId : Id) (dto : StorefrontCheckoutDto) (db : Db) :
    Except ApiException AdmittedCheckout := do
  let claims ← verifyCartAccessToken env cartId dto.accessToken
  let store ← loadPublicStoreById claims.storeId db
  let customerSession ← readCustomerSession env dto.customerSessionToken store
  let settings ←
    env.resolveEffectiveCustomization (buildPublicContext store) claims dto customerSession db
  ensureStorefrontEnabled (Json.orElse (readField "storefront.config" (some settings)) .null)
  let rules := resolveStorefrontRules
    (Json.orElse (readField "storefront.rules" (some settings)) .null)
  rejectIf (dto.paymentMethod ∉ rules.allowedPaymentMethods)
    (.badRequest "Payment method is not allowed for this storefront.")
  rejectIf
    (rules.requireCustomerName ∧
      ¬(Text.isFilled dto.customerName ∨
        (customerSession.bind StorefrontCustomerSessionClaims.customerName).any (· ≠ "")))
    (.badRequest "Customer name is required for this storefront.")
  rejectIf
    (rules.requireCustomerPhone ∧
      ¬(Text.isFilled dto.customerPhone ∨
        (customerSession.map StorefrontCustomerSessionClaims.customerPhone).any (· ≠ "") ∨
        claims.customerPhone.any (· ≠ "")))
    (.badRequest "Customer phone is required for this storefront.")
  rejectIf (¬rules.allowNotes ∧ Text.isFilled dto.note)
    (.badRequest "Notes are disabled for this storefront.")
  pure { claims, store, customerSession, rules }

def customerPhoneOf (dto : StorefrontCheckoutDto) (a : AdmittedCheckout) : Option String :=
  (dto.customerPhone.or
    (a.customerSession.map StorefrontCustomerSessionClaims.customerPhone)).or a.claims.customerPhone

def asFulfillmentMode (mode : Option String) : Option String :=
  mode.filter fun mode => mode ∈ ["DELIVERY", "PICKUP", "DINE_IN"]

def place (env : StorefrontEnv) (cartId : Id) (dto : StorefrontCheckoutDto) :
    ServiceCall (AdmittedCheckout × Placed) := do
  let a ← Call.transact (Tx.read (admitCheckout env cartId dto))
  let context := buildPublicContext a.store
  let cart ← Orders.getCart context cartId
  if asFulfillmentMode cart.fulfillmentMode = none then
    throw (.badRequest "Fulfillment selection is required before checkout.")
  else
    let order ← Orders.checkout env.ordering context cartId
      { customerName := dto.customerName.or
          (a.customerSession.bind StorefrontCustomerSessionClaims.customerName)
        customerPhone := customerPhoneOf dto a
        note := dto.note }
    let placed ← openPayment context a.rules.autoConfirmPaidOrders order
      { tenantId := some a.store.tenantId
        storeId := a.store.id
        orderId := order.id
        channel := some .delivery
        allocations := [⟨dto.paymentMethod, order.total⟩] }
      "Storefront payment intent is missing an allocation."
    pure (a, placed)

structure OrderTrackingToken where
  orderId : Id
  accessToken : String
  expiresAt : Instant

structure StorefrontCheckoutResponse where
  order : Order
  paymentIntent : LoadedPaymentIntent
  tracking : OrderTrackingToken

def issueOrderTrackingToken (env : StorefrontEnv) (dto : StorefrontCheckoutDto)
    (a : AdmittedCheckout) (orderId : Id) : OrderTrackingToken where
  orderId := orderId
  accessToken := env.signTrackingToken
    { sub := orderId
      tenantId := a.store.tenantId
      storeId := a.store.id
      pointKey := a.claims.pointKey
      customerPhone := customerPhoneOf dto a
      scope := "storefront_order_tracking" }
  expiresAt := env.growing.now + 30 * 24 * 60 * 60 * 1000

def finalOrder (env : StorefrontEnv) (placed : Placed) (processedIntent : LoadedPaymentIntent)
    (orderAfterPayment : Order) : ServiceCall Order :=
  if processedIntent.intent.status = .completed then do
    let _ ← Customers.finalizeOrderGrowth env.growing.now placed.context placed.order.id
    Orders.getOrder placed.context placed.order.id
  else pure orderAfterPayment

def finish (env : StorefrontEnv) (dto : StorefrontCheckoutDto) (a : AdmittedCheckout)
    (placed : Placed) (processedIntent : LoadedPaymentIntent) :
    ServiceCall StorefrontCheckoutResponse := do
  let order ← orderAfterPayment env.confirming placed processedIntent
  let order ← finalOrder env placed processedIntent order
  pure
    { order
      paymentIntent := processedIntent
      tracking := issueOrderTrackingToken env dto a placed.order.id }

def checkout (env : StorefrontEnv) (cartId : Id) (dto : StorefrontCheckoutDto) :
    ServiceCall StorefrontCheckoutResponse := do
  let (a, placed) ← place env cartId dto
  let processedIntent ← pay env.paying placed
  finish env dto a placed processedIntent

end Exetron.Storefront
