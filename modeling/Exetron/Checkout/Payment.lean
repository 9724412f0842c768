import Exetron.Customers.Service
import Exetron.Payments.Service

/-!
# Paying at a counter

What the checkouts of the kiosk and of the storefront share: the payment of the order they have
placed, and the order they answer with.
-/

namespace Exetron.Checkout

open Lib Payments

/-- An order whose payment is due. -/
structure Placed where
  context : RequestContext
  /-- The channel's rule. -/
  autoConfirmPaidOrders : Bool
  order : Order
  intent : PaymentIntent
  allocation : PaymentAllocation

def openPayment (context : RequestContext) (autoConfirmPaidOrders : Bool) (order : Order)
    (dto : CreatePaymentIntentDto) (missing : String) : ServiceCall Placed := do
  let paymentIntent ← createIntent context dto
  match paymentIntent.allocations.head? with
  | none => throw (.badRequest missing)
  | some allocation =>
    pure { context, autoConfirmPaidOrders, order, intent := paymentIntent.intent, allocation }

def pay (env : Env) (placed : Placed) : ServiceCall LoadedPaymentIntent :=
  processAllocation env placed.context placed.intent.id placed.allocation.id none

def orderAfterPayment (env : Env) (placed : Placed) (processedIntent : LoadedPaymentIntent) :
    ServiceCall Order :=
  if processedIntent.intent.status = .completed ∧ ¬placed.autoConfirmPaidOrders then
    Orders.transitionOrder env placed.context placed.order.id { toStatus := .confirmed }
  else Orders.getOrder placed.context placed.order.id

/-- A text of a request that is there and not blank. -/
def readToken (accessToken : Option String) (e : ApiException) : Except ApiException String :=
  required (accessToken.filter fun token => Text.trim token ≠ "") e

def paymentMethodOf : Json → Option PaymentMethodKind
  | .str "CASH" => some .cash
  | .str "CARD" => some .card
  | .str "QR" => some .qr
  | _ => none

def paymentMethods (value : Option Json) (fallback : List PaymentMethodKind) :
    List PaymentMethodKind :=
  let methods := ((value.bind Json.asArray?).getD []).filterMap paymentMethodOf
  if methods = [] then fallback else methods

end Exetron.Checkout
