import Exetron.Customers.Promotions
import Exetron.Customers.Steps
import Exetron.Fulfillment.Service
import Exetron.Lib.Trace
import Exetron.Orders.Carts

/-!
# The calls on carts

The life of the carts, from their making to their checkout, under the calls of three services:
orders, fulfillment and customers. `step_moved` says what each call does to the carts and the
orders.
-/

namespace Exetron.Carts

open Lib Orders Fulfillment Customers

inductive CartCall where
  | createCart (dto : CreateCartDto)
  | updateCart (cartId : Id) (dto : UpdateCartDto)
  | addItem (cartId : Id) (dto : AddCartItemDto)
  | updateItem (cartId itemId : Id) (dto : UpdateCartItemDto)
  | deleteItem (cartId itemId : Id)
  | applyCartFulfillment (cartId : Id) (selectionInput : Json)
  | applyPromotionToCart (input : ApplyPromotionInput)
  | checkout (cartId : Id) (dto : CheckoutCartDto)
  /-- What other services do to the rows that these calls read: prices, promotions and stock. -/
  | elsewhere (setup : Setup) (customers : CustomerTables) (stock : StockTables)

structure CartRequest where
  env : Env
  context : RequestContext
  call : CartCall

/-- The database after a request, whatever its answer. -/
def step (db : Db) (r : CartRequest) : Db :=
  match r.call with
  | .createCart dto => (Call.exec (createCart r.context dto) db).2
  | .updateCart cartId dto => (Call.exec (updateCart r.context cartId dto) db).2
  | .addItem cartId dto => (Call.exec (addItem r.context cartId dto) db).2
  | .updateItem cartId itemId dto => (Call.exec (updateItem r.context cartId itemId dto) db).2
  | .deleteItem cartId itemId => (Call.exec (deleteItem r.context cartId itemId) db).2
  | .applyCartFulfillment cartId selectionInput =>
    (Call.exec (applyCartFulfillment r.env.now r.context cartId selectionInput) db).2
  | .applyPromotionToCart input => (Call.exec (applyPromotionToCart r.env r.context input) db).2
  | .checkout cartId dto => (Call.exec (checkout r.env r.context cartId dto) db).2
  | .elsewhere setup customers stock => { db with setup, customers, stock }

abbrev run : Db → List CartRequest → Db := Trace.run step

/-- The carts' keys are their own, and older than the supply. -/
structure CartKeys (db : Db) : Prop where
  unique : (db.carts.map Cart.id).Nodup
  old : ∀ cart ∈ db.carts, cart.id < db.nextId

def settled (cart : Cart) : Cart := withTotals (withoutPromotion cart)

/-- A cart after `updateCart`. -/
def detailed (dto : UpdateCartDto) (cart : Cart) : Cart :=
  if resetsPromotion dto cart then withTotals (withDetails dto true (withoutPromotion cart))
  else withDetails dto false cart

/-- A request turns the first cart into the second. -/
inductive Turns (db : Db) : CartRequest → Cart → Cart → Prop
  | detailed {env : Env} {context : RequestContext} {cartId : Id} {dto : UpdateCartDto}
      {cart : Cart} (admitted : openCart context cartId db = .ok cart) :
      Turns db ⟨env, context, .updateCart cartId dto⟩ cart (detailed dto cart)
  | added {env : Env} {context : RequestContext} {cartId : Id} {dto : AddCartItemDto}
      {cart : Cart} {selection : CartItemSelection}
      (admitted : admitNewItem context cartId dto db = .ok (cart, selection)) :
      Turns db ⟨env, context, .addItem cartId dto⟩ cart
        (settled (withItem (selection.line db.nextId dto.quantity) cart))
  | changed {env : Env} {context : RequestContext} {cartId itemId : Id} {dto : UpdateCartItemDto}
      {cart : Cart} {currentItem : CartItem} {selection : CartItemSelection}
      (admitted : admitItemChange context cartId itemId dto db = .ok (cart, currentItem, selection)) :
      Turns db ⟨env, context, .updateItem cartId itemId dto⟩ cart
        (settled (withItemChanged currentItem.id
          (selection.rewrite (dto.quantity.getD currentItem.quantity)) cart))
  | removed {env : Env} {context : RequestContext} {cartId itemId : Id} {cart : Cart}
      {currentItem : CartItem}
      (admitted : admitItemRemoval context cartId itemId db = .ok (cart, currentItem)) :
      Turns db ⟨env, context, .deleteItem cartId itemId⟩ cart (settled (withoutItem itemId cart))
  | fulfilled {env : Env} {context : RequestContext} {cartId : Id} {selectionInput : Json}
      {cart : Cart} {quote : FulfillmentQuote}
      (admitted : admitCartFulfillment env.now context cartId selectionInput db =
        .ok (cart, quote)) :
      Turns db ⟨env, context, .applyCartFulfillment cartId selectionInput⟩ cart
        (withFulfillment quote cart)
  | promoted {env : Env} {context : RequestContext} {input : ApplyPromotionInput} {cart : Cart}
      (admitted : admitPromotion context input.cartId db = .ok cart)
      (promotion : PromotionCampaign) (profile : Option CustomerProfile)
      (customerName customerPhone : Option String) :
      Turns db ⟨env, context, .applyPromotionToCart input⟩ cart
        (withCustomer profile customerName customerPhone (withPromotion promotion cart))

/-- What a request does to the carts and the orders. -/
inductive Moved (db : Db) (r : CartRequest) (db' : Db) : Prop
  | kept (carts : db'.carts = db.carts) (orders : db'.orders = db.orders)
      (grows : db.nextId ≤ db'.nextId)
  | opened (dto : CreateCartDto) (tenantId storeId : Id)
      (carts : db'.carts = db.carts ++ [newCart r.context dto tenantId storeId db.nextId])
      (orders : db'.orders = db.orders) (grows : db.nextId < db'.nextId)
  | turned (cart cart' : Cart) (turns : Turns db r cart cart')
      (carts : db'.carts = Rows.modify Cart.id cart.id (fun _ => cart') db.carts)
      (orders : db'.orders = db.orders) (grows : db.nextId ≤ db'.nextId)
  | ordered (cart : Cart) (dto : CheckoutCartDto) (order : Order) (itemIds : List Id)
      (stored : cart ∈ db.carts) (isOpen : cart.status = .open)
      (made : order = orderOfCart r.env db.nextId itemIds cart dto)
      (listed : itemIds.length = cart.items.length)
      (carts : db'.carts = Rows.modify Cart.id cart.id (fun _ => converted order cart) db.carts)
      (orders : db'.orders = db.orders ++ [order])
      (first : ∀ other ∈ db.orders, other.cartId ≠ some cart.id)
      (grows : db.nextId ≤ db'.nextId)

end Exetron.Carts
