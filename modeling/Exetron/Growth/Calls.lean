import Exetron.Carts.Money
import Exetron.Customers.Campaigns
import Exetron.Customers.Growth
import Exetron.Lib.Frame

/-!
# The calls that a customer's growth depends on

Carts and their promotions, orders and their transitions, the growth of an order, adjustments by
hand and the promotions themselves, one request after another. The calls on carts and the
transitions of orders write events of their own kinds: the orders counted for their promotions stay
the same.
-/

namespace Exetron.Growth

open Lib Orders Customers Carts

def isOwn : CartCall → Bool
  | .elsewhere .. => false
  | _ => true

inductive GrowthCall where
  | cart (call : CartCall) (own : isOwn call)
  | adjustLoyalty (customerProfileId : Id) (dto : AdjustCustomerLoyaltyDto)
  | createPromotion (dto : CreatePromotionCampaignDto)
  | updatePromotion (promotionId : Id) (dto : UpdatePromotionCampaignDto)
  | finalizeOrderGrowth (orderId : Id)
  | transitionOrder (orderId : Id) (dto : TransitionOrderDto)
  /-- What other services do to the rows that these calls only read. -/
  | elsewhere (setup : Setup) (stock : StockTables)

structure GrowthRequest where
  env : Env
  context : RequestContext
  call : GrowthCall

/-- The database after a request, whatever its answer. -/
def step (db : Db) (r : GrowthRequest) : Db :=
  match r.call with
  | .cart call _ => Carts.step db ⟨r.env, r.context, call⟩
  | .adjustLoyalty customerProfileId dto =>
    (Call.exec (adjustLoyalty r.env.now r.context customerProfileId dto) db).2
  | .createPromotion dto => (Call.exec (createPromotion r.env r.context dto) db).2
  | .updatePromotion promotionId dto =>
    (Call.exec (updatePromotion r.env r.context promotionId dto) db).2
  | .finalizeOrderGrowth orderId =>
    (Call.exec (finalizeOrderGrowth r.env.now r.context orderId) db).2
  | .transitionOrder orderId dto =>
    (Call.exec (transitionOrder r.env r.context orderId dto) db).2
  | .elsewhere setup stock => { db with setup, stock }

abbrev run : Db → List GrowthRequest → Db := Trace.run step

/-- No cart, no order, no customer and no promotion yet. -/
structure Fresh (db : Db) : Prop where
  carts : db.carts = []
  orders : db.orders = []
  customers : db.customers = ⟨[], [], [], []⟩
  events : db.logs.orderEvents = []

def bakery : Db := { diner with customers := ⟨[], [], [], []⟩ }

theorem bakery_fresh : Fresh bakery := ⟨rfl, rfl, rfl, rfl⟩

def atCounter (now : Instant) (call : GrowthCall) : GrowthRequest where
  env := Env.shipped now "r" (toString now) fun _ => .ok []
  context := ⟨"cashier", some 1, .tenantMember, [2], none⟩
  call := call

def createCartAt (now : Instant) (dto : CreateCartDto) : GrowthRequest :=
  atCounter now (.cart (.createCart dto) rfl)

def addItemAt (now : Instant) (cartId : Id) (dto : AddCartItemDto) : GrowthRequest :=
  atCounter now (.cart (.addItem cartId dto) rfl)

def applyPromotionAt (now : Instant) (input : ApplyPromotionInput) : GrowthRequest :=
  atCounter now (.cart (.applyPromotionToCart input) rfl)

def checkoutAt (now : Instant) (cartId : Id) : GrowthRequest :=
  atCounter now (.cart (.checkout cartId {}) rfl)

open Inventory Fulfillment Tx

section
variable {context : RequestContext}

abbrev CountsNothing {α : Type} (x : Transaction α) : Prop := Tx.Frames redemptions x

theorem countsNothing_freshId : CountsNothing freshId := fun db id db' h => by
  rw [(freshId_ok_iff.mp h).2]
  rfl

theorem countsNothing_freshIds (n : Nat) : CountsNothing (freshIds n) := fun db ids db' h => by
  rw [(freshIds_ok_iff.mp h).2]
  rfl

theorem countsNothing_orderEvent {type : String} (other : type ≠ "customer.promotion_redeemed")
    (orderId tenantId storeId : Id) :
    CountsNothing (recordOrderEvent ⟨orderId, tenantId, storeId, type⟩) := fun db u db' h => by
  rw [log_ok_iff.mp h, redemptions, List.filter_append,
    List.filter_cons_of_neg (by rw [decide_eq_true_iff]; exact other), List.filter_nil,
    List.append_nil]
  rfl

theorem countsNothing_audit (entry : AuditEntry) : CountsNothing (recordAudit entry) :=
  frames_write fun _ => rfl

theorem countsNothing_domainEvent (event : DomainEvent) : CountsNothing (recordDomainEvent event) :=
  frames_write fun _ => rfl

theorem countsNothing_updateCart (cartId : Id) (f : Cart → Cart) :
    CountsNothing (carts.update cartId f) := by
  refine Table.frames_update (fun _ _ => ?_) cartId f
  rfl

theorem countsNothing_recordCart (cart : Cart) (name : String) :
    CountsNothing (recordCart context cart name) :=
  frames_bind (countsNothing_audit _) fun _ => countsNothing_domainEvent _

theorem countsNothing_clearPromotion (cartId : Id) : CountsNothing (clearCartPromotionTx cartId) :=
  frames_bind (countsNothing_updateCart _ _) fun _ => frames_pure _

theorem countsNothing_recalculate (cartId : Id) : CountsNothing (recalculateCartTotals cartId) :=
  frames_bind (countsNothing_updateCart _ _) fun _ => frames_pure _

theorem countsNothing_settleCart (cart : Cart) (name : String) :
    CountsNothing (settleCart context cart name) := by
  refine frames_bind (countsNothing_clearPromotion _) fun _ => ?_
  refine frames_bind (countsNothing_recalculate _) fun _ => ?_
  refine frames_bind (frames_read _) fun _ => ?_
  exact frames_bind (countsNothing_recordCart _ _) fun _ => frames_pure _

theorem countsNothing_createCart (dto : CreateCartDto) : CountsNothing (createCartTx context dto) := by
  refine frames_bind (frames_read _) fun _ => ?_
  refine frames_bind countsNothing_freshId fun _ => ?_
  refine frames_bind (Table.frames_create (fun _ _ => ?_) _) fun _ => ?_
  · rfl
  · exact frames_bind (countsNothing_recordCart _ _) fun _ => frames_pure _

theorem countsNothing_updateCartTx (cartId : Id) (dto : UpdateCartDto) :
    CountsNothing (updateCartTx context cartId dto) := by
  refine frames_bind (frames_read _) fun cart => ?_
  refine frames_bind (frames_ite (fun _ => countsNothing_clearPromotion _)
    fun _ => frames_pure _) fun _ => ?_
  refine frames_bind (countsNothing_updateCart _ _) fun _ => ?_
  refine frames_bind (frames_ite (fun _ => countsNothing_recalculate _)
    fun _ => frames_pure _) fun _ => ?_
  exact frames_bind (countsNothing_recordCart _ _) fun _ => frames_pure _

theorem countsNothing_addItem (cartId : Id) (dto : AddCartItemDto) :
    CountsNothing (addItemTx context cartId dto) := by
  refine frames_bind (frames_read _) fun admitted => ?_
  refine frames_bind countsNothing_freshId fun _ => ?_
  exact frames_bind (countsNothing_updateCart _ _) fun _ => countsNothing_settleCart _ _

theorem countsNothing_updateItem (cartId itemId : Id) (dto : UpdateCartItemDto) :
    CountsNothing (updateItemTx context cartId itemId dto) := by
  refine frames_bind (frames_read _) fun admitted => ?_
  exact frames_bind (countsNothing_updateCart _ _) fun _ => countsNothing_settleCart _ _

theorem countsNothing_deleteItem (cartId itemId : Id) :
    CountsNothing (deleteItemTx context cartId itemId) := by
  refine frames_bind (frames_read _) fun admitted => ?_
  exact frames_bind (countsNothing_updateCart _ _) fun _ => countsNothing_settleCart _ _

theorem countsNothing_applyFulfillment (now : Instant) (cartId : Id) (selectionInput : Json) :
    CountsNothing (applyCartFulfillmentTx now context cartId selectionInput) := by
  refine frames_bind (frames_read _) fun admitted => ?_
  exact frames_bind (countsNothing_updateCart _ _) fun _ => countsNothing_audit _

theorem countsNothing_recordEverywhere {name : String} (other : name ≠ "customer.promotion_redeemed")
    (order : Order) (entityType : String) (entityId : Id) :
    CountsNothing (recordEverywhere context order name entityType entityId) := by
  refine frames_bind (countsNothing_orderEvent other _ _ _) fun _ => ?_
  exact frames_bind (countsNothing_audit _) fun _ => countsNothing_domainEvent _

theorem countsNothing_enqueue (order : Order) (templateKey : Option String) :
    CountsNothing (enqueueStorefrontCustomerUpdates order templateKey) := by
  refine frames_ite (fun _ => ?_) fun _ => frames_pure _
  refine frames_bind (countsNothing_orderEvent (by decide) _ _ _) fun _ => ?_
  refine frames_bind (countsNothing_domainEvent _) fun _ => ?_
  refine frames_ite (fun _ => ?_) fun _ => frames_pure _
  exact frames_bind (countsNothing_orderEvent (by decide) _ _ _) fun _ => countsNothing_domainEvent _

theorem countsNothing_reserve (tenantId orderId : Id) (plan : List InventoryReservationPlanEntry) :
    CountsNothing (reserveOrderInventoryTx tenantId orderId plan) := fun db u db' h => by
  rw [(reserveOrderInventoryTx_ok h).rest]
  rfl

theorem countsNothing_checkout (env : Env) (cartId : Id) (dto : CheckoutCartDto) :
    CountsNothing (checkoutTx env context cartId dto) := by
  refine frames_bind (frames_read _) fun admitted => ?_
  refine frames_bind countsNothing_freshId fun _ => ?_
  refine frames_bind (countsNothing_freshIds _) fun _ => ?_
  refine frames_bind (frames_read _) fun _ => ?_
  refine frames_bind (Table.frames_create (fun _ _ => ?_) _) fun _ => ?_
  · rfl
  refine frames_bind (countsNothing_reserve _ _ _) fun _ => ?_
  refine frames_bind (countsNothing_updateCart _ _) fun _ => ?_
  refine frames_bind (countsNothing_recordEverywhere (by decide) _ _ _) fun _ => ?_
  exact frames_bind (countsNothing_enqueue _ _) fun _ => frames_pure _

theorem countsNothing_tickets (order : Order) :
    CountsNothing (createKitchenTicketsForOrder context order) := by
  refine frames_bind (frames_read _) fun _ => ?_
  refine frames_ite (fun _ => frames_pure _) fun _ => ?_
  refine frames_bind (frames_read _) fun groups => frames_forM fun group => ?_
  obtain ⟨stationKey, items⟩ := group
  cases stationKey with
  | text stationKey =>
    refine frames_bind countsNothing_freshId fun _ => ?_
    refine frames_bind (Table.frames_create (fun _ _ => ?_) _) fun _ => ?_
    · rfl
    · exact countsNothing_recordEverywhere (by decide) _ _ _
  | inherited name => exact frames_lift _

theorem countsNothing_noteIfAny {type : String} (other : type ≠ "customer.promotion_redeemed")
    (count : Nat) (order : Order) : CountsNothing (noteIfAny count order type) :=
  frames_ite (fun _ => countsNothing_orderEvent other _ _ _) fun _ => frames_pure _

theorem countsNothing_settle (env : Env) (order : Order) (toStatus : OrderStatus) :
    CountsNothing (settleTransition env context order toStatus) := by
  cases toStatus with
  | confirmed =>
    refine frames_bind (countsNothing_recordEverywhere (by decide) _ _ _) fun _ => ?_
    exact countsNothing_tickets order
  | cancelled =>
    refine frames_bind (fun db n db' h => ?_) fun _ => ?_
    · rw [(releaseOrderInventoryReservationsTx_ok h).1.rest]
      rfl
    refine frames_bind (Table.frames_updateMany (fun _ _ => ?_) _ _) fun _ => ?_
    · rfl
    refine frames_bind (countsNothing_noteIfAny (by decide) _ _) fun _ => ?_
    exact countsNothing_noteIfAny (by decide) _ _
  | completed =>
    refine frames_bind (fun db n db' h => ?_) fun _ => countsNothing_noteIfAny (by decide) _ _
    rw [(consumeOrderInventoryReservationsTx_ok h).1.rest]
    rfl
  | placed | inPreparation | ready => exact frames_pure _

theorem countsNothing_transition (env : Env) (orderId : Id) (dto : TransitionOrderDto) :
    CountsNothing (transitionOrderTx env context orderId dto) := by
  refine frames_bind (frames_read _) fun current => ?_
  refine frames_bind (Table.frames_update (fun _ _ => ?_) _ _) fun order => ?_
  · rfl
  refine frames_bind (countsNothing_recordEverywhere ?_ _ _ _) fun _ => ?_
  · split <;> decide
  refine frames_bind (countsNothing_enqueue _ _) fun _ => ?_
  exact frames_bind (countsNothing_settle _ _ _) fun _ => frames_pure _

end

end Exetron.Growth
