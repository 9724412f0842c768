import Exetron.Growth.Calls

/-!
# What a request does to the customers

One case for each kind of request, and what every request keeps: keys are unique and older than the
supply, and an order's cart is converted.
-/

namespace Exetron.Growth

open Lib Orders Customers Carts List

/-- Neither carts nor orders nor customers change. -/
structure Untouched (db db' : Db) : Prop where
  carts : db'.carts = db.carts
  orders : db'.orders = db.orders
  customers : db'.customers = db.customers
  redemptions : redemptions db' = redemptions db
  grows : db.nextId ≤ db'.nextId

/-- The cart has a promotion of the tenant, and the customer its profile. -/
structure Promoted (input : ApplyPromotionInput) (cart : Cart) (promotion : PromotionCampaign)
    (profile : Option CustomerProfile) (db db' : Db) : Prop where
  opened : OpenAt db input.cartId cart
  campaign : promotion ∈ db.customers.campaigns
  rest : db' = { db with
    nextId := db'.nextId
    carts := Rows.modify Cart.id cart.id (fun _ => withCustomer profile (promotedName input cart)
      (promotedPhone input cart) (withPromotion promotion cart)) db.carts
    customers := db'.customers }
  enrolled : Enrolled db db'

/-- What a request does to carts, orders and customers. -/
inductive Grows (db : Db) : GrowthRequest → Db → Prop
  | untouched {r : GrowthRequest} {db' : Db} (same : Untouched db db') : Grows db r db'
  | moved {env : Env} {context : RequestContext} {call : CartCall} {own : isOwn call} {db' : Db}
      (other : ∀ input, call ≠ .applyPromotionToCart input)
      (moved : Moved db ⟨env, context, call⟩ db') (customers : db'.customers = db.customers)
      (redemptions : redemptions db' = redemptions db)
      (supply : db'.orders = db.orders ∨ db.nextId < db'.nextId) :
      Grows db ⟨env, context, .cart call own⟩ db'
  | promoted {env : Env} {context : RequestContext} {input : ApplyPromotionInput}
      {own : isOwn (.applyPromotionToCart input)} {db' : Db} (cart : Cart)
      (promotion : PromotionCampaign) (profile : Option CustomerProfile)
      (applied : Promoted input cart promotion profile db db') :
      Grows db ⟨env, context, .cart (.applyPromotionToCart input) own⟩ db'
  | adjusted {env : Env} {context : RequestContext} {customerProfileId : Id}
      {dto : AdjustCustomerLoyaltyDto} {db' : Db} (accountId : Id) (adjusted : Adjusted db db')
      (credited : Credited none customerProfileId accountId [(.adjust, dto.points)] db db') :
      Grows db ⟨env, context, .adjustLoyalty customerProfileId dto⟩ db'
  | created {env : Env} {context : RequestContext} {dto : CreatePromotionCampaignDto} {db' : Db}
      (tenantId : Id) (code : String) (audit : List AuditEntry)
      (is : db' = { db with
        nextId := db.nextId + 1
        customers := { db.customers with
          campaigns := db.customers.campaigns ++ [newCampaign dto tenantId code db.nextId] }
        logs := { db.logs with audit := audit } }) :
      Grows db ⟨env, context, .createPromotion dto⟩ db'
  | changed {env : Env} {context : RequestContext} {promotionId : Id}
      {dto : UpdatePromotionCampaignDto} {db' : Db} (audit : List AuditEntry)
      (is : db' = { db with
        customers := { db.customers with
          campaigns := Rows.modify PromotionCampaign.id (toString promotionId) (withChanges env dto)
            db.customers.campaigns }
        logs := { db.logs with audit := audit } }) :
      Grows db ⟨env, context, .updatePromotion promotionId dto⟩ db'
  | transitioned {env : Env} {context : RequestContext} {orderId : Id} {dto : TransitionOrderDto}
      {db' : Db} (current : Order) (admitted : admitTransition context orderId dto db = .ok current)
      (carts : db'.carts = db.carts)
      (orders : db'.orders =
        Rows.modify Order.id current.id (applyTransition env.now dto) db.orders)
      (customers : db'.customers = db.customers) (redemptions : redemptions db' = redemptions db)
      (grows : db.nextId ≤ db'.nextId) : Grows db ⟨env, context, .transitionOrder orderId dto⟩ db'
  | finalised {env : Env} {context : RequestContext} {orderId : Id} {db' : Db} (order : Order)
      (phone : String) (profile : CustomerProfile) (accountId : Id)
      (found : findOrder context orderId db = .ok order)
      (known : order.customerPhone.filter (fun phone => Text.trim phone ≠ "") = some phone)
      (recorded : GrowthRecorded order phone profile accountId db db') :
      Grows db ⟨env, context, .finalizeOrderGrowth orderId⟩ db'

theorem untouched_refl (db : Db) : Untouched db db := ⟨rfl, rfl, rfl, rfl, le_rfl⟩

section
variable {env : Env} {context : RequestContext} {cart : Cart} {db db' : Db}

theorem resolveProfileTx_enrolled {now : Instant} {customerName phone : Option String}
    {profile : Option CustomerProfile}
    (h : resolveProfileTx now cart customerName phone db = .ok (profile, db')) :
    Enrolled db db' ∧ ∀ row ∈ profile, ∃ number ∈ phone,
      (row.id, cart.tenantId, normalizeCustomerPhone number) ∈ idents db' := by
  cases phone with
  | none =>
    obtain ⟨rfl, rfl⟩ := Tx.pure_ok_iff.mp h
    exact ⟨enrolled_refl db, fun row is => by cases is⟩
  | some phone =>
    obtain ⟨resolvedProfile, _, resolved, h⟩ := Tx.bind_ok h
    obtain ⟨rfl, rfl⟩ := Tx.pure_ok_iff.mp h
    obtain ⟨enrolled, _, _, listed⟩ := resolveOrCreateCustomerProfileTx_enrolled resolved
    refine ⟨enrolled, fun row is => ⟨phone, rfl, ?_⟩⟩
    rw [← Option.some.inj is]
    exact listed

theorem resolveAccountTx_enrolled {profile : Option CustomerProfile}
    {account : Option LoyaltyAccount} (known : ∀ row ∈ profile, row.id ∈ (idents db).map Prod.fst)
    (h : resolveAccountTx profile db = .ok (account, db')) : Enrolled db db' := by
  cases profile with
  | none =>
    obtain ⟨_, rfl⟩ := Tx.pure_ok_iff.mp h
    exact enrolled_refl db
  | some profile =>
    obtain ⟨_, _, ensured, h⟩ := Tx.bind_ok h
    obtain ⟨_, rfl⟩ := Tx.pure_ok_iff.mp h
    exact (ensureLoyaltyAccountTx_enrolled (known profile rfl) ensured).1

theorem findPromotion_mem {code : String} {promotion : PromotionCampaign}
    (h : findPromotion env cart code db = .ok promotion) : promotion ∈ db.customers.campaigns := by
  simp only [findPromotion, except_bind_ok_iff, except_pure_ok_iff, required_ok_iff] at h
  obtain ⟨_, found, _, _, rfl⟩ := h
  exact mem_of_find?_eq_some found

theorem applyPromotionToCartTx_promoted {input : ApplyPromotionInput} {u : Unit}
    (unique : (db.carts.map Cart.id).Nodup)
    (h : applyPromotionToCartTx env context input db = .ok (u, db')) :
    ∃ cart promotion profile, Promoted input cart promotion profile db db' := by
  simp only [applyPromotionToCartTx, Tx.bind_ok_iff, Tx.read_ok_iff, Tx.lift_ok_iff,
    Table.update_ok_iff, Tx.pure_ok_iff] at h
  obtain ⟨cart, _, ⟨admitted, rfl⟩, profile, m, resolved, promotion, _, ⟨found, rfl⟩, _, _,
    ⟨_, rfl⟩, _, d, ensured, _, _, ⟨_, rfl⟩, _, _, ⟨_, _, _, rfl⟩, _, rfl⟩ := h
  obtain ⟨enrolled, named⟩ := resolveProfileTx_enrolled resolved
  have known : ∀ row ∈ profile, row.id ∈ (idents m).map Prod.fst := fun row is => by
    obtain ⟨_, _, listed⟩ := named row is
    exact mem_map_of_mem listed
  have enrolled' := enrolled_trans enrolled (resolveAccountTx_enrolled known ensured)
  have campaign : promotion ∈ db.customers.campaigns := enrolled.campaigns ▸ findPromotion_mem found
  obtain ⟨_, _, _, mIs⟩ := resolveProfileTx_ok resolved
  obtain ⟨_, _, _, dIs⟩ := resolveAccountTx_ok ensured
  obtain ⟨stored, _⟩ := admitPromotion_ok admitted
  have replaced := Rows.modify_stored (f := fun row => withCustomer profile
    (promotedName input cart) (promotedPhone input cart) (withPromotion promotion row)) unique stored
  refine ⟨cart, promotion, profile, admitPromotion_at admitted, campaign, ?_, ?_⟩
  · rw [← replaced, dIs, mIs]
    rfl
  · exact enrolled_trans enrolled' (enrolled_of_same rfl le_rfl)

end

structure GrowthKeys (db : Db) : Prop where
  carts : CartKeys db
  customers : CustomerKeys db
  orders : (db.orders.map Order.id).Nodup
  oldOrders : ∀ order ∈ db.orders, order.id < db.nextId
  closed : ∀ order ∈ db.orders, ∃ cart ∈ db.carts,
    order.cartId = some cart.id ∧ cart.status = .converted ∧ cart.tenantId = order.tenantId
  entries : ∀ entry ∈ db.customers.ledger, ∀ orderId ∈ entry.orderId,
    orderId ∈ db.orders.map Order.id
  counted : ∀ orderId ∈ redemptions db, orderId ∈ db.orders.map Order.id

theorem growthKeys_fresh {db : Db} (fresh : Fresh db) : GrowthKeys db where
  carts := by
    constructor
    · rw [fresh.carts]
      exact nodup_nil
    · intro cart stored
      rw [fresh.carts] at stored
      cases stored
  customers := by
    have none : idents db = [] ∧ owners db = [] := by
      rw [idents, owners, fresh.customers]
      exact ⟨rfl, rfl⟩
    constructor
    · rw [none.1]
      exact nodup_nil
    · rw [none.1]
      exact nodup_nil
    · intro ident listed
      rw [none.1] at listed
      cases listed
    · rw [none.2]
      exact nodup_nil
    · rw [none.2]
      exact nodup_nil
    · intro owner listed
      rw [none.2] at listed
      cases listed
    · intro owner listed
      rw [none.2] at listed
      cases listed
    · intro entry stored
      rw [fresh.customers] at stored
      cases stored
  orders := by
    rw [fresh.orders]
    exact nodup_nil
  oldOrders order stored := by
    rw [fresh.orders] at stored
    cases stored
  closed order stored := by
    rw [fresh.orders] at stored
    cases stored
  entries entry stored := by
    rw [fresh.customers] at stored
    cases stored
  counted orderId listed := by
    rw [redemptions, fresh.events] at listed
    cases listed

/-- The customers are left alone, no order is counted, and a new order takes its key. -/
structure CustomersKept (db db' : Db) : Prop where
  customers : db'.customers = db.customers
  redemptions : redemptions db' = redemptions db
  supply : db'.orders = db.orders ∨ db.nextId < db'.nextId

theorem kept_of_transact {α : Type} {x : Transaction α} {db : Db} (counts : CountsNothing x)
    (body : ∀ a db', x db = .ok (a, db') → db'.customers = db.customers ∧
      (db'.orders = db.orders ∨ db.nextId < db'.nextId)) :
    CustomersKept db (Call.exec (Call.transact x) db).2 :=
  Call.transact_related (R := CustomersKept) ⟨rfl, rfl, .inl rfl⟩
    fun a db' h => ⟨(body a db' h).1, counts db a db' h, (body a db' h).2⟩

theorem cart_kept {env : Env} {context : RequestContext} {call : CartCall} {db : Db}
    (keys : CartKeys db) (own : isOwn call) (other : ∀ input, call ≠ .applyPromotionToCart input) :
    CustomersKept db (Carts.step db ⟨env, context, call⟩) := by
  have unique := keys.unique
  cases call with
  | createCart dto =>
    refine kept_of_transact (countsNothing_createCart dto) fun _ _ h => ?_
    obtain ⟨_, _, _, rfl⟩ := createCartTx_ok h
    exact ⟨rfl, .inl rfl⟩
  | updateCart cartId dto =>
    refine kept_of_transact (countsNothing_updateCartTx cartId dto) fun _ _ h => ?_
    obtain ⟨_, _, _, rfl⟩ := updateCartTx_ok unique h
    exact ⟨rfl, .inl rfl⟩
  | addItem cartId dto =>
    refine kept_of_transact (countsNothing_addItem cartId dto) fun _ _ h => ?_
    obtain ⟨_, _, _, _, rfl⟩ := addItemTx_ok unique h
    exact ⟨rfl, .inl rfl⟩
  | updateItem cartId itemId dto =>
    refine kept_of_transact (countsNothing_updateItem cartId itemId dto) fun _ _ h => ?_
    obtain ⟨_, _, _, _, _, rfl⟩ := updateItemTx_ok unique h
    exact ⟨rfl, .inl rfl⟩
  | deleteItem cartId itemId =>
    refine kept_of_transact (countsNothing_deleteItem cartId itemId) fun _ _ h => ?_
    obtain ⟨_, _, _, _, rfl⟩ := deleteItemTx_ok unique h
    exact ⟨rfl, .inl rfl⟩
  | applyCartFulfillment cartId selectionInput =>
    refine kept_of_transact (countsNothing_applyFulfillment env.now cartId selectionInput) ?_
    intro _ _ h
    obtain ⟨_, _, _, _, rfl⟩ := applyCartFulfillmentTx_ok unique h
    exact ⟨rfl, .inl rfl⟩
  | applyPromotionToCart input => exact absurd rfl (other input)
  | checkout cartId dto =>
    refine kept_of_transact (countsNothing_checkout env cartId dto) fun _ _ h => ?_
    obtain ⟨_, _, _, _, done⟩ := checkoutTx_ok h
    exact ⟨by rw [done.rest], .inr done.grows⟩
  | elsewhere setup customers stock => cases own

theorem grows_of_transact {α : Type} {x : Transaction α} {db : Db} {r : GrowthRequest}
    (body : ∀ a db', x db = .ok (a, db') → Grows db r db') :
    Grows db r (Call.exec (Call.transact x) db).2 :=
  Call.transact_related (R := fun db db' : Db => Grows db r db') (.untouched (untouched_refl db)) body

theorem finalizeOrderGrowthTx_recorded {now : Instant} {context : RequestContext} {orderId : Id}
    {db db' : Db} {result : Option (CustomerProfile × Option LoyaltyAccount)}
    (keys : CustomerKeys db)
    (h : finalizeOrderGrowthTx now context orderId db = .ok (result, db')) :
    ∃ order, findOrder context orderId db = .ok order ∧
      match order.customerPhone.filter (fun phone => Text.trim phone ≠ "") with
      | none => db' = db
      | some phone => ∃ profile accountId, GrowthRecorded order phone profile accountId db db' := by
  obtain ⟨order, _, read, h⟩ := Tx.bind_ok h
  obtain ⟨found, rfl⟩ := Tx.read_ok_iff.mp read
  refine ⟨order, found, ?_⟩
  cases known : order.customerPhone.filter (fun phone => Text.trim phone ≠ "") with
  | none =>
    rw [known] at h
    exact (Tx.pure_ok_iff.mp h).2.symm
  | some phone =>
    rw [known] at h
    obtain ⟨_, _, recorded, h⟩ := Tx.bind_ok h
    obtain ⟨_, rfl⟩ := Tx.pure_ok_iff.mp h
    exact recordGrowth_recorded keys recorded

theorem step_grows {db : Db} (keys : GrowthKeys db) (r : GrowthRequest) : Grows db r (step db r) := by
  obtain ⟨env, context, call⟩ := r
  cases call with
  | cart call own =>
    by_cases applies : ∃ input, call = .applyPromotionToCart input
    · obtain ⟨input, rfl⟩ := applies
      show Grows db _ (Call.exec (applyPromotionToCart env context input) db).2
      rw [applyPromotionToCart_state]
      refine grows_of_transact fun _ _ h => ?_
      obtain ⟨cart, promotion, profile, applied⟩ :=
        applyPromotionToCartTx_promoted keys.carts.unique h
      exact .promoted cart promotion profile applied
    · have other : ∀ input, call ≠ .applyPromotionToCart input := fun input is => applies ⟨input, is⟩
      have kept : CustomersKept db (Carts.step db ⟨env, context, call⟩) :=
        cart_kept keys.carts own other
      exact .moved other (step_moved keys.carts _) kept.customers kept.redemptions kept.supply
  | adjustLoyalty customerProfileId dto =>
    refine grows_of_transact fun _ _ h => ?_
    obtain ⟨adjusted, accountId, credited⟩ := adjustLoyaltyTx_credited keys.customers h
    exact .adjusted accountId adjusted credited
  | createPromotion dto =>
    refine grows_of_transact fun _ _ h => ?_
    obtain ⟨tenantId, code, audit, is⟩ := createPromotionTx_ok h
    exact .created tenantId code audit is
  | updatePromotion promotionId dto =>
    refine grows_of_transact fun _ _ h => ?_
    obtain ⟨audit, is⟩ := updatePromotionTx_ok h
    exact .changed audit is
  | finalizeOrderGrowth orderId =>
    refine grows_of_transact fun _ _ h => ?_
    obtain ⟨order, found, done⟩ := finalizeOrderGrowthTx_recorded keys.customers h
    cases known : order.customerPhone.filter (fun phone => Text.trim phone ≠ "") with
    | none =>
      rw [known] at done
      rw [done]
      exact .untouched (untouched_refl db)
    | some phone =>
      rw [known] at done
      obtain ⟨profile, accountId, recorded⟩ := done
      exact .finalised order phone profile accountId found known recorded
  | transitionOrder orderId dto =>
    refine grows_of_transact fun _ db' h => ?_
    have counted := countsNothing_transition env orderId dto db _ db' h
    obtain ⟨current, logs, admitted, _, moved⟩ := transitionOrderTx_ok h
    refine .transitioned current admitted ?_ ?_ ?_ counted moved.grows
    · rw [moved.rest]
    · rw [moved.rest]
    · rw [moved.rest]
  | elsewhere setup stock => exact .untouched ⟨rfl, rfl, rfl, rfl, le_rfl⟩

/-- What of an order never changes. -/
def orderKey (order : Order) : Id × Option Id × Id := (order.id, order.cartId, order.tenantId)

def Closed (db : Db) (cartId tenantId : Id) : Prop :=
  ∃ cart ∈ db.carts, cart.id = cartId ∧ cart.status = .converted ∧ cart.tenantId = tenantId

theorem Closed.of_stays {db db' : Db}
    (stays : ∀ cart ∈ db.carts, cart.status = .converted → cart ∈ db'.carts) {cartId tenantId : Id}
    (closed : Closed db cartId tenantId) : Closed db' cartId tenantId := by
  obtain ⟨cart, stored, id, isClosed, tenant⟩ := closed
  exact ⟨cart, stays cart stored isClosed, id, isClosed, tenant⟩

theorem ids_of_keys {db db' : Db} (same : db'.orders.map orderKey = db.orders.map orderKey) :
    db'.orders.map Order.id = db.orders.map Order.id := by
  have first := congrArg (map Prod.fst) same
  rwa [map_map, map_map] at first

theorem GrowthKeys.of_same {db db' : Db} (keys : GrowthKeys db) (carts : CartKeys db')
    (customers : CustomerKeys db') (grows : db.nextId ≤ db'.nextId)
    (same : db'.orders.map orderKey = db.orders.map orderKey)
    (closed : ∀ cartId tenantId, Closed db cartId tenantId → Closed db' cartId tenantId)
    (entries : ∀ entry ∈ db'.customers.ledger, entry ∈ db.customers.ledger ∨
      ∀ orderId ∈ entry.orderId, orderId ∈ db.orders.map Order.id)
    (counted : ∀ orderId ∈ redemptions db', orderId ∈ redemptions db ∨
      orderId ∈ db.orders.map Order.id) : GrowthKeys db' := by
  have ids := ids_of_keys same
  constructor
  · exact carts
  · exact customers
  · exact ids ▸ keys.orders
  · intro order stored
    have listed : order.id ∈ db.orders.map Order.id := ids ▸ mem_map_of_mem stored
    obtain ⟨before, stored', id⟩ := mem_map.mp listed
    exact lt_of_lt_of_le (id ▸ keys.oldOrders before stored') grows
  · intro order stored
    have listed : orderKey order ∈ db.orders.map orderKey := same ▸ mem_map_of_mem stored
    obtain ⟨before, stored', key⟩ := mem_map.mp listed
    obtain ⟨_, key⟩ := Prod.mk.inj key
    obtain ⟨cartIs, tenantIs⟩ := Prod.mk.inj key
    obtain ⟨cart, isStored, own, isClosed, tenant⟩ := keys.closed before stored'
    obtain ⟨cart', isStored', id', isClosed', tenant'⟩ :=
      closed cart.id order.tenantId ⟨cart, isStored, rfl, isClosed, tenant.trans tenantIs⟩
    exact ⟨cart', isStored', by rw [← cartIs, own, id'], isClosed', tenant'⟩
  · intro entry stored
    rw [ids]
    rcases entries entry stored with before | new
    · exact keys.entries entry before
    · exact new
  · intro orderId listed
    rw [ids]
    rcases counted orderId listed with before | new
    · exact keys.counted orderId before
    · exact new

theorem orderKeys_modify {f : Order → Order} (keeps : ∀ order, orderKey (f order) = orderKey order)
    (orderId : Id) (rows : List Order) :
    (Rows.modify Order.id orderId f rows).map orderKey = rows.map orderKey :=
  Rows.map_modify keeps rows

theorem closed_linked {order : Order} {profile : CustomerProfile} {db db' : Db}
    (carts : db'.carts = linkedCarts order profile db.carts) {cartId tenantId : Id}
    (closed : Closed db cartId tenantId) : Closed db' cartId tenantId := by
  obtain ⟨cart, stored, id, isClosed, tenant⟩ := closed
  unfold linkedCarts at carts
  cases owner : order.cartId with
  | none =>
    rw [owner] at carts
    exact ⟨cart, carts ▸ stored, id, isClosed, tenant⟩
  | some own =>
    rw [owner] at carts
    refine ⟨_, by rw [carts]; exact Rows.mem_modify.mpr ⟨cart, stored, rfl⟩, ?_⟩
    split
    · exact ⟨id, isClosed, tenant⟩
    · exact ⟨id, isClosed, tenant⟩

theorem linkedCarts_ids (order : Order) (profile : CustomerProfile) (rows : List Cart) :
    (linkedCarts order profile rows).map Cart.id = rows.map Cart.id := by
  unfold linkedCarts
  cases order.cartId with
  | none => rfl
  | some cartId =>
    refine Rows.map_modify (fun row => ?_) rows
    rfl

theorem GrowthKeys.ordered {db db' : Db} {r : CartRequest} (keys : GrowthKeys db)
    (carts : CartKeys db') (customers : db'.customers = db.customers)
    (counted : redemptions db' = redemptions db) (stays : ∀ cart ∈ db.carts,
      cart.status = .converted → cart ∈ db'.carts) {cart : Cart} {dto : CheckoutCartDto}
    {order : Order} {itemIds : List Id} (stored : cart ∈ db.carts)
    (made : order = orderOfCart r.env db.nextId itemIds cart dto)
    (cartsIs : db'.carts = Rows.modify Cart.id cart.id (fun _ => converted order cart) db.carts)
    (orders : db'.orders = db.orders ++ [order]) (grows : db.nextId < db'.nextId) :
    GrowthKeys db' where
  carts := carts
  customers := (enrolled_of_same customers (le_of_lt grows)).keys keys.customers
  orders := by
    rw [orders, map_append, map_singleton, made]
    refine Rows.nodup_append_new keys.orders fun id listed => ?_
    obtain ⟨other, before, rfl⟩ := mem_map.mp listed
    exact keys.oldOrders other before
  oldOrders other listed := by
    rw [orders] at listed
    rcases mem_append.mp listed with before | new
    · exact lt_trans (keys.oldOrders other before) grows
    · rw [mem_singleton.mp new, made]
      exact grows
  closed other listed := by
    rw [orders] at listed
    rcases mem_append.mp listed with before | new
    · obtain ⟨own, isStored, same, isClosed, tenant⟩ := keys.closed other before
      exact ⟨own, stays own isStored isClosed, same, isClosed, tenant⟩
    · refine ⟨converted order cart, ?_, ?_, rfl, ?_⟩
      · rw [cartsIs]
        exact Rows.mem_modify.mpr ⟨cart, stored, if_pos rfl⟩
      all_goals
        rw [mem_singleton.mp new, made]
        rfl
  entries entry listed orderId is := by
    rw [orders, map_append]
    exact mem_append_left _ (keys.entries entry (customers ▸ listed) orderId is)
  counted orderId listed := by
    rw [orders, map_append]
    exact mem_append_left _ (keys.counted orderId (counted ▸ listed))

theorem Grows.keys {db db' : Db} {r : GrowthRequest} (grows : Grows db r db') (keys : GrowthKeys db) :
    GrowthKeys db' := by
  have entriesKept : db'.customers.ledger = db.customers.ledger →
      ∀ entry ∈ db'.customers.ledger, entry ∈ db.customers.ledger ∨
        ∀ orderId ∈ entry.orderId, orderId ∈ db.orders.map Order.id :=
    fun same entry stored => .inl (same ▸ stored)
  have countedKept : redemptions db' = redemptions db → ∀ orderId ∈ redemptions db',
      orderId ∈ redemptions db ∨ orderId ∈ db.orders.map Order.id :=
    fun same orderId listed => .inl (same ▸ listed)
  have cartsKept : db'.carts = db.carts → ∀ cartId tenantId, Closed db cartId tenantId →
      Closed db' cartId tenantId := fun same cartId tenantId =>
    Closed.of_stays fun cart stored _ => same ▸ stored
  cases grows with
  | untouched same =>
    refine keys.of_same (keys.carts.of_ids (by rw [same.carts]) same.grows)
      ((enrolled_of_same same.customers same.grows).keys keys.customers) same.grows
      (by rw [same.orders]) (cartsKept same.carts) (entriesKept (by rw [same.customers]))
      (countedKept same.redemptions)
  | moved other moved customers counted supply =>
    have stays : ∀ cart ∈ db.carts, cart.status = .converted → cart ∈ db'.carts :=
      fun cart stored closed => moved.stays keys.carts stored closed
    have cartKeys := moved.keys keys.carts
    have unordered : db'.orders = db.orders → db.nextId ≤ db'.nextId → GrowthKeys db' :=
      fun orders grows => keys.of_same cartKeys
        ((enrolled_of_same customers grows).keys keys.customers) grows (by rw [orders])
        (fun cartId tenantId => Closed.of_stays stays) (entriesKept (by rw [customers]))
        (countedKept counted)
    cases moved with
    | kept _ orders grows => exact unordered orders grows
    | opened dto tenantId storeId _ orders grows => exact unordered orders (le_of_lt grows)
    | turned own own' turns _ orders grows => exact unordered orders grows
    | ordered cart dto order itemIds stored isOpen made listed carts orders first grows =>
      refine keys.ordered cartKeys customers counted stays stored made carts orders ?_
      rcases supply with same | grows
      · rw [same] at orders
        exact absurd orders (by simp)
      · exact grows
  | promoted cart promotion profile applied =>
    obtain ⟨stored, isOpen⟩ := applied.opened.stored
    have carts := congrArg Db.carts applied.rest
    refine keys.of_same (keys.carts.replaced (by rfl) carts applied.enrolled.grows)
      (applied.enrolled.keys keys.customers) applied.enrolled.grows (by rw [applied.rest])
      (fun cartId tenantId => Closed.of_stays fun other listed closed =>
        keys.carts.left_alone listed closed stored isOpen carts)
      (entriesKept applied.enrolled.ledger) (countedKept (by rw [applied.rest]; rfl))
  | adjusted accountId adjusted credited =>
    obtain ⟨new, ledger, _, posted⟩ := credited.ledger
    have carts : db'.carts = db.carts := by rw [adjusted.rest]
    refine keys.of_same (keys.carts.of_ids (by rw [carts]) credited.grows) credited.keys
      credited.grows (by rw [adjusted.rest]) (cartsKept carts) (fun entry stored => ?_)
      (countedKept adjusted.redemptions)
    rw [ledger] at stored
    rcases mem_append.mp stored with before | last
    · exact .inl before
    · refine .inr fun orderId is => ?_
      rw [(posted entry last).order] at is
      cases is
  | created tenantId code audit is =>
    rw [is]
    refine keys.of_same ⟨keys.carts.unique, fun cart stored =>
        Nat.lt_succ_of_lt (keys.carts.old cart stored)⟩
      (keys.customers.of_same rfl rfl rfl (Nat.le_succ _)) (Nat.le_succ _) rfl
      (fun _ _ => id) (fun _ => .inl) (fun _ => .inl)
  | changed audit is =>
    rw [is]
    exact keys.of_same ⟨keys.carts.unique, keys.carts.old⟩
      (keys.customers.of_same rfl rfl rfl le_rfl) le_rfl rfl
      (fun _ _ => id) (fun _ => .inl) (fun _ => .inl)
  | transitioned current admitted carts orders customers counted grows =>
    refine keys.of_same (keys.carts.of_ids (by rw [carts]) grows)
      ((enrolled_of_same customers grows).keys keys.customers) grows ?_ (cartsKept carts)
      (entriesKept (by rw [customers])) (countedKept counted)
    rw [orders]
    refine orderKeys_modify (fun row => ?_) _ _
    rfl
  | finalised order phone profile accountId found known recorded =>
    obtain ⟨new, ledger, _, posted⟩ := recorded.credited.ledger
    have grows := recorded.credited.grows
    have carts := congrArg Db.carts recorded.rest
    have orders := congrArg Db.orders recorded.rest
    have listed : order.id ∈ db.orders.map Order.id :=
      mem_map_of_mem (Table.findUnique_mem (findOrder_ok_iff.mp found).1).1
    refine keys.of_same (keys.carts.of_ids ?_ grows) recorded.credited.keys grows ?_
      (fun cartId tenantId => closed_linked carts) (fun entry stored => ?_)
      (fun orderId isCounted => ?_)
    · rw [carts]
      exact linkedCarts_ids _ _ _
    · rw [orders]
      refine orderKeys_modify (fun row => ?_) _ _
      rfl
    · rw [ledger] at stored
      rcases mem_append.mp stored with before | last
      · exact .inl before
      · refine .inr fun orderId is => ?_
        rw [(posted entry last).order] at is
        rwa [← Option.some.inj is]
    · rw [recorded.redemptions] at isCounted
      rcases mem_append.mp isCounted with before | last
      · exact .inl before
      · obtain ⟨_, _, rfl⟩ := mem_map.mp last
        exact .inr listed

theorem step_growthKeys {db : Db} (keys : GrowthKeys db) (r : GrowthRequest) :
    GrowthKeys (step db r) :=
  (step_grows keys r).keys keys

end Exetron.Growth
