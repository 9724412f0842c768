import Exetron.Carts.Money

/-!
# Once-only checkout

The orders of a run are those of its accepted checkouts, one for each cart that is converted. A
converted cart takes no more calls, and a checkout that fails leaves nothing behind.
-/

namespace Exetron.Carts

open Lib Orders Fulfillment Customers List

/-- The order that a request makes, after the cart it is made of. -/
def checkouts (db : Db) (r : CartRequest) : List (Cart × Order) :=
  match r.call with
  | .checkout cartId dto =>
    match carts.findUnique cartId db, (Call.exec (checkout r.env r.context cartId dto) db).1 with
    | some cart, .ok order => [(cart, order)]
    | _, _ => []
  | _ => []

abbrev history (db : Db) (rs : List CartRequest) : List (Cart × Order) :=
  Trace.recorded step checkouts [] db rs

def addressed : CartCall → Option Id
  | .updateCart cartId _ | .addItem cartId _ | .updateItem cartId _ _ | .deleteItem cartId _
  | .applyCartFulfillment cartId _ | .checkout cartId _ => some cartId
  | .applyPromotionToCart input => some input.cartId
  | .createCart _ | .elsewhere .. => none

def Refused (db : Db) (r : CartRequest) : Prop :=
  match r.call with
  | .createCart dto => Call.Refuses (createCart r.context dto) db
  | .updateCart cartId dto => Call.Refuses (updateCart r.context cartId dto) db
  | .addItem cartId dto => Call.Refuses (addItem r.context cartId dto) db
  | .updateItem cartId itemId dto => Call.Refuses (updateItem r.context cartId itemId dto) db
  | .deleteItem cartId itemId => Call.Refuses (deleteItem r.context cartId itemId) db
  | .applyCartFulfillment cartId selectionInput =>
    Call.Refuses (applyCartFulfillment r.env.now r.context cartId selectionInput) db
  | .applyPromotionToCart input => Call.Refuses (applyPromotionToCart r.env r.context input) db
  | .checkout cartId dto => Call.Refuses (checkout r.env r.context cartId dto) db
  | .elsewhere .. => False

def Converted (db : Db) (cartId : Id) : Prop :=
  ∃ cart ∈ db.carts, cart.id = cartId ∧ cart.status = .converted

/-- The orders are those of the history, whose carts are the converted ones. -/
structure OnceAndFaithful (db : Db) (made : List (Cart × Order)) : Prop where
  orders : db.orders = made.reverse.map Prod.snd
  once : (made.map fun m => m.1.id).Nodup
  open_before : ∀ m ∈ made, m.1.status = .open
  faithful : ∀ m ∈ made, m.2.cartId = some m.1.id ∧ AmountsCopied m.2 m.1
  converted : ∀ cartId, Converted db cartId ↔ cartId ∈ made.map fun m => m.1.id

/-- A converted cart takes no call, and stays as it is. -/
structure LeftAlone (db : Db) (cart : Cart) : Prop where
  refused : ∀ r : CartRequest, addressed r.call = some cart.id → Refused db r
  stays : ∀ rs, cart ∈ (run db rs).carts

section
variable {db : Db} {cart : Cart}

theorem refuses_converted {α : Type} {x : Transaction α} (keys : CartKeys db)
    (stored : cart ∈ db.carts) (closed : cart.status = .converted)
    (admits : ∀ a db', x db = .ok (a, db') → ∃ row, OpenAt db cart.id row) :
    Call.Refuses (Call.transact x) db := by
  refine Call.refuses_transact fun a db' done => ?_
  obtain ⟨row, found, isOpen⟩ := admits a db' done
  have same : row = cart :=
    Option.some.inj (found.symm.trans (Rows.find_of_mem keys.unique stored))
  rw [same, closed] at isOpen
  cases isOpen

theorem refused_converted (keys : CartKeys db) (stored : cart ∈ db.carts)
    (closed : cart.status = .converted) {r : CartRequest}
    (about : addressed r.call = some cart.id) : Refused db r := by
  obtain ⟨env, context, call⟩ := r
  have unique := keys.unique
  cases call with
  | createCart dto => cases about
  | elsewhere => cases about
  | updateCart cartId dto =>
    obtain rfl := Option.some.inj about
    refine refuses_converted keys stored closed fun _ _ h => ?_
    obtain ⟨row, _, admitted, _⟩ := updateCartTx_ok unique h
    exact ⟨row, openCart_at admitted⟩
  | addItem cartId dto =>
    obtain rfl := Option.some.inj about
    refine refuses_converted keys stored closed fun _ _ h => ?_
    obtain ⟨row, _, _, admitted, _⟩ := addItemTx_ok unique h
    exact ⟨row, openCart_at (admitNewItem_ok admitted).1⟩
  | updateItem cartId itemId dto =>
    obtain rfl := Option.some.inj about
    refine refuses_converted keys stored closed fun _ _ h => ?_
    obtain ⟨row, _, _, _, admitted, _⟩ := updateItemTx_ok unique h
    exact ⟨row, openCart_at (admitItemChange_ok admitted).1⟩
  | deleteItem cartId itemId =>
    obtain rfl := Option.some.inj about
    refine refuses_converted keys stored closed fun _ _ h => ?_
    obtain ⟨row, _, _, admitted, _⟩ := deleteItemTx_ok unique h
    exact ⟨row, openCart_at (admitItemRemoval_ok admitted)⟩
  | applyCartFulfillment cartId selectionInput =>
    obtain rfl := Option.some.inj about
    refine refuses_converted keys stored closed fun _ _ h => ?_
    obtain ⟨row, _, _, admitted, _⟩ := applyCartFulfillmentTx_ok unique h
    exact ⟨row, admitCartFulfillment_at admitted⟩
  | applyPromotionToCart input =>
    refine Call.refuses_bind (refuses_converted keys stored closed fun _ _ h => ?_) _
    obtain ⟨row, _, _, _, _, _, _, admitted, _⟩ := applyPromotionToCartTx_ok unique h
    rw [← Option.some.inj about]
    exact ⟨row, admitPromotion_at admitted⟩
  | checkout cartId dto =>
    obtain rfl := Option.some.inj about
    refine refuses_converted keys stored closed fun _ _ h => ?_
    obtain ⟨row, _, admitted, _⟩ := checkoutTx_ok h
    exact ⟨row, admitCheckout_at admitted⟩

theorem step_stays (keys : CartKeys db) (stored : cart ∈ db.carts)
    (closed : cart.status = .converted) (r : CartRequest) : cart ∈ (step db r).carts :=
  (step_moved keys r).stays keys stored closed

theorem leftAlone (keys : CartKeys db) (stored : cart ∈ db.carts)
    (closed : cart.status = .converted) : LeftAlone db cart where
  refused := fun _ about => refused_converted keys stored closed about
  stays := fun rs => by
    have keeps : ∀ s r, CartKeys s ∧ cart ∈ s.carts → CartKeys (step s r) ∧ cart ∈ (step s r).carts :=
      fun _ r ⟨keys, stored⟩ => ⟨step_keys keys r, step_stays keys stored closed r⟩
    exact (Trace.run_always keeps ⟨keys, stored⟩ rs).2

end

section
variable {db : Db} {made : List (Cart × Order)}

theorem step_orders (keys : CartKeys db) {r : CartRequest}
    (other : ∀ cartId dto, r.call ≠ .checkout cartId dto) : (step db r).orders = db.orders := by
  obtain ⟨env, context, call⟩ := r
  have unique := keys.unique
  have unchanged : ∀ {α : Type} {x : Transaction α},
      (∀ a db', x db = .ok (a, db') → db'.orders = db.orders) →
      (Call.exec (Call.transact x) db).2.orders = db.orders := by
    intro α x body
    exact Call.transact_related (R := fun s t : Db => t.orders = s.orders) rfl body
  cases call with
  | createCart dto =>
    refine unchanged fun _ _ h => ?_
    obtain ⟨_, _, _, rfl⟩ := createCartTx_ok h
    rfl
  | updateCart cartId dto =>
    refine unchanged fun _ _ h => ?_
    obtain ⟨_, _, _, rfl⟩ := updateCartTx_ok unique h
    rfl
  | addItem cartId dto =>
    refine unchanged fun _ _ h => ?_
    obtain ⟨_, _, _, _, rfl⟩ := addItemTx_ok unique h
    rfl
  | updateItem cartId itemId dto =>
    refine unchanged fun _ _ h => ?_
    obtain ⟨_, _, _, _, _, rfl⟩ := updateItemTx_ok unique h
    rfl
  | deleteItem cartId itemId =>
    refine unchanged fun _ _ h => ?_
    obtain ⟨_, _, _, _, rfl⟩ := deleteItemTx_ok unique h
    rfl
  | applyCartFulfillment cartId selectionInput =>
    refine unchanged fun _ _ h => ?_
    obtain ⟨_, _, _, _, rfl⟩ := applyCartFulfillmentTx_ok unique h
    rfl
  | applyPromotionToCart input =>
    show (Call.exec (applyPromotionToCart env context input) db).2.orders = _
    rw [applyPromotionToCart_state]
    refine unchanged fun _ _ h => ?_
    obtain ⟨_, _, _, _, _, _, _, _, _, rfl⟩ := applyPromotionToCartTx_ok unique h
    rfl
  | checkout cartId dto => exact absurd rfl (other cartId dto)
  | elsewhere => rfl

theorem converted_replaced {db' : Db} {own own' : Cart}
    (stored : own ∈ db.carts) (same : own'.id = own.id)
    (after : db'.carts = Rows.modify Cart.id own.id (fun _ => own') db.carts) (cartId : Id) :
    Converted db' cartId ↔
      if cartId = own.id then own'.status = .converted else Converted db cartId := by
  have rows : ∀ row, row ∈ db'.carts ↔
      (row = own' ∨ row ∈ db.carts ∧ row.id ≠ own.id) := by
    intro row
    rw [after, Rows.mem_modify]
    constructor
    · rintro ⟨row, listed, rfl⟩
      split
      · exact .inl rfl
      · exact .inr ⟨listed, ‹_›⟩
    · rintro (rfl | ⟨listed, other⟩)
      · exact ⟨own, stored, if_pos rfl⟩
      · exact ⟨row, listed, if_neg other⟩
  split
  · rename_i here
    constructor
    · rintro ⟨row, listed, id, closed⟩
      rcases (rows row).mp listed with rfl | ⟨_, other⟩
      · exact closed
      · exact absurd (id.trans here) other
    · exact fun closed => ⟨own', (rows own').mpr (.inl rfl), same.trans here.symm, closed⟩
  · rename_i other
    constructor
    · rintro ⟨row, listed, id, closed⟩
      rcases (rows row).mp listed with rfl | ⟨before, _⟩
      · exact absurd (id.symm.trans same) other
      · exact ⟨row, before, id, closed⟩
    · rintro ⟨row, before, id, closed⟩
      exact ⟨row, (rows row).mpr (.inr ⟨before, id ▸ other⟩), id, closed⟩

/-- A request that makes no order converts no cart. -/
theorem converted_kept (keys : CartKeys db) {r : CartRequest}
    (orders : (step db r).orders = db.orders) (cartId : Id) :
    Converted (step db r) cartId ↔ Converted db cartId := by
  cases step_moved keys r with
  | kept carts => rw [Converted, Converted, carts]
  | opened dto tenantId storeId carts =>
    constructor
    · rintro ⟨row, listed, id, closed⟩
      rw [carts] at listed
      rcases mem_append.mp listed with before | new
      · exact ⟨row, before, id, closed⟩
      · rw [mem_singleton.mp new] at closed
        cases closed
    · rintro ⟨row, before, id, closed⟩
      exact ⟨row, by rw [carts]; exact mem_append_left _ before, id, closed⟩
  | turned own own' turns carts =>
    obtain ⟨listed, isOpen⟩ := turns_open turns
    obtain ⟨same, isOpen'⟩ := turns_same turns
    rw [converted_replaced listed same carts]
    split
    · rename_i here
      constructor
      · intro closed
        rw [isOpen'] at closed
        cases closed
      · rintro ⟨row, before, id, closed⟩
        rw [Rows.eq_of_key keys.unique before listed (id.trans here), isOpen] at closed
        cases closed
    · rfl
  | ordered own dto order itemIds _ _ _ _ _ orders' =>
    rw [orders'] at orders
    exact absurd orders (by simp)

theorem step_once (keys : CartKeys db) (held : OnceAndFaithful db made) (r : CartRequest) :
    OnceAndFaithful (step db r) (checkouts db r ++ made) := by
  have quiet : checkouts db r = [] → (step db r).orders = db.orders →
      OnceAndFaithful (step db r) (checkouts db r ++ made) := by
    intro none orders
    rw [none, nil_append]
    exact
      { orders := orders.trans held.orders
        once := held.once
        open_before := held.open_before
        faithful := held.faithful
        converted := fun cartId => (converted_kept keys orders cartId).trans (held.converted cartId) }
  obtain ⟨env, context, call⟩ := r
  cases call with
  | checkout cartId dto =>
    rcases answered : Call.exec (checkout env context cartId dto) db with ⟨e | order, db'⟩
    · obtain ⟨_, refused⟩ := Call.transact_refuses answered
      have same : step db ⟨env, context, .checkout cartId dto⟩ = db := congrArg Prod.snd refused
      refine quiet ?_ (congrArg Db.orders same)
      simp only [checkouts, answered]
      split <;> simp_all
    · obtain ⟨cart, _, admitted, order_is, done⟩ := checkoutTx_ok (Call.transact_ok_iff.mp answered)
      obtain ⟨found, isOpen⟩ := admitCheckout_at admitted
      have stored := (Table.findUnique_mem found).1
      have ended : step db ⟨env, context, .checkout cartId dto⟩ = db' := congrArg Prod.snd answered
      have added : checkouts db ⟨env, context, .checkout cartId dto⟩ = [(cart, order)] := by
        simp only [checkouts, answered, found]
      have linked : order.cartId = some cart.id := by rw [order_is]; rfl
      have carts' : db'.carts = Rows.modify Cart.id cart.id (fun _ => converted order cart) db.carts := by
        rw [done.carts cart.id linked, Rows.modify_stored keys.unique stored]
      have copied : AmountsCopied order cart := by
        rw [order_is]
        exact orderOfCart_copies env db.nextId dto length_range'
      have fresh : cart.id ∉ made.map fun m => m.1.id := by
        intro listed
        obtain ⟨row, before, id, closed⟩ := (held.converted cart.id).mpr listed
        rw [Rows.eq_of_key keys.unique before stored id, isOpen] at closed
        cases closed
      rw [ended, added]
      refine ⟨?_, ?_, ?_, ?_, fun other => ?_⟩
      · rw [done.rest]
        show db.orders ++ [order] = _
        rw [singleton_append, reverse_cons, map_append, ← held.orders]
        rfl
      · exact nodup_cons.mpr ⟨fresh, held.once⟩
      · exact forall_mem_cons.mpr ⟨isOpen, held.open_before⟩
      · exact forall_mem_cons.mpr ⟨⟨linked, copied⟩, held.faithful⟩
      · have kept : (converted order cart).id = cart.id := rfl
        rw [converted_replaced stored kept carts', singleton_append, map_cons, mem_cons]
        split
        · rename_i here
          exact ⟨fun _ => .inl here, fun _ => rfl⟩
        · rename_i elsewhere
          rw [held.converted other]
          exact ⟨.inr, fun listed => listed.resolve_left elsewhere⟩
  | _ => exact quiet rfl (step_orders keys (by rintro _ _ ⟨⟩))

end

/-- After any run from a database without carts, the orders are those of the accepted checkouts, at
most one for each cart and with the amounts that the cart had; a converted cart takes no further
call and keeps its row in every later state; and a checkout that fails changes nothing. -/
theorem checkout_once_and_faithful {db : Db} (start : BeforeCarts db) (rs : List CartRequest) :
    OnceAndFaithful (run db rs) (history db rs) ∧
      (∀ cart ∈ (run db rs).carts, cart.status = .converted → LeftAlone (run db rs) cart) ∧
      ∀ env context cartId dto e db',
        Call.exec (checkout env context cartId dto) (run db rs) = (.error e, db') →
          db' = run db rs := by
  have init : CartKeys db ∧ OnceAndFaithful db [] := by
    refine ⟨⟨?_, ?_⟩, ?_, List.nodup_nil, ?_, ?_, ?_⟩ <;>
      simp [start.carts, start.orders, Converted]
  have extend : ∀ made s r, CartKeys s ∧ OnceAndFaithful s made →
      CartKeys (step s r) ∧ OnceAndFaithful (step s r) (checkouts s r ++ made) :=
    fun _ _ r ⟨keys, held⟩ => ⟨step_keys keys r, step_once keys held r⟩
  obtain ⟨keys, held⟩ := Trace.run_recorded extend init rs
  refine ⟨held, fun cart stored closed => leftAlone keys stored closed, ?_⟩
  intro env context cartId dto e db' failed
  obtain ⟨e', refused⟩ := Call.transact_refuses failed
  exact congrArg Prod.snd (failed.symm.trans refused)

theorem checkout_once_and_faithful_delivered :
    OnceAndFaithful (run diner deliveredVisit) (history diner deliveredVisit) ∧
      (history diner deliveredVisit).length = 1 :=
  ⟨(checkout_once_and_faithful diner_beforeCarts deliveredVisit).1, by decide +kernel⟩

end Exetron.Carts
