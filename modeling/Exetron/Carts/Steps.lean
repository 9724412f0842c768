import Exetron.Carts.Calls

/-!
# What the calls on carts do

One lemma for each call, and `step_moved` for all of them: a request opens a cart, turns one open
cart into another, makes an order of one, or leaves the carts alone.
-/

namespace Exetron.Carts

open Lib Orders Fulfillment Customers Tx Table Rows

variable {cartId itemId : Id} {selection : CartItemSelection} {currentItem : CartItem}
  {now : Instant} {selectionInput : Json} {r : CartRequest} {u : Unit} {result cart' : Cart}
  {dto : AddCartItemDto} {quote : FulfillmentQuote} {name : String}

section
variable {context : RequestContext} {db db' m : Db} {cart : Cart}

def OpenAt (db : Db) (cartId : Id) (cart : Cart) : Prop :=
  carts.findUnique cartId db = some cart ∧ cart.status = .open

theorem OpenAt.stored (h : OpenAt db cartId cart) : cart ∈ db.carts ∧ cart.status = .open :=
  ⟨(findUnique_mem h.1).1, h.2⟩

theorem openCart_at (h : openCart context cartId db = .ok cart) : OpenAt db cartId cart := by
  simp only [openCart, except_bind_ok_iff, except_pure_ok_iff, rejectIf_ok_iff, not_not,
    findUniqueOrThrow_ok_iff] at h
  obtain ⟨_, found, _, isOpen, _, _, rfl⟩ := h
  exact ⟨found, isOpen⟩

theorem openCart_ok (h : openCart context cartId db = .ok cart) :
    cart ∈ db.carts ∧ cart.status = .open :=
  (openCart_at h).stored

theorem admitNewItem_ok (h : admitNewItem context cartId dto db = .ok (cart, selection)) :
    openCart context cartId db = .ok cart ∧
      ∃ input, resolveCartItemSelection context input db = .ok selection := by
  simp only [admitNewItem, except_bind_ok_iff, except_pure_ok_iff, Prod.mk.injEq] at h
  obtain ⟨_, opened, _, resolved, rfl, rfl⟩ := h
  exact ⟨opened, _, resolved⟩

theorem admitItemChange_ok {dto : UpdateCartItemDto}
    (h : admitItemChange context cartId itemId dto db = .ok (cart, currentItem, selection)) :
    openCart context cartId db = .ok cart ∧
      ∃ input, resolveCartItemSelection context input db = .ok selection := by
  simp only [admitItemChange, except_bind_ok_iff, except_pure_ok_iff, Prod.mk.injEq] at h
  obtain ⟨_, opened, _, _, _, resolved, rfl, rfl, rfl⟩ := h
  exact ⟨opened, _, resolved⟩

theorem admitItemRemoval_ok
    (h : admitItemRemoval context cartId itemId db = .ok (cart, currentItem)) :
    openCart context cartId db = .ok cart := by
  simp only [admitItemRemoval, except_bind_ok_iff, except_pure_ok_iff, Prod.mk.injEq] at h
  obtain ⟨_, opened, _, _, rfl, _⟩ := h
  exact opened

theorem admitCartFulfillment_at
    (h : admitCartFulfillment now context cartId selectionInput db = .ok (cart, quote)) :
    OpenAt db cartId cart := by
  simp only [admitCartFulfillment, except_bind_ok_iff, except_pure_ok_iff, rejectIf_ok_iff,
    not_not, Prod.mk.injEq, findUniqueOrThrow_ok_iff] at h
  obtain ⟨_, found, _, _, _, isOpen, _, _, _, _, _, _, rfl, _⟩ := h
  exact ⟨found, isOpen⟩

theorem admitCartFulfillment_ok
    (h : admitCartFulfillment now context cartId selectionInput db = .ok (cart, quote)) :
    cart ∈ db.carts ∧ cart.status = .open :=
  (admitCartFulfillment_at h).stored

theorem admitPromotion_at (h : admitPromotion context cartId db = .ok cart) :
    OpenAt db cartId cart := by
  simp only [admitPromotion, except_bind_ok_iff, except_pure_ok_iff, rejectIf_ok_iff, not_not,
    findUniqueOrThrow_ok_iff] at h
  obtain ⟨_, found, _, _, _, isOpen, _, _, rfl⟩ := h
  exact ⟨found, isOpen⟩

theorem admitPromotion_ok (h : admitPromotion context cartId db = .ok cart) :
    cart ∈ db.carts ∧ cart.status = .open :=
  (admitPromotion_at h).stored

theorem admitCheckout_at {plan : List Inventory.InventoryReservationPlanEntry}
    (h : admitCheckout context cartId db = .ok (cart, plan)) : OpenAt db cartId cart := by
  simp only [admitCheckout, except_bind_ok_iff, except_pure_ok_iff, rejectIf_ok_iff, not_not,
    Prod.mk.injEq, findUniqueOrThrow_ok_iff] at h
  obtain ⟨_, found, _, isOpen, _, _, _, _, _, _, rfl, _⟩ := h
  exact ⟨found, isOpen⟩

theorem admitCheckout_ok {plan : List Inventory.InventoryReservationPlanEntry}
    (h : admitCheckout context cartId db = .ok (cart, plan)) :
    cart ∈ db.carts ∧ cart.status = .open :=
  (admitCheckout_at h).stored

theorem turns_open (turns : Turns db r cart cart') : cart ∈ db.carts ∧ cart.status = .open := by
  cases turns with
  | detailed admitted => exact openCart_ok admitted
  | added admitted => exact openCart_ok (admitNewItem_ok admitted).1
  | changed admitted => exact openCart_ok (admitItemChange_ok admitted).1
  | removed admitted => exact openCart_ok (admitItemRemoval_ok admitted)
  | fulfilled admitted => exact admitCartFulfillment_ok admitted
  | promoted admitted => exact admitPromotion_ok admitted

theorem turns_same (turns : Turns db r cart cart') : cart'.id = cart.id ∧ cart'.status = .open := by
  obtain ⟨_, isOpen⟩ := turns_open turns
  cases turns with
  | @detailed _ _ _ dto _ admitted =>
    unfold detailed
    split
    · exact ⟨rfl, isOpen⟩
    · exact ⟨rfl, isOpen⟩
  | added => exact ⟨rfl, isOpen⟩
  | changed => exact ⟨rfl, isOpen⟩
  | removed => exact ⟨rfl, isOpen⟩
  | fulfilled => exact ⟨rfl, isOpen⟩
  | promoted => exact ⟨rfl, isOpen⟩

theorem recordCart_ok (h : recordCart context cart name db = .ok (u, db')) :
    ∃ logs, db' = { db with logs := logs } := by
  simp only [recordCart, bind_ok_iff] at h
  obtain ⟨_, _, first, second⟩ := h
  rw [log_ok_iff.mp second, log_ok_iff.mp first]
  exact ⟨_, rfl⟩

theorem clearCartPromotionTx_ok (h : clearCartPromotionTx cartId db = .ok (u, db')) :
    db' = { db with carts := Rows.modify Cart.id cartId withoutPromotion db.carts } := by
  simp only [clearCartPromotionTx, bind_ok_iff, update_ok_iff, pure_ok_iff] at h
  obtain ⟨_, _, ⟨_, _, _, rfl⟩, _, rfl⟩ := h
  rfl

theorem recalculateCartTotals_ok (h : recalculateCartTotals cartId db = .ok (u, db')) :
    db' = { db with carts := Rows.modify Cart.id cartId withTotals db.carts } := by
  simp only [recalculateCartTotals, bind_ok_iff, update_ok_iff, pure_ok_iff] at h
  obtain ⟨_, _, ⟨_, _, _, rfl⟩, _, rfl⟩ := h
  rfl

theorem settleCart_ok (h : settleCart context cart name db = .ok (result, db')) :
    ∃ logs, db' = { db with
      carts := Rows.modify Cart.id cart.id settled db.carts
      logs := logs } := by
  simp only [settleCart, bind_ok_iff, read_ok_iff, pure_ok_iff] at h
  obtain ⟨_, _, cleared, _, _, recalculated, _, _, ⟨_, rfl⟩, _, _, recorded, _, rfl⟩ := h
  obtain rfl := clearCartPromotionTx_ok cleared
  obtain rfl := recalculateCartTotals_ok recalculated
  obtain ⟨logs, rfl⟩ := recordCart_ok recorded
  have both : modify Cart.id cart.id withTotals
      (modify Cart.id cart.id withoutPromotion db.carts) =
      modify Cart.id cart.id settled db.carts :=
    modify_modify withoutPromotion withTotals (fun _ => rfl) db.carts
  refine ⟨logs, ?_⟩
  rw [← both]

theorem edited_ok {edit : Cart → Cart} {row : Cart}
    (edited : carts.update cart.id edit db = .ok (row, m)) (keeps : ∀ row, (edit row).id = row.id)
    (unique : (db.carts.map Cart.id).Nodup) (stored : cart ∈ db.carts)
    (h : settleCart context cart name m = .ok (result, db')) : ∃ logs, db' = { db with
      carts := Rows.modify Cart.id cart.id (fun _ => settled (edit cart)) db.carts
      logs := logs } := by
  obtain ⟨_, _, _, rfl⟩ := update_ok_iff.mp edited
  obtain ⟨logs, rfl⟩ := settleCart_ok h
  have replaced : modify Cart.id cart.id settled (modify Cart.id cart.id edit db.carts) =
      modify Cart.id cart.id (fun _ => settled (edit cart)) db.carts := by
    rw [modify_modify edit settled keeps, modify_stored unique stored]
    rfl
  exact ⟨logs, by rw [← replaced]; rfl⟩

theorem createCartTx_ok {dto : CreateCartDto}
    (h : createCartTx context dto db = .ok (result, db')) : ∃ tenantId storeId logs, db' = { db with
      nextId := db.nextId + 1
      carts := db.carts ++ [newCart context dto tenantId storeId db.nextId]
      logs := logs } := by
  simp only [createCartTx, bind_ok_iff, read_ok_iff, freshId_ok_iff, create_ok_iff,
    pure_ok_iff] at h
  obtain ⟨⟨tenantId, store⟩, _, ⟨_, rfl⟩, _, _, ⟨rfl, rfl⟩, _, _, ⟨rfl, rfl⟩, _, _, recorded, _,
    rfl⟩ := h
  obtain ⟨logs, rfl⟩ := recordCart_ok recorded
  exact ⟨tenantId, store.id, logs, rfl⟩

theorem updateCartTx_ok {dto : UpdateCartDto} (unique : (db.carts.map Cart.id).Nodup)
    (h : updateCartTx context cartId dto db = .ok (result, db')) :
    ∃ cart logs, openCart context cartId db = .ok cart ∧ db' = { db with
      carts := Rows.modify Cart.id cart.id (fun _ => detailed dto cart) db.carts
      logs := logs } := by
  obtain ⟨cart, _, read, h⟩ := bind_ok h
  obtain ⟨admitted, rfl⟩ := read_ok_iff.mp read
  obtain ⟨stored, _⟩ := openCart_ok admitted
  refine ⟨cart, ?_⟩
  cases resets : resetsPromotion dto cart with
  | true =>
    simp only [resets, if_true, bind_ok_iff, update_ok_iff, pure_ok_iff] at h
    obtain ⟨_, _, cleared, _, _, ⟨_, _, _, rfl⟩, _, _, recalculated, _, _, recorded, _, rfl⟩ := h
    obtain rfl := clearCartPromotionTx_ok cleared
    obtain rfl := recalculateCartTotals_ok recalculated
    obtain ⟨logs, rfl⟩ := recordCart_ok recorded
    have all : modify Cart.id cart.id withTotals (modify Cart.id cart.id
        (withDetails dto true) (modify Cart.id cart.id withoutPromotion db.carts)) =
        modify Cart.id cart.id (fun _ => detailed dto cart) db.carts := by
      rw [modify_modify withoutPromotion (withDetails dto true) fun _ => rfl,
        modify_modify (withDetails dto true ∘ withoutPromotion) withTotals fun _ => rfl,
        modify_stored unique stored, detailed, if_pos resets]
      rfl
    exact ⟨logs, admitted, by rw [← all]; rfl⟩
  | false =>
    simp only [resets, Bool.false_eq_true, if_false, bind_ok_iff, update_ok_iff, pure_ok_iff] at h
    obtain ⟨_, _, ⟨_, rfl⟩, _, _, ⟨_, _, _, rfl⟩, _, _, ⟨_, rfl⟩, _, _, recorded, _, rfl⟩ := h
    obtain ⟨logs, rfl⟩ := recordCart_ok recorded
    have replaced : modify Cart.id cart.id (withDetails dto false) db.carts =
        modify Cart.id cart.id (fun _ => detailed dto cart) db.carts := by
      rw [modify_stored unique stored, detailed, if_neg (by simp [resets])]
    exact ⟨logs, admitted, by rw [← replaced]; rfl⟩

theorem addItemTx_ok (unique : (db.carts.map Cart.id).Nodup)
    (h : addItemTx context cartId dto db = .ok (result, db')) :
    ∃ cart selection logs, admitNewItem context cartId dto db = .ok (cart, selection) ∧
      db' = { db with
        nextId := db.nextId + 1
        carts := Rows.modify Cart.id cart.id
          (fun _ => settled (withItem (selection.line db.nextId dto.quantity) cart)) db.carts
        logs := logs } := by
  simp only [addItemTx, bind_ok_iff, read_ok_iff, freshId_ok_iff] at h
  obtain ⟨⟨cart, selection⟩, _, ⟨admitted, rfl⟩, _, _, ⟨rfl, rfl⟩, _, _, edited, h⟩ := h
  obtain ⟨stored, _⟩ := openCart_ok (admitNewItem_ok admitted).1
  obtain ⟨logs, rfl⟩ := edited_ok edited (fun _ => rfl) unique stored h
  exact ⟨cart, selection, logs, admitted, rfl⟩

theorem updateItemTx_ok {dto : UpdateCartItemDto} (unique : (db.carts.map Cart.id).Nodup)
    (h : updateItemTx context cartId itemId dto db = .ok (result, db')) :
    ∃ cart currentItem selection logs,
      admitItemChange context cartId itemId dto db = .ok (cart, currentItem, selection) ∧
      db' = { db with
        carts := Rows.modify Cart.id cart.id
          (fun _ => settled (withItemChanged currentItem.id
            (selection.rewrite (dto.quantity.getD currentItem.quantity)) cart)) db.carts
        logs := logs } := by
  simp only [updateItemTx, bind_ok_iff, read_ok_iff] at h
  obtain ⟨⟨cart, currentItem, selection⟩, _, ⟨admitted, rfl⟩, _, _, edited, h⟩ := h
  obtain ⟨stored, _⟩ := openCart_ok (admitItemChange_ok admitted).1
  obtain ⟨logs, rfl⟩ := edited_ok edited (fun _ => rfl) unique stored h
  exact ⟨cart, currentItem, selection, logs, admitted, rfl⟩

theorem deleteItemTx_ok (unique : (db.carts.map Cart.id).Nodup)
    (h : deleteItemTx context cartId itemId db = .ok (result, db')) : ∃ cart currentItem logs,
      admitItemRemoval context cartId itemId db = .ok (cart, currentItem) ∧
      db' = { db with
        carts := Rows.modify Cart.id cart.id (fun _ => settled (withoutItem itemId cart)) db.carts
        logs := logs } := by
  simp only [deleteItemTx, bind_ok_iff, read_ok_iff] at h
  obtain ⟨⟨cart, currentItem⟩, _, ⟨admitted, rfl⟩, _, _, edited, h⟩ := h
  obtain ⟨stored, _⟩ := openCart_ok (admitItemRemoval_ok admitted)
  obtain ⟨logs, rfl⟩ := edited_ok edited (fun _ => rfl) unique stored h
  exact ⟨cart, currentItem, logs, admitted, rfl⟩

theorem applyCartFulfillmentTx_ok (unique : (db.carts.map Cart.id).Nodup)
    (h : applyCartFulfillmentTx now context cartId selectionInput db = .ok (u, db')) :
    ∃ cart quote logs,
      admitCartFulfillment now context cartId selectionInput db = .ok (cart, quote) ∧
      db' = { db with
        carts := Rows.modify Cart.id cart.id (fun _ => withFulfillment quote cart) db.carts
        logs := logs } := by
  simp only [applyCartFulfillmentTx, bind_ok_iff, read_ok_iff, update_ok_iff] at h
  obtain ⟨⟨cart, quote⟩, _, ⟨admitted, rfl⟩, _, _, ⟨_, _, _, rfl⟩, recorded⟩ := h
  obtain rfl := log_ok_iff.mp recorded
  obtain ⟨stored, _⟩ := admitCartFulfillment_ok admitted
  exact ⟨cart, quote, _, admitted, by rw [← modify_stored unique stored]; rfl⟩

theorem resolveProfileTx_ok {customerName phone : Option String} {profile : Option CustomerProfile}
    (h : resolveProfileTx now cart customerName phone db = .ok (profile, db')) :
    ∃ n customers, db.nextId ≤ n ∧ db' = { db with nextId := n, customers := customers } := by
  cases phone with
  | none =>
    obtain ⟨_, rfl⟩ := pure_ok_iff.mp h
    exact ⟨_, _, le_refl _, rfl⟩
  | some phone =>
    obtain ⟨_, _, resolved, h⟩ := bind_ok h
    obtain ⟨_, rfl⟩ := pure_ok_iff.mp h
    obtain ⟨_, _, grows, rfl, _⟩ := resolveOrCreateCustomerProfileTx_ok resolved
    exact ⟨_, _, grows, rfl⟩

theorem resolveAccountTx_ok {profile : Option CustomerProfile} {account : Option LoyaltyAccount}
    (h : resolveAccountTx profile db = .ok (account, db')) :
    ∃ n customers, db.nextId ≤ n ∧ db' = { db with nextId := n, customers := customers } := by
  cases profile with
  | none =>
    obtain ⟨_, rfl⟩ := pure_ok_iff.mp h
    exact ⟨_, _, le_refl _, rfl⟩
  | some profile =>
    obtain ⟨_, _, ensured, h⟩ := bind_ok h
    obtain ⟨_, rfl⟩ := pure_ok_iff.mp h
    obtain ⟨_, _, grows, rfl, _⟩ := ensureLoyaltyAccountTx_ok ensured
    exact ⟨_, _, grows, rfl⟩

theorem applyPromotionToCartTx_ok {env : Env} {input : ApplyPromotionInput}
    (unique : (db.carts.map Cart.id).Nodup)
    (h : applyPromotionToCartTx env context input db = .ok (u, db')) :
    ∃ cart promotion profile customerName customerPhone n customers,
      admitPromotion context input.cartId db = .ok cart ∧ db.nextId ≤ n ∧
      db' = { db with
        nextId := n
        carts := Rows.modify Cart.id cart.id (fun _ =>
          withCustomer profile customerName customerPhone (withPromotion promotion cart)) db.carts
        customers := customers } := by
  simp only [applyPromotionToCartTx, bind_ok_iff, read_ok_iff, lift_ok_iff,
    update_ok_iff, pure_ok_iff] at h
  obtain ⟨cart, _, ⟨admitted, rfl⟩, profile, _, resolved, promotion, _, ⟨_, rfl⟩, _, _, ⟨_, rfl⟩,
    _, _, ensured, _, _, ⟨_, rfl⟩, _, _, ⟨_, _, _, rfl⟩, _, rfl⟩ := h
  obtain ⟨_, _, grows, rfl⟩ := resolveProfileTx_ok resolved
  obtain ⟨n, customers, grows', rfl⟩ := resolveAccountTx_ok ensured
  obtain ⟨stored, _⟩ := admitPromotion_ok admitted
  have replaced := modify_stored (f := fun row => withCustomer profile
    (promotedName input cart) (promotedPhone input cart) (withPromotion promotion row)) unique stored
  exact ⟨cart, promotion, profile, promotedName input cart, promotedPhone input cart, n,
    customers, admitted, le_trans grows grows', by rw [← replaced]; rfl⟩

theorem settleCart_succeeds (listed : cart.id ∈ db.carts.map Cart.id) (name : String) :
    ∃ result db', settleCart context cart name db = .ok (result, db') := by
  have ids : ∀ (f : Cart → Cart) (rows : List Cart), (∀ row, (f row).id = row.id) →
      (modify Cart.id cart.id f rows).map Cart.id = rows.map Cart.id :=
    fun f rows keeps => map_modify keeps rows
  refine bind_succeeds ?_ fun _ _ cleared => ?_
  · refine bind_succeeds (update_succeeds_iff.mpr listed) fun _ _ _ => ?_
    exact ⟨_, _, pure_ok_iff.mpr ⟨rfl, rfl⟩⟩
  obtain rfl := clearCartPromotionTx_ok cleared
  have listed' := (ids withoutPromotion db.carts fun _ => rfl) ▸ listed
  refine bind_succeeds ?_ fun _ _ recalculated => ?_
  · refine bind_succeeds (update_succeeds_iff.mpr listed') fun _ _ _ => ?_
    exact ⟨_, _, pure_ok_iff.mpr ⟨rfl, rfl⟩⟩
  obtain rfl := recalculateCartTotals_ok recalculated
  obtain ⟨row, found⟩ := exists_find_iff.mpr ((ids withTotals _ fun _ => rfl) ▸ listed')
  refine bind_succeeds
    ⟨row, _, read_ok_iff.mpr ⟨findUniqueOrThrow_ok_iff.mpr found, rfl⟩⟩ fun _ _ _ => ?_
  exact bind_succeeds ⟨_, _, rfl⟩ fun _ _ _ => ⟨_, _, pure_ok_iff.mpr ⟨rfl, rfl⟩⟩

theorem edited_succeeds (edit : Cart → Cart) (keeps : ∀ row, (edit row).id = row.id)
    (stored : cart ∈ db.carts) (name : String) :
    ∃ result db', (do let _ ← carts.update cart.id edit; settleCart context cart name :
      Transaction Cart) db = .ok (result, db') := by
  have listed : cart.id ∈ db.carts.map Cart.id := List.mem_map_of_mem stored
  refine bind_succeeds (update_succeeds_iff.mpr listed) fun row m edited => ?_
  obtain ⟨_, _, _, rfl⟩ := update_ok_iff.mp edited
  refine settleCart_succeeds ?_ name
  show cart.id ∈ (modify Cart.id cart.id edit db.carts).map Cart.id
  rw [map_modify keeps]
  exact listed

theorem addItemTx_succeeds (admitted : admitNewItem context cartId dto db = .ok (cart, selection)) :
    ∃ result db', addItemTx context cartId dto db = .ok (result, db') := by
  obtain ⟨stored, _⟩ := openCart_ok (admitNewItem_ok admitted).1
  refine bind_succeeds ⟨_, _, read_ok_iff.mpr ⟨admitted, rfl⟩⟩ fun _ _ read => ?_
  obtain ⟨same, rfl⟩ := read_ok_iff.mp read
  obtain rfl := Except.ok.inj (admitted.symm.trans same)
  refine bind_succeeds ⟨_, _, freshId_ok_iff.mpr ⟨rfl, rfl⟩⟩ fun id _ new => ?_
  obtain ⟨rfl, rfl⟩ := freshId_ok_iff.mp new
  refine edited_succeeds _ ?_ ?_ _
  · exact fun _ => rfl
  · exact stored

theorem updateItemTx_succeeds {dto : UpdateCartItemDto}
    (admitted : admitItemChange context cartId itemId dto db = .ok (cart, currentItem, selection)) :
    ∃ result db', updateItemTx context cartId itemId dto db = .ok (result, db') := by
  obtain ⟨stored, _⟩ := openCart_ok (admitItemChange_ok admitted).1
  refine bind_succeeds ⟨_, _, read_ok_iff.mpr ⟨admitted, rfl⟩⟩ fun _ _ read => ?_
  obtain ⟨same, rfl⟩ := read_ok_iff.mp read
  obtain rfl := Except.ok.inj (admitted.symm.trans same)
  refine edited_succeeds _ ?_ ?_ _
  · exact fun _ => rfl
  · exact stored

theorem deleteItemTx_succeeds
    (admitted : admitItemRemoval context cartId itemId db = .ok (cart, currentItem)) :
    ∃ result db', deleteItemTx context cartId itemId db = .ok (result, db') := by
  obtain ⟨stored, _⟩ := openCart_ok (admitItemRemoval_ok admitted)
  refine bind_succeeds ⟨_, _, read_ok_iff.mpr ⟨admitted, rfl⟩⟩ fun _ _ read => ?_
  obtain ⟨same, rfl⟩ := read_ok_iff.mp read
  obtain rfl := Except.ok.inj (admitted.symm.trans same)
  refine edited_succeeds _ ?_ ?_ _
  · exact fun _ => rfl
  · exact stored

theorem applyCartFulfillmentTx_succeeds
    (admitted : admitCartFulfillment now context cartId selectionInput db = .ok (cart, quote)) :
    ∃ u db', applyCartFulfillmentTx now context cartId selectionInput db = .ok (u, db') := by
  obtain ⟨stored, _⟩ := admitCartFulfillment_ok admitted
  refine bind_succeeds ⟨_, _, read_ok_iff.mpr ⟨admitted, rfl⟩⟩ fun _ _ read => ?_
  obtain ⟨same, rfl⟩ := read_ok_iff.mp read
  obtain rfl := Except.ok.inj (admitted.symm.trans same)
  refine bind_succeeds (update_succeeds_iff.mpr (List.mem_map_of_mem stored)) ?_
  exact fun _ _ _ => ⟨_, _, rfl⟩

theorem getCart_state (cartId : Id) : (Call.exec (getCart context cartId) db).2 = db := by
  refine Call.transact_related (R := fun s t => t = s) rfl fun _ _ h => ?_
  exact (read_ok_iff.mp h).2.symm

theorem applyPromotionToCart_state {env : Env} {input : ApplyPromotionInput} :
    (Call.exec (applyPromotionToCart env context input) db).2 =
      (Call.exec (Call.transact (applyPromotionToCartTx env context input)) db).2 := by
  rw [applyPromotionToCart, Call.exec_bind]
  rcases Call.exec (Call.transact (applyPromotionToCartTx env context input)) db with ⟨_ | _, m⟩
  · rfl
  · exact getCart_state input.cartId

end

theorem moved_of_transact {α : Type} {x : Transaction α} {db : Db}
    (body : ∀ a db', x db = .ok (a, db') → Moved db r db') :
    Moved db r (Call.exec (Call.transact x) db).2 :=
  Call.transact_related (R := fun db db' : Db => Moved db r db') (.kept rfl rfl (le_refl _)) body

theorem step_moved {db : Db} (keys : CartKeys db) (r : CartRequest) : Moved db r (step db r) := by
  obtain ⟨env, context, call⟩ := r
  have unique := keys.unique
  cases call with
  | createCart dto =>
    refine moved_of_transact fun _ _ h => ?_
    obtain ⟨tenantId, storeId, _, rfl⟩ := createCartTx_ok h
    exact .opened dto tenantId storeId rfl rfl (Nat.lt_succ_self _)
  | updateCart cartId dto =>
    refine moved_of_transact fun _ _ h => ?_
    obtain ⟨cart, _, admitted, rfl⟩ := updateCartTx_ok unique h
    exact .turned cart _ (.detailed admitted) rfl rfl (le_refl _)
  | addItem cartId dto =>
    refine moved_of_transact fun _ _ h => ?_
    obtain ⟨cart, _, _, admitted, rfl⟩ := addItemTx_ok unique h
    exact .turned cart _ (.added admitted) rfl rfl (Nat.le_succ _)
  | updateItem cartId itemId dto =>
    refine moved_of_transact fun _ _ h => ?_
    obtain ⟨cart, _, _, _, admitted, rfl⟩ := updateItemTx_ok unique h
    exact .turned cart _ (.changed admitted) rfl rfl (le_refl _)
  | deleteItem cartId itemId =>
    refine moved_of_transact fun _ _ h => ?_
    obtain ⟨cart, _, _, admitted, rfl⟩ := deleteItemTx_ok unique h
    exact .turned cart _ (.removed admitted) rfl rfl (le_refl _)
  | applyCartFulfillment cartId selectionInput =>
    refine moved_of_transact fun _ _ h => ?_
    obtain ⟨cart, _, _, admitted, rfl⟩ := applyCartFulfillmentTx_ok unique h
    exact .turned cart _ (.fulfilled admitted) rfl rfl (le_refl _)
  | applyPromotionToCart input =>
    show Moved db _ (Call.exec (applyPromotionToCart env context input) db).2
    rw [applyPromotionToCart_state]
    refine moved_of_transact fun _ _ h => ?_
    obtain ⟨cart, promotion, profile, name, phone, _, _, admitted, grows, rfl⟩ :=
      applyPromotionToCartTx_ok unique h
    exact .turned cart _ (.promoted admitted promotion profile name phone) rfl rfl grows
  | checkout cartId dto =>
    refine moved_of_transact fun _ _ h => ?_
    obtain ⟨cart, _, admitted, made, done⟩ := checkoutTx_ok h
    obtain ⟨stored, isOpen⟩ := admitCheckout_ok admitted
    have linked : cart.id ∈ (orderOfCart env db.nextId (List.range' (db.nextId + 1)
      cart.items.length) cart dto).cartId := rfl
    rw [← made] at linked
    refine .ordered cart dto _ _ stored isOpen made List.length_range' ?_ ?_ ?_ (le_of_lt done.grows)
    · rw [done.carts cart.id linked, modify_stored unique stored]
    · rw [done.rest]
    · exact fun other listed => done.first other listed cart.id linked
  | elsewhere setup customers stock => exact .kept rfl rfl (le_refl _)

theorem CartKeys.of_ids {db db' : Db} (keys : CartKeys db)
    (ids : db'.carts.map Cart.id = db.carts.map Cart.id) (grows : db.nextId ≤ db'.nextId) :
    CartKeys db' := by
  refine ⟨ids ▸ keys.unique, fun row stored => ?_⟩
  have listed : row.id ∈ db.carts.map Cart.id := ids ▸ List.mem_map_of_mem stored
  obtain ⟨old, before, id⟩ := List.mem_map.mp listed
  exact lt_of_lt_of_le (id ▸ keys.old old before) grows

theorem CartKeys.replaced {db db' : Db} (keys : CartKeys db) {cart : Cart}
    (same : cart'.id = cart.id)
    (carts : db'.carts = Rows.modify Cart.id cart.id (fun _ => cart') db.carts)
    (grows : db.nextId ≤ db'.nextId) : CartKeys db' := by
  refine keys.of_ids ?_ grows
  rw [carts]
  refine List.map_map.trans (List.map_congr_left fun row _ => ?_)
  by_cases here : row.id = cart.id
  · simp [here, same]
  · simp [here]

theorem Moved.keys {db db' : Db} (moved : Moved db r db') (keys : CartKeys db) : CartKeys db' := by
  cases moved with
  | kept carts _ grows =>
    exact ⟨carts ▸ keys.unique, fun row stored =>
      lt_of_lt_of_le (keys.old row (carts ▸ stored)) grows⟩
  | opened dto tenantId storeId carts _ grows =>
    constructor
    · rw [carts, List.map_append]
      refine nodup_append_new keys.unique fun id listed => ?_
      obtain ⟨cart, stored, rfl⟩ := List.mem_map.mp listed
      exact keys.old cart stored
    · intro row stored
      rw [carts] at stored
      rcases List.mem_append.mp stored with before | new
      · exact lt_trans (keys.old row before) grows
      · rw [List.mem_singleton.mp new]
        exact grows
  | turned cart cart' turns carts _ grows => exact keys.replaced (turns_same turns).1 carts grows
  | ordered cart dto order itemIds _ _ _ _ carts _ _ grows =>
    refine keys.replaced ?_ carts grows
    rfl

theorem step_keys {db : Db} (keys : CartKeys db) (r : CartRequest) : CartKeys (step db r) :=
  (step_moved keys r).keys keys

theorem CartKeys.left_alone {db db' : Db} (keys : CartKeys db) {cart own own' : Cart}
    (stored : cart ∈ db.carts) (closed : cart.status = .converted) (listed : own ∈ db.carts)
    (isOpen : own.status = .open)
    (carts : db'.carts = Rows.modify Cart.id own.id (fun _ => own') db.carts) : cart ∈ db'.carts := by
  have other : cart.id ≠ own.id := by
    intro same
    rw [eq_of_key keys.unique stored listed same, isOpen] at closed
    cases closed
  rw [carts]
  exact mem_modify.mpr ⟨cart, stored, if_neg other⟩

theorem Moved.stays {db db' : Db} (moved : Moved db r db') (keys : CartKeys db) {cart : Cart}
    (stored : cart ∈ db.carts) (closed : cart.status = .converted) : cart ∈ db'.carts := by
  cases moved with
  | kept carts => rwa [carts]
  | opened dto tenantId storeId carts =>
    rw [carts]
    exact List.mem_append_left _ stored
  | turned own own' turns carts =>
    obtain ⟨listed, isOpen⟩ := turns_open turns
    exact keys.left_alone stored closed listed isOpen carts
  | ordered own dto order itemIds listed isOpen _ _ carts =>
    exact keys.left_alone stored closed listed isOpen carts

end Exetron.Carts
