import Exetron.Carts.Money

/-!
# The answers of the calls on carts

A call on a cart answers with the cart that it left, but for one: `updateCart` keeps the row that
its update gave and works the totals out after it. A new phone number that costs a cart its
discount is answered with the total of before.
-/

namespace Exetron.Carts

open Lib Orders Pricing Fulfillment Customers Tx Table Rows

/-- The cart that a request answers with. -/
def answer (db : Db) (r : CartRequest) : Option Cart :=
  match r.call with
  | .createCart dto => (Call.exec (createCart r.context dto) db).1.toOption
  | .updateCart cartId dto => (Call.exec (updateCart r.context cartId dto) db).1.toOption
  | .addItem cartId dto => (Call.exec (addItem r.context cartId dto) db).1.toOption
  | .updateItem cartId itemId dto =>
    (Call.exec (updateItem r.context cartId itemId dto) db).1.toOption
  | .deleteItem cartId itemId => (Call.exec (deleteItem r.context cartId itemId) db).1.toOption
  | .applyPromotionToCart input =>
    (Call.exec (applyPromotionToCart r.env r.context input) db).1.toOption
  | .applyCartFulfillment _ _ => none
  | .checkout _ _ => none
  | .elsewhere _ _ _ => none

/-- A cart answered is the cart that is stored once the request is done. -/
def AnswersStored (db : Db) (r : CartRequest) : Prop :=
  ∀ cart ∈ answer db r, carts.findUnique cart.id (step db r) = some cart

/-- The open cart whose promotion a request drops for another phone number. -/
def dropsPromotionOf (db : Db) (r : CartRequest) : Option Cart :=
  match r.call with
  | .updateCart cartId dto =>
    (openCart r.context cartId db).toOption.filter (resetsPromotion dto)
  | _ => none

def ChargedInFull (cart : Cart) : Prop :=
  cart.total = cart.subtotal + cart.modifierTotal + cart.fulfillmentFee

instance (cart : Cart) : Decidable (ChargedInFull cart) :=
  inferInstanceAs (Decidable (cart.total = _))

def KeepsDiscount (db : Db) (r : CartRequest) : Prop :=
  ∀ cart ∈ dropsPromotionOf db r, ChargedInFull cart

instance (db : Db) (r : CartRequest) : Decidable (KeepsDiscount db r) :=
  inferInstanceAs (Decidable (∀ cart ∈ dropsPromotionOf db r, _))

/-- The totals that every call leaves a cart with, whatever the amounts. -/
structure Totalled (cart : Cart) : Prop where
  subtotal : cart.subtotal = (calculateCartTotals cart.items cart.fulfillmentFee 0).subtotal
  modifierTotal :
    cart.modifierTotal = (calculateCartTotals cart.items cart.fulfillmentFee 0).modifierTotal
  nonneg : 0 ≤ cart.total

section
variable {cart : Cart}

theorem withTotals_totalled (cart : Cart) : Totalled (withTotals cart) :=
  ⟨rfl, rfl, le_max_left _ _⟩

theorem settled_totalled (cart : Cart) : Totalled (settled cart) := withTotals_totalled _

theorem withFulfillment_totalled (quote : FulfillmentQuote) (cart : Cart) :
    Totalled (withFulfillment quote cart) :=
  ⟨rfl, rfl, le_max_left _ _⟩

theorem detailed_totalled (dto : UpdateCartDto) (totalled : Totalled cart) :
    Totalled (detailed dto cart) := by
  unfold detailed
  split
  · exact withTotals_totalled _
  · exact ⟨totalled.subtotal, totalled.modifierTotal, totalled.nonneg⟩

theorem withPromotion_totalled (promotion : PromotionCampaign) (profile : Option CustomerProfile)
    (customerName customerPhone : Option String) (totalled : Totalled cart) :
    Totalled (withCustomer profile customerName customerPhone (withPromotion promotion cart)) :=
  ⟨totalled.subtotal, totalled.modifierTotal, le_max_left _ _⟩

/-- Without a discount the totals are worked out to what they were just when the cart is charged
in full: a negative amount due would show in either total. -/
theorem withTotals_eq_self_iff (totalled : Totalled cart) (undiscounted : cart.discountTotal = 0) :
    withTotals cart = cart ↔ ChargedInFull cart := by
  have gross : (calculateCartTotals cart.items cart.fulfillmentFee 0).subtotal +
      (calculateCartTotals cart.items cart.fulfillmentFee 0).modifierTotal + cart.fulfillmentFee =
      cart.subtotal + cart.modifierTotal + cart.fulfillmentFee := by
    rw [← totalled.subtotal, ← totalled.modifierTotal]
  have total : (withTotals cart).total =
      max 0 (cart.subtotal + cart.modifierTotal + cart.fulfillmentFee) := by
    rw [← gross, ← sub_zero (_ + cart.fulfillmentFee)]
    show max 0 (_ - max 0 cart.discountTotal) = _
    rw [undiscounted]
    rfl
  have discount : (withTotals cart).discountTotal =
      min (cart.subtotal + cart.modifierTotal + cart.fulfillmentFee) 0 := by
    rw [← gross]
    show min _ (max 0 cart.discountTotal) = _
    rw [undiscounted]
    rfl
  constructor
  · intro same
    rw [same, undiscounted] at discount
    rw [same] at total
    rw [ChargedInFull, total]
    exact max_eq_right (min_eq_right_iff.mp discount.symm)
  · intro full
    rw [← full, max_eq_right totalled.nonneg] at total
    rw [← full, min_eq_right totalled.nonneg, ← undiscounted] at discount
    show { cart with
      subtotal := (calculateCartTotals cart.items cart.fulfillmentFee 0).subtotal
      modifierTotal := (calculateCartTotals cart.items cart.fulfillmentFee 0).modifierTotal
      discountTotal := (withTotals cart).discountTotal
      total := (withTotals cart).total } = cart
    rw [total, discount, ← totalled.subtotal, ← totalled.modifierTotal]

end

section
variable {context : RequestContext} {db db' : Db} {cart : Cart}

theorem stored_of_transact {x : Transaction Cart}
    (body : ∀ cart db', x db = .ok (cart, db') → carts.findUnique cart.id db' = some cart) :
    ∀ cart ∈ (Call.exec (Call.transact x) db).1.toOption,
      carts.findUnique cart.id (Call.exec (Call.transact x) db).2 = some cart := by
  intro cart answered
  have done : Call.exec (Call.transact x) db =
      (.ok cart, (Call.exec (Call.transact x) db).2) :=
    Prod.ext (toOption_eq_some_iff.mp answered) rfl
  exact body cart _ (Call.transact_ok_iff.mp done)

theorem settleCart_answers {name : String} {result : Cart}
    (h : settleCart context cart name db = .ok (result, db')) :
    carts.findUnique result.id db' = some result := by
  simp only [settleCart, bind_ok_iff, read_ok_iff, pure_ok_iff, findUniqueOrThrow_ok_iff] at h
  obtain ⟨_, _, _, _, _, _, row, _, ⟨found, rfl⟩, _, _, recorded, rfl, rfl⟩ := h
  obtain ⟨logs, rfl⟩ := recordCart_ok recorded
  have keyed : row.id = cart.id := (findUnique_mem found).2
  rw [keyed]
  exact found

theorem createCartTx_answers {dto : CreateCartDto} {result : Cart} (keys : CartKeys db)
    (h : createCartTx context dto db = .ok (result, db')) :
    carts.findUnique result.id db' = some result := by
  simp only [createCartTx, bind_ok_iff, read_ok_iff, freshId_ok_iff, create_ok_iff,
    pure_ok_iff] at h
  obtain ⟨⟨tenantId, store⟩, _, ⟨_, rfl⟩, _, _, ⟨rfl, rfl⟩, _, _, ⟨rfl, rfl⟩, _, _, recorded, rfl,
    rfl⟩ := h
  obtain ⟨logs, rfl⟩ := recordCart_ok recorded
  refine find_append_new fun row stored => ?_
  exact ne_of_lt (keys.old row stored)

theorem addItemTx_answers {cartId : Id} {dto : AddCartItemDto} {result : Cart}
    (h : addItemTx context cartId dto db = .ok (result, db')) :
    carts.findUnique result.id db' = some result := by
  simp only [addItemTx, bind_ok_iff] at h
  obtain ⟨_, _, _, _, _, _, _, _, _, settles⟩ := h
  exact settleCart_answers settles

theorem updateItemTx_answers {cartId itemId : Id} {dto : UpdateCartItemDto} {result : Cart}
    (h : updateItemTx context cartId itemId dto db = .ok (result, db')) :
    carts.findUnique result.id db' = some result := by
  simp only [updateItemTx, bind_ok_iff] at h
  obtain ⟨_, _, _, _, _, _, settles⟩ := h
  exact settleCart_answers settles

theorem deleteItemTx_answers {cartId itemId : Id} {result : Cart}
    (h : deleteItemTx context cartId itemId db = .ok (result, db')) :
    carts.findUnique result.id db' = some result := by
  simp only [deleteItemTx, bind_ok_iff] at h
  obtain ⟨_, _, _, _, _, _, settles⟩ := h
  exact settleCart_answers settles

theorem applyPromotionToCart_answers {env : Env} {input : ApplyPromotionInput} {result : Cart}
    (h : Call.exec (applyPromotionToCart env context input) db = (.ok result, db')) :
    carts.findUnique result.id db' = some result := by
  obtain ⟨_, _, _, reading⟩ := Call.exec_bind_ok_iff.mp h
  have read := Call.transact_ok_iff.mp reading
  simp only [read_ok_iff, except_bind_ok_iff, except_pure_ok_iff, findUniqueOrThrow_ok_iff] at read
  obtain ⟨⟨row, found, _, _, rfl⟩, rfl⟩ := read
  have keyed : row.id = input.cartId := (findUnique_mem found).2
  rw [keyed]
  exact found

def reworded (dto : UpdateCartDto) (cart : Cart) : Cart :=
  if resetsPromotion dto cart then withDetails dto true (withoutPromotion cart)
  else withDetails dto false cart

theorem updateCartTx_succeeds {cartId : Id} {dto : UpdateCartDto}
    (admitted : openCart context cartId db = .ok cart) :
    ∃ result db', updateCartTx context cartId dto db = .ok (result, db') := by
  have listed : cart.id ∈ db.carts.map Cart.id := List.mem_map_of_mem (openCart_ok admitted).1
  refine bind_succeeds ⟨_, _, read_ok_iff.mpr ⟨admitted, rfl⟩⟩ fun _ _ read => ?_
  obtain ⟨same, rfl⟩ := read_ok_iff.mp read
  obtain rfl := Except.ok.inj (admitted.symm.trans same)
  cases resets : resetsPromotion dto cart with
  | true =>
    refine bind_succeeds ?_ fun _ _ cleared => ?_
    · refine bind_succeeds (update_succeeds_iff.mpr listed) fun _ _ _ => ?_
      exact ⟨_, _, pure_ok_iff.mpr ⟨rfl, rfl⟩⟩
    obtain rfl := clearCartPromotionTx_ok cleared
    have listed' : cart.id ∈
        (modify Cart.id cart.id withoutPromotion db.carts).map Cart.id := by
      rwa [map_modify (f := withoutPromotion) fun _ => rfl]
    refine bind_succeeds (update_succeeds_iff.mpr listed') fun _ _ edited => ?_
    obtain ⟨_, _, _, rfl⟩ := update_ok_iff.mp edited
    refine bind_succeeds ?_ fun _ _ _ => ?_
    · refine bind_succeeds (update_succeeds_iff.mpr ?_) fun _ _ _ => ?_
      · show cart.id ∈ (modify Cart.id cart.id (withDetails dto true) _).map Cart.id
        rwa [map_modify (f := withDetails dto true) fun _ => rfl]
      · exact ⟨_, _, pure_ok_iff.mpr ⟨rfl, rfl⟩⟩
    · exact bind_succeeds ⟨_, _, rfl⟩ fun _ _ _ => ⟨_, _, pure_ok_iff.mpr ⟨rfl, rfl⟩⟩
  | false =>
    refine bind_succeeds ⟨_, _, pure_ok_iff.mpr ⟨rfl, rfl⟩⟩ fun _ _ skipped => ?_
    obtain ⟨_, rfl⟩ := pure_ok_iff.mp skipped
    refine bind_succeeds (update_succeeds_iff.mpr listed) fun _ _ _ => ?_
    refine bind_succeeds ⟨_, _, pure_ok_iff.mpr ⟨rfl, rfl⟩⟩ fun _ _ _ => ?_
    exact bind_succeeds ⟨_, _, rfl⟩ fun _ _ _ => ⟨_, _, pure_ok_iff.mpr ⟨rfl, rfl⟩⟩

theorem updateCartTx_answers {cartId : Id} {dto : UpdateCartDto} {result : Cart}
    (admitted : openCart context cartId db = .ok cart)
    (h : updateCartTx context cartId dto db = .ok (result, db')) : result = reworded dto cart := by
  obtain ⟨_, _, read, h⟩ := bind_ok h
  obtain ⟨same, rfl⟩ := read_ok_iff.mp read
  obtain rfl := Except.ok.inj (admitted.symm.trans same)
  have keyed : cart.id = cartId := (findUnique_mem (openCart_at admitted).1).2
  have found : find Cart.id db.carts cart.id = some cart := by
    rw [keyed]
    exact (openCart_at admitted).1
  cases resets : resetsPromotion dto cart with
  | true =>
    simp only [resets, if_true, bind_ok_iff, update_ok_iff, pure_ok_iff] at h
    obtain ⟨_, _, cleared, _, _, ⟨row, reread, rfl, _⟩, _, _, _, _, _, _, rfl, _⟩ := h
    obtain rfl := clearCartPromotionTx_ok cleared
    have stored : find Cart.id (modify Cart.id cart.id withoutPromotion db.carts)
        cart.id = some row := reread
    rw [find_modify (f := withoutPromotion) fun _ => rfl, if_pos rfl, found] at stored
    obtain rfl := Option.some.inj stored
    rw [reworded, if_pos resets]
  | false =>
    simp only [resets, Bool.false_eq_true, if_false, bind_ok_iff, update_ok_iff, pure_ok_iff] at h
    obtain ⟨_, _, ⟨_, rfl⟩, _, _, ⟨row, reread, rfl, _⟩, _, _, _, _, _, _, rfl, _⟩ := h
    have stored : find Cart.id db.carts cart.id = some row := reread
    obtain rfl := Option.some.inj (found.symm.trans stored)
    rw [reworded, if_neg (by simp [resets])]

theorem reworded_left_iff (dto : UpdateCartDto) (totalled : Totalled cart) :
    detailed dto cart = reworded dto cart ↔
      (resetsPromotion dto cart = true → ChargedInFull cart) := by
  unfold detailed reworded
  cases resets : resetsPromotion dto cart with
  | true =>
    have left : Totalled (withDetails dto true (withoutPromotion cart)) :=
      ⟨totalled.subtotal, totalled.modifierTotal, totalled.nonneg⟩
    rw [if_pos rfl, if_pos rfl, withTotals_eq_self_iff left rfl]
    exact ⟨fun full _ => full, fun full => full rfl⟩
  | false => simp

end

/-- What every step of a run keeps. -/
structure TotalsKept (db : Db) : Prop where
  keys : CartKeys db
  carts : ∀ cart ∈ db.carts, Totalled cart

theorem BeforeCarts.totalsKept {db : Db} (start : BeforeCarts db) : TotalsKept db := by
  refine ⟨start.kept.keys, fun cart stored => ?_⟩
  rw [start.carts] at stored
  cases stored

section
variable {db : Db} {r : CartRequest}

theorem turns_totalled {cart cart' : Cart} (turns : Turns db r cart cart')
    (totalled : Totalled cart) : Totalled cart' := by
  cases turns with
  | detailed => exact detailed_totalled _ totalled
  | added => exact settled_totalled _
  | changed => exact settled_totalled _
  | removed => exact settled_totalled _
  | fulfilled => exact withFulfillment_totalled _ _
  | promoted _ promotion profile name phone =>
    exact withPromotion_totalled promotion profile name phone totalled

theorem step_totalsKept (db : Db) (r : CartRequest) (kept : TotalsKept db) :
    TotalsKept (step db r) := by
  refine ⟨step_keys kept.keys r, fun cart stored => ?_⟩
  cases step_moved kept.keys r with
  | kept carts => exact kept.carts cart (carts ▸ stored)
  | opened dto tenantId storeId carts =>
    rw [carts] at stored
    rcases List.mem_append.mp stored with before | new
    · exact kept.carts cart before
    · rw [List.mem_singleton.mp new]
      exact ⟨rfl, rfl, le_refl _⟩
  | turned own own' turns carts =>
    rw [carts] at stored
    obtain ⟨row, before, rfl⟩ := mem_modify.mp stored
    split
    · exact turns_totalled turns (kept.carts own (turns_open turns).1)
    · exact kept.carts row before
  | ordered own dto order itemIds listed _ _ _ carts =>
    rw [carts] at stored
    obtain ⟨row, before, rfl⟩ := mem_modify.mp stored
    have totalled := kept.carts own listed
    split
    · exact ⟨totalled.subtotal, totalled.modifierTotal, totalled.nonneg⟩
    · exact kept.carts row before

theorem updateCart_answersStored_iff {env : Env} {context : RequestContext} {cartId : Id}
    {dto : UpdateCartDto} (kept : TotalsKept db) :
    AnswersStored db ⟨env, context, .updateCart cartId dto⟩ ↔
      KeepsDiscount db ⟨env, context, .updateCart cartId dto⟩ := by
  cases opened : openCart context cartId db with
  | error e =>
    have refused : ∀ cart db', updateCartTx context cartId dto db ≠ .ok (cart, db') := by
      intro cart db' h
      obtain ⟨_, _, admitted, _⟩ := updateCartTx_ok kept.keys.unique h
      rw [opened] at admitted
      cases admitted
    refine iff_of_true (stored_of_transact fun cart db' h => absurd h (refused cart db')) ?_
    intro cart drops
    have nothing : (openCart context cartId db).toOption.filter (resetsPromotion dto) =
        some cart := drops
    rw [opened] at nothing
    cases nothing
  | ok cart =>
    obtain ⟨result, db', h⟩ := @updateCartTx_succeeds context db cart cartId dto opened
    obtain rfl := updateCartTx_answers opened h
    obtain ⟨_, logs, same, rfl⟩ := updateCartTx_ok kept.keys.unique h
    obtain rfl := Except.ok.inj (opened.symm.trans same)
    have stored := (openCart_ok opened).1
    have sameKey : (reworded dto cart).id = cart.id := by
      unfold reworded
      split <;> rfl
    have found : find Cart.id (modify Cart.id cart.id (fun _ => detailed dto cart)
        db.carts) cart.id = some (detailed dto cart) := by
      rw [find_put (turns_same (r := ⟨env, _, _⟩) (.detailed opened)).1, if_pos rfl,
        find_of_mem kept.keys.unique stored]
      rfl
    have done := Call.transact_ok h
    have answered : answer db ⟨env, context, .updateCart cartId dto⟩ =
        some (reworded dto cart) := congrArg (fun t => t.1.toOption) done
    have left : (step db ⟨env, context, .updateCart cartId dto⟩).carts =
        modify Cart.id cart.id (fun _ => detailed dto cart) db.carts :=
      congrArg (fun t => t.2.carts) done
    calc AnswersStored db ⟨env, context, .updateCart cartId dto⟩
        ↔ find Cart.id (modify Cart.id cart.id (fun _ => detailed dto cart) db.carts)
            cart.id = some (reworded dto cart) := by
          unfold AnswersStored
          rw [answered]
          simp only [Option.mem_some_iff, forall_eq', sameKey]
          rw [← left]
          rfl
      _ ↔ (resetsPromotion dto cart = true → ChargedInFull cart) := by
          rw [found, Option.some_inj]
          exact reworded_left_iff dto (kept.carts cart stored)
      _ ↔ KeepsDiscount db ⟨env, context, .updateCart cartId dto⟩ := by
          have drops : dropsPromotionOf db ⟨env, context, .updateCart cartId dto⟩ =
              (some cart).filter (resetsPromotion dto) :=
            congrArg (fun x => x.toOption.filter (resetsPromotion dto)) opened
          unfold KeepsDiscount
          rw [drops]
          cases resets : resetsPromotion dto cart <;> simp [Option.filter, resets]

/-- A request answers with what it stores just when it drops no promotion that was a discount. -/
theorem answersStored_iff (kept : TotalsKept db) (r : CartRequest) :
    AnswersStored db r ↔ KeepsDiscount db r := by
  obtain ⟨env, context, call⟩ := r
  have others : dropsPromotionOf db ⟨env, context, call⟩ = none →
      KeepsDiscount db ⟨env, context, call⟩ := by
    intro drops cart dropped
    rw [drops] at dropped
    cases dropped
  cases call with
  | createCart dto =>
    exact iff_of_true (stored_of_transact fun _ _ h => createCartTx_answers kept.keys h)
      (others rfl)
  | updateCart cartId dto => exact updateCart_answersStored_iff kept
  | addItem cartId dto =>
    exact iff_of_true (stored_of_transact fun _ _ h => addItemTx_answers h) (others rfl)
  | updateItem cartId itemId dto =>
    exact iff_of_true (stored_of_transact fun _ _ h => updateItemTx_answers h) (others rfl)
  | deleteItem cartId itemId =>
    exact iff_of_true (stored_of_transact fun _ _ h => deleteItemTx_answers h) (others rfl)
  | applyCartFulfillment cartId selectionInput =>
    exact iff_of_true (fun _ answered => absurd answered (by simp [answer])) (others rfl)
  | applyPromotionToCart input =>
    refine iff_of_true (fun cart answered => ?_) (others rfl)
    have done : Call.exec (applyPromotionToCart env context input) db =
        (.ok cart, step db ⟨env, context, .applyPromotionToCart input⟩) :=
      Prod.ext (toOption_eq_some_iff.mp answered) rfl
    exact applyPromotionToCart_answers done
  | checkout cartId dto | elsewhere setup customers stock =>
    exact iff_of_true (fun _ answered => absurd answered (by simp [answer])) (others rfl)

end

/-- In a run from before the first cart, every cart answered is the cart stored just when no
request gives another phone number to a cart with a discount. -/
theorem answers_stored_iff {db : Db} (start : BeforeCarts db) (rs : List CartRequest) :
    Trace.Along step AnswersStored db rs ↔ Trace.Along step KeepsDiscount db rs :=
  Trace.along_congr step_totalsKept (fun _ r kept => answersStored_iff kept r) start.totalsKept rs

def namedVisit : List CartRequest :=
  [callAt 1 (.createCart { storeId := 2, channel := some .pos }),
   callAt 2 (.addItem 100 { productId := 10, quantity := 2, modifierOptionIds := [12] }),
   callAt 3 (.updateCart 100 { customerPhone := some (some "+37060000001") }),
   callAt 4 (.applyPromotionToCart { cartId := 100, code := "SPRING" }),
   callAt 5 (.updateCart 100 { customerName := some (some "Jonas") })]

theorem answers_stored_named : Trace.Along step AnswersStored diner namedVisit ∧
      (run diner namedVisit).carts.map (fun cart => (cart.discountTotal, cart.total)) =
        [(300, 820)] :=
  ⟨(answers_stored_iff diner_beforeCarts namedVisit).mpr (by decide +kernel), by decide +kernel⟩

def discountedVisit : List CartRequest :=
  [callAt 1 (.createCart { storeId := 2, channel := some .pos }),
   callAt 2 (.addItem 100 { productId := 10, quantity := 2, modifierOptionIds := [12] }),
   callAt 3 (.applyPromotionToCart { cartId := 100, code := "SPRING" })]

def leaveNumber : CartRequest :=
  callAt 4 (.updateCart 100 { customerPhone := some (some "+37060000001") })

/-- The answer to the number says 8.20, and the cart stored costs 11.20. -/
theorem renumbered_not_stored :
    ¬Trace.Along step AnswersStored diner (discountedVisit ++ [leaveNumber]) := by
  intro along
  obtain ⟨_, last, _⟩ := Trace.along_append.mp along
  have told : ((answer (run diner discountedVisit) leaveNumber).bind fun cart =>
      (carts.findUnique cart.id (step (run diner discountedVisit) leaveNumber)).map fun row =>
        (cart.total, row.total)) = some (820, 1120) := by
    decide +kernel
  obtain ⟨cart, answered, both⟩ := Option.bind_eq_some_iff.mp told
  rw [last cart answered] at both
  obtain ⟨answeredTotal, storedTotal⟩ := Prod.mk.inj (Option.some.inj both)
  rw [answeredTotal] at storedTotal
  cases storedTotal

end Exetron.Carts
