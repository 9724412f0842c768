import Exetron.Carts.Steps
import Exetron.System

/-!
# Cart money

The totals of a cart stay in step with its lines, its fee and its promotion, and an order has the
amounts of the cart it was made of. What a cart's lines and fee come to must not be negative: the
totals are not worked out for that.
-/

namespace Exetron.Carts

open Lib Orders Pricing Fulfillment Customers List

variable {context : RequestContext} {input : CartItemSelectionInput} {selection : CartItemSelection}

/-- The unit price of a line, for the units in it. -/
def baseTotal (line : LineItem) : Money := line.unitBasePrice.getD 0 * line.quantity

def optionsTotal (line : LineItem) : Money :=
  (line.modifiers.map LineModifier.priceDelta).sum * line.quantity

def baseSum (items : List CartItem) : Money := (items.map fun item => baseTotal item.toLineItem).sum

def optionsSum (items : List CartItem) : Money :=
  (items.map fun item => optionsTotal item.toLineItem).sum

def snapshotDiscount (snapshot : Json) : Option Money :=
  match parseMoneyToCents ((snapshot.get? "discountTotal").bind Json.asString?) with
  | .ok discount => discount
  | .error _ => none

structure MoneyConsistent (cart : Cart) : Prop where
  subtotal : cart.subtotal = baseSum cart.items
  modifierTotal : cart.modifierTotal = optionsSum cart.items
  lines : (cart.items.map fun item => item.lineTotal).sum = cart.subtotal + cart.modifierTotal
  total : cart.total =
    cart.subtotal + cart.modifierTotal + cart.fulfillmentFee - cart.discountTotal
  nonneg : 0 ≤ cart.total
  undiscounted : cart.promotionSnapshot = none → cart.discountTotal = 0
  discounted : ∀ snapshot ∈ cart.promotionSnapshot,
    snapshotDiscount snapshot = some cart.discountTotal

/-- The order has the amounts of the cart, and its lines are the cart's but for their keys. -/
structure AmountsCopied (order : Order) (cart : Cart) : Prop where
  subtotal : order.subtotal = cart.subtotal
  modifierTotal : order.modifierTotal = cart.modifierTotal
  fulfillmentFee : order.fulfillmentFee = cart.fulfillmentFee
  discountTotal : order.discountTotal = cart.discountTotal
  total : order.total = cart.total
  items : List.Forall₂ (fun line item => line = { item.toLineItem with id := line.id })
    order.items cart.items

structure MoneyHolds (db : Db) : Prop where
  carts : ∀ cart ∈ db.carts, MoneyConsistent cart
  orders : ∀ order ∈ db.orders, ∃ cart ∈ db.carts,
    order.cartId = some cart.id ∧ AmountsCopied order cart

def amountDue (items : List CartItem) (fulfillmentFee : Money) : Money :=
  baseSum items + optionsSum items + fulfillmentFee

/-- The cart with the lines and the fee that a request asks for, when it changes them. -/
def requested (db : Db) (r : CartRequest) : Option Cart :=
  match r.call with
  | .addItem cartId dto =>
    (admitNewItem r.context cartId dto db).toOption.map fun (cart, selection) =>
      withItem (selection.line db.nextId dto.quantity) cart
  | .updateItem cartId itemId dto =>
    (admitItemChange r.context cartId itemId dto db).toOption.map
      fun (cart, currentItem, selection) => withItemChanged currentItem.id
        (selection.rewrite (dto.quantity.getD currentItem.quantity)) cart
  | .deleteItem cartId itemId =>
    (admitItemRemoval r.context cartId itemId db).toOption.map fun (cart, _) =>
      withoutItem itemId cart
  | .applyCartFulfillment cartId selectionInput =>
    (admitCartFulfillment r.env.now r.context cartId selectionInput db).toOption.map
      fun (cart, quote) => { cart with fulfillmentFee := quote.fee.cents }
  | _ => none

def DueNonneg (db : Db) (r : CartRequest) : Prop :=
  ∀ cart ∈ requested db r, 0 ≤ amountDue cart.items cart.fulfillmentFee

instance (db : Db) (r : CartRequest) : Decidable (DueNonneg db r) :=
  inferInstanceAs (Decidable (∀ cart ∈ requested db r, _))

structure LineSound (line : LineItem) : Prop where
  modifierTotal : line.modifierTotal = optionsTotal line
  lineTotal : line.lineTotal = baseTotal line + optionsTotal line

theorem selection_modifiers {db : Db}
    (h : resolveCartItemSelection context input db = .ok selection) :
    selection.lineModifiers.map LineModifier.priceDelta =
      selection.price.modifierBreakdown.map PriceModifier.priceDelta := by
  simp only [resolveCartItemSelection, except_bind_ok_iff, except_pure_ok_iff] at h
  obtain ⟨product, _, _, _, variant, _, options, found, _, _, price, priced, rfl⟩ := h
  obtain ⟨options', optionPrice, found', breakdown⟩ := resolveSelectionTx_breakdown priced
  obtain rfl : options = options' := Except.ok.inj (found.symm.trans found')
  have unique : (options.map ModifierOption.id).Nodup := by
    simp only [findModifierOptions, except_bind_ok_iff, except_pure_ok_iff] at found
    obtain ⟨_, _, rfl⟩ := found
    exact (filter_sublist.map _).nodup db.setup.modifierOptions.2
  have ids : (price.modifierBreakdown.map PriceModifier.optionId).Nodup := by
    rw [breakdown, map_map]
    exact unique
  have charged : ∀ option ∈ options,
      (modifierSnapshot product price option).priceDelta = optionPrice option := by
    intro option listed
    have member : (⟨option.id, optionPrice option⟩ : PriceModifier) ∈ price.modifierBreakdown := by
      rw [breakdown]
      exact mem_map_of_mem listed
    have found := Rows.find_of_mem ids member
    show ((Rows.find PriceModifier.optionId price.modifierBreakdown option.id).map _).getD 0 = _
    rw [found]
    rfl
  show ((options.map (modifierSnapshot product price)).map _).map _ = _
  rw [breakdown, map_map, map_map, map_map]
  exact map_congr_left charged

theorem line_sound {db : Db} (h : resolveCartItemSelection context input db = .ok selection)
    (id : Id) (quantity : Int) : LineSound (selection.line id quantity).toLineItem := by
  have deltas := selection_modifiers h
  constructor
  · show (selection.price.modifierBreakdown.map _).sum * quantity =
      (selection.lineModifiers.map _).sum * quantity
    rw [deltas]
  · show selection.price.basePrice.getD 0 * quantity +
        (selection.price.modifierBreakdown.map _).sum * quantity =
      selection.price.basePrice.getD 0 * quantity + (selection.lineModifiers.map _).sum * quantity
    rw [deltas]

section
variable {items : List CartItem} {fulfillmentFee discount : Money}

theorem lineTotals_eq (sound : ∀ item ∈ items, LineSound item.toLineItem) :
    (items.map fun item => item.lineTotal).sum = baseSum items + optionsSum items := by
  rw [map_congr_left fun item listed => (sound item listed).lineTotal]
  exact sum_map_add

theorem calculateCartTotals_eq (sound : ∀ item ∈ items, LineSound item.toLineItem)
    (nonneg : 0 ≤ discount) (within : discount ≤ amountDue items fulfillmentFee) :
    calculateCartTotals items fulfillmentFee discount =
      ⟨baseSum items, optionsSum items, discount, amountDue items fulfillmentFee - discount⟩ := by
  have options : (items.map fun item => item.modifierTotal).sum = optionsSum items :=
    congrArg sum (map_congr_left fun item listed => (sound item listed).modifierTotal)
  show CalculatedCartTotals.mk (baseSum items) _
    (min (baseSum items + _ + fulfillmentFee) (max 0 discount))
    (max 0 (baseSum items + _ + fulfillmentFee - max 0 discount)) = _
  rw [options, max_eq_right nonneg, ← amountDue, min_eq_right within,
    max_eq_right (sub_nonneg.mpr within)]

end

/-- What every call keeps of a cart. -/
structure Sound (cart : Cart) : Prop where
  lines : ∀ item ∈ cart.items, LineSound item.toLineItem
  subtotal : cart.subtotal = baseSum cart.items
  modifierTotal : cart.modifierTotal = optionsSum cart.items
  total : cart.total = amountDue cart.items cart.fulfillmentFee - cart.discountTotal
  nonneg : 0 ≤ cart.discountTotal
  within : cart.discountTotal ≤ amountDue cart.items cart.fulfillmentFee
  undiscounted : cart.promotionSnapshot = none → cart.discountTotal = 0
  discounted : ∀ snapshot ∈ cart.promotionSnapshot,
    snapshotDiscount snapshot = some cart.discountTotal

section
variable {cart : Cart}

theorem Sound.consistent (sound : Sound cart) : MoneyConsistent cart where
  subtotal := sound.subtotal
  modifierTotal := sound.modifierTotal
  lines := by rw [lineTotals_eq sound.lines, sound.subtotal, sound.modifierTotal]
  total := by rw [sound.total, sound.subtotal, sound.modifierTotal, amountDue]
  nonneg := by
    rw [sound.total]
    exact sub_nonneg.mpr sound.within
  undiscounted := sound.undiscounted
  discounted := sound.discounted

theorem newCart_sound (context : RequestContext) (dto : CreateCartDto) (tenantId storeId id : Id) :
    Sound (newCart context dto tenantId storeId id) where
  lines := fun _ listed => absurd listed not_mem_nil
  subtotal := rfl
  modifierTotal := rfl
  total := rfl
  nonneg := le_refl _
  within := le_refl _
  undiscounted := fun _ => rfl
  discounted := by
    rintro snapshot ⟨⟩

theorem withTotals_sound (lines : ∀ item ∈ cart.items, LineSound item.toLineItem)
    (due : 0 ≤ amountDue cart.items cart.fulfillmentFee) (undiscounted : cart.discountTotal = 0)
    (unpromoted : cart.promotionSnapshot = none) : Sound (withTotals cart) := by
  have totals := calculateCartTotals_eq lines (le_refl 0) due
  rw [← undiscounted] at totals
  have discountTotal : (withTotals cart).discountTotal = 0 := by
    show (calculateCartTotals _ _ _).discountTotal = 0
    rw [totals, undiscounted]
  refine
    { lines
      subtotal := congrArg CalculatedCartTotals.subtotal totals
      modifierTotal := congrArg CalculatedCartTotals.modifierTotal totals
      total := ?_
      nonneg := le_of_eq discountTotal.symm
      within := discountTotal ▸ due
      undiscounted := fun _ => discountTotal
      discounted := ?_ }
  · rw [discountTotal, ← undiscounted]
    exact congrArg CalculatedCartTotals.total totals
  · intro snapshot promoted
    rw [show (withTotals cart).promotionSnapshot = none from unpromoted] at promoted
    cases promoted

theorem settled_sound (lines : ∀ item ∈ cart.items, LineSound item.toLineItem)
    (due : 0 ≤ amountDue cart.items cart.fulfillmentFee) : Sound (settled cart) :=
  withTotals_sound lines due rfl rfl

theorem Sound.due_nonneg (sound : Sound cart) : 0 ≤ amountDue cart.items cart.fulfillmentFee :=
  le_trans sound.nonneg sound.within

theorem detailed_sound (dto : UpdateCartDto) (sound : Sound cart) : Sound (detailed dto cart) := by
  unfold detailed
  split
  · exact withTotals_sound sound.lines sound.due_nonneg rfl rfl
  · exact
      { lines := sound.lines
        subtotal := sound.subtotal
        modifierTotal := sound.modifierTotal
        total := sound.total
        nonneg := sound.nonneg
        within := sound.within
        undiscounted := sound.undiscounted
        discounted := sound.discounted }

theorem withFulfillment_sound {quote : FulfillmentQuote}
    (lines : ∀ item ∈ cart.items, LineSound item.toLineItem)
    (due : 0 ≤ amountDue cart.items quote.fee.cents) : Sound (withFulfillment quote cart) := by
  have totals := calculateCartTotals_eq lines (le_refl 0) due
  refine
    { lines
      subtotal := congrArg CalculatedCartTotals.subtotal totals
      modifierTotal := congrArg CalculatedCartTotals.modifierTotal totals
      total := congrArg CalculatedCartTotals.total totals
      nonneg := le_refl _
      within := due
      undiscounted := fun _ => rfl
      discounted := ?_ }
  rintro snapshot ⟨⟩

theorem snapshotDiscount_promotionSnapshot (promotion : PromotionCampaign) (discount : Money) :
    snapshotDiscount (promotionSnapshot promotion discount) = some discount := by
  have recorded : ((promotionSnapshot promotion discount).get? "discountTotal").bind
      Json.asString? = some (formatCents discount) := by
    simp [promotionSnapshot, Json.get?, Json.asString?]
  rw [snapshotDiscount, recorded, parseMoneyToCents_formatCents]

theorem withPromotion_sound (promotion : PromotionCampaign) (profile : Option CustomerProfile)
    (customerName customerPhone : Option String) (sound : Sound cart) :
    Sound (withCustomer profile customerName customerPhone (withPromotion promotion cart)) := by
  have gross : currentGross cart = amountDue cart.items cart.fulfillmentFee := by
    rw [currentGross, calculateCartTotals_eq sound.lines (le_refl 0) sound.due_nonneg]
    exact sub_zero _
  have nonneg := resolvePromotionDiscount_nonneg promotion.type promotion.value (currentGross cart)
    promotion.maxDiscountAmount
  have within := resolvePromotionDiscount_le promotion.type promotion.value (currentGross cart)
    promotion.maxDiscountAmount
  rw [max_eq_right (gross ▸ sound.due_nonneg), gross] at within
  rw [gross] at nonneg
  have totals := calculateCartTotals_eq sound.lines nonneg within
  rw [← gross] at totals
  exact
    { lines := sound.lines
      subtotal := sound.subtotal
      modifierTotal := sound.modifierTotal
      total := by
        show (calculateCartTotals _ _ _).total = _ - (calculateCartTotals _ _ _).discountTotal
        rw [totals, gross]
        rfl
      nonneg := by
        show 0 ≤ (calculateCartTotals _ _ _).discountTotal
        rw [totals]
        exact gross ▸ nonneg
      within := by
        show (calculateCartTotals _ _ _).discountTotal ≤ _
        rw [totals]
        exact gross ▸ within
      undiscounted := by
        rintro ⟨⟩
      discounted := by
        intro snapshot promoted
        obtain rfl := Option.some.inj promoted
        exact snapshotDiscount_promotionSnapshot promotion _ }

end

section
variable {db : Db} {r : CartRequest} {cart cart' : Cart}

theorem withItem_lines {item : CartItem} (sound : Sound cart) (new : LineSound item.toLineItem) :
    ∀ line ∈ (withItem item cart).items, LineSound line.toLineItem := by
  intro line listed
  rcases mem_append.mp listed with before | added
  · exact sound.lines line before
  · rw [mem_singleton.mp added]
    exact new

theorem withItemChanged_lines {itemId : Id} {change : CartItem → CartItem} (sound : Sound cart)
    (new : ∀ item : CartItem, LineSound (change item).toLineItem) :
    ∀ line ∈ (withItemChanged itemId change cart).items, LineSound line.toLineItem := by
  intro line listed
  obtain ⟨item, before, rfl⟩ := Rows.mem_modify.mp listed
  split
  · exact new item
  · exact sound.lines item before

theorem rewrite_sound (h : resolveCartItemSelection context input db = .ok selection)
    (quantity : Int) (item : CartItem) : LineSound (selection.rewrite quantity item).toLineItem :=
  have line := line_sound h item.id quantity
  ⟨line.modifierTotal, line.lineTotal⟩

theorem turns_sound (turns : Turns db r cart cart') (sound : Sound cart) (due : DueNonneg db r) :
    Sound cart' := by
  cases turns with
  | detailed => exact detailed_sound _ sound
  | added admitted =>
    obtain ⟨_, _, resolved⟩ := admitNewItem_ok admitted
    refine settled_sound (withItem_lines sound (line_sound resolved _ _)) (due _ ?_)
    exact toOption_map_eq_some.mpr ⟨_, admitted, rfl⟩
  | changed admitted =>
    obtain ⟨_, _, resolved⟩ := admitItemChange_ok admitted
    refine settled_sound (withItemChanged_lines sound (rewrite_sound resolved _)) (due _ ?_)
    exact toOption_map_eq_some.mpr ⟨_, admitted, rfl⟩
  | removed admitted =>
    refine settled_sound (fun line listed => sound.lines line (mem_filter.mp listed).1) (due _ ?_)
    exact toOption_map_eq_some.mpr ⟨_, admitted, rfl⟩
  | @fulfilled _ _ _ _ _ quote admitted =>
    refine withFulfillment_sound sound.lines (due { cart with fulfillmentFee := quote.fee.cents } ?_)
    exact toOption_map_eq_some.mpr ⟨_, admitted, rfl⟩
  | promoted _ promotion profile name phone =>
    exact withPromotion_sound promotion profile name phone sound

def Leaves (db : Db) (cart : Cart) : Prop :=
  ∃ row ∈ db.carts, row.items = cart.items ∧ row.fulfillmentFee = cart.fulfillmentFee ∧
    row.promotionSnapshot = none

theorem leaves_replaced {row : Cart} {db' : Db} (stored : cart ∈ db.carts)
    (after : db'.carts = Rows.modify Cart.id cart.id (fun _ => row) db.carts)
    (items : row.items = cart'.items) (fee : row.fulfillmentFee = cart'.fulfillmentFee)
    (unpromoted : row.promotionSnapshot = none) : Leaves db' cart' := by
  refine ⟨row, ?_, items, fee, unpromoted⟩
  rw [after]
  exact Rows.mem_modify.mpr ⟨cart, stored, if_pos rfl⟩

/-- What a request asks for is what it leaves. -/
theorem requested_left (keys : CartKeys db) (asked : requested db r = some cart') :
    Leaves (step db r) cart' := by
  obtain ⟨env, context, call⟩ := r
  have unique := keys.unique
  cases call with
  | addItem cartId dto =>
    obtain ⟨⟨cart, selection⟩, admitted, rfl⟩ := toOption_map_eq_some.mp asked
    obtain ⟨result, db', h⟩ := addItemTx_succeeds admitted
    obtain ⟨_, _, _, same, after⟩ := addItemTx_ok unique h
    obtain ⟨rfl, rfl⟩ := Prod.mk.inj (Except.ok.inj (admitted.symm.trans same))
    have ended : step db ⟨env, context, .addItem cartId dto⟩ = db' :=
      congrArg Prod.snd (Call.transact_ok h)
    rw [ended, after]
    exact leaves_replaced (openCart_ok (admitNewItem_ok admitted).1).1 rfl rfl rfl rfl
  | updateItem cartId itemId dto =>
    obtain ⟨⟨cart, currentItem, selection⟩, admitted, rfl⟩ := toOption_map_eq_some.mp asked
    obtain ⟨result, db', h⟩ := updateItemTx_succeeds admitted
    obtain ⟨_, _, _, _, same, after⟩ := updateItemTx_ok unique h
    obtain ⟨rfl, both⟩ := Prod.mk.inj (Except.ok.inj (admitted.symm.trans same))
    obtain ⟨rfl, rfl⟩ := Prod.mk.inj both
    have ended : step db ⟨env, context, .updateItem cartId itemId dto⟩ = db' :=
      congrArg Prod.snd (Call.transact_ok h)
    rw [ended, after]
    exact leaves_replaced (openCart_ok (admitItemChange_ok admitted).1).1 rfl rfl rfl rfl
  | deleteItem cartId itemId =>
    obtain ⟨⟨cart, currentItem⟩, admitted, rfl⟩ := toOption_map_eq_some.mp asked
    obtain ⟨result, db', h⟩ := deleteItemTx_succeeds admitted
    obtain ⟨_, _, _, same, after⟩ := deleteItemTx_ok unique h
    obtain ⟨rfl, rfl⟩ := Prod.mk.inj (Except.ok.inj (admitted.symm.trans same))
    have ended : step db ⟨env, context, .deleteItem cartId itemId⟩ = db' :=
      congrArg Prod.snd (Call.transact_ok h)
    rw [ended, after]
    exact leaves_replaced (openCart_ok (admitItemRemoval_ok admitted)).1 rfl rfl rfl rfl
  | applyCartFulfillment cartId selectionInput =>
    obtain ⟨⟨cart, quote⟩, admitted, rfl⟩ := toOption_map_eq_some.mp asked
    obtain ⟨result, db', h⟩ := applyCartFulfillmentTx_succeeds admitted
    obtain ⟨_, _, _, same, after⟩ := applyCartFulfillmentTx_ok unique h
    obtain ⟨rfl, rfl⟩ := Prod.mk.inj (Except.ok.inj (admitted.symm.trans same))
    have ended : step db ⟨env, context, .applyCartFulfillment cartId selectionInput⟩ = db' :=
      congrArg Prod.snd (Call.transact_ok h)
    rw [ended, after]
    exact leaves_replaced (admitCartFulfillment_ok admitted).1 rfl rfl rfl rfl
  | _ => cases asked

theorem dueNonneg_of_holds (keys : CartKeys db) (holds : MoneyHolds (step db r)) :
    DueNonneg db r := by
  intro cart asked
  obtain ⟨row, stored, items, fee, unpromoted⟩ := requested_left keys asked
  have consistent := holds.carts row stored
  have total := consistent.total
  rw [consistent.undiscounted unpromoted, consistent.subtotal, consistent.modifierTotal,
    sub_zero, items, fee] at total
  rw [amountDue, ← total]
  exact consistent.nonneg

end

def MadeOf (db : Db) (order : Order) : Prop :=
  ∃ cart ∈ db.carts, order.cartId = some cart.id ∧ cart.status = .converted ∧
    AmountsCopied order cart

/-- What every step of a run keeps. -/
structure MoneyKept (db : Db) : Prop where
  keys : CartKeys db
  carts : ∀ cart ∈ db.carts, Sound cart
  orders : ∀ order ∈ db.orders, MadeOf db order

theorem MoneyKept.holds {db : Db} (kept : MoneyKept db) : MoneyHolds db where
  carts := fun cart stored => (kept.carts cart stored).consistent
  orders := fun order stored =>
    have ⟨cart, listed, linked, _, copied⟩ := kept.orders order stored
    ⟨cart, listed, linked, copied⟩

theorem lines_copied (itemIds : List Id) (items : List CartItem)
    (listed : itemIds.length = items.length) :
    List.Forall₂ (fun (line : LineItem) (item : CartItem) =>
        line = { item.toLineItem with id := line.id })
      (List.zipWith (fun id item => { item.toLineItem with id := id }) itemIds items) items := by
  induction itemIds generalizing items with
  | nil =>
    cases eq_nil_of_length_eq_zero listed.symm
    exact .nil
  | cons id itemIds ih =>
    cases items with
    | nil => cases listed
    | cons item items => exact .cons rfl (ih items (Nat.succ.inj listed))

theorem orderOfCart_copies (env : Env) (orderId : Id) {itemIds : List Id} {cart : Cart}
    (dto : CheckoutCartDto) (listed : itemIds.length = cart.items.length) :
    AmountsCopied (orderOfCart env orderId itemIds cart dto) cart where
  subtotal := rfl
  modifierTotal := rfl
  fulfillmentFee := rfl
  discountTotal := rfl
  total := rfl
  items := lines_copied itemIds cart.items listed

theorem madeOf_replaced {db db' : Db} {cart cart' : Cart} {order : Order}
    (unique : (db.carts.map Cart.id).Nodup) (stored : cart ∈ db.carts) (isOpen : cart.status = .open)
    (after : db'.carts = Rows.modify Cart.id cart.id (fun _ => cart') db.carts)
    (made : MadeOf db order) : MadeOf db' order := by
  obtain ⟨own, listed, linked, closed, copied⟩ := made
  have other : own.id ≠ cart.id := by
    intro same
    rw [Rows.eq_of_key unique listed stored same, isOpen] at closed
    cases closed
  refine ⟨own, ?_, linked, closed, copied⟩
  rw [after]
  exact Rows.mem_modify.mpr ⟨own, listed, if_neg other⟩

theorem step_kept (db : Db) (r : CartRequest) (kept : MoneyKept db) (due : DueNonneg db r) :
    MoneyKept (step db r) := by
  have unique := kept.keys.unique
  refine ⟨step_keys kept.keys r, ?_, ?_⟩
  · intro cart stored
    cases step_moved kept.keys r with
    | kept carts => exact kept.carts cart (carts ▸ stored)
    | opened dto tenantId storeId carts =>
      rw [carts] at stored
      rcases mem_append.mp stored with before | new
      · exact kept.carts cart before
      · rw [mem_singleton.mp new]
        exact newCart_sound ..
    | turned own own' turns carts =>
      rw [carts] at stored
      obtain ⟨row, before, rfl⟩ := Rows.mem_modify.mp stored
      split
      · exact turns_sound turns (kept.carts own (turns_open turns).1) due
      · exact kept.carts row before
    | ordered own dto order itemIds listed _ _ _ carts =>
      rw [carts] at stored
      obtain ⟨row, before, rfl⟩ := Rows.mem_modify.mp stored
      have sound := kept.carts own listed
      split
      · exact
          { lines := sound.lines
            subtotal := sound.subtotal
            modifierTotal := sound.modifierTotal
            total := sound.total
            nonneg := sound.nonneg
            within := sound.within
            undiscounted := sound.undiscounted
            discounted := sound.discounted }
      · exact kept.carts row before
  · intro order stored
    cases step_moved kept.keys r with
    | kept carts orders =>
      have made := kept.orders order (orders ▸ stored)
      unfold MadeOf at made ⊢
      rwa [carts]
    | opened dto tenantId storeId carts orders =>
      obtain ⟨own, listed, made⟩ := kept.orders order (orders ▸ stored)
      exact ⟨own, by rw [carts]; exact mem_append_left _ listed, made⟩
    | turned own own' turns carts orders =>
      obtain ⟨listed, isOpen⟩ := turns_open turns
      exact madeOf_replaced unique listed isOpen carts (kept.orders order (orders ▸ stored))
    | ordered own dto new itemIds listed isOpen made length carts orders =>
      rw [orders] at stored
      rcases mem_append.mp stored with before | added
      · exact madeOf_replaced unique listed isOpen carts (kept.orders order before)
      · rw [mem_singleton.mp added]
        have copied := orderOfCart_copies r.env db.nextId dto length
        rw [← made] at copied
        refine ⟨converted new own, ?_, ?_, rfl, ?_⟩
        · rw [carts]
          exact Rows.mem_modify.mpr ⟨own, listed, if_pos rfl⟩
        · rw [made]
          rfl
        · exact ⟨copied.subtotal, copied.modifierTotal, copied.fulfillmentFee,
            copied.discountTotal, copied.total, copied.items⟩

/-- A database before the first cart. -/
structure BeforeCarts (db : Db) : Prop where
  carts : db.carts = []
  orders : db.orders = []

theorem BeforeCarts.kept {db : Db} (start : BeforeCarts db) : MoneyKept db := by
  refine ⟨⟨?_, ?_⟩, ?_, ?_⟩ <;> simp [start.carts, start.orders]

/-- The money of the carts and the orders is consistent all along a run just when no request of
the run asks for lines and a fee that come to a negative amount. -/
theorem cart_money_consistent {db : Db} (start : BeforeCarts db) (rs : List CartRequest) :
    (∀ before, before <+: rs → MoneyHolds (run db before)) ↔ Trace.Along step DueNonneg db rs :=
  Trace.always_iff_along (fun _ kept => kept.holds) step_kept
    (fun _ _ kept holds => dueNonneg_of_holds kept.keys holds) start.kept rs

def diner : Db :=
  { shop with
    carts := []
    setup :=
      { shop.setup with
        stores := [{ id := 2, tenantId := 1, status := .active }]
        products :=
          [{ id := 10, tenantId := 1, code := "espresso", name := "Espresso", description := none,
             categoryCode := none, basePrice := some 500,
             modifierGroupLinks := [{ id := 11, code := "milk", name := "Milk" }] }]
        modifierOptions :=
          ⟨[{ id := 12, groupId := 11, code := "oat", name := "Oat milk", priceDelta := 60 },
            { id := 13, groupId := 11, code := "staff", name := "Staff drink", priceDelta := -800 }],
            by decide⟩
        storeSettings :=
          [⟨2, "fulfillment.config", .obj [("deliveryZones",
            .arr [.obj [("code", .str "centre"), ("fee", .str "2.50")]])]⟩] }
    customers := ⟨[], [], [],
      [{ id := "spring", tenantId := 1, storeId := none, code := "SPRING", name := "Spring",
         status := .active, type := .fixedAmount, value := 300, minimumOrderTotal := 1000,
         maxDiscountAmount := none, pointsCost := none, segmentKeys := [], usageLimit := some 5,
         usedCount := 0, activeFrom := none, activeTo := none }]⟩ }

theorem diner_beforeCarts : BeforeCarts diner := ⟨rfl, rfl⟩

def callAt (now : Instant) (call : CartCall) : CartRequest where
  env := Env.shipped now "r" "A-1" fun _ => .ok []
  context := ⟨"cashier", some 1, .tenantMember, [2], none⟩
  call := call

def deliveredVisit : List CartRequest :=
  [callAt 1 (.createCart { storeId := 2, channel := some .pos }),
   callAt 2 (.addItem 100 { productId := 10, quantity := 2, modifierOptionIds := [12] }),
   callAt 3 (.applyCartFulfillment 100 (.obj [("mode", .str "DELIVERY"), ("zoneCode", .str "centre")])),
   callAt 4 (.applyPromotionToCart { cartId := 100, code := " spring " }),
   callAt 5 (.updateItem 100 101 { quantity := some 3 }),
   callAt 6 (.applyPromotionToCart { cartId := 100, code := "SPRING" }),
   callAt 7 (.checkout 100 {})]

theorem cart_money_consistent_delivered :
    (∀ before, before <+: deliveredVisit → MoneyHolds (run diner before)) ∧
      (run diner deliveredVisit).orders.map (fun order => (order.discountTotal, order.total)) =
        [(300, 1630)] :=
  ⟨(cart_money_consistent diner_beforeCarts deliveredVisit).mpr (by decide +kernel),
    by decide +kernel⟩

def staffDrink : List CartRequest :=
  [callAt 1 (.createCart { storeId := 2, channel := some .pos }),
   callAt 2 (.addItem 100 { productId := 10, quantity := 1, modifierOptionIds := [13] })]

/-- The cart has a negative discount, and no promotion that would give one. -/
theorem staff_drink_inconsistent :
    ¬∀ before, before <+: staffDrink → MoneyHolds (run diner before) := by
  intro always
  have holds := always staffDrink (List.prefix_refl _)
  have left : (run diner staffDrink).carts.any (fun cart =>
      cart.promotionSnapshot.isNone ∧ cart.discountTotal = -300) = true := by decide +kernel
  obtain ⟨cart, stored, found⟩ := List.any_eq_true.mp left
  obtain ⟨unpromoted, discount⟩ := of_decide_eq_true found
  have none := (holds.carts cart stored).undiscounted (Option.isNone_iff_eq_none.mp unpromoted)
  rw [none] at discount
  cases discount

end Exetron.Carts
