import Exetron.Customers.Service
import Exetron.Lib.Binary64
import Exetron.Orders.Money
import Exetron.Pricing.Money

/-!
# Promotions

`CustomersService.applyPromotionToCart`: the discount of a promotion, the checks it has to pass,
and the cart it is applied to.
-/

namespace Exetron.Customers

open Lib Pricing

/-- `Math.floor(orderTotal * (percentage / 100))`, where `percentage` is `value / 100`. -/
def percentageDiscount (orderTotal value : Money) : Money :=
  ⌊Binary64.mul orderTotal (Binary64.div (Binary64.div value 100) 100)⌋

def resolvePromotionDiscount (type : PromotionType) (value orderTotal : Money)
    (maxDiscountAmount : Option Money) : Money :=
  let orderTotal := max 0 orderTotal
  let rawValue := max 0 value
  let discount := if type = .percentage then percentageDiscount orderTotal rawValue else rawValue
  let capped := match maxDiscountAmount with
    | none => discount
    | some maxDiscount => min discount (max 0 maxDiscount)
  min orderTotal capped

theorem percentageDiscount_nonneg {orderTotal value : Money} (ht : 0 ≤ orderTotal)
    (hv : 0 ≤ value) : 0 ≤ percentageDiscount orderTotal value := by
  refine Int.floor_nonneg.mpr (Binary64.nonneg_mul (Int.cast_nonneg ht) ?_)
  exact Binary64.nonneg_div (Binary64.nonneg_div (Int.cast_nonneg hv) (by norm_num)) (by norm_num)

theorem resolvePromotionDiscount_nonneg (type : PromotionType) (value orderTotal : Money)
    (maxDiscountAmount : Option Money) :
    0 ≤ resolvePromotionDiscount type value orderTotal maxDiscountAmount := by
  have discount : 0 ≤ if type = .percentage then
      percentageDiscount (max 0 orderTotal) (max 0 value) else max 0 value := by
    split
    · exact percentageDiscount_nonneg (le_max_left _ _) (le_max_left _ _)
    · exact le_max_left _ _
  refine le_min (le_max_left _ _) ?_
  cases maxDiscountAmount with
  | none => exact discount
  | some maxDiscount => exact le_min discount (le_max_left _ _)

theorem resolvePromotionDiscount_le (type : PromotionType) (value orderTotal : Money)
    (maxDiscountAmount : Option Money) :
    resolvePromotionDiscount type value orderTotal maxDiscountAmount ≤ max 0 orderTotal :=
  min_le_left _ _

theorem percentageDiscount_mono {orderTotal orderTotal' value value' : Money}
    (ht : 0 ≤ orderTotal) (hv : 0 ≤ value) (total : orderTotal ≤ orderTotal')
    (le : value ≤ value') :
    percentageDiscount orderTotal value ≤ percentageDiscount orderTotal' value' := by
  have hundred : (0 : ℚ) ≤ 100 := by norm_num
  have percentage := Binary64.div_mono (Int.cast_nonneg hv) hundred (Int.cast_le.mpr le)
  have nonneg := Binary64.nonneg_div (x := (value : ℚ)) (Int.cast_nonneg hv) hundred
  have share := Binary64.div_mono nonneg hundred percentage
  exact Int.floor_mono (Binary64.mul_mono (Int.cast_nonneg ht)
    (Binary64.nonneg_div nonneg hundred) (Int.cast_le.mpr total) share)

theorem resolvePromotionDiscount_mono {type : PromotionType}
    {value value' orderTotal orderTotal' : Money} (maxDiscountAmount : Option Money)
    (total : orderTotal ≤ orderTotal') (le : value ≤ value') :
    resolvePromotionDiscount type value orderTotal maxDiscountAmount ≤
      resolvePromotionDiscount type value' orderTotal' maxDiscountAmount := by
  have total' := max_le_max_left 0 total
  have value'' := max_le_max_left 0 le
  have discount : (if type = .percentage then
        percentageDiscount (max 0 orderTotal) (max 0 value) else max 0 value) ≤
      if type = .percentage then
        percentageDiscount (max 0 orderTotal') (max 0 value') else max 0 value' := by
    split
    · exact percentageDiscount_mono (le_max_left _ _) (le_max_left _ _) total' value''
    · exact value''
  refine min_le_min total' ?_
  cases maxDiscountAmount with
  | none => exact discount
  | some maxDiscount => exact min_le_min_right _ discount

def discountBound (orderTotal : Money) : Option Money → Money
  | none => max 0 orderTotal
  | some maxDiscount => min (max 0 orderTotal) (max 0 maxDiscount)

theorem resolvePromotionDiscount_le_bound (type : PromotionType) (value orderTotal : Money)
    (maxDiscountAmount : Option Money) :
    resolvePromotionDiscount type value orderTotal maxDiscountAmount ≤
      discountBound orderTotal maxDiscountAmount := by
  cases maxDiscountAmount with
  | none => exact min_le_left _ _
  | some maxDiscount => exact min_le_min_left _ (min_le_right _ _)

theorem resolvePromotionDiscount_bounded_monotone (type : PromotionType)
    (maxDiscountAmount : Option Money) : (∀ value orderTotal,
      0 ≤ resolvePromotionDiscount type value orderTotal maxDiscountAmount ∧
        resolvePromotionDiscount type value orderTotal maxDiscountAmount ≤
          discountBound orderTotal maxDiscountAmount) ∧
      (∀ value, Monotone fun orderTotal =>
        resolvePromotionDiscount type value orderTotal maxDiscountAmount) ∧
      ∀ orderTotal, Monotone fun value =>
        resolvePromotionDiscount type value orderTotal maxDiscountAmount := by
  refine ⟨fun value orderTotal => ⟨?_, ?_⟩, fun value => ?_, fun orderTotal => ?_⟩
  · exact resolvePromotionDiscount_nonneg type value orderTotal maxDiscountAmount
  · exact resolvePromotionDiscount_le_bound type value orderTotal maxDiscountAmount
  · exact fun _ _ total => resolvePromotionDiscount_mono maxDiscountAmount total le_rfl
  · exact fun _ _ le => resolvePromotionDiscount_mono maxDiscountAmount le_rfl le

theorem resolvePromotionDiscount_negativeTotal : ¬∀ (type : PromotionType)
    (value orderTotal : Money),
    resolvePromotionDiscount type value orderTotal none ≤ orderTotal := by
  intro claim
  have bounded := claim .fixedAmount 0 (-100)
  revert bounded
  decide +kernel

structure ApplyPromotionInput where
  cartId : Id
  code : String
  customerName : Option String := none
  customerPhone : Option String := none

/-- The phone number by which the customer is known: the request's, or else the cart's. -/
def promotedPhone (input : ApplyPromotionInput) (cart : Cart) : Option String :=
  let filled (phone : Option String) : Option String :=
    phone.filter fun phone => Text.trim phone ≠ ""
  ((filled input.customerPhone).or (filled cart.customerPhone)).map normalizeCustomerPhone

def promotedName (input : ApplyPromotionInput) (cart : Cart) : Option String :=
  ((input.customerName.map Text.trim).filter fun name => name ≠ "").or
    (cart.customerName.filter fun name => name ≠ "")

def admitPromotion (context : RequestContext) (cartId : Id) (db : Db) :
    Except ApiException Cart := do
  let cart ← carts.findUniqueOrThrow cartId db
  authorize context cart.tenantId cart.storeId
  rejectIf (cart.status ≠ .open) (.badRequest "Only open carts can apply promotions.")
  rejectIf (cart.items = [])
    (.badRequest "Cart must contain items before applying a promotion.")
  pure cart

def isPromotionActive (now : Instant) (promotion : PromotionCampaign) : Bool :=
  promotion.status = .active ∧ (∀ activeFrom ∈ promotion.activeFrom, activeFrom ≤ now) ∧
    ∀ activeTo ∈ promotion.activeTo, now ≤ activeTo

def findPromotion (env : Env) (cart : Cart) (code : String) (db : Db) :
    Except ApiException PromotionCampaign := do
  let promotion ← required
    (db.customers.campaigns.find? fun promotion =>
      promotion.tenantId = cart.tenantId ∧ promotion.code = env.toUpperCase (Text.trim code) ∧
        promotion.status = .active ∧
        (promotion.storeId = some cart.storeId ∨ promotion.storeId = none))
    (.badRequest "Promotion code is invalid or inactive.")
  rejectIf (isPromotionActive env.now promotion = false)
    (.badRequest "Promotion code is invalid or inactive.")
  pure promotion

def currentGross (cart : Cart) : Money :=
  (Orders.calculateCartTotals cart.items cart.fulfillmentFee 0).total

def checkPromotion (cart : Cart) (profile : Option CustomerProfile)
    (promotion : PromotionCampaign) : Except ApiException Unit := do
  rejectIf (currentGross cart < promotion.minimumOrderTotal)
    (.badRequest "Cart does not satisfy the promotion minimum order total.")
  rejectIf (promotion.segmentKeys ≠ [] ∧ ∀ segment ∈ promotion.segmentKeys,
      segment ∉ (profile.map CustomerProfile.segments).getD [])
    (.badRequest "Promotion is not eligible for this customer segment.")
  rejectIf (∃ usageLimit ∈ promotion.usageLimit, usageLimit ≤ promotion.usedCount)
    (.badRequest "Promotion usage limit has already been reached.")

def checkRedemption (account : Option LoyaltyAccount) (promotion : PromotionCampaign) :
    Except ApiException Unit :=
  if promotion.type = .loyaltyRedeem then do
    let account ← required account
      (.badRequest "Loyalty redemption promotion is not available.")
    rejectIf (promotion.pointsCost.getD 0 ≤ 0)
      (.badRequest "Loyalty redemption promotion is not available.")
    rejectIf (account.pointsBalance < promotion.pointsCost.getD 0)
      (.badRequest "Customer does not have enough loyalty points.")
  else pure ()

def promotionSnapshot (promotion : PromotionCampaign) (discountTotal : Money) : Json := .obj
  [("promotionId", .str promotion.id),
   ("code", .str promotion.code),
   ("name", .str promotion.name),
   ("type", .str promotion.type.text),
   ("discountTotal", .str (formatCents discountTotal)),
   ("pointsCost", .ofOption (fun pointsCost => .num pointsCost) promotion.pointsCost)]

def withPromotion (promotion : PromotionCampaign) (cart : Cart) : Cart :=
  let discount := resolvePromotionDiscount promotion.type promotion.value (currentGross cart)
    promotion.maxDiscountAmount
  let totals := Orders.calculateCartTotals cart.items cart.fulfillmentFee discount
  { cart with
    discountTotal := totals.discountTotal
    total := totals.total
    promotionCode := some promotion.code
    promotionSnapshot := some (promotionSnapshot promotion totals.discountTotal) }

def withCustomer (profile : Option CustomerProfile) (customerName customerPhone : Option String)
    (cart : Cart) : Cart :=
  { cart with
    customerProfileId := (profile.map CustomerProfile.id).or cart.customerProfileId
    customerName
    customerPhone := customerPhone.or cart.customerPhone }

def resolveProfileTx (now : Instant) (cart : Cart) (customerName : Option String) :
    Option String → Transaction (Option CustomerProfile)
  | none => pure none
  | some customerPhone => do
    let profile ← resolveOrCreateCustomerProfileTx now cart.tenantId cart.storeId customerName
      customerPhone
    pure (some profile)

def resolveAccountTx : Option CustomerProfile → Transaction (Option LoyaltyAccount)
  | none => pure none
  | some profile => do
    let account ← ensureLoyaltyAccountTx profile
    pure (some account)

def applyPromotionToCartTx (env : Env) (context : RequestContext) (input : ApplyPromotionInput) :
    Transaction Unit := do
  let cart ← Tx.read (admitPromotion context input.cartId)
  let customerPhone := promotedPhone input cart
  let customerName := promotedName input cart
  let profile ← resolveProfileTx env.now cart customerName customerPhone
  let promotion ← Tx.read (findPromotion env cart input.code)
  Tx.lift (checkPromotion cart profile promotion)
  let account ← resolveAccountTx profile
  Tx.lift (checkRedemption account promotion)
  let _ ← carts.update cart.id fun row =>
    withCustomer profile customerName customerPhone (withPromotion promotion row)
  pure ()

def applyPromotionToCart (env : Env) (context : RequestContext) (input : ApplyPromotionInput) :
    ServiceCall Cart := do
  Call.transact (applyPromotionToCartTx env context input)
  Orders.getCart context input.cartId

end Exetron.Customers
