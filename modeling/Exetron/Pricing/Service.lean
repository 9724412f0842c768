import Exetron.Access
import Exetron.Database
import Exetron.Pricing.Money

/-!
# Pricing service

`PricingService.resolveSelectionTx`: the price of a product, a variant and options in a store,
under a price list.
-/

namespace Exetron.Pricing

open Lib

structure PricePreviewRequest where
  tenantId : Option Id
  (storeId productId : Id)
  (variantId priceListId : Option Id)
  modifierOptionIds : List Id

structure PricePreviewResponse extends PriceResolutionResult where
  (tenantId storeId productId : Id)
  (variantId priceListId : Option Id)

def findProduct (productId : Id) (setup : Setup) : Except ApiException Product :=
  required (setup.products.find? fun product => product.id = productId) (.recordNotFound "Product")

def findVariant (product : Product) (variantId : Option Id) (setup : Setup) :
    Except ApiException (Option ProductVariant) :=
  match variantId with
  | none => .ok none
  | some variantId => do
    let variant ← required (Rows.find ProductVariant.id setup.productVariants.1 variantId)
      (.recordNotFound "ProductVariant")
    rejectIf (variant.productId ≠ product.id)
      (.badRequest "Variant does not belong to the requested product.")
    pure (some variant)

/-- An option asked for twice is found once, and refused. -/
def findModifierOptions (modifierOptionIds : List Id) (setup : Setup) :
    Except ApiException (List ModifierOption) := do
  let options := setup.modifierOptions.1.filter fun option => option.id ∈ modifierOptionIds
  rejectIf (options.length ≠ modifierOptionIds.length)
    (.badRequest "One or more modifier options were not found.")
  pure options

def findPriceList (store : Store) (priceListId : Option Id) (setup : Setup) :
    Except ApiException (Option PriceList) :=
  match priceListId with
  | none => .ok none
  | some priceListId => do
    let priceList ← required (Rows.find PriceList.id setup.priceLists.1 priceListId)
      (.recordNotFound "PriceList")
    rejectIf (priceList.tenantId ≠ store.tenantId) (.badRequest "Price list tenant mismatch.")
    pure (some priceList)

/-- `overrideMap.get(targetKey(targetType, targetId))?.priceOverride` -/
def overridePrice (setup : Setup) (storeId : Id) (targetType : CatalogTargetType) (targetId : Id) :
    Option Money :=
  (Rows.find StoreCatalogOverride.target setup.storeCatalogOverrides.1
    (storeId, targetType, targetId)).bind StoreCatalogOverride.priceOverride

/-- `priceItemMap.get(targetKey(targetType, targetId))?.price` -/
def listPrice (priceList : Option PriceList) (targetType : CatalogTargetType) (targetId : Id) :
    Option Money :=
  priceList.bind fun priceList =>
    (Rows.find PriceListItem.target priceList.items.1 (targetType, targetId)).map
      PriceListItem.price

def optionPrice (setup : Setup) (storeId : Id) (priceList : Option PriceList)
    (option : ModifierOption) : Money :=
  ((overridePrice setup storeId .modifierOption option.id).or
    (listPrice priceList .modifierOption option.id)).getD option.priceDelta

def resolveSelectionTx (context : RequestContext) (dto : PricePreviewRequest) (db : Db) :
    Except ApiException PricePreviewResponse := do
  let store ← required (db.setup.stores.find? fun store => store.id = dto.storeId)
    (.recordNotFound "Store")
  let _ ← resolveTenantId context (some (dto.tenantId.getD store.tenantId))
  enforceStoreAccess context store.id
  let product ← findProduct dto.productId db.setup
  rejectIf (product.tenantId ≠ store.tenantId) (.badRequest "Product tenant mismatch.")
  let variant ← findVariant product dto.variantId db.setup
  let modifierOptions ← findModifierOptions dto.modifierOptionIds db.setup
  let priceList ← findPriceList store dto.priceListId db.setup
  let modifierBreakdown := modifierOptions.map fun option =>
    { optionId := option.id, priceDelta := optionPrice db.setup store.id priceList option }
  let (priceTargetType, priceTargetId) := match variant with
    | some variant => (CatalogTargetType.variant, variant.id)
    | none => (CatalogTargetType.product, product.id)
  let resolved := resolvePrice (overridePrice db.setup store.id priceTargetType priceTargetId)
    (listPrice priceList priceTargetType priceTargetId) (variant.bind ProductVariant.basePrice)
    product.basePrice modifierBreakdown
  pure
    { resolved with
      tenantId := store.tenantId
      storeId := store.id
      productId := product.id
      variantId := variant.map ProductVariant.id
      priceListId := priceList.map PriceList.id }

theorem resolveSelectionTx_breakdown {context : RequestContext} {dto : PricePreviewRequest}
    {db : Db} {price : PricePreviewResponse} (h : resolveSelectionTx context dto db = .ok price) :
    ∃ options, ∃ optionPrice : ModifierOption → Money,
      findModifierOptions dto.modifierOptionIds db.setup = .ok options ∧
      price.modifierBreakdown = options.map fun option => ⟨option.id, optionPrice option⟩ := by
  simp only [resolveSelectionTx, except_bind_ok_iff, except_pure_ok_iff] at h
  obtain ⟨store, _, _, _, _, _, _, _, _, _, _, _, options, found, priceList, _, rfl⟩ := h
  exact ⟨options, optionPrice db.setup store.id priceList, found, rfl⟩

end Exetron.Pricing
