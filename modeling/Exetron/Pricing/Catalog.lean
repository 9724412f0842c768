import Mathlib.Data.List.Sort
import Exetron.Pricing.Availability
import Exetron.Pricing.Service

/-!
# Compiled catalogue

`PricingService.compiledCatalog`: what a store has on sale at a moment, with its prices under a
price list.
-/

namespace Exetron.Pricing

open Lib

inductive CustomizationChannel where
  | admin
  | pos
  | kiosk
  | delivery
  | kitchen
  | board
  | backoffice
  deriving DecidableEq

structure CompiledCatalogQuery where
  tenantId : Option Id := none
  storeId : Id
  priceListId : Option Id := none
  locale : Option String := none
  customerLocale : Option String := none
  countryCode : Option String := none
  channel : Option CustomizationChannel := none

inductive LocalizedContentTargetType where
  | category
  | product
  | variant
  | modifierGroup
  | modifierOption
  deriving DecidableEq

/-- The locale of a request and the texts it selects; a row may have none. -/
structure Localization where
  (locale fallbackLocale : String)
  countryCode : Option String
  currency : String
  tax : Json
  (name description : LocalizedContentTargetType → Id → Option String)

/-- What the catalogue takes from outside the pricing service: the clock, the rules of the time
zones and the localisation of a request. -/
structure CatalogServices where
  now : Instant
  resolveCurrentSlot : Instant → String → Except ApiException Slot
  resolveLocalization :
    CompiledCatalogQuery → Store → Option PriceList → Except ApiException Localization

structure CompiledCatalogModifierOption where
  id : Id
  (code name : String)
  priceDelta : Money

structure CompiledCatalogModifierGroup where
  id : Id
  (code name : String)
  selectionMode : ModifierSelectionMode
  minSelection : Int
  maxSelection : Option Int
  required : Bool
  options : List CompiledCatalogModifierOption

structure CompiledCatalogVariant where
  id : Id
  (code name : String)
  (sku barcode : Option String)
  effectivePrice : Option Money
  priceSource : PriceSource

structure CompiledCatalogProduct where
  id : Id
  brandId : Option Id
  (code name : String)
  description : Option String
  effectivePrice : Option Money
  priceSource : PriceSource
  variants : List CompiledCatalogVariant
  modifierGroups : List CompiledCatalogModifierGroup

structure CompiledCatalogCategory where
  id : Id
  parentId : Option Id
  (code name : String)
  sortOrder : Int
  products : List CompiledCatalogProduct

structure CompiledCatalogResponse where
  (tenantId storeId : Id)
  generatedAt : Instant
  (locale fallbackLocale : String)
  countryCode : Option String
  currency : String
  tax : Json
  categories : List CompiledCatalogCategory
  uncategorizedProducts : List CompiledCatalogProduct

/-- The products a catalogue shows, in categories and outside them. -/
def CompiledCatalogResponse.products (catalog : CompiledCatalogResponse) :
    List CompiledCatalogProduct :=
  catalog.categories.flatMap CompiledCatalogCategory.products ++ catalog.uncategorizedProducts

/-- `new Map(rows.map((row) => [key(row), row])).get(k)`: of two rows of a key the later counts. -/
def mapGet {α κ : Type} [DecidableEq κ] (key : α → κ) (rows : List α) (k : κ) : Option α :=
  Rows.find key rows.reverse k

/-- What the entries of one catalogue are compiled from. -/
structure CatalogScope where
  store : Store
  slot : Slot
  localization : Localization
  windows : List AvailabilityWindow
  overrides : List StoreCatalogOverride
  priceItems : List PriceListItem

namespace CatalogScope

def override (scope : CatalogScope) (targetType : CatalogTargetType) (targetId : Id) :
    Option StoreCatalogOverride :=
  mapGet (fun row => (row.targetType, row.targetId)) scope.overrides (targetType, targetId)

def priceItem (scope : CatalogScope) (targetType : CatalogTargetType) (targetId : Id) :
    Option PriceListItem :=
  mapGet PriceListItem.target scope.priceItems (targetType, targetId)

def windowsOf (scope : CatalogScope) (targetType : AvailabilityTargetType) (targetId : Id) :
    List AvailabilityWindow :=
  scope.windows.filter fun window => window.targetType = targetType ∧ window.targetId = targetId ∧
    (window.storeId = none ∨ window.storeId = some scope.store.id)

end CatalogScope

def variantsOf (setup : Setup) (product : Product) : List ProductVariant :=
  setup.productVariants.1.filter fun variant => variant.productId = product.id

def optionsOf (setup : Setup) (group : ModifierGroup) : List ModifierOption :=
  setup.modifierOptions.1.filter fun option => option.groupId = group.id

def catalogTargets (setup : Setup) (products : List Product) : List (CatalogTargetType × Id) :=
  products.map (fun product => (.product, product.id)) ++
    products.flatMap (fun product =>
      (variantsOf setup product).map fun variant => (.variant, variant.id)) ++
    products.flatMap fun product => product.modifierGroupLinks.flatMap fun group =>
      (optionsOf setup group).map fun option => (.modifierOption, option.id)

def compileVariant (scope : CatalogScope) (product : Product) (variant : ProductVariant) :
    Except ApiException (Option CompiledCatalogVariant) := do
  let override := scope.override .variant variant.id
  let variantVisible ← isCatalogEntryAvailable variant.status
    ((override.bind StoreCatalogOverride.isVisible).getD variant.isVisible)
    ((override.bind StoreCatalogOverride.isAvailable).getD variant.isAvailable)
    ((override.bind StoreCatalogOverride.isOutOfStock).getD variant.isOutOfStock)
    (scope.windowsOf .variant variant.id) scope.slot
  if variantVisible then
    let resolved := resolvePrice (override.bind StoreCatalogOverride.priceOverride)
      ((scope.priceItem .variant variant.id).map PriceListItem.price) variant.basePrice
      product.basePrice []
    pure (some
      { id := variant.id
        code := variant.code
        name := (scope.localization.name .variant variant.id).getD variant.name
        sku := variant.sku
        barcode := variant.barcode
        effectivePrice := resolved.basePrice
        priceSource := resolved.source })
  else pure none

def compileOption (scope : CatalogScope) (option : ModifierOption) :
    CompiledCatalogModifierOption where
  id := option.id
  code := option.code
  name := (scope.localization.name .modifierOption option.id).getD option.name
  priceDelta :=
    (((scope.override .modifierOption option.id).bind StoreCatalogOverride.priceOverride).or
      ((scope.priceItem .modifierOption option.id).map PriceListItem.price)).getD option.priceDelta

def compileGroup (scope : CatalogScope) (setup : Setup) (group : ModifierGroup) :
    CompiledCatalogModifierGroup where
  id := group.id
  code := group.code
  name := (scope.localization.name .modifierGroup group.id).getD group.name
  selectionMode := group.selectionMode
  minSelection := group.minSelection
  maxSelection := group.maxSelection
  required := group.required
  options := ((optionsOf setup group).filter fun option => option.status = .active).map
    (compileOption scope)

def compileProduct (scope : CatalogScope) (setup : Setup) (product : Product) :
    Except ApiException (Option CompiledCatalogProduct) := do
  let override := scope.override .product product.id
  let productVisible ← isCatalogEntryAvailable product.status
    ((override.bind StoreCatalogOverride.isVisible).getD product.isVisible)
    ((override.bind StoreCatalogOverride.isAvailable).getD product.isAvailable)
    ((override.bind StoreCatalogOverride.isOutOfStock).getD product.isOutOfStock)
    (scope.windowsOf .product product.id) scope.slot
  if productVisible then
    let compiled ← (variantsOf setup product).mapM (compileVariant scope product)
    if variantsOf setup product ≠ [] ∧ compiled.reduceOption = [] then pure none
    else
      let resolved := resolvePrice (override.bind StoreCatalogOverride.priceOverride)
        ((scope.priceItem .product product.id).map PriceListItem.price) none product.basePrice []
      pure (some
        { id := product.id
          brandId := product.brandId
          code := product.code
          name := (scope.localization.name .product product.id).getD product.name
          description := (scope.localization.description .product product.id).or product.description
          effectivePrice := resolved.basePrice
          priceSource := resolved.source
          variants := compiled.reduceOption
          modifierGroups :=
            (product.modifierGroupLinks.filter fun group => group.status = .active).map
              (compileGroup scope setup) })
  else pure none

/-- `orderBy: [{ sortOrder: "asc" }, { name: "asc" }]` -/
abbrev CategoryBefore (a b : Category) : Prop :=
  a.sortOrder < b.sortOrder ∨ a.sortOrder = b.sortOrder ∧ a.name ≤ b.name

abbrev CatalogEntry := Option Id × CompiledCatalogProduct

def compileCategory (localization : Localization) (entries : List CatalogEntry)
    (category : Category) : CompiledCatalogCategory where
  id := category.id
  parentId := category.parentId
  code := category.code
  name := (localization.name .category category.id).getD category.name
  sortOrder := category.sortOrder
  products := (entries.filter fun entry => entry.1 = some category.id).map Prod.snd

def compileEntry (scope : CatalogScope) (setup : Setup) (product : Product) :
    Except ApiException (Option CatalogEntry) := do
  let compiled ← compileProduct scope setup product
  pure (compiled.map fun compiled => (product.categoryId, compiled))

def compiledCatalog (services : CatalogServices) (context : RequestContext)
    (query : CompiledCatalogQuery) (db : Db) : Except ApiException CompiledCatalogResponse := do
  let setup := db.setup
  let store ← required (setup.stores.find? fun store => store.id = query.storeId)
    (.recordNotFound "Store")
  let _ ← resolveTenantId context (some (query.tenantId.getD store.tenantId))
  enforceStoreAccess context store.id
  let priceList ← findPriceList store query.priceListId setup
  let localization ← services.resolveLocalization query store priceList
  let categories := (setup.categories.filter fun category =>
    category.tenantId = store.tenantId ∧ category.status = .active).insertionSort CategoryBefore
  let products := setup.products.filter fun product => product.tenantId = store.tenantId
  let targets := catalogTargets setup products
  let slot ← services.resolveCurrentSlot services.now store.timezone
  let scope : CatalogScope :=
    { store
      slot
      localization
      windows := setup.availabilityWindows
      overrides := setup.storeCatalogOverrides.1.filter fun override =>
        override.storeId = store.id ∧ (override.targetType, override.targetId) ∈ targets
      priceItems := (priceList.map fun priceList => priceList.items.1).getD [] }
  let compiled ← products.mapM (compileEntry scope setup)
  let entries := compiled.reduceOption
  pure
    { tenantId := store.tenantId
      storeId := store.id
      generatedAt := services.now
      locale := localization.locale
      fallbackLocale := localization.fallbackLocale
      countryCode := localization.countryCode
      currency := localization.currency
      tax := localization.tax
      categories := (categories.map (compileCategory localization entries)).filter fun category =>
        category.products ≠ []
      uncategorizedProducts := (entries.filter fun entry =>
        ∀ category ∈ categories, entry.1 ≠ some category.id).map Prod.snd }

end Exetron.Pricing
