import Exetron.Catalog.Tables
import Mathlib.Data.List.Dedup

/-!
# Products

The creating and updating calls of `ProductsService`, with the checks of what they refer to.
-/

namespace Exetron.Catalog

open Lib Tx

structure CreateProductDto where
  tenantId : Id
  categoryId : Option Id := none
  brandId : Option Id := none
  (code name : String)
  description : Option String := none
  basePrice : Option Money := none
  isVisible : Option Bool := none
  isAvailable : Option Bool := none
  isOutOfStock : Option Bool := none
  modifierGroupIds : Option (List Id) := none
  availabilityWindows : Option (List AvailabilityWindowInput) := none

structure UpdateProductDto where
  categoryId : Option (Option Id) := none
  brandId : Option (Option Id) := none
  code : Option String := none
  name : Option String := none
  description : Option (Option String) := none
  status : Option ProductStatus := none
  basePrice : Option (Option Money) := none
  isVisible : Option Bool := none
  isAvailable : Option Bool := none
  isOutOfStock : Option Bool := none
  modifierGroupIds : Option (List Id) := none
  availabilityWindows : Option (List AvailabilityWindowInput) := none

structure CreateProductVariantDto where
  (code name : String)
  sku : Option String := none
  barcode : Option String := none
  basePrice : Option Money := none
  isVisible : Option Bool := none
  isAvailable : Option Bool := none
  isOutOfStock : Option Bool := none
  availabilityWindows : Option (List AvailabilityWindowInput) := none

structure UpdateProductVariantDto where
  code : Option String := none
  name : Option String := none
  sku : Option (Option String) := none
  barcode : Option (Option String) := none
  status : Option ProductStatus := none
  basePrice : Option (Option Money) := none
  isVisible : Option Bool := none
  isAvailable : Option Bool := none
  isOutOfStock : Option Bool := none
  availabilityWindows : Option (List AvailabilityWindowInput) := none

def ProductRow.codeKey (row : ProductRow) : Id × String := (row.tenantId, row.code)

def ProductVariantRow.codeKey (row : ProductVariantRow) : Id × String := (row.productId, row.code)

def newProduct (tenantId : Id) (dto : CreateProductDto) (id : Id) : ProductRow :=
  { id, tenantId, categoryId := dto.categoryId, brandId := dto.brandId, code := dto.code
    name := dto.name, description := dto.description, status := .active
    isVisible := dto.isVisible.getD true, isAvailable := dto.isAvailable.getD true
    isOutOfStock := dto.isOutOfStock.getD false, basePrice := dto.basePrice }

def productChanged (dto : UpdateProductDto) (current : ProductRow) : ProductRow :=
  { current with
    categoryId := dto.categoryId.getD current.categoryId
    brandId := dto.brandId.getD current.brandId
    code := textGiven dto.code current.code
    name := textGiven dto.name current.name
    description := dto.description.getD current.description
    status := dto.status.getD current.status
    basePrice := dto.basePrice.getD current.basePrice
    isVisible := dto.isVisible.getD current.isVisible
    isAvailable := dto.isAvailable.getD current.isAvailable
    isOutOfStock := dto.isOutOfStock.getD current.isOutOfStock }

def newProductVariant (product : ProductRow) (dto : CreateProductVariantDto) (id : Id) :
    ProductVariantRow :=
  { id, tenantId := product.tenantId, productId := product.id, code := dto.code, name := dto.name
    sku := dto.sku, barcode := dto.barcode, status := .active
    isVisible := dto.isVisible.getD true, isAvailable := dto.isAvailable.getD true
    isOutOfStock := dto.isOutOfStock.getD false, basePrice := dto.basePrice }

def productVariantChanged (dto : UpdateProductVariantDto) (current : ProductVariantRow) :
    ProductVariantRow :=
  { current with
    code := textGiven dto.code current.code
    name := textGiven dto.name current.name
    sku := dto.sku.getD current.sku
    barcode := dto.barcode.getD current.barcode
    status := dto.status.getD current.status
    basePrice := dto.basePrice.getD current.basePrice
    isVisible := dto.isVisible.getD current.isVisible
    isAvailable := dto.isAvailable.getD current.isAvailable
    isOutOfStock := dto.isOutOfStock.getD current.isOutOfStock }

def modifierGroupLinks (tenantId productId : Id) (groupIds : List Id) : List ProductModifierGroup :=
  groupIds.mapIdx fun index modifierGroupId =>
    { tenantId, productId, modifierGroupId, sortOrder := index }

/-- `createMany` of the links of a product. -/
def addLinks (links : List ProductModifierGroup) : CatalogTransaction Unit :=
  Tx.write fun s => { s with productModifierGroups := s.productModifierGroups ++ links }

/-- `deleteMany` of the links of a product. -/
def dropLinks (productId : Id) : CatalogTransaction Unit :=
  Tx.write fun s => { s with
    productModifierGroups := s.productModifierGroups.filter fun link => link.productId ≠ productId }

namespace ProductsService

def ensureCategory (context : RequestContext) (tenantId : Id) (categoryId : Option Id)
    (s : CatalogDb) : Except ApiException Unit :=
  match categoryId with
  | none => .ok ()
  | some categoryId => do
    let category ← categories.findUniqueOrThrow categoryId s
    let _ ← resolveTenantId context (some category.tenantId)
    rejectIf (category.tenantId ≠ tenantId) (.badRequest "Category tenant mismatch.")

def ensureBrand (context : RequestContext) (tenantId : Id) (brandId : Option Id)
    (s : CatalogDb) : Except ApiException Unit :=
  match brandId with
  | none => .ok ()
  | some brandId => do
    let brand ← brands.findUniqueOrThrow brandId s
    let _ ← resolveTenantId context (some brand.tenantId)
    rejectIf (brand.tenantId ≠ tenantId) (.badRequest "Brand tenant mismatch.")

def ensureModifierGroup (context : RequestContext) (tenantId : Id) (group : ModifierGroupRow) :
    Except ApiException Unit := do
  let _ ← resolveTenantId context (some group.tenantId)
  rejectIf (group.tenantId ≠ tenantId) (.badRequest "Modifier group tenant mismatch.")

/-- An empty list finds no group and refuses none, as one that is not given. -/
def ensureModifierGroups (context : RequestContext) (tenantId : Id) (groupIds : List Id)
    (s : CatalogDb) : Except ApiException Unit := do
  let groups := s.modifierGroups.filter fun group => group.id ∈ groupIds
  rejectIf (groups.length ≠ groupIds.length)
    (.badRequest "One or more modifier groups were not found.")
  groups.forM (ensureModifierGroup context tenantId)

def ensureCatalogReferences (context : RequestContext) (tenantId : Id)
    (categoryId brandId : Option Id) (groupIds : List Id) (s : CatalogDb) :
    Except ApiException Unit := do
  ensureCategory context tenantId categoryId s
  ensureBrand context tenantId brandId s
  ensureModifierGroups context tenantId groupIds s

def ensureWindowStore (context : RequestContext) (tenantId : Id) (store : Store) :
    Except ApiException Unit := do
  let _ ← resolveTenantId context (some store.tenantId)
  enforceStoreAccess context store.id
  rejectIf (store.tenantId ≠ tenantId) (.badRequest "Availability window store tenant mismatch.")

def windowStoreIds (windows : List AvailabilityWindowInput) : List Id :=
  (windows.filterMap (·.storeId)).dedup

def ensureAvailabilityWindowAccess (context : RequestContext) (tenantId : Id)
    (windows : List AvailabilityWindowInput) (s : CatalogDb) : Except ApiException Unit := do
  let storeIds := windowStoreIds windows
  let found := s.stores.filter fun store => store.id ∈ storeIds
  rejectIf (found.length ≠ storeIds.length)
    (.badRequest "One or more availability window stores were not found.")
  found.forM (ensureWindowStore context tenantId)

def create (context : RequestContext) (dto : CreateProductDto) : CatalogTransaction ProductRow := do
  let tenantId ← Tx.lift (resolveTenantId context (some dto.tenantId))
  let groupIds := dto.modifierGroupIds.getD []
  let windows := dto.availabilityWindows.getD []
  Tx.read (ensureCatalogReferences context tenantId dto.categoryId dto.brandId groupIds)
  Tx.read (ensureAvailabilityWindowAccess context tenantId windows)
  tenantExists tenantId
  let product ← insertRow products ProductRow.codeKey "Product" (newProduct tenantId dto)
  addLinks (modifierGroupLinks tenantId product.id groupIds)
  replaceAvailabilityWindows tenantId .product product.id windows
  pure product

def replaceLinks (tenantId productId : Id) (groupIds : Option (List Id)) :
    CatalogTransaction Unit :=
  match groupIds with
  | none => pure ()
  | some groupIds => do
    dropLinks productId
    addLinks (modifierGroupLinks tenantId productId groupIds)

def replaceWindows (tenantId : Id) (targetType : AvailabilityTargetType) (targetId : Id)
    (windows : Option (List AvailabilityWindowInput)) : CatalogTransaction Unit :=
  match windows with
  | none => pure ()
  | some windows => replaceAvailabilityWindows tenantId targetType targetId windows

def update (context : RequestContext) (productId : Id) (dto : UpdateProductDto) :
    CatalogTransaction ProductRow := do
  let current ← Tx.read (products.findUniqueOrThrow productId)
  let _ ← Tx.lift (resolveTenantId context (some current.tenantId))
  Tx.read (ensureCatalogReferences context current.tenantId dto.categoryId.join dto.brandId.join
    (dto.modifierGroupIds.getD []))
  Tx.read (ensureAvailabilityWindowAccess context current.tenantId
    (dto.availabilityWindows.getD []))
  let product ← rewriteRow products ProductRow.codeKey "Product" productId (productChanged dto)
  replaceLinks current.tenantId productId dto.modifierGroupIds
  replaceWindows current.tenantId .product productId dto.availabilityWindows
  pure product

def createVariant (context : RequestContext) (productId : Id) (dto : CreateProductVariantDto) :
    CatalogTransaction ProductVariantRow := do
  let product ← Tx.read (products.findUniqueOrThrow productId)
  let _ ← Tx.lift (resolveTenantId context (some product.tenantId))
  let windows := dto.availabilityWindows.getD []
  Tx.read (ensureAvailabilityWindowAccess context product.tenantId windows)
  let variant ← insertRow productVariants ProductVariantRow.codeKey "ProductVariant"
    (newProductVariant product dto)
  replaceAvailabilityWindows product.tenantId .variant variant.id windows
  pure variant

def updateVariant (context : RequestContext) (productId variantId : Id)
    (dto : UpdateProductVariantDto) : CatalogTransaction ProductVariantRow := do
  let variant ← Tx.read (productVariants.findUniqueOrThrow variantId)
  let _ ← Tx.lift (resolveTenantId context (some variant.tenantId))
  Tx.lift (rejectIf (variant.productId ≠ productId)
    (.badRequest "Product variant does not belong to the requested product."))
  Tx.read (ensureAvailabilityWindowAccess context variant.tenantId
    (dto.availabilityWindows.getD []))
  let row ← rewriteRow productVariants ProductVariantRow.codeKey "ProductVariant" variantId
    (productVariantChanged dto)
  replaceWindows variant.tenantId .variant variantId dto.availabilityWindows
  pure row

end ProductsService

def Owned {α : Type} (key owner : α → Id) (rows : List α) (tenantId id : Id) : Prop :=
  ∃ row ∈ rows, key row = id ∧ owner row = tenantId

def CatalogDb.HasStore (s : CatalogDb) : Id → Id → Prop := Owned Store.id Store.tenantId s.stores

def CatalogDb.HasBrand (s : CatalogDb) : Id → Id → Prop := Owned Brand.id Brand.tenantId s.brands

def CatalogDb.HasCategory (s : CatalogDb) : Id → Id → Prop :=
  Owned CategoryRow.id CategoryRow.tenantId s.categories

def CatalogDb.HasGroup (s : CatalogDb) : Id → Id → Prop :=
  Owned ModifierGroupRow.id ModifierGroupRow.tenantId s.modifierGroups

def CatalogDb.HasProduct (s : CatalogDb) : Id → Id → Prop :=
  Owned ProductRow.id ProductRow.tenantId s.products

/-- What is checked of a product's references. -/
structure Referable (s : CatalogDb) (tenantId : Id) (categoryId brandId : Option Id)
    (groupIds : List Id) : Prop where
  category : ∀ asked ∈ categoryId, s.HasCategory tenantId asked
  brand : ∀ asked ∈ brandId, s.HasBrand tenantId asked
  groups : ∀ asked ∈ groupIds, s.HasGroup tenantId asked

def OpenIn (s : CatalogDb) (tenantId : Id) (windows : List AvailabilityWindowInput) : Prop :=
  ∀ window ∈ windows, ∀ storeId ∈ window.storeId, s.HasStore tenantId storeId

section
variable {context : RequestContext} {tenantId : Id} {s s' : CatalogDb} {u : Unit}

theorem ensureCategory_ok {categoryId : Option Id}
    (h : ProductsService.ensureCategory context tenantId categoryId s = .ok u) :
    ∀ asked ∈ categoryId, s.HasCategory tenantId asked := by
  rintro asked rfl
  simp only [ProductsService.ensureCategory, except_bind_ok_iff, rejectIf_ok_iff,
    Table.findUniqueOrThrow_ok_iff, not_not] at h
  obtain ⟨category, found, _, -, own⟩ := h
  obtain ⟨stored, keyed⟩ := Table.findUnique_mem found
  exact ⟨category, stored, keyed, own⟩

theorem ensureBrand_ok {brandId : Option Id}
    (h : ProductsService.ensureBrand context tenantId brandId s = .ok u) :
    ∀ asked ∈ brandId, s.HasBrand tenantId asked := by
  rintro asked rfl
  simp only [ProductsService.ensureBrand, except_bind_ok_iff, rejectIf_ok_iff,
    Table.findUniqueOrThrow_ok_iff, not_not] at h
  obtain ⟨brand, found, _, -, own⟩ := h
  obtain ⟨stored, keyed⟩ := Table.findUnique_mem found
  exact ⟨brand, stored, keyed, own⟩

theorem owned_of_found {α : Type} {key owner : α → Id} {rows : List α} {ids : List Id}
    (unique : (rows.map key).Nodup)
    (same : (rows.filter fun row => key row ∈ ids).length = ids.length)
    (own : ∀ row ∈ rows.filter fun row => key row ∈ ids, owner row = tenantId) :
    ∀ asked ∈ ids, Owned key owner rows tenantId asked := by
  intro asked listed
  obtain ⟨row, stored, rfl⟩ := Rows.all_found unique same asked listed
  exact ⟨row, stored, rfl, own row (List.mem_filter.mpr ⟨stored, decide_eq_true listed⟩)⟩

theorem ensureModifierGroups_ok {groupIds : List Id}
    (unique : (s.modifierGroups.map ModifierGroupRow.id).Nodup)
    (h : ProductsService.ensureModifierGroups context tenantId groupIds s = .ok u) :
    ∀ asked ∈ groupIds, s.HasGroup tenantId asked := by
  simp only [ProductsService.ensureModifierGroups, except_bind_ok_iff, rejectIf_ok_iff,
    not_not] at h
  obtain ⟨_, same, all⟩ := h
  refine owned_of_found unique same fun group found => ?_
  have admitted := except_forM_ok all group found
  simp only [ProductsService.ensureModifierGroup, except_bind_ok_iff, rejectIf_ok_iff,
    not_not] at admitted
  exact admitted.choose_spec.2

theorem ensureCatalogReferences_ok {categoryId brandId : Option Id} {groupIds : List Id}
    (unique : (s.modifierGroups.map ModifierGroupRow.id).Nodup)
    (h : ProductsService.ensureCatalogReferences context tenantId categoryId brandId groupIds s =
      .ok u) : Referable s tenantId categoryId brandId groupIds := by
  simp only [ProductsService.ensureCatalogReferences, except_bind_ok_iff] at h
  obtain ⟨_, category, _, brand, groups⟩ := h
  exact ⟨ensureCategory_ok category, ensureBrand_ok brand, ensureModifierGroups_ok unique groups⟩

theorem ensureAvailabilityWindowAccess_ok {windows : List AvailabilityWindowInput}
    (unique : (s.stores.map Store.id).Nodup)
    (h : ProductsService.ensureAvailabilityWindowAccess context tenantId windows s = .ok u) :
    OpenIn s tenantId windows := by
  simp only [ProductsService.ensureAvailabilityWindowAccess, except_bind_ok_iff, rejectIf_ok_iff,
    not_not] at h
  obtain ⟨_, same, all⟩ := h
  intro window listed storeId given
  refine owned_of_found unique same (fun store found => ?_) storeId ?_
  · have admitted := except_forM_ok all store found
    simp only [ProductsService.ensureWindowStore, except_bind_ok_iff, rejectIf_ok_iff,
      not_not] at admitted
    obtain ⟨_, -, _, -, own⟩ := admitted
    exact own
  · exact List.mem_dedup.mpr (List.mem_filterMap.mpr ⟨window, listed, given⟩)

def windowsReplaced (tenantId : Id) (targetType : AvailabilityTargetType) (targetId : Id)
    (windows : Option (List AvailabilityWindowInput)) (rows : List AvailabilityWindowRow) :
    List AvailabilityWindowRow :=
  match windows with
  | none => rows
  | some windows => (rows.filter fun window =>
      ¬(window.targetType = targetType ∧ window.targetId = targetId)) ++
    windows.map fun window => { window with tenantId, targetType, targetId }

def linksReplaced (tenantId productId : Id) (groupIds : Option (List Id))
    (rows : List ProductModifierGroup) : List ProductModifierGroup :=
  match groupIds with
  | none => rows
  | some groupIds => (rows.filter fun link => link.productId ≠ productId) ++
    modifierGroupLinks tenantId productId groupIds

theorem replaceWindows_ok {targetType : AvailabilityTargetType} {targetId : Id}
    {windows : Option (List AvailabilityWindowInput)}
    (h : ProductsService.replaceWindows tenantId targetType targetId windows s = .ok (u, s')) :
    s' = { s with availabilityWindows :=
      windowsReplaced tenantId targetType targetId windows s.availabilityWindows } := by
  cases windows with
  | none => exact (pure_ok_iff.mp h).2.symm
  | some windows =>
    simp only [ProductsService.replaceWindows, replaceAvailabilityWindows, write_ok_iff] at h
    exact h

theorem replaceLinks_ok {productId : Id} {groupIds : Option (List Id)}
    (h : ProductsService.replaceLinks tenantId productId groupIds s = .ok (u, s')) :
    s' = { s with productModifierGroups :=
      linksReplaced tenantId productId groupIds s.productModifierGroups } := by
  cases groupIds with
  | none => exact (pure_ok_iff.mp h).2.symm
  | some groupIds =>
    obtain ⟨_, _, dropped, added⟩ := bind_ok_iff.mp h
    obtain rfl := write_ok_iff.mp dropped
    exact write_ok_iff.mp added

theorem createProduct_ok {dto : CreateProductDto} {row : ProductRow}
    (uniqueGroups : (s.modifierGroups.map ModifierGroupRow.id).Nodup)
    (uniqueStores : (s.stores.map Store.id).Nodup)
    (h : ProductsService.create context dto s = .ok (row, s')) :
    ∃ tenantId, row = newProduct tenantId dto s.nextId ∧
      Referable s tenantId dto.categoryId dto.brandId (dto.modifierGroupIds.getD []) ∧
      OpenIn s tenantId (dto.availabilityWindows.getD []) ∧
      s' = { s with
        products := s.products ++ [row]
        productModifierGroups := s.productModifierGroups ++
          modifierGroupLinks tenantId s.nextId (dto.modifierGroupIds.getD [])
        availabilityWindows := windowsReplaced tenantId .product s.nextId
          (some (dto.availabilityWindows.getD [])) s.availabilityWindows
        nextId := s.nextId + 1 } := by
  simp only [ProductsService.create, bind_ok_iff, read_ok_iff, lift_ok_iff, tenantExists,
    addLinks, replaceAvailabilityWindows, write_ok_iff, pure_ok_iff] at h
  obtain ⟨tenantId, _, ⟨-, rfl⟩, _, _, ⟨references, rfl⟩, _, _, ⟨windows, rfl⟩, _, _, ⟨-, rfl⟩, _,
    _, inserted, _, _, rfl, _, _, rfl, rfl, rfl⟩ := h
  obtain ⟨made, rfl⟩ := insertRow_ok inserted
  refine ⟨tenantId, made, ensureCatalogReferences_ok uniqueGroups references,
    ensureAvailabilityWindowAccess_ok uniqueStores windows, ?_⟩
  rw [made]
  rfl

theorem updateProduct_ok {productId : Id} {dto : UpdateProductDto} {row : ProductRow}
    (uniqueGroups : (s.modifierGroups.map ModifierGroupRow.id).Nodup)
    (uniqueStores : (s.stores.map Store.id).Nodup)
    (h : ProductsService.update context productId dto s = .ok (row, s')) :
    ∃ current ∈ s.products, current.id = productId ∧
      Referable s current.tenantId dto.categoryId.join dto.brandId.join
        (dto.modifierGroupIds.getD []) ∧
      OpenIn s current.tenantId (dto.availabilityWindows.getD []) ∧
      s' = { s with
        products := Rows.modify ProductRow.id productId (productChanged dto) s.products
        productModifierGroups := linksReplaced current.tenantId productId dto.modifierGroupIds
          s.productModifierGroups
        availabilityWindows := windowsReplaced current.tenantId .product productId
          dto.availabilityWindows s.availabilityWindows } := by
  simp only [ProductsService.update, bind_ok_iff, read_ok_iff, lift_ok_iff,
    pure_ok_iff, Table.findUniqueOrThrow_ok_iff] at h
  obtain ⟨current, _, ⟨found, rfl⟩, _, _, ⟨-, rfl⟩, _, _, ⟨references, rfl⟩, _, _, ⟨windows, rfl⟩,
    _, _, rewritten, _, _, linked, _, _, opened, -, rfl⟩ := h
  obtain ⟨stored, keyed⟩ := Table.findUnique_mem found
  obtain rfl := rewriteRow_ok rewritten
  obtain rfl := replaceLinks_ok linked
  exact ⟨current, stored, keyed, ensureCatalogReferences_ok uniqueGroups references,
    ensureAvailabilityWindowAccess_ok uniqueStores windows, replaceWindows_ok opened⟩

theorem createVariant_ok {productId : Id} {dto : CreateProductVariantDto} {row : ProductVariantRow}
    (uniqueStores : (s.stores.map Store.id).Nodup)
    (h : ProductsService.createVariant context productId dto s = .ok (row, s')) :
    ∃ product ∈ s.products, row = newProductVariant product dto s.nextId ∧
      OpenIn s product.tenantId (dto.availabilityWindows.getD []) ∧
      s' = { s with
        productVariants := s.productVariants ++ [row]
        availabilityWindows := windowsReplaced product.tenantId .variant s.nextId
          (some (dto.availabilityWindows.getD [])) s.availabilityWindows
        nextId := s.nextId + 1 } := by
  simp only [ProductsService.createVariant, bind_ok_iff, read_ok_iff, lift_ok_iff,
    replaceAvailabilityWindows, write_ok_iff, pure_ok_iff,
    Table.findUniqueOrThrow_ok_iff] at h
  obtain ⟨product, _, ⟨found, rfl⟩, _, _, ⟨-, rfl⟩, _, _, ⟨windows, rfl⟩, _, _, inserted, _, _, rfl,
    rfl, rfl⟩ := h
  obtain ⟨made, rfl⟩ := insertRow_ok inserted
  refine ⟨product, (Table.findUnique_mem found).1, made,
    ensureAvailabilityWindowAccess_ok uniqueStores windows, ?_⟩
  rw [made]
  rfl

theorem updateVariant_ok {productId variantId : Id} {dto : UpdateProductVariantDto}
    {row : ProductVariantRow} (uniqueStores : (s.stores.map Store.id).Nodup)
    (h : ProductsService.updateVariant context productId variantId dto s = .ok (row, s')) :
    ∃ current ∈ s.productVariants, current.id = variantId ∧
      OpenIn s current.tenantId (dto.availabilityWindows.getD []) ∧
      s' = { s with
        productVariants :=
          Rows.modify ProductVariantRow.id variantId (productVariantChanged dto) s.productVariants
        availabilityWindows := windowsReplaced current.tenantId .variant variantId
          dto.availabilityWindows s.availabilityWindows } := by
  simp only [ProductsService.updateVariant, bind_ok_iff, read_ok_iff, lift_ok_iff,
    pure_ok_iff, Table.findUniqueOrThrow_ok_iff] at h
  obtain ⟨current, _, ⟨found, rfl⟩, _, _, ⟨-, rfl⟩, _, _, ⟨-, rfl⟩, _, _, ⟨windows, rfl⟩, _, _,
    rewritten, _, _, opened, -, rfl⟩ := h
  obtain ⟨stored, keyed⟩ := Table.findUnique_mem found
  obtain rfl := rewriteRow_ok rewritten
  exact ⟨current, stored, keyed, ensureAvailabilityWindowAccess_ok uniqueStores windows,
    replaceWindows_ok opened⟩

end

end Exetron.Catalog
