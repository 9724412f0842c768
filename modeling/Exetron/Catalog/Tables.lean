import Exetron.Access
import Exetron.Database

/-!
# The tables of the catalogue

What `DevicesService`, `CategoriesService`, `ModifiersService` and `ProductsService` read and
write. Tenants, stores and brands are made elsewhere: these services only refer to them.
-/

namespace Exetron.Catalog

open Lib

structure Brand where
  (id tenantId : Id)

structure DeviceRow where
  (id tenantId storeId : Id)
  (code name : String)
  type : DeviceType
  status : DeviceStatus

structure CategoryRow where
  (id tenantId : Id)
  parentId : Option Id
  (code name : String)
  description : Option String
  sortOrder : Int
  status : CatalogStatus

structure ModifierGroupRow where
  (id tenantId : Id)
  (code name : String)
  description : Option String
  selectionMode : ModifierSelectionMode
  minSelection : Int
  maxSelection : Option Int
  required : Bool
  status : CatalogStatus

structure ModifierOptionRow where
  (id tenantId groupId : Id)
  (code name : String)
  status : CatalogStatus
  priceDelta : Money

structure ProductRow where
  (id tenantId : Id)
  (categoryId brandId : Option Id)
  (code name : String)
  description : Option String
  status : ProductStatus
  (isVisible isAvailable isOutOfStock : Bool)
  basePrice : Option Money

structure ProductModifierGroup where
  (tenantId productId modifierGroupId : Id)
  sortOrder : Nat

structure ProductVariantRow where
  (id tenantId productId : Id)
  (code name : String)
  (sku barcode : Option String)
  status : ProductStatus
  (isVisible isAvailable isOutOfStock : Bool)
  basePrice : Option Money

/-- A window of an offer; one without a store holds in every store. -/
structure AvailabilityWindowInput where
  storeId : Option Id
  weekday : Int
  (startTime endTime : String)

structure AvailabilityWindowRow extends AvailabilityWindowInput where
  tenantId : Id
  targetType : AvailabilityTargetType
  targetId : Id

structure CatalogDb where
  tenants : List Id
  stores : List Store
  brands : List Brand
  devices : List DeviceRow
  categories : List CategoryRow
  modifierGroups : List ModifierGroupRow
  modifierOptions : List ModifierOptionRow
  products : List ProductRow
  productModifierGroups : List ProductModifierGroup
  productVariants : List ProductVariantRow
  availabilityWindows : List AvailabilityWindowRow
  nextId : Id

abbrev CatalogTransaction := Tx CatalogDb ApiException

abbrev CatalogTable (α : Type) := Table CatalogDb ApiException α Id

def stores : CatalogTable Store where
  rows s := s.stores
  put rows s := { s with stores := rows }
  key := Store.id
  missing := .recordNotFound "Store"

def brands : CatalogTable Brand where
  rows s := s.brands
  put rows s := { s with brands := rows }
  key := Brand.id
  missing := .recordNotFound "Brand"

def devices : CatalogTable DeviceRow where
  rows s := s.devices
  put rows s := { s with devices := rows }
  key := DeviceRow.id
  missing := .recordNotFound "Device"

def categories : CatalogTable CategoryRow where
  rows s := s.categories
  put rows s := { s with categories := rows }
  key := CategoryRow.id
  missing := .recordNotFound "Category"

def modifierGroups : CatalogTable ModifierGroupRow where
  rows s := s.modifierGroups
  put rows s := { s with modifierGroups := rows }
  key := ModifierGroupRow.id
  missing := .recordNotFound "ModifierGroup"

def modifierOptions : CatalogTable ModifierOptionRow where
  rows s := s.modifierOptions
  put rows s := { s with modifierOptions := rows }
  key := ModifierOptionRow.id
  missing := .recordNotFound "ModifierOption"

def products : CatalogTable ProductRow where
  rows s := s.products
  put rows s := { s with products := rows }
  key := ProductRow.id
  missing := .recordNotFound "Product"

def productVariants : CatalogTable ProductVariantRow where
  rows s := s.productVariants
  put rows s := { s with productVariants := rows }
  key := ProductVariantRow.id
  missing := .recordNotFound "ProductVariant"

def freshId : CatalogTransaction Id := do
  let id ← Tx.read fun s => .ok s.nextId
  Tx.write fun s => { s with nextId := s.nextId + 1 }
  pure id

/-- The column `tenantId` refers to a tenant. -/
def tenantExists (tenantId : Id) : CatalogTransaction Unit :=
  Tx.read fun s => rejectIf (tenantId ∉ s.tenants) .typeError

section
variable {α κ : Type} [DecidableEq κ]

/-- A new row, refused when another one has the same `unique` columns. -/
def insertRow (t : CatalogTable α) (unique : α → κ) (model : String) (row : Id → α) :
    CatalogTransaction α := do
  let id ← freshId
  Tx.read fun s => rejectIf (∃ other ∈ t.rows s, unique other = unique (row id))
    (.uniqueConstraint model)
  t.create (row id)

/-- A change of one row, refused when another one has the `unique` columns that it gives. -/
def rewriteRow (t : CatalogTable α) (unique : α → κ) (model : String) (id : Id) (change : α → α) :
    CatalogTransaction α := do
  let row ← Tx.read (t.findUniqueOrThrow id)
  Tx.read fun s => rejectIf
    (∃ other ∈ t.rows s, t.key other ≠ id ∧ unique other = unique (change row))
    (.uniqueConstraint model)
  t.update id change

end

/-- A text given and not empty replaces the old one. -/
def textGiven (given : Option String) (current : String) : String :=
  match given with
  | some text => if text = "" then current else text
  | none => current

def replaceAvailabilityWindows (tenantId : Id) (targetType : AvailabilityTargetType) (targetId : Id)
    (windows : List AvailabilityWindowInput) : CatalogTransaction Unit :=
  Tx.write fun s => { s with
    availabilityWindows := (s.availabilityWindows.filter fun window =>
        ¬(window.targetType = targetType ∧ window.targetId = targetId)) ++
      windows.map fun window => { window with tenantId, targetType, targetId } }

section
variable {s s' : CatalogDb}

theorem freshId_ok_iff {id : Id} :
    freshId s = .ok (id, s') ↔ id = s.nextId ∧ s' = { s with nextId := s.nextId + 1 } := by
  simp only [freshId, Tx.bind_ok_iff, Tx.read_ok_iff, Tx.write_ok_iff, Tx.pure_ok_iff]
  constructor
  · rintro ⟨_, _, ⟨read, rfl⟩, _, _, rfl, rfl, rfl⟩
    exact ⟨(Except.ok.inj read).symm, rfl⟩
  · rintro ⟨rfl, rfl⟩
    exact ⟨_, _, ⟨rfl, rfl⟩, (), _, rfl, rfl, rfl⟩

variable {α κ : Type} [DecidableEq κ] {t : CatalogTable α} {unique : α → κ} {model : String}
  {row : α}

theorem insertRow_ok {make : Id → α} (h : insertRow t unique model make s = .ok (row, s')) :
    row = make s.nextId ∧
      s' = t.put (t.rows { s with nextId := s.nextId + 1 } ++ [row])
        { s with nextId := s.nextId + 1 } := by
  simp only [insertRow, Tx.bind_ok_iff, Tx.read_ok_iff, freshId_ok_iff, Table.create_ok_iff] at h
  obtain ⟨_, _, ⟨rfl, rfl⟩, _, _, ⟨-, rfl⟩, rfl, rfl⟩ := h
  exact ⟨rfl, rfl⟩

theorem rewriteRow_ok {id : Id} {change : α → α}
    (h : rewriteRow t unique model id change s = .ok (row, s')) :
    s' = t.put (Rows.modify t.key id change (t.rows s)) s := by
  simp only [rewriteRow, Tx.bind_ok_iff, Tx.read_ok_iff, Table.update_ok_iff] at h
  obtain ⟨_, _, ⟨-, rfl⟩, _, _, ⟨-, rfl⟩, _, -, -, rfl⟩ := h
  rfl

end

end Exetron.Catalog
