import Exetron.Catalog.Tables

/-!
# Devices, categories and modifiers

The creating and updating calls of `DevicesService`, `CategoriesService` and `ModifiersService`.
-/

namespace Exetron.Catalog

open Lib Tx

structure CreateDeviceDto where
  (tenantId storeId : Id)
  (code name : String)
  type : DeviceType

structure UpdateDeviceDto where
  storeId : Option Id := none
  code : Option String := none
  name : Option String := none
  type : Option DeviceType := none
  status : Option DeviceStatus := none

def DeviceRow.codeKey (row : DeviceRow) : Id × String := (row.tenantId, row.code)

def newDevice (tenantId : Id) (dto : CreateDeviceDto) (id : Id) : DeviceRow :=
  { id, tenantId, storeId := dto.storeId, code := dto.code, name := dto.name, type := dto.type
    status := .active }

def deviceChanged (dto : UpdateDeviceDto) (current : DeviceRow) : DeviceRow :=
  { current with
    storeId := dto.storeId.getD current.storeId
    code := textGiven dto.code current.code
    name := textGiven dto.name current.name
    type := dto.type.getD current.type
    status := dto.status.getD current.status }

namespace DevicesService

def create (context : RequestContext) (dto : CreateDeviceDto) : CatalogTransaction DeviceRow := do
  let tenantId ← Tx.lift (resolveTenantId context (some dto.tenantId))
  Tx.lift (enforceStoreAccess context dto.storeId)
  let store ← Tx.read (stores.findUniqueOrThrow dto.storeId)
  -- a platform administrator passes this check with any store
  let _ ← Tx.lift (resolveTenantId context (some store.tenantId))
  tenantExists tenantId
  insertRow devices DeviceRow.codeKey "Device" (newDevice tenantId dto)

def update (context : RequestContext) (deviceId : Id) (dto : UpdateDeviceDto) :
    CatalogTransaction DeviceRow := do
  let current ← Tx.read (devices.findUniqueOrThrow deviceId)
  Tx.lift (authorize context current.tenantId current.storeId)
  Tx.read fun s => rejectIf (∃ storeId ∈ dto.storeId, storeId ∉ s.stores.map Store.id) .typeError
  rewriteRow devices DeviceRow.codeKey "Device" deviceId (deviceChanged dto)

end DevicesService

structure CreateCategoryDto where
  tenantId : Id
  parentId : Option Id := none
  (code name : String)
  description : Option String := none
  sortOrder : Option Int := none

structure UpdateCategoryDto where
  parentId : Option (Option Id) := none
  code : Option String := none
  name : Option String := none
  description : Option (Option String) := none
  sortOrder : Option Int := none
  status : Option CatalogStatus := none

def CategoryRow.codeKey (row : CategoryRow) : Id × String := (row.tenantId, row.code)

def newCategory (tenantId : Id) (dto : CreateCategoryDto) (id : Id) : CategoryRow :=
  { id, tenantId, parentId := dto.parentId, code := dto.code, name := dto.name
    description := dto.description, sortOrder := dto.sortOrder.getD 0, status := .active }

def categoryChanged (dto : UpdateCategoryDto) (current : CategoryRow) : CategoryRow :=
  { current with
    parentId := dto.parentId.getD current.parentId
    code := textGiven dto.code current.code
    name := textGiven dto.name current.name
    description := dto.description.getD current.description
    sortOrder := dto.sortOrder.getD current.sortOrder
    status := dto.status.getD current.status }

namespace CategoriesService

def admitParent (context : RequestContext) (parentId : Option Id) : CatalogTransaction Unit :=
  match parentId with
  | none => pure ()
  | some parentId => do
    let parent ← Tx.read (categories.findUniqueOrThrow parentId)
    let _ ← Tx.lift (resolveTenantId context (some parent.tenantId))
    pure ()

def create (context : RequestContext) (dto : CreateCategoryDto) :
    CatalogTransaction CategoryRow := do
  let tenantId ← Tx.lift (resolveTenantId context (some dto.tenantId))
  admitParent context dto.parentId
  tenantExists tenantId
  insertRow categories CategoryRow.codeKey "Category" (newCategory tenantId dto)

def update (context : RequestContext) (categoryId : Id) (dto : UpdateCategoryDto) :
    CatalogTransaction CategoryRow := do
  let current ← Tx.read (categories.findUniqueOrThrow categoryId)
  let _ ← Tx.lift (resolveTenantId context (some current.tenantId))
  admitParent context dto.parentId.join
  rewriteRow categories CategoryRow.codeKey "Category" categoryId (categoryChanged dto)

end CategoriesService

structure CreateModifierGroupDto where
  tenantId : Id
  (code name : String)
  description : Option String := none
  selectionMode : Option ModifierSelectionMode := none
  minSelection : Option Int := none
  maxSelection : Option Int := none
  required : Option Bool := none

structure UpdateModifierGroupDto where
  code : Option String := none
  name : Option String := none
  description : Option (Option String) := none
  selectionMode : Option ModifierSelectionMode := none
  minSelection : Option Int := none
  maxSelection : Option (Option Int) := none
  required : Option Bool := none
  status : Option CatalogStatus := none

structure CreateModifierOptionDto where
  (code name : String)
  priceDelta : Option Money := none

structure UpdateModifierOptionDto where
  code : Option String := none
  name : Option String := none
  priceDelta : Option Money := none
  status : Option CatalogStatus := none

def ModifierGroupRow.codeKey (row : ModifierGroupRow) : Id × String := (row.tenantId, row.code)

def ModifierOptionRow.codeKey (row : ModifierOptionRow) : Id × String := (row.groupId, row.code)

def newModifierGroup (tenantId : Id) (dto : CreateModifierGroupDto) (id : Id) : ModifierGroupRow :=
  { id, tenantId, code := dto.code, name := dto.name, description := dto.description
    selectionMode := dto.selectionMode.getD .single, minSelection := dto.minSelection.getD 0
    maxSelection := dto.maxSelection, required := dto.required.getD false, status := .active }

def modifierGroupChanged (dto : UpdateModifierGroupDto) (current : ModifierGroupRow) :
    ModifierGroupRow :=
  { current with
    code := textGiven dto.code current.code
    name := textGiven dto.name current.name
    description := dto.description.getD current.description
    selectionMode := dto.selectionMode.getD current.selectionMode
    minSelection := dto.minSelection.getD current.minSelection
    maxSelection := dto.maxSelection.getD current.maxSelection
    required := dto.required.getD current.required
    status := dto.status.getD current.status }

def newModifierOption (group : ModifierGroupRow) (dto : CreateModifierOptionDto) (id : Id) :
    ModifierOptionRow :=
  { id, tenantId := group.tenantId, groupId := group.id, code := dto.code, name := dto.name
    status := .active, priceDelta := dto.priceDelta.getD 0 }

def modifierOptionChanged (dto : UpdateModifierOptionDto) (current : ModifierOptionRow) :
    ModifierOptionRow :=
  { current with
    code := textGiven dto.code current.code
    name := textGiven dto.name current.name
    priceDelta := dto.priceDelta.getD current.priceDelta
    status := dto.status.getD current.status }

namespace ModifiersService

def createGroup (context : RequestContext) (dto : CreateModifierGroupDto) :
    CatalogTransaction ModifierGroupRow := do
  let tenantId ← Tx.lift (resolveTenantId context (some dto.tenantId))
  tenantExists tenantId
  insertRow modifierGroups ModifierGroupRow.codeKey "ModifierGroup" (newModifierGroup tenantId dto)

def updateGroup (context : RequestContext) (groupId : Id) (dto : UpdateModifierGroupDto) :
    CatalogTransaction ModifierGroupRow := do
  let current ← Tx.read (modifierGroups.findUniqueOrThrow groupId)
  let _ ← Tx.lift (resolveTenantId context (some current.tenantId))
  rewriteRow modifierGroups ModifierGroupRow.codeKey "ModifierGroup" groupId
    (modifierGroupChanged dto)

def createOption (context : RequestContext) (groupId : Id) (dto : CreateModifierOptionDto) :
    CatalogTransaction ModifierOptionRow := do
  let group ← Tx.read (modifierGroups.findUniqueOrThrow groupId)
  let _ ← Tx.lift (resolveTenantId context (some group.tenantId))
  insertRow modifierOptions ModifierOptionRow.codeKey "ModifierOption" (newModifierOption group dto)

def updateOption (context : RequestContext) (groupId optionId : Id)
    (dto : UpdateModifierOptionDto) : CatalogTransaction ModifierOptionRow := do
  let option ← Tx.read (modifierOptions.findUniqueOrThrow optionId)
  let _ ← Tx.lift (resolveTenantId context (some option.tenantId))
  Tx.lift (rejectIf (option.groupId ≠ groupId)
    (.badRequest "Modifier option does not belong to the requested group."))
  rewriteRow modifierOptions ModifierOptionRow.codeKey "ModifierOption" optionId
    (modifierOptionChanged dto)

end ModifiersService

section
variable {context : RequestContext} {s s' : CatalogDb}

theorem createDevice_ok {dto : CreateDeviceDto} {row : DeviceRow}
    (h : DevicesService.create context dto s = .ok (row, s')) :
    ∃ tenantId, resolveTenantId context (some dto.tenantId) = .ok tenantId ∧
      row = newDevice tenantId dto s.nextId ∧
      s' = { s with devices := s.devices ++ [row], nextId := s.nextId + 1 } := by
  simp only [DevicesService.create, bind_ok_iff, read_ok_iff, lift_ok_iff, tenantExists] at h
  obtain ⟨tenantId, _, ⟨resolved, rfl⟩, _, _, ⟨-, rfl⟩, _, _, ⟨-, rfl⟩, _, _, ⟨-, rfl⟩, _, _,
    ⟨-, rfl⟩, inserted⟩ := h
  exact ⟨tenantId, resolved, insertRow_ok inserted⟩

theorem updateDevice_ok {deviceId : Id} {dto : UpdateDeviceDto} {row : DeviceRow}
    (h : DevicesService.update context deviceId dto s = .ok (row, s')) :
    s' = { s with devices := Rows.modify DeviceRow.id deviceId (deviceChanged dto) s.devices } := by
  simp only [DevicesService.update, bind_ok_iff, read_ok_iff, lift_ok_iff] at h
  obtain ⟨_, _, ⟨-, rfl⟩, _, _, ⟨-, rfl⟩, _, _, ⟨-, rfl⟩, rewritten⟩ := h
  exact rewriteRow_ok rewritten

theorem admitParent_ok {parentId : Option Id} {u : Unit}
    (h : CategoriesService.admitParent context parentId s = .ok (u, s')) :
    s' = s ∧ ∀ asked ∈ parentId, ∃ parent ∈ s.categories, parent.id = asked := by
  cases parentId with
  | none =>
    obtain ⟨-, rfl⟩ := pure_ok_iff.mp h
    exact ⟨rfl, fun asked given => by cases given⟩
  | some asked =>
    simp only [CategoriesService.admitParent, bind_ok_iff, read_ok_iff, lift_ok_iff,
      pure_ok_iff, Table.findUniqueOrThrow_ok_iff] at h
    obtain ⟨parent, _, ⟨found, rfl⟩, _, _, ⟨-, rfl⟩, -, rfl⟩ := h
    refine ⟨rfl, fun asked' given => ?_⟩
    obtain rfl := Option.some.inj given
    exact ⟨parent, Table.findUnique_mem found⟩

theorem createCategory_ok {dto : CreateCategoryDto} {row : CategoryRow}
    (h : CategoriesService.create context dto s = .ok (row, s')) :
    (∃ tenantId, resolveTenantId context (some dto.tenantId) = .ok tenantId ∧
      row = newCategory tenantId dto s.nextId) ∧
      (∀ asked ∈ dto.parentId, ∃ parent ∈ s.categories, parent.id = asked) ∧
      s' = { s with categories := s.categories ++ [row], nextId := s.nextId + 1 } := by
  simp only [CategoriesService.create, bind_ok_iff, read_ok_iff, lift_ok_iff, tenantExists] at h
  obtain ⟨tenantId, _, ⟨resolved, rfl⟩, _, _, admitted, _, _, ⟨-, rfl⟩, inserted⟩ := h
  obtain ⟨rfl, known⟩ := admitParent_ok admitted
  obtain ⟨made, stored⟩ := insertRow_ok inserted
  exact ⟨⟨tenantId, resolved, made⟩, known, stored⟩

theorem updateCategory_ok {categoryId : Id} {dto : UpdateCategoryDto} {row : CategoryRow}
    (h : CategoriesService.update context categoryId dto s = .ok (row, s')) : s' = { s with
      categories := Rows.modify CategoryRow.id categoryId (categoryChanged dto) s.categories } := by
  simp only [CategoriesService.update, bind_ok_iff, read_ok_iff, lift_ok_iff] at h
  obtain ⟨_, _, ⟨-, rfl⟩, _, _, ⟨-, rfl⟩, _, _, admitted, rewritten⟩ := h
  obtain ⟨rfl, -⟩ := admitParent_ok admitted
  exact rewriteRow_ok rewritten

theorem createGroup_ok {dto : CreateModifierGroupDto} {row : ModifierGroupRow}
    (h : ModifiersService.createGroup context dto s = .ok (row, s')) : row.id = s.nextId ∧
      s' = { s with modifierGroups := s.modifierGroups ++ [row], nextId := s.nextId + 1 } := by
  simp only [ModifiersService.createGroup, bind_ok_iff, read_ok_iff, lift_ok_iff, tenantExists] at h
  obtain ⟨tenantId, _, ⟨-, rfl⟩, _, _, ⟨-, rfl⟩, inserted⟩ := h
  obtain ⟨rfl, stored⟩ := insertRow_ok inserted
  exact ⟨rfl, stored⟩

theorem updateGroup_ok {groupId : Id} {dto : UpdateModifierGroupDto} {row : ModifierGroupRow}
    (h : ModifiersService.updateGroup context groupId dto s = .ok (row, s')) : s' = { s with
      modifierGroups :=
        Rows.modify ModifierGroupRow.id groupId (modifierGroupChanged dto) s.modifierGroups } := by
  simp only [ModifiersService.updateGroup, bind_ok_iff, read_ok_iff, lift_ok_iff] at h
  obtain ⟨_, _, ⟨-, rfl⟩, _, _, ⟨-, rfl⟩, rewritten⟩ := h
  exact rewriteRow_ok rewritten

theorem createOption_ok {groupId : Id} {dto : CreateModifierOptionDto} {row : ModifierOptionRow}
    (h : ModifiersService.createOption context groupId dto s = .ok (row, s')) :
    (∃ group ∈ s.modifierGroups, row = newModifierOption group dto s.nextId) ∧
      s' = { s with modifierOptions := s.modifierOptions ++ [row], nextId := s.nextId + 1 } := by
  simp only [ModifiersService.createOption, bind_ok_iff, read_ok_iff, lift_ok_iff,
    Table.findUniqueOrThrow_ok_iff] at h
  obtain ⟨group, _, ⟨found, rfl⟩, _, _, ⟨-, rfl⟩, inserted⟩ := h
  obtain ⟨made, stored⟩ := insertRow_ok inserted
  exact ⟨⟨group, (Table.findUnique_mem found).1, made⟩, stored⟩

theorem updateOption_ok {groupId optionId : Id} {dto : UpdateModifierOptionDto}
    {row : ModifierOptionRow}
    (h : ModifiersService.updateOption context groupId optionId dto s = .ok (row, s')) :
    s' = { s with
      modifierOptions := Rows.modify ModifierOptionRow.id optionId (modifierOptionChanged dto)
        s.modifierOptions } := by
  simp only [ModifiersService.updateOption, bind_ok_iff, read_ok_iff, lift_ok_iff] at h
  obtain ⟨_, _, ⟨-, rfl⟩, _, _, ⟨-, rfl⟩, _, _, ⟨-, rfl⟩, rewritten⟩ := h
  exact rewriteRow_ok rewritten

end

end Exetron.Catalog
