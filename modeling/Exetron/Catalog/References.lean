import Exetron.Catalog.Products
import Exetron.Catalog.Services
import Exetron.Lib.Trace

/-!
# References between tenants

Every row of the catalogue refers to rows of its own tenant as long as no accepted call gives a
device a store, or a category a parent, of another one: products, variants and modifiers check what
they refer to against the tenant of the row, devices and categories only against the caller.
-/

namespace Exetron.Catalog

open Lib List Rows

variable {next : Id} {targetType : AvailabilityTargetType}

inductive CatalogOperation where
  | createDevice (dto : CreateDeviceDto)
  | updateDevice (deviceId : Id) (dto : UpdateDeviceDto)
  | createCategory (dto : CreateCategoryDto)
  | updateCategory (categoryId : Id) (dto : UpdateCategoryDto)
  | createGroup (dto : CreateModifierGroupDto)
  | updateGroup (groupId : Id) (dto : UpdateModifierGroupDto)
  | createOption (groupId : Id) (dto : CreateModifierOptionDto)
  | updateOption (groupId optionId : Id) (dto : UpdateModifierOptionDto)
  | createProduct (dto : CreateProductDto)
  | updateProduct (productId : Id) (dto : UpdateProductDto)
  | createVariant (productId : Id) (dto : CreateProductVariantDto)
  | updateVariant (productId variantId : Id) (dto : UpdateProductVariantDto)

/-- Any caller may ask for any operation. -/
structure CatalogEvent where
  context : RequestContext
  operation : CatalogOperation

def CatalogDb.after {α : Type} (s : CatalogDb) (transaction : CatalogTransaction α) : CatalogDb :=
  (Call.exec (Call.transact transaction) s).2

def catalogStep (s : CatalogDb) (e : CatalogEvent) : CatalogDb :=
  match e.operation with
  | .createDevice dto => s.after (DevicesService.create e.context dto)
  | .updateDevice deviceId dto => s.after (DevicesService.update e.context deviceId dto)
  | .createCategory dto => s.after (CategoriesService.create e.context dto)
  | .updateCategory categoryId dto => s.after (CategoriesService.update e.context categoryId dto)
  | .createGroup dto => s.after (ModifiersService.createGroup e.context dto)
  | .updateGroup groupId dto => s.after (ModifiersService.updateGroup e.context groupId dto)
  | .createOption groupId dto => s.after (ModifiersService.createOption e.context groupId dto)
  | .updateOption groupId optionId dto =>
    s.after (ModifiersService.updateOption e.context groupId optionId dto)
  | .createProduct dto => s.after (ProductsService.create e.context dto)
  | .updateProduct productId dto => s.after (ProductsService.update e.context productId dto)
  | .createVariant productId dto => s.after (ProductsService.createVariant e.context productId dto)
  | .updateVariant productId variantId dto =>
    s.after (ProductsService.updateVariant e.context productId variantId dto)

def CatalogDb.initial (tenants : List Id) (stores : Rows.Keyed Store Store.id)
    (brands : Rows.Keyed Brand Brand.id) : CatalogDb where
  tenants
  stores := stores.1
  brands := brands.1
  devices := []
  categories := []
  modifierGroups := []
  modifierOptions := []
  products := []
  productModifierGroups := []
  productVariants := []
  availabilityWindows := []
  nextId := 0

def catalogRun (tenants : List Id) (stores : Rows.Keyed Store Store.id)
    (brands : Rows.Keyed Brand Brand.id) (events : List CatalogEvent) : CatalogDb :=
  Trace.run catalogStep (.initial tenants stores brands) events

def Attached {α β : Type} (key owner : α → Id) (about : β → Id → Prop) (good : Id → β → Prop)
    (rows : List α) (parts : List β) : Prop :=
  ∀ row ∈ rows, ∀ part ∈ parts, about part (key row) → good (owner row) part

def ProductModifierGroup.About (link : ProductModifierGroup) (id : Id) : Prop :=
  link.productId = id

def AvailabilityWindowRow.About (targetType : AvailabilityTargetType)
    (window : AvailabilityWindowRow) (id : Id) : Prop :=
  window.targetType = targetType ∧ window.targetId = id

def CatalogDb.Links (s : CatalogDb) (tenantId : Id) (link : ProductModifierGroup) : Prop :=
  s.HasGroup tenantId link.modifierGroupId

def CatalogDb.Opens (s : CatalogDb) (tenantId : Id) (window : AvailabilityWindowRow) : Prop :=
  ∀ storeId ∈ window.storeId, s.HasStore tenantId storeId

/-- What each row refers to is its tenant's. -/
structure References (s : CatalogDb) : Prop where
  devices : ∀ device ∈ s.devices, s.HasStore device.tenantId device.storeId
  parents : ∀ category ∈ s.categories, ∀ parentId ∈ category.parentId,
    s.HasCategory category.tenantId parentId
  categories : ∀ product ∈ s.products, ∀ categoryId ∈ product.categoryId,
    s.HasCategory product.tenantId categoryId
  brands : ∀ product ∈ s.products, ∀ brandId ∈ product.brandId, s.HasBrand product.tenantId brandId
  groups : Attached ProductRow.id ProductRow.tenantId ProductModifierGroup.About s.Links
    s.products s.productModifierGroups
  windows : Attached ProductRow.id ProductRow.tenantId (AvailabilityWindowRow.About .product)
    s.Opens s.products s.availabilityWindows
  variants : ∀ variant ∈ s.productVariants, s.HasProduct variant.tenantId variant.productId
  variantWindows : Attached ProductVariantRow.id ProductVariantRow.tenantId
    (AvailabilityWindowRow.About .variant) s.Opens s.productVariants s.availabilityWindows
  options : ∀ option ∈ s.modifierOptions, s.HasGroup option.tenantId option.groupId

def Accepted {α : Type} (transaction : CatalogTransaction α) (s : CatalogDb) : Prop :=
  ∃ row s', transaction s = .ok (row, s')

def KeepsTenant (s : CatalogDb) (e : CatalogEvent) : Prop :=
  match e.operation with
  | .createDevice dto => Accepted (DevicesService.create e.context dto) s →
      ∀ tenantId, resolveTenantId e.context (some dto.tenantId) = .ok tenantId →
        s.HasStore tenantId dto.storeId
  | .updateDevice deviceId dto => Accepted (DevicesService.update e.context deviceId dto) s →
      ∀ storeId ∈ dto.storeId, ∀ device ∈ s.devices, device.id = deviceId →
        s.HasStore device.tenantId storeId
  | .createCategory dto => Accepted (CategoriesService.create e.context dto) s →
      ∀ tenantId, resolveTenantId e.context (some dto.tenantId) = .ok tenantId →
        ∀ parentId ∈ dto.parentId, s.HasCategory tenantId parentId
  | .updateCategory categoryId dto =>
    Accepted (CategoriesService.update e.context categoryId dto) s →
      ∀ parentId ∈ dto.parentId.join, ∀ category ∈ s.categories, category.id = categoryId →
        s.HasCategory category.tenantId parentId
  | _ => True

/-- The identifiers are distinct and were given out before. -/
structure Issued (ids : List Id) (next : Id) : Prop where
  distinct : ids.Nodup
  old : ∀ id ∈ ids, id < next

theorem Issued.later {ids : List Id} (issued : Issued ids next) : Issued ids (next + 1) :=
  ⟨issued.distinct, fun id listed => Nat.lt_succ_of_lt (issued.old id listed)⟩

theorem Issued.new {ids : List Id} (issued : Issued ids next) : Issued (ids ++ [next]) (next + 1) :=
  ⟨nodup_append_new issued.distinct issued.old, old_append_new issued.old⟩

theorem issued_nil : Issued [] 0 := ⟨nodup_nil, fun _ listed => absurd listed not_mem_nil⟩

structure CatalogKeys (s : CatalogDb) : Prop where
  stores : (s.stores.map Store.id).Nodup
  categories : Issued (s.categories.map CategoryRow.id) s.nextId
  groups : Issued (s.modifierGroups.map ModifierGroupRow.id) s.nextId
  products : Issued (s.products.map ProductRow.id) s.nextId
  variants : Issued (s.productVariants.map ProductVariantRow.id) s.nextId
  links : ∀ link ∈ s.productModifierGroups, link.productId < s.nextId
  windows : ∀ window ∈ s.availabilityWindows, window.targetId < s.nextId

theorem CatalogKeys.later {s : CatalogDb} (keys : CatalogKeys s) :
    CatalogKeys { s with nextId := s.nextId + 1 } where
  stores := keys.stores
  categories := keys.categories.later
  groups := keys.groups.later
  products := keys.products.later
  variants := keys.variants.later
  links link listed := Nat.lt_succ_of_lt (keys.links link listed)
  windows window listed := Nat.lt_succ_of_lt (keys.windows window listed)

theorem Issued.appended {α : Type} {key : α → Id} {rows : List α} {row : α}
    (issued : Issued (rows.map key) next) (is : key row = next) :
    Issued ((rows ++ [row]).map key) (next + 1) := by
  rw [map_append, map_singleton, is]
  exact issued.new

theorem Issued.modified {α : Type} {key : α → Id} {rows : List α} {id : Id} {change : α → α}
    (issued : Issued (rows.map key) next) (keeps : ∀ row, key (change row) = key row) :
    Issued ((Rows.modify key id change rows).map key) next := by
  rw [map_modify keeps]
  exact issued

theorem Issued.other {α : Type} {key : α → Id} {rows : List α}
    (issued : Issued (rows.map key) next) : ∀ row ∈ rows, key row ≠ next :=
  fun _ listed => Nat.ne_of_lt (issued.old _ (mem_map_of_mem listed))

section
variable {α β : Type} {key owner : α → Id} {rows : List α} {tenantId id : Id}

theorem owned_append {extra : List α} (h : Owned key owner rows tenantId id) :
    Owned key owner (rows ++ extra) tenantId id := by
  obtain ⟨row, stored, is⟩ := h
  exact ⟨row, mem_append_left _ stored, is⟩

theorem owned_of_append {row : α} (other : key row ≠ id)
    (h : Owned key owner (rows ++ [row]) tenantId id) : Owned key owner rows tenantId id := by
  obtain ⟨found, stored, keyed, own⟩ := h
  rcases mem_append.mp stored with old | new
  · exact ⟨found, old, keyed, own⟩
  · rw [mem_singleton.mp new] at keyed
    exact absurd keyed other

theorem owned_modify (changed : Id) (change : α → α)
    (keeps : ∀ row, key (change row) = key row ∧ owner (change row) = owner row) :
    Owned key owner (Rows.modify key changed change rows) tenantId id ↔
      Owned key owner rows tenantId id := by
  have same (row : α) : key (if key row = changed then change row else row) = key row ∧
      owner (if key row = changed then change row else row) = owner row := by
    split
    · exact keeps row
    · exact ⟨rfl, rfl⟩
  constructor
  · rintro ⟨_, stored, keyed, own⟩
    obtain ⟨row, old, rfl⟩ := mem_modify.mp stored
    exact ⟨row, old, (same row).1.symm.trans keyed, (same row).2.symm.trans own⟩
  · rintro ⟨row, old, keyed, own⟩
    exact ⟨_, mem_modify.mpr ⟨row, old, rfl⟩, (same row).1.trans keyed, (same row).2.trans own⟩

variable {about : β → Id → Prop} {good good' : Id → β → Prop} {parts parts' : List β}

theorem attached_mono (weaker : ∀ tenantId part, good tenantId part → good' tenantId part)
    (h : Attached key owner about good rows parts) : Attached key owner about good' rows parts :=
  fun row stored part listed mine => weaker _ _ (h row stored part listed mine)

theorem attached_modify {changed : Id} {change : α → α}
    (keeps : ∀ row, key (change row) = key row ∧ owner (change row) = owner row)
    (h : Attached key owner about good rows parts) :
    Attached key owner about good (Rows.modify key changed change rows) parts := by
  intro row stored part listed mine
  rcases mem_of_modify stored with old | ⟨row₀, old, -, rfl⟩
  · exact h row old part listed mine
  · rw [(keeps row₀).1] at mine
    rw [(keeps row₀).2]
    exact h row₀ old part listed mine

theorem attached_others (h : Attached key owner about good rows parts)
    (source : ∀ part ∈ parts', part ∈ parts ∨ ∀ id, ¬about part id) :
    Attached key owner about good rows parts' := by
  intro row stored part listed mine
  rcases source part listed with old | none
  · exact h row stored part old mine
  · exact absurd mine (none _)

theorem attached_replaced {current : α} (unique : (rows.map key).Nodup) (stored : current ∈ rows)
    (h : Attached key owner about good rows parts) (source : ∀ part ∈ parts', part ∈ parts ∨
      (∀ id, about part id → id = key current) ∧ good (owner current) part) :
    Attached key owner about good rows parts' := by
  intro row member part listed mine
  rcases source part listed with old | ⟨only, fine⟩
  · exact h row member part old mine
  · rw [eq_of_key unique member stored (only _ mine)]
    exact fine

theorem attached_added (new : α) (other : ∀ row ∈ rows, key row ≠ key new)
    (fresh : ∀ part ∈ parts, ¬about part (key new)) (h : Attached key owner about good rows parts)
    (source : ∀ part ∈ parts', part ∈ parts ∨
      (∀ id, about part id → id = key new) ∧ good (owner new) part) :
    Attached key owner about good (rows ++ [new]) parts' := by
  intro row member part listed mine
  rcases mem_append.mp member with stored | is
  · rcases source part listed with old | ⟨only, -⟩
    · exact h row stored part old mine
    · exact absurd (only _ mine) (other row stored)
  · obtain rfl := mem_singleton.mp is
    rcases source part listed with old | ⟨-, fine⟩
    · exact absurd mine (fresh part old)
    · exact fine

end

section
variable {s : CatalogDb} {tenantId productId targetId : Id}

theorem mem_modifierGroupLinks {groupIds : List Id} {link : ProductModifierGroup}
    (h : link ∈ modifierGroupLinks tenantId productId groupIds) :
    link.productId = productId ∧ link.modifierGroupId ∈ groupIds := by
  obtain ⟨index, bound, rfl⟩ := mem_mapIdx.mp h
  exact ⟨rfl, getElem_mem bound⟩

theorem mem_linksReplaced {groupIds : Option (List Id)} {rows : List ProductModifierGroup}
    {link : ProductModifierGroup} (h : link ∈ linksReplaced tenantId productId groupIds rows) :
    link ∈ rows ∨ link.productId = productId ∧ link.modifierGroupId ∈ groupIds.getD [] := by
  cases groupIds with
  | none => exact .inl h
  | some groupIds =>
    rcases mem_append.mp h with old | new
    · exact .inl (mem_filter.mp old).1
    · exact .inr (mem_modifierGroupLinks new)

theorem mem_windowsReplaced {windows : Option (List AvailabilityWindowInput)}
    {rows : List AvailabilityWindowRow} {window : AvailabilityWindowRow}
    (h : window ∈ windowsReplaced tenantId targetType targetId windows rows) :
    window ∈ rows ∨ window.targetType = targetType ∧ window.targetId = targetId ∧
      ∃ given ∈ windows.getD [], window.storeId = given.storeId := by
  cases windows with
  | none => exact .inl h
  | some windows =>
    rcases mem_append.mp h with old | new
    · exact .inl (mem_filter.mp old).1
    · obtain ⟨given, listed, rfl⟩ := mem_map.mp new
      exact .inr ⟨rfl, rfl, given, listed, rfl⟩

theorem linksAdded_good {groupIds : List Id}
    (owned : ∀ asked ∈ groupIds, s.HasGroup tenantId asked) :
    ∀ link ∈ s.productModifierGroups ++ modifierGroupLinks tenantId productId groupIds,
      link ∈ s.productModifierGroups ∨
        (∀ id, link.About id → id = productId) ∧ s.Links tenantId link := by
  intro link listed
  rcases mem_append.mp listed with old | new
  · exact .inl old
  · obtain ⟨mine, given⟩ := mem_modifierGroupLinks new
    exact .inr ⟨fun id about => about.symm.trans mine, owned _ given⟩

theorem linksReplaced_good {groupIds : Option (List Id)}
    (owned : ∀ asked ∈ groupIds.getD [], s.HasGroup tenantId asked) :
    ∀ link ∈ linksReplaced tenantId productId groupIds s.productModifierGroups,
      link ∈ s.productModifierGroups ∨
        (∀ id, link.About id → id = productId) ∧ s.Links tenantId link := by
  intro link listed
  rcases mem_linksReplaced listed with old | ⟨mine, given⟩
  · exact .inl old
  · exact .inr ⟨fun id about => about.symm.trans mine, owned _ given⟩

theorem windowsReplaced_good (windows : Option (List AvailabilityWindowInput))
    (opened : OpenIn s tenantId (windows.getD [])) :
    ∀ window ∈ windowsReplaced tenantId targetType targetId windows s.availabilityWindows,
      window ∈ s.availabilityWindows ∨
        (∀ id, window.About targetType id → id = targetId) ∧ s.Opens tenantId window := by
  intro window listed
  rcases mem_windowsReplaced listed with old | ⟨-, mine, given, asked, same⟩
  · exact .inl old
  · refine .inr ⟨fun id about => about.2.symm.trans mine, fun storeId is => ?_⟩
    rw [same] at is
    exact opened given asked storeId is

theorem windowsReplaced_other {other : AvailabilityTargetType}
    (windows : Option (List AvailabilityWindowInput)) (ne : targetType ≠ other) :
    ∀ window ∈ windowsReplaced tenantId targetType targetId windows s.availabilityWindows,
      window ∈ s.availabilityWindows ∨ ∀ id, ¬window.About other id := by
  intro window listed
  rcases mem_windowsReplaced listed with old | ⟨kind, -⟩
  · exact .inl old
  · exact .inr fun id about => ne (kind.symm.trans about.1)

theorem windowsReplaced_old (windows : Option (List AvailabilityWindowInput))
    {rows : List AvailabilityWindowRow} (target : targetId < next)
    (old : ∀ window ∈ rows, window.targetId < next) :
    ∀ window ∈ windowsReplaced tenantId targetType targetId windows rows,
      window.targetId < next := by
  intro window listed
  rcases mem_windowsReplaced listed with stored | ⟨-, mine, -⟩
  · exact old window stored
  · rw [mine]
    exact target

theorem linksAdded_old {groupIds : List Id} {rows : List ProductModifierGroup}
    (target : productId < next) (old : ∀ link ∈ rows, link.productId < next) :
    ∀ link ∈ rows ++ modifierGroupLinks tenantId productId groupIds, link.productId < next := by
  intro link listed
  rcases mem_append.mp listed with stored | new
  · exact old link stored
  · rw [(mem_modifierGroupLinks new).1]
    exact target

theorem linksReplaced_old {groupIds : Option (List Id)} {rows : List ProductModifierGroup}
    (target : productId < next) (old : ∀ link ∈ rows, link.productId < next) :
    ∀ link ∈ linksReplaced tenantId productId groupIds rows, link.productId < next := by
  intro link listed
  rcases mem_linksReplaced listed with stored | ⟨mine, -⟩
  · exact old link stored
  · rw [mine]
    exact target

end

section
variable {context : RequestContext} {s s' : CatalogDb}

theorem after_cases {α : Type} (s : CatalogDb) (transaction : CatalogTransaction α) :
    s.after transaction = s ∨ ∃ row, transaction s = .ok (row, s.after transaction) := by
  unfold CatalogDb.after
  rw [Call.exec_transact]
  cases ran : transaction s with
  | error e => exact .inl rfl
  | ok done => exact .inr ⟨done.1, rfl⟩

theorem after_of {α : Type} {P : CatalogDb → Prop} {transaction : CatalogTransaction α} (init : P s)
    (accepted : ∀ row s', transaction s = .ok (row, s') → P s') : P (s.after transaction) := by
  rcases after_cases s transaction with same | ⟨row, ran⟩
  · rw [same]
    exact init
  · exact accepted row _ ran

theorem keys_step (e : CatalogEvent) (keys : CatalogKeys s) : CatalogKeys (catalogStep s e) := by
  obtain ⟨context, operation⟩ := e
  cases operation with
  | createDevice dto =>
    refine after_of keys fun row s' ran => ?_
    obtain ⟨_, -, -, rfl⟩ := createDevice_ok ran
    exact { keys.later with }
  | updateDevice deviceId dto =>
    refine after_of keys fun row s' ran => ?_
    obtain rfl := updateDevice_ok ran
    exact { keys with }
  | createCategory dto =>
    refine after_of keys fun row s' ran => ?_
    obtain ⟨⟨_, -, rfl⟩, -, rfl⟩ := createCategory_ok ran
    exact { keys.later with categories := keys.categories.appended rfl }
  | updateCategory categoryId dto =>
    refine after_of keys fun row s' ran => ?_
    obtain rfl := updateCategory_ok ran
    exact { keys with categories := keys.categories.modified fun _ => rfl }
  | createGroup dto =>
    refine after_of keys fun row s' ran => ?_
    obtain ⟨is, rfl⟩ := createGroup_ok ran
    exact { keys.later with groups := keys.groups.appended is }
  | updateGroup groupId dto =>
    refine after_of keys fun row s' ran => ?_
    obtain rfl := updateGroup_ok ran
    exact { keys with groups := keys.groups.modified fun _ => rfl }
  | createOption groupId dto =>
    refine after_of keys fun row s' ran => ?_
    obtain ⟨-, rfl⟩ := createOption_ok ran
    exact { keys.later with }
  | updateOption groupId optionId dto =>
    refine after_of keys fun row s' ran => ?_
    obtain rfl := updateOption_ok ran
    exact { keys with }
  | createProduct dto =>
    refine after_of keys fun row s' ran => ?_
    obtain ⟨tenantId, rfl, -, -, rfl⟩ := createProduct_ok keys.groups.distinct keys.stores ran
    exact { keys.later with
      products := keys.products.appended rfl
      links := linksAdded_old (Nat.lt_succ_self _) keys.later.links
      windows := windowsReplaced_old (some (dto.availabilityWindows.getD [])) (Nat.lt_succ_self _)
        keys.later.windows }
  | updateProduct productId dto =>
    refine after_of keys fun row s' ran => ?_
    obtain ⟨current, stored, rfl, -, -, rfl⟩ :=
      updateProduct_ok keys.groups.distinct keys.stores ran
    have known := keys.products.old _ (mem_map_of_mem stored)
    exact { keys with
      products := keys.products.modified fun _ => rfl
      links := linksReplaced_old known keys.links
      windows := windowsReplaced_old _ known keys.windows }
  | createVariant productId dto =>
    refine after_of keys fun row s' ran => ?_
    obtain ⟨product, -, rfl, -, rfl⟩ := createVariant_ok keys.stores ran
    exact { keys.later with
      variants := keys.variants.appended rfl
      windows := windowsReplaced_old (some (dto.availabilityWindows.getD [])) (Nat.lt_succ_self _)
        keys.later.windows }
  | updateVariant productId variantId dto =>
    refine after_of keys fun row s' ran => ?_
    obtain ⟨current, stored, rfl, -, rfl⟩ := updateVariant_ok keys.stores ran
    have known := keys.variants.old _ (mem_map_of_mem stored)
    exact { keys with
      variants := keys.variants.modified fun _ => rfl
      windows := windowsReplaced_old _ known keys.windows }

theorem forall_appended {α : Type} {P : α → Prop} {rows : List α} {new : α}
    (old : ∀ row ∈ rows, P row) (own : P new) : ∀ row ∈ rows ++ [new], P row := by
  intro row listed
  rcases mem_append.mp listed with stored | is
  · exact old row stored
  · rw [mem_singleton.mp is]
    exact own

theorem forall_modified {α : Type} {P : α → Prop} {key : α → Id} {id : Id} {change : α → α}
    {rows : List α} (old : ∀ row ∈ rows, P row)
    (changed : ∀ row ∈ rows, key row = id → P (change row)) :
    ∀ row ∈ Rows.modify key id change rows, P row := by
  intro found listed
  rcases mem_of_modify listed with stored | ⟨row, stored, keyed, rfl⟩
  · exact old found stored
  · exact changed row stored keyed

theorem createDevice_references {dto : CreateDeviceDto} (refs : References s)
    (kept : KeepsTenant s ⟨context, .createDevice dto⟩) :
    References (catalogStep s ⟨context, .createDevice dto⟩) := by
  refine after_of refs fun row s' ran => ?_
  obtain ⟨tenantId, resolved, rfl, rfl⟩ := createDevice_ok ran
  have own : s.HasStore tenantId dto.storeId := kept ⟨_, _, ran⟩ tenantId resolved
  have devices : ∀ device ∈ s.devices ++ [newDevice tenantId dto s.nextId],
      s.HasStore device.tenantId device.storeId := forall_appended refs.devices own
  exact { refs with devices }

theorem updateDevice_references {deviceId : Id} {dto : UpdateDeviceDto} (refs : References s)
    (kept : KeepsTenant s ⟨context, .updateDevice deviceId dto⟩) :
    References (catalogStep s ⟨context, .updateDevice deviceId dto⟩) := by
  refine after_of refs fun row s' ran => ?_
  obtain rfl := updateDevice_ok ran
  have devices : ∀ device ∈ modify DeviceRow.id deviceId (deviceChanged dto) s.devices,
      s.HasStore device.tenantId device.storeId := by
    refine forall_modified refs.devices fun device stored keyed => ?_
    rw [deviceChanged]
    cases given : dto.storeId with
    | none => exact refs.devices device stored
    | some storeId => exact kept ⟨_, _, ran⟩ storeId given device stored keyed
  exact { refs with devices }

theorem createCategory_references {dto : CreateCategoryDto} (refs : References s)
    (kept : KeepsTenant s ⟨context, .createCategory dto⟩) :
    References (catalogStep s ⟨context, .createCategory dto⟩) := by
  refine after_of refs fun row s' ran => ?_
  obtain ⟨⟨tenantId, resolved, rfl⟩, -, rfl⟩ := createCategory_ok ran
  have parents : ∀ category ∈ s.categories ++ [newCategory tenantId dto s.nextId],
      ∀ parentId ∈ category.parentId, s.HasCategory category.tenantId parentId :=
    forall_appended refs.parents (kept ⟨_, _, ran⟩ tenantId resolved)
  exact { refs with
    parents := fun category stored id is => owned_append (parents category stored id is)
    categories := fun product stored id is => owned_append (refs.categories product stored id is) }

theorem updateCategory_references {categoryId : Id} {dto : UpdateCategoryDto} (refs : References s)
    (kept : KeepsTenant s ⟨context, .updateCategory categoryId dto⟩) :
    References (catalogStep s ⟨context, .updateCategory categoryId dto⟩) := by
  refine after_of refs fun row s' ran => ?_
  obtain rfl := updateCategory_ok ran
  have same {tenantId id : Id} (h : s.HasCategory tenantId id) := (owned_modify
    categoryId (categoryChanged dto) fun _ => ⟨rfl, rfl⟩).mpr h
  have parents : ∀ category ∈
      modify CategoryRow.id categoryId (categoryChanged dto) s.categories,
      ∀ parentId ∈ category.parentId, s.HasCategory category.tenantId parentId := by
    refine forall_modified refs.parents fun category stored keyed => ?_
    rw [categoryChanged]
    cases given : dto.parentId with
    | none => exact refs.parents category stored
    | some parentId =>
      intro asked is
      refine kept ⟨_, _, ran⟩ asked ?_ category stored keyed
      rw [given]
      exact is
  exact { refs with
    parents := fun category stored id is => same (parents category stored id is)
    categories := fun product stored id is => same (refs.categories product stored id is) }

theorem createGroup_references {dto : CreateModifierGroupDto} (refs : References s) :
    References (catalogStep s ⟨context, .createGroup dto⟩) := by
  refine after_of refs fun row s' ran => ?_
  obtain ⟨-, rfl⟩ := createGroup_ok ran
  exact { refs with
    groups := attached_mono (fun _ _ => owned_append) refs.groups
    options := fun option stored => owned_append (refs.options option stored) }

theorem updateGroup_references {groupId : Id} {dto : UpdateModifierGroupDto}
    (refs : References s) : References (catalogStep s ⟨context, .updateGroup groupId dto⟩) := by
  refine after_of refs fun row s' ran => ?_
  obtain rfl := updateGroup_ok ran
  have same {tenantId id : Id} (h : s.HasGroup tenantId id) := (owned_modify
    groupId (modifierGroupChanged dto) fun _ => ⟨rfl, rfl⟩).mpr h
  exact { refs with
    groups := attached_mono (fun _ _ => same) refs.groups
    options := fun option stored => same (refs.options option stored) }

theorem createOption_references {groupId : Id} {dto : CreateModifierOptionDto}
    (refs : References s) : References (catalogStep s ⟨context, .createOption groupId dto⟩) := by
  refine after_of refs fun row s' ran => ?_
  obtain ⟨⟨group, stored, rfl⟩, rfl⟩ := createOption_ok ran
  have own : s.HasGroup group.tenantId group.id := ⟨group, stored, rfl, rfl⟩
  have options : ∀ option ∈ s.modifierOptions ++ [newModifierOption group dto s.nextId],
      s.HasGroup option.tenantId option.groupId := forall_appended refs.options own
  exact { refs with options }

theorem updateOption_references {groupId optionId : Id} {dto : UpdateModifierOptionDto}
    (refs : References s) :
    References (catalogStep s ⟨context, .updateOption groupId optionId dto⟩) := by
  refine after_of refs fun row s' ran => ?_
  obtain rfl := updateOption_ok ran
  have options : ∀ option ∈ modify ModifierOptionRow.id optionId (modifierOptionChanged dto)
      s.modifierOptions, s.HasGroup option.tenantId option.groupId :=
    forall_modified refs.options fun option stored _ => refs.options option stored
  exact { refs with options }

theorem createProduct_references {dto : CreateProductDto} (keys : CatalogKeys s)
    (refs : References s) : References (catalogStep s ⟨context, .createProduct dto⟩) := by
  refine after_of refs fun row s' ran => ?_
  obtain ⟨tenantId, rfl, own, opened, rfl⟩ := createProduct_ok keys.groups.distinct keys.stores ran
  have categories : ∀ product ∈ s.products ++ [newProduct tenantId dto s.nextId],
      ∀ categoryId ∈ product.categoryId, s.HasCategory product.tenantId categoryId :=
    forall_appended refs.categories own.category
  have brands : ∀ product ∈ s.products ++ [newProduct tenantId dto s.nextId],
      ∀ brandId ∈ product.brandId, s.HasBrand product.tenantId brandId :=
    forall_appended refs.brands own.brand
  have other := keys.products.other
  have freshLink (link : ProductModifierGroup) (stored : link ∈ s.productModifierGroups) :
      ¬link.About s.nextId := Nat.ne_of_lt (keys.links link stored)
  have freshWindow (window : AvailabilityWindowRow) (stored : window ∈ s.availabilityWindows) :
      ¬window.About .product s.nextId :=
    fun about => Nat.ne_of_lt (keys.windows window stored) about.2
  exact { refs with
    categories
    brands
    groups := attached_added (newProduct tenantId dto s.nextId) other freshLink refs.groups
      (linksAdded_good own.groups)
    windows := attached_added (newProduct tenantId dto s.nextId) other freshWindow refs.windows
      (windowsReplaced_good (some (dto.availabilityWindows.getD [])) opened)
    variants := fun variant stored => owned_append (refs.variants variant stored)
    variantWindows := attached_others refs.variantWindows
      (windowsReplaced_other (some (dto.availabilityWindows.getD [])) (by decide)) }

theorem updateProduct_references {productId : Id} {dto : UpdateProductDto} (keys : CatalogKeys s)
    (refs : References s) : References (catalogStep s ⟨context, .updateProduct productId dto⟩) := by
  refine after_of refs fun row s' ran => ?_
  obtain ⟨current, stored, rfl, own, opened, rfl⟩ :=
    updateProduct_ok keys.groups.distinct keys.stores ran
  have only {product : ProductRow} (listed : product ∈ s.products)
      (keyed : product.id = current.id) : product = current :=
    eq_of_key keys.products.distinct listed stored keyed
  have keeps (product : ProductRow) : (productChanged dto product).id = product.id ∧
      (productChanged dto product).tenantId = product.tenantId := ⟨rfl, rfl⟩
  have categories : ∀ product ∈
      modify ProductRow.id current.id (productChanged dto) s.products,
      ∀ categoryId ∈ product.categoryId, s.HasCategory product.tenantId categoryId := by
    refine forall_modified refs.categories fun product listed keyed => ?_
    obtain rfl := only listed keyed
    rw [productChanged]
    cases given : dto.categoryId with
    | none => exact refs.categories product listed
    | some categoryId =>
      have checked := own.category
      rw [given] at checked
      exact checked
  have brands : ∀ product ∈ modify ProductRow.id current.id (productChanged dto) s.products,
      ∀ brandId ∈ product.brandId, s.HasBrand product.tenantId brandId := by
    refine forall_modified refs.brands fun product listed keyed => ?_
    obtain rfl := only listed keyed
    rw [productChanged]
    cases given : dto.brandId with
    | none => exact refs.brands product listed
    | some brandId =>
      have checked := own.brand
      rw [given] at checked
      exact checked
  exact { refs with
    categories
    brands
    groups := attached_modify keeps
      (attached_replaced keys.products.distinct stored refs.groups (linksReplaced_good own.groups))
    windows := attached_modify keeps
      (attached_replaced keys.products.distinct stored refs.windows (windowsReplaced_good _ opened))
    variants := fun variant listed => (owned_modify _ _ keeps).mpr (refs.variants variant listed)
    variantWindows := attached_others refs.variantWindows (windowsReplaced_other _ (by decide)) }

theorem createVariant_references {productId : Id} {dto : CreateProductVariantDto}
    (keys : CatalogKeys s) (refs : References s) :
    References (catalogStep s ⟨context, .createVariant productId dto⟩) := by
  refine after_of refs fun row s' ran => ?_
  obtain ⟨product, stored, rfl, opened, rfl⟩ := createVariant_ok keys.stores ran
  have own : s.HasProduct product.tenantId product.id := ⟨product, stored, rfl, rfl⟩
  have variants : ∀ variant ∈ s.productVariants ++ [newProductVariant product dto s.nextId],
      s.HasProduct variant.tenantId variant.productId := forall_appended refs.variants own
  have freshWindow (window : AvailabilityWindowRow) (stored : window ∈ s.availabilityWindows) :
      ¬window.About .variant s.nextId :=
    fun about => Nat.ne_of_lt (keys.windows window stored) about.2
  exact { refs with
    windows := attached_others refs.windows
      (windowsReplaced_other (some (dto.availabilityWindows.getD [])) (by decide))
    variants
    variantWindows := attached_added (newProductVariant product dto s.nextId)
      keys.variants.other freshWindow refs.variantWindows
      (windowsReplaced_good (some (dto.availabilityWindows.getD [])) opened) }

theorem updateVariant_references {productId variantId : Id} {dto : UpdateProductVariantDto}
    (keys : CatalogKeys s) (refs : References s) :
    References (catalogStep s ⟨context, .updateVariant productId variantId dto⟩) := by
  refine after_of refs fun row s' ran => ?_
  obtain ⟨current, stored, rfl, opened, rfl⟩ := updateVariant_ok keys.stores ran
  have keeps (variant : ProductVariantRow) : (productVariantChanged dto variant).id = variant.id ∧
        (productVariantChanged dto variant).tenantId = variant.tenantId := ⟨rfl, rfl⟩
  have variants : ∀ variant ∈
      modify ProductVariantRow.id current.id (productVariantChanged dto) s.productVariants,
      s.HasProduct variant.tenantId variant.productId :=
    forall_modified refs.variants fun variant listed _ => refs.variants variant listed
  exact { refs with
    windows := attached_others refs.windows (windowsReplaced_other _ (by decide))
    variants
    variantWindows := attached_modify keeps (attached_replaced keys.variants.distinct stored
      refs.variantWindows (windowsReplaced_good _ opened)) }

theorem references_step (e : CatalogEvent) (keys : CatalogKeys s) (refs : References s)
    (kept : KeepsTenant s e) : References (catalogStep s e) := by
  obtain ⟨context, operation⟩ := e
  cases operation with
  | createDevice dto => exact createDevice_references refs kept
  | updateDevice deviceId dto => exact updateDevice_references refs kept
  | createCategory dto => exact createCategory_references refs kept
  | updateCategory categoryId dto => exact updateCategory_references refs kept
  | createGroup dto => exact createGroup_references refs
  | updateGroup groupId dto => exact updateGroup_references refs
  | createOption groupId dto => exact createOption_references refs
  | updateOption groupId optionId dto => exact updateOption_references refs
  | createProduct dto => exact createProduct_references keys refs
  | updateProduct productId dto => exact updateProduct_references keys refs
  | createVariant productId dto => exact createVariant_references keys refs
  | updateVariant productId variantId dto => exact updateVariant_references keys refs

theorem after_ok {α : Type} {transaction : CatalogTransaction α} {row : α}
    (ran : transaction s = .ok (row, s')) : s.after transaction = s' := by
  rw [CatalogDb.after, Call.transact_ok ran]

theorem keepsTenant_of_references (e : CatalogEvent) (keys : CatalogKeys s)
    (refs : References (catalogStep s e)) : KeepsTenant s e := by
  obtain ⟨context, operation⟩ := e
  cases operation with
  | createDevice dto =>
    rintro ⟨row, s', ran⟩ tenantId resolved
    have refs : References (s.after (DevicesService.create context dto)) := refs
    rw [after_ok ran] at refs
    obtain ⟨tenantId', resolved', rfl, rfl⟩ := createDevice_ok ran
    obtain rfl := Except.ok.inj (resolved.symm.trans resolved')
    exact refs.devices _ (mem_append_right _ mem_cons_self)
  | updateDevice deviceId dto =>
    rintro ⟨row, s', ran⟩ storeId given device stored keyed
    have refs : References (s.after (DevicesService.update context deviceId dto)) := refs
    rw [after_ok ran] at refs
    obtain rfl := updateDevice_ok ran
    have own := refs.devices (deviceChanged dto device)
      (mem_modify.mpr ⟨device, stored, if_pos keyed⟩)
    rw [deviceChanged, Option.mem_def.mp given] at own
    exact own
  | createCategory dto =>
    rintro ⟨row, s', ran⟩ tenantId resolved parentId given
    have refs : References (s.after (CategoriesService.create context dto)) := refs
    rw [after_ok ran] at refs
    obtain ⟨⟨tenantId', resolved', rfl⟩, known, rfl⟩ := createCategory_ok ran
    obtain rfl := Except.ok.inj (resolved.symm.trans resolved')
    refine owned_of_append ?_ (refs.parents _ (mem_append_right _ mem_cons_self) parentId given)
    obtain ⟨parent, stored, rfl⟩ := known parentId given
    exact (keys.categories.other parent stored).symm
  | updateCategory categoryId dto =>
    rintro ⟨row, s', ran⟩ parentId given category stored keyed
    have refs : References (s.after (CategoriesService.update context categoryId dto)) := refs
    rw [after_ok ran] at refs
    obtain rfl := updateCategory_ok ran
    have own := refs.parents (categoryChanged dto category)
      (mem_modify.mpr ⟨category, stored, if_pos keyed⟩)
    have asked := Option.join_eq_some_iff.mp given
    rw [categoryChanged, asked] at own
    exact (owned_modify categoryId (categoryChanged dto) fun _ => ⟨rfl, rfl⟩).mp (own parentId rfl)
  | _ => trivial

end

theorem initial_keys (tenants : List Id) (stores : Rows.Keyed Store Store.id)
    (brands : Rows.Keyed Brand Brand.id) : CatalogKeys (.initial tenants stores brands) where
  stores := stores.2
  categories := issued_nil
  groups := issued_nil
  products := issued_nil
  variants := issued_nil
  links _ listed := absurd listed not_mem_nil
  windows _ listed := absurd listed not_mem_nil

theorem initial_references (tenants : List Id) (stores : Rows.Keyed Store Store.id)
    (brands : Rows.Keyed Brand Brand.id) : References (.initial tenants stores brands) where
  devices _ listed := absurd listed not_mem_nil
  parents _ listed := absurd listed not_mem_nil
  categories _ listed := absurd listed not_mem_nil
  brands _ listed := absurd listed not_mem_nil
  groups _ listed := absurd listed not_mem_nil
  windows _ listed := absurd listed not_mem_nil
  variants _ listed := absurd listed not_mem_nil
  variantWindows _ listed := absurd listed not_mem_nil
  options _ listed := absurd listed not_mem_nil

/-- The references stay inside the tenants in every state of a run just when each accepted call
gives devices stores, and categories parents, of their own tenants. -/
theorem references_iff_keepsTenant (tenants : List Id) (stores : Rows.Keyed Store Store.id)
    (brands : Rows.Keyed Brand Brand.id) (events : List CatalogEvent) :
    (∀ before, before <+: events → References (catalogRun tenants stores brands before)) ↔
      Trace.Along catalogStep KeepsTenant (.initial tenants stores brands) events := by
  have keeps : ∀ s e, CatalogKeys s ∧ References s → KeepsTenant s e →
      CatalogKeys (catalogStep s e) ∧ References (catalogStep s e) :=
    fun s e h kept => ⟨keys_step e h.1, references_step e h.1 h.2 kept⟩
  have needs : ∀ s e, CatalogKeys s ∧ References s → References (catalogStep s e) →
      KeepsTenant s e := fun s e h refs => keepsTenant_of_references e h.1 refs
  exact Trace.always_iff_along (fun s h => h.2) keeps needs
    ⟨initial_keys tenants stores brands, initial_references tenants stores brands⟩ events

def twoStores : Rows.Keyed Store Store.id :=
  ⟨[{ id := 1, tenantId := 1, status := .active }, { id := 2, tenantId := 2, status := .active }],
    by decide⟩

def storeManager : RequestContext where
  userId := "manager"
  tenantId := some 1
  scope := .tenantMember
  storeIds := [1]
  deviceId := none

def moveAcross : List CatalogEvent :=
  [⟨storeManager, .createDevice
      { tenantId := 1, storeId := 1, code := "POS-001", name := "Till", type := .pos }⟩,
    ⟨storeManager, .updateDevice 0 { storeId := some 2 }⟩]

/-- The manager registers a till and moves it to the store of tenant 2. -/
theorem device_across_tenants : ¬∀ (tenants : List Id) (stores : Rows.Keyed Store Store.id)
    (brands : Rows.Keyed Brand Brand.id) (events : List CatalogEvent),
    References (catalogRun tenants stores brands events) := by
  intro always
  have refs := always [1, 2] twoStores ⟨[], List.nodup_nil⟩ moveAcross
  have moved : (catalogRun [1, 2] twoStores ⟨[], List.nodup_nil⟩ moveAcross).devices.map
      (fun device => (device.tenantId, device.storeId)) = [(1, 2)] := by decide +kernel
  have listed : ((1, 2) : Id × Id) ∈
      (catalogRun [1, 2] twoStores ⟨[], List.nodup_nil⟩ moveAcross).devices.map
        fun device => (device.tenantId, device.storeId) := by
    rw [moved]
    exact List.mem_cons_self
  obtain ⟨device, stored, is⟩ := List.mem_map.mp listed
  obtain ⟨tenant, placed⟩ := Prod.mk.inj is
  obtain ⟨store, placedIn, keyed, own⟩ := refs.devices device stored
  rw [placed] at keyed
  rw [tenant] at own
  have kept : (catalogRun [1, 2] twoStores ⟨[], List.nodup_nil⟩ moveAcross).stores =
      twoStores.1 := by rfl
  rw [kept] at placedIn
  have elsewhere : ∀ store ∈ twoStores.1, store.id = 2 → store.tenantId ≠ 1 := by decide
  exact elsewhere store placedIn keyed own

end Exetron.Catalog
