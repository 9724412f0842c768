import Mathlib.Data.List.ReduceOption
import Exetron.Carts.Money
import Exetron.Pricing.Catalog

/-!
# Menu prices

What a compiled catalogue shows of a product is what the price resolution works with, and so what
a line of a cart is charged.
-/

namespace Exetron.Carts

open Lib Orders Pricing List

theorem mapGet_eq_some_iff {α κ : Type} [DecidableEq κ] {key : α → κ} {rows : List α}
    (unique : (rows.map key).Nodup) {k : κ} {r : α} :
    mapGet key rows k = some r ↔ r ∈ rows ∧ key r = k := by
  have reversed : (rows.reverse.map key).Nodup := by
    rw [map_reverse]
    exact nodup_reverse.mpr unique
  rw [mapGet, Rows.find_eq_some_iff reversed, mem_reverse]

/-- The tables a catalogue of the store was compiled from. -/
structure CompiledFrom (setup : Setup) (store : Store) (priceList : Option PriceList)
    (targets : List (CatalogTargetType × Id)) (scope : CatalogScope) : Prop where
  overrides : scope.overrides = setup.storeCatalogOverrides.1.filter fun override =>
    override.storeId = store.id ∧ (override.targetType, override.targetId) ∈ targets
  priceItems : scope.priceItems = (priceList.map fun priceList => priceList.items.1).getD []

section
variable {setup : Setup} {store : Store} {priceList : Option PriceList}
  {targets : List (CatalogTargetType × Id)} {scope : CatalogScope} {targetType : CatalogTargetType}
  {targetId : Id}

theorem CompiledFrom.unique (compiled : CompiledFrom setup store priceList targets scope) :
    (scope.overrides.map fun row => (row.targetType, row.targetId)).Nodup := by
  have rows := List.Nodup.of_map _ setup.storeCatalogOverrides.2
  rw [compiled.overrides]
  refine List.Nodup.map_on ?_ (rows.filter _)
  intro row member row' member' same
  obtain ⟨stored, ofStore⟩ := mem_filter.mp member
  obtain ⟨stored', ofStore'⟩ := mem_filter.mp member'
  obtain ⟨here, _⟩ := of_decide_eq_true ofStore
  obtain ⟨here', _⟩ := of_decide_eq_true ofStore'
  refine Rows.eq_of_key setup.storeCatalogOverrides.2 stored stored' ?_
  simp only [StoreCatalogOverride.target, here, here']
  exact congrArg (Prod.mk store.id) same

theorem CompiledFrom.overridePrice_eq (compiled : CompiledFrom setup store priceList targets scope)
    (listed : (targetType, targetId) ∈ targets) :
    (scope.override targetType targetId).bind StoreCatalogOverride.priceOverride =
      overridePrice setup store.id targetType targetId := by
  have same : scope.override targetType targetId = Rows.find StoreCatalogOverride.target
      setup.storeCatalogOverrides.1 (store.id, targetType, targetId) := by
    refine Option.ext fun row => ?_
    rw [CatalogScope.override, mapGet_eq_some_iff compiled.unique, compiled.overrides,
      Rows.find_eq_some_iff setup.storeCatalogOverrides.2, mem_filter, decide_eq_true_iff]
    constructor
    · rintro ⟨⟨stored, here, _⟩, target⟩
      exact ⟨stored, by rw [StoreCatalogOverride.target, here, ← target]⟩
    · rintro ⟨stored, target⟩
      obtain ⟨here, target⟩ := Prod.mk.inj target
      exact ⟨⟨stored, here, target ▸ listed⟩, target⟩
  rw [same, overridePrice]

theorem CompiledFrom.listPrice_eq (compiled : CompiledFrom setup store priceList targets scope) :
    (scope.priceItem targetType targetId).map PriceListItem.price =
      listPrice priceList targetType targetId := by
  rw [CatalogScope.priceItem, compiled.priceItems]
  cases priceList with
  | none => rfl
  | some priceList =>
    have same : mapGet PriceListItem.target priceList.items.1 (targetType, targetId) =
        Rows.find PriceListItem.target priceList.items.1 (targetType, targetId) :=
      Option.ext fun item => by
        rw [mapGet_eq_some_iff priceList.items.2, Rows.find_eq_some_iff priceList.items.2]
    exact congrArg (Option.map PriceListItem.price) same

end

def selectionPrice (setup : Setup) (store : Store) (priceList : Option PriceList)
    (product : Product) (variant : Option ProductVariant) : Option Money :=
  let (targetType, targetId) := match variant with
    | some variant => (CatalogTargetType.variant, variant.id)
    | none => (CatalogTargetType.product, product.id)
  (resolvePrice (overridePrice setup store.id targetType targetId)
    (listPrice priceList targetType targetId) (variant.bind ProductVariant.basePrice)
    product.basePrice []).basePrice

def Offers (product : CompiledCatalogProduct) : Option Id → Option Money → Prop
  | none, price => product.effectivePrice = price
  | some variantId, price =>
    ∃ variant ∈ product.variants, variant.id = variantId ∧ variant.effectivePrice = price

def OffersOption (product : CompiledCatalogProduct) (option : CompiledCatalogModifierOption) : Prop :=
  ∃ group ∈ product.modifierGroups, option ∈ group.options

theorem mem_of_mapM_ok {α β : Type} {f : α → Except ApiException (Option β)} {xs : List α}
    {ys : List (Option β)} (h : xs.mapM f = .ok ys) {y : β} (member : y ∈ ys.reduceOption) :
    ∃ x ∈ xs, f x = .ok (some y) := by
  induction xs generalizing ys with
  | nil =>
    rw [mapM_nil] at h
    obtain rfl := except_pure_ok_iff.mp h
    cases member
  | cons x xs ih =>
    rw [mapM_cons] at h
    obtain ⟨first, head, h⟩ := except_bind_ok_iff.mp h
    obtain ⟨rest, tail, h⟩ := except_bind_ok_iff.mp h
    obtain rfl := except_pure_ok_iff.mp h
    have cases' : some y = first ∨ y ∈ rest.reduceOption := by
      rw [reduceOption_mem_iff] at member ⊢
      exact mem_cons.mp member
    rcases cases' with rfl | later
    · exact ⟨x, mem_cons_self, head⟩
    · obtain ⟨x', member', is⟩ := ih tail later
      exact ⟨x', mem_cons_of_mem x member', is⟩

section
variable {setup : Setup} {store : Store} {priceList : Option PriceList} {scope : CatalogScope}
  {product : Product} {compiled : CompiledCatalogProduct}

theorem compileVariant_price {targets : List (CatalogTargetType × Id)} {variant : ProductVariant}
    {shown : CompiledCatalogVariant} (made : CompiledFrom setup store priceList targets scope)
    (listed : (.variant, variant.id) ∈ targets)
    (h : compileVariant scope product variant = .ok (some shown)) : shown.id = variant.id ∧
      shown.effectivePrice = selectionPrice setup store priceList product (some variant) := by
  obtain ⟨visible, _, h⟩ := except_bind_ok_iff.mp h
  cases visible with
  | false => cases h
  | true =>
    cases h
    refine ⟨rfl, ?_⟩
    simp only [made.overridePrice_eq listed, made.listPrice_eq]
    rfl

theorem compileOption_price {targets : List (CatalogTargetType × Id)} {option : ModifierOption}
    (made : CompiledFrom setup store priceList targets scope)
    (listed : (.modifierOption, option.id) ∈ targets) :
    (compileOption scope option).priceDelta = optionPrice setup store.id priceList option := by
  simp only [compileOption, made.overridePrice_eq listed, made.listPrice_eq]
  rfl

/-- A product shown at the prices of the tables. -/
structure ShownAtPrice (setup : Setup) (store : Store) (priceList : Option PriceList)
    (product : Product) (compiled : CompiledCatalogProduct) : Prop where
  id : compiled.id = product.id
  price : ∀ variantId price, Offers compiled variantId price → ∃ variant,
    findVariant product variantId setup = .ok variant ∧
      price = selectionPrice setup store priceList product variant
  option : ∀ shown, OffersOption compiled shown → ∃ option ∈ setup.modifierOptions.1,
    option.id = shown.id ∧ shown.priceDelta = optionPrice setup store.id priceList option

theorem mem_catalogTargets (setup : Setup) {products : List Product} (member : product ∈ products) :
    (.product, product.id) ∈ catalogTargets setup products ∧
      (∀ variant ∈ variantsOf setup product, (.variant, variant.id) ∈ catalogTargets setup products) ∧
      ∀ group ∈ product.modifierGroupLinks, ∀ option ∈ optionsOf setup group,
        (.modifierOption, option.id) ∈ catalogTargets setup products := by
  simp only [catalogTargets, mem_append, mem_map, mem_flatMap]
  refine ⟨.inl (.inl ⟨product, member, rfl⟩), ?_, ?_⟩
  · intro variant listed
    exact .inl (.inr ⟨product, member, variant, listed, rfl⟩)
  · intro group linked option listed
    exact .inr ⟨product, member, group, linked, option, listed, rfl⟩

theorem findVariant_listed {variant : ProductVariant} (listed : variant ∈ variantsOf setup product) :
    findVariant product (some variant.id) setup = .ok (some variant) := by
  obtain ⟨stored, own⟩ := mem_filter.mp listed
  have found := Rows.find_of_mem setup.productVariants.2 stored
  simp only [findVariant, except_bind_ok_iff, required_ok_iff, rejectIf_ok_iff, not_not]
  exact ⟨variant, found, (), of_decide_eq_true own, rfl⟩

theorem compileProduct_shown {products : List Product} (member : product ∈ products)
    (made : CompiledFrom setup store priceList (catalogTargets setup products) scope)
    (h : compileProduct scope setup product = .ok (some compiled)) :
    ShownAtPrice setup store priceList product compiled := by
  obtain ⟨own, variants, options⟩ := mem_catalogTargets setup member
  obtain ⟨visible, _, h⟩ := except_bind_ok_iff.mp h
  cases visible with
  | false => cases h
  | true =>
    obtain ⟨shown, compiles, h⟩ := except_bind_ok_iff.mp h
    split at h
    · cases h
    · cases h
      refine ⟨rfl, ?_, ?_⟩
      · rintro (_ | variantId) price offers
        · refine ⟨none, rfl, ?_⟩
          rw [← offers]
          simp only [made.overridePrice_eq own, made.listPrice_eq]
          rfl
        · obtain ⟨variant, listed, rfl, rfl⟩ := offers
          obtain ⟨row, ofProduct, compiles⟩ := mem_of_mapM_ok compiles listed
          obtain ⟨same, price⟩ := compileVariant_price made (variants row ofProduct) compiles
          exact ⟨some row, same ▸ findVariant_listed ofProduct, price⟩
      · rintro option ⟨group, listed, offered⟩
        obtain ⟨row, linked, rfl⟩ := mem_map.mp listed
        obtain ⟨optionRow, active, rfl⟩ := mem_map.mp offered
        have ofGroup := mem_of_mem_filter active
        exact ⟨optionRow, mem_of_mem_filter ofGroup, rfl,
          compileOption_price made (options row (mem_of_mem_filter linked) optionRow ofGroup)⟩

end

section
variable {services : CatalogServices} {context : RequestContext} {query : CompiledCatalogQuery}
  {db : Db} {catalog : CompiledCatalogResponse} {compiled : CompiledCatalogProduct}

/-- The checks a catalogue's request passes, as the resolution of a selection makes them too. -/
structure Admitted (context : RequestContext) (tenantId : Option Id) (storeId : Id)
    (priceListId : Option Id) (setup : Setup) (store : Store) (priceList : Option PriceList) :
    Prop where
  found : setup.stores.find? (fun store => store.id = storeId) = some store
  tenant : ∃ asked, resolveTenantId context (some (tenantId.getD store.tenantId)) = .ok asked
  access : enforceStoreAccess context store.id = .ok ()
  listed : findPriceList store priceListId setup = .ok priceList

theorem mem_products_of_entries {localization : Localization} {categories : List Category}
    {entries : List CatalogEntry} (shown : compiled ∈ ((categories.map
      (compileCategory localization entries)).filter fun category => category.products ≠ []).flatMap
        CompiledCatalogCategory.products ++ (entries.filter fun entry =>
          ∀ category ∈ categories, entry.1 ≠ some category.id).map Prod.snd) :
    ∃ categoryId, (categoryId, compiled) ∈ entries := by
  rcases mem_append.mp shown with inCategory | outside
  · obtain ⟨_, kept, listed⟩ := mem_flatMap.mp inCategory
    obtain ⟨category, _, rfl⟩ := mem_map.mp (mem_of_mem_filter kept)
    obtain ⟨entry, here, rfl⟩ := mem_map.mp listed
    exact ⟨entry.1, mem_of_mem_filter here⟩
  · obtain ⟨entry, here, rfl⟩ := mem_map.mp outside
    exact ⟨entry.1, mem_of_mem_filter here⟩

theorem compiledCatalog_shown (h : compiledCatalog services context query db = .ok catalog)
    (visible : compiled ∈ catalog.products) : ∃ store priceList product,
      Admitted context query.tenantId query.storeId query.priceListId db.setup store priceList ∧
      product ∈ db.setup.products ∧ product.tenantId = store.tenantId ∧
      ShownAtPrice db.setup store priceList product compiled := by
  simp only [compiledCatalog, except_bind_ok_iff, required_ok_iff, except_pure_ok_iff] at h
  obtain ⟨store, found, asked, tenant, _, access, priceList, listed, localization, _, slot, _, entries,
    compiles, rfl⟩ := h
  obtain ⟨categoryId, entry⟩ := mem_products_of_entries visible
  obtain ⟨product, ofTenant, is⟩ := mem_of_mapM_ok compiles entry
  obtain ⟨shown, compilesProduct, is⟩ := except_bind_ok_iff.mp is
  obtain ⟨_, rfl, same⟩ := Option.map_eq_some_iff.mp (except_pure_ok_iff.mp is)
  obtain ⟨_, rfl⟩ := Prod.mk.inj same
  obtain ⟨stored, own⟩ := mem_filter.mp ofTenant
  exact ⟨store, priceList, product, ⟨found, ⟨asked, tenant⟩, access, listed⟩, stored,
    of_decide_eq_true own, compileProduct_shown ofTenant ⟨rfl, rfl⟩ compilesProduct⟩

variable {setup : Setup} {store : Store} {priceList : Option PriceList} {product : Product}
  {chosen : List CompiledCatalogModifierOption} {options : List ModifierOption}

def shownModifier (option : CompiledCatalogModifierOption) : PriceModifier :=
  ⟨option.id, option.priceDelta⟩

theorem optionIds_nodup (setup : Setup) (ids : List Id) : ((setup.modifierOptions.1.filter
    fun option => option.id ∈ ids).map ModifierOption.id).Nodup :=
  setup.modifierOptions.2.sublist (filter_sublist.map _)

theorem findModifierOptions_shown (shown : ShownAtPrice setup store priceList product compiled)
    (active : ∀ option ∈ chosen, OffersOption compiled option)
    (distinct : (chosen.map CompiledCatalogModifierOption.id).Nodup) : ∃ options,
      findModifierOptions (chosen.map CompiledCatalogModifierOption.id) setup = .ok options := by
  simp only [findModifierOptions, except_bind_ok_iff, rejectIf_ok_iff, not_not, except_pure_ok_iff]
  refine ⟨_, (), ?_, rfl⟩
  have same : ((setup.modifierOptions.1.filter fun option =>
      option.id ∈ chosen.map CompiledCatalogModifierOption.id).map ModifierOption.id).Perm
        (chosen.map CompiledCatalogModifierOption.id) := by
    refine (perm_ext_iff_of_nodup (optionIds_nodup setup _) distinct).mpr fun id => ?_
    constructor
    · intro member
      obtain ⟨option, kept, rfl⟩ := mem_map.mp member
      exact of_decide_eq_true (mem_filter.mp kept).2
    · intro member
      obtain ⟨option, taken, rfl⟩ := mem_map.mp member
      obtain ⟨row, stored, same, _⟩ := shown.option option (active option taken)
      refine mem_map.mpr ⟨row, mem_filter.mpr ⟨stored, ?_⟩, same⟩
      exact decide_eq_true (same ▸ member)
  simpa using same.length_eq

theorem breakdown_shown (shown : ShownAtPrice setup store priceList product compiled)
    (active : ∀ option ∈ chosen, OffersOption compiled option)
    (found : findModifierOptions (chosen.map CompiledCatalogModifierOption.id) setup = .ok options) :
    (options.map fun option => PriceModifier.mk option.id
      (optionPrice setup store.id priceList option)).Perm (chosen.map shownModifier) := by
  simp only [findModifierOptions, except_bind_ok_iff, rejectIf_ok_iff, not_not, except_pure_ok_iff]
    at found
  obtain ⟨_, length, rfl⟩ := found
  have distinct : ((setup.modifierOptions.1.filter fun option =>
      option.id ∈ chosen.map CompiledCatalogModifierOption.id).map fun option =>
        PriceModifier.mk option.id (optionPrice setup store.id priceList option)).Nodup := by
    refine List.Nodup.of_map PriceModifier.optionId ?_
    rw [map_map]
    exact optionIds_nodup setup _
  refine (subperm_of_subset distinct ?_).perm_of_length_le (by
    rw [length_map, length_map, length, length_map])
  intro modifier member
  obtain ⟨row, kept, rfl⟩ := mem_map.mp member
  obtain ⟨stored, asked⟩ := mem_filter.mp kept
  obtain ⟨option, taken, same⟩ := mem_map.mp (of_decide_eq_true asked)
  obtain ⟨row', stored', same', price⟩ := shown.option option (active option taken)
  obtain rfl := Rows.eq_of_key setup.modifierOptions.2 stored stored' (same.symm.trans same'.symm)
  exact mem_map.mpr ⟨option, taken, by rw [shownModifier, price, same']⟩

variable {variantId : Option Id} {price : Option Money}

/-- The request for the price of what a catalogue shows. -/
def previewRequest (query : CompiledCatalogQuery) (tenantId : Option Id)
    (compiled : CompiledCatalogProduct) (variantId : Option Id)
    (chosen : List CompiledCatalogModifierOption) : PricePreviewRequest where
  tenantId := tenantId
  storeId := query.storeId
  productId := compiled.id
  variantId := variantId
  priceListId := query.priceListId
  modifierOptionIds := chosen.map CompiledCatalogModifierOption.id

theorem findProduct_shown (unique : (setup.products.map Product.id).Nodup)
    (stored : product ∈ setup.products) (shown : ShownAtPrice setup store priceList product compiled) :
    findProduct compiled.id setup = .ok product := by
  rw [findProduct, shown.id]
  exact required_ok_iff.mpr (Rows.find_of_mem unique stored)

theorem resolveSelectionTx_shown {context' : RequestContext} {tenantId : Option Id}
    {preview : PricePreviewResponse} (unique : (db.setup.products.map Product.id).Nodup)
    (admitted : Admitted context query.tenantId query.storeId query.priceListId db.setup store
      priceList)
    (stored : product ∈ db.setup.products)
    (shown : ShownAtPrice db.setup store priceList product compiled)
    (offers : Offers compiled variantId price)
    (active : ∀ option ∈ chosen, OffersOption compiled option)
    (h : resolveSelectionTx context' (previewRequest query tenantId compiled variantId chosen) db =
      .ok preview) :
    preview.basePrice = price ∧ preview.modifierBreakdown.Perm (chosen.map shownModifier) := by
  simp only [resolveSelectionTx, previewRequest, except_bind_ok_iff, except_pure_ok_iff,
    required_ok_iff] at h
  obtain ⟨store', found, _, _, _, _, product', isProduct, _, _, variant, isVariant, options, isOptions,
    priceList', isList, rfl⟩ := h
  obtain rfl := Option.some.inj (found.symm.trans admitted.found)
  obtain rfl := Except.ok.inj (isList.symm.trans admitted.listed)
  obtain rfl := Except.ok.inj (isProduct.symm.trans (findProduct_shown unique stored shown))
  obtain ⟨variant', isVariant', rfl⟩ := shown.price variantId price offers
  obtain rfl := Except.ok.inj (isVariant.symm.trans isVariant')
  refine ⟨?_, breakdown_shown shown active isOptions⟩
  cases variant <;> rfl

theorem resolveSelectionTx_succeeds (unique : (db.setup.products.map Product.id).Nodup)
    (admitted : Admitted context query.tenantId query.storeId query.priceListId db.setup store
      priceList)
    (stored : product ∈ db.setup.products) (own : product.tenantId = store.tenantId)
    (shown : ShownAtPrice db.setup store priceList product compiled)
    (offers : Offers compiled variantId price)
    (active : ∀ option ∈ chosen, OffersOption compiled option)
    (distinct : (chosen.map CompiledCatalogModifierOption.id).Nodup) : ∃ preview,
      resolveSelectionTx context (previewRequest query query.tenantId compiled variantId chosen) db =
        .ok preview := by
  obtain ⟨variant, isVariant, _⟩ := shown.price variantId price offers
  obtain ⟨options, isOptions⟩ := findModifierOptions_shown shown active distinct
  obtain ⟨asked, tenant⟩ := admitted.tenant
  simp only [resolveSelectionTx, previewRequest, except_bind_ok_iff, except_pure_ok_iff,
    required_ok_iff, rejectIf_ok_iff, not_not]
  exact ⟨_, store, admitted.found, asked, tenant, (), admitted.access, product,
    findProduct_shown unique stored shown, (), own, variant, isVariant, options, isOptions, priceList,
    admitted.listed, rfl⟩

/-- The request to put what a catalogue shows into a cart. -/
def itemRequest (query : CompiledCatalogQuery) (compiled : CompiledCatalogProduct)
    (variantId : Option Id) (quantity : Int) (chosen : List CompiledCatalogModifierOption) :
    AddCartItemDto where
  productId := compiled.id
  variantId := variantId
  quantity := quantity
  priceListId := query.priceListId
  modifierOptionIds := chosen.map CompiledCatalogModifierOption.id

theorem admitNewItem_price {context' : RequestContext} {cartId : Id} {quantity : Int} {cart : Cart}
    {selection : CartItemSelection} (ofStore : cart.storeId = query.storeId)
    (h : admitNewItem context' cartId (itemRequest query compiled variantId quantity chosen) db =
      .ok (cart, selection)) :
    resolveSelectionTx context' (previewRequest query (some cart.tenantId) compiled variantId chosen)
      db = .ok selection.price := by
  simp only [admitNewItem, resolveCartItemSelection, except_bind_ok_iff, except_pure_ok_iff,
    Prod.mk.injEq] at h
  obtain ⟨_, _, _, ⟨_, _, _, _, _, _, _, _, _, _, _, priced, rfl⟩, rfl, rfl⟩ := h
  rw [ofStore] at priced
  exact priced

theorem line_total {selection : CartItemSelection} {id : Id} {quantity : Int}
    (base : selection.price.basePrice = price)
    (modifiers : selection.price.modifierBreakdown.Perm (chosen.map shownModifier)) :
    (selection.line id quantity).lineTotal =
      quantity * (price.getD 0 + (chosen.map CompiledCatalogModifierOption.priceDelta).sum) := by
  have sum : (selection.price.modifierBreakdown.map PriceModifier.priceDelta).sum =
      (chosen.map CompiledCatalogModifierOption.priceDelta).sum := by
    rw [(modifiers.map PriceModifier.priceDelta).sum_eq, map_map]
    rfl
  calc (selection.line id quantity).lineTotal
      = selection.price.basePrice.getD 0 * quantity +
          (selection.price.modifierBreakdown.map PriceModifier.priceDelta).sum * quantity := rfl
    _ = quantity * (price.getD 0 + (chosen.map CompiledCatalogModifierOption.priceDelta).sum) := by
        rw [base, sum]
        ring

/-- What the menu shows is what is charged. The resolution gives every selection on show its price
on show, option by option. A line put into a cart of the store while the catalogue stands costs its
quantity times the price of the selection and of its options; one chosen several times stands in
`chosen` as often. Nothing rests on the limits of the groups, which neither path checks. -/
theorem menu_prices_charged (unique : (db.setup.products.map Product.id).Nodup)
    (menu : compiledCatalog services context query db = .ok catalog)
    (visible : compiled ∈ catalog.products) (offers : Offers compiled variantId price)
    (active : ∀ option ∈ chosen, OffersOption compiled option) :
    ((chosen.map CompiledCatalogModifierOption.id).Nodup → ∃ preview,
      resolveSelectionTx context (previewRequest query query.tenantId compiled variantId chosen) db =
        .ok preview ∧
      preview.basePrice = price ∧ preview.modifierBreakdown.Perm (chosen.map shownModifier)) ∧
    ∀ (later : Db) (context' : RequestContext) (cart result : Cart) (quantity : Int) (after : Db),
      later.setup = db.setup → (later.carts.map Cart.id).Nodup → cart ∈ later.carts →
      cart.storeId = query.storeId →
      Call.exec (addItem context' cart.id (itemRequest query compiled variantId quantity chosen))
        later = (.ok result, after) →
      ∃ stored ∈ after.carts, stored.id = cart.id ∧ ∃ line, stored.items = cart.items ++ [line] ∧
        line.lineTotal =
          quantity * (price.getD 0 + (chosen.map CompiledCatalogModifierOption.priceDelta).sum) := by
  obtain ⟨store, priceList, product, admitted, stored, own, shown⟩ := compiledCatalog_shown menu visible
  constructor
  · intro distinct
    obtain ⟨preview, resolved⟩ :=
      resolveSelectionTx_succeeds unique admitted stored own shown offers active distinct
    exact ⟨preview, resolved,
      resolveSelectionTx_shown unique admitted stored shown offers active resolved⟩
  · intro later context' cart result quantity after same keys member ofStore added
    obtain ⟨row, selection, logs, admittedItem, rfl⟩ :=
      addItemTx_ok keys (Call.transact_ok_iff.mp added)
    obtain ⟨found, _⟩ := openCart_at (admitNewItem_ok admittedItem).1
    obtain ⟨listed, named⟩ := Table.findUnique_mem found
    obtain rfl := Rows.eq_of_key keys listed member named
    rw [← same] at unique admitted stored shown
    obtain ⟨base, modifiers⟩ := resolveSelectionTx_shown unique admitted stored shown offers active
      (admitNewItem_price ofStore admittedItem)
    let line := selection.line later.nextId quantity
    have changed : settled (withItem line row) ∈ Rows.modify Cart.id row.id
        (fun _ => settled (withItem line row)) later.carts :=
      Rows.mem_modify.mpr ⟨row, member, if_pos rfl⟩
    exact ⟨_, changed, rfl, line, rfl, line_total base modifiers⟩

end

/-- The shop with a large espresso on a price list, whose oat milk has a price of the store's own,
and a cart open in it. -/
def bistro : Db :=
  run
    { diner with
      setup :=
        { diner.setup with
          products := diner.setup.products.map fun product => { product with categoryId := some 17 }
          productVariants :=
            ⟨[{ id := 14, productId := 10, code := "large", name := "Large", sku := none,
                barcode := none, basePrice := none }], by decide⟩
          priceLists := ⟨[⟨15, 1, ⟨[⟨.variant, 14, 650⟩, ⟨.modifierOption, 12, 80⟩], by decide⟩⟩], by decide⟩
          storeCatalogOverrides :=
            ⟨[{ storeId := 2, targetType := .modifierOption, targetId := 12,
                priceOverride := some 70 }], by decide⟩
          categories := [⟨17, 1, none, "coffee", "Coffee", 0, .active⟩]
          availabilityWindows := [⟨none, .product, 10, 4, "08:00", "18:00"⟩] } }
    [callAt 1 (.createCart { storeId := 2, channel := some .pos })]

def waiter : RequestContext := ⟨"waiter", some 1, .tenantMember, [2], none⟩

/-- No localised texts, and the days and minutes of UTC. -/
def plainServices (now : Instant) : CatalogServices where
  now := now
  resolveCurrentSlot now _ := .ok ⟨((now / 86400000 + 4) % 7 : Nat), now / 60000 % 1440⟩
  resolveLocalization _ _ _ := .ok
    { locale := "en-US", fallbackLocale := "en-US", countryCode := none, currency := "USD"
      tax := .obj [("mode", .str "NONE")], name := fun _ _ => none, description := fun _ _ => none }

def espressoShown : CompiledCatalogProduct where
  id := 10
  brandId := none
  code := "espresso"
  name := "Espresso"
  description := none
  effectivePrice := some 500
  priceSource := .productBase
  variants := [⟨14, "large", "Large", none, none, some 650, .priceList⟩]
  modifierGroups := [⟨11, "milk", "Milk", .single, 0, none, false,
    [⟨12, "oat", "Oat milk", 70⟩, ⟨13, "staff", "Staff drink", -800⟩]⟩]

def bistroMenu : CompiledCatalogResponse where
  tenantId := 1
  storeId := 2
  generatedAt := 36000000
  locale := "en-US"
  fallbackLocale := "en-US"
  countryCode := none
  currency := "USD"
  tax := .obj [("mode", .str "NONE")]
  categories := [⟨17, none, "coffee", "Coffee", 0, [espressoShown]⟩]
  uncategorizedProducts := []

theorem bistroMenu_compiled : compiledCatalog (plainServices 36000000) waiter
    { storeId := 2, priceListId := some 15 } bistro = .ok bistroMenu := rfl

/-- Two large espressos with oat milk: six fifty and the store's seventy each. -/
theorem menu_prices_charged_espresso : ∃ after, (Call.exec (addItem waiter 100
      { productId := 10, variantId := some 14, quantity := 2, priceListId := some 15,
        modifierOptionIds := [12] }) bistro).2 = after ∧
    ∃ stored ∈ after.carts, stored.id = 100 ∧
      ∃ line ∈ stored.items, line.lineTotal = 2 * (650 + 70) := by
  have offers : Offers espressoShown (some 14) (some 650) := ⟨_, List.mem_cons_self, rfl, rfl⟩
  have active : ∀ option ∈ [CompiledCatalogModifierOption.mk 12 "oat" "Oat milk" 70],
      OffersOption espressoShown option := by
    intro option taken
    obtain rfl := List.mem_singleton.mp taken
    exact ⟨_, List.mem_cons_self, List.mem_cons_self⟩
  obtain ⟨_, charged⟩ := menu_prices_charged (by decide +kernel) bistroMenu_compiled
    (List.mem_cons_self : espressoShown ∈ bistroMenu.products) offers active
  obtain ⟨result, answered⟩ := exists_ok_of_toBool (x := (Call.exec (addItem waiter 100
    { productId := 10, variantId := some 14, quantity := 2, priceListId := some 15,
      modifierOptionIds := [12] }) bistro).1) (by decide +kernel)
  obtain ⟨cart, member, named, ofStore⟩ : ∃ cart ∈ bistro.carts, cart.id = 100 ∧ cart.storeId = 2 :=
    ⟨_, List.mem_cons_self, rfl, rfl⟩
  obtain ⟨stored, kept, is, line, items, total⟩ := charged bistro waiter cart result 2 _ rfl
    (by decide +kernel) member ofStore (Prod.ext (named ▸ answered) rfl)
  exact ⟨_, rfl, stored, named ▸ kept, is.trans named, line, items ▸ List.mem_concat_self, total⟩

end Exetron.Carts
