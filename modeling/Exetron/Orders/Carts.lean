import Exetron.Access
import Exetron.Orders.Money
import Exetron.Pricing.Service

/-!
# Carts

`OrdersService`: the making of a cart and the changes to it and to its lines. A change to the
lines drops the promotion and works the totals out again.
-/

namespace Exetron.Orders

open Lib Pricing

structure CartItemSelectionInput where
  (tenantId storeId productId : Id)
  (variantId priceListId : Option Id)
  modifierOptionIds : List Id

structure ModifierSnapshot where
  groupId : Id
  (groupCode groupName : Option String)
  optionId : Id
  (optionCode optionName : String)
  priceDelta : Money

structure CartItemSelection where
  product : Product
  variant : Option ProductVariant
  price : PricePreviewResponse
  modifiers : List ModifierSnapshot

def modifierSnapshot (product : Product) (price : PricePreviewResponse) (option : ModifierOption) :
    ModifierSnapshot :=
  let group := product.modifierGroupLinks.find? fun group => group.id = option.groupId
  { groupId := option.groupId
    groupCode := group.map ModifierGroup.code
    groupName := group.map ModifierGroup.name
    optionId := option.id
    optionCode := option.code
    optionName := option.name
    priceDelta := ((Rows.find PriceModifier.optionId price.modifierBreakdown option.id).map
      PriceModifier.priceDelta).getD 0 }

def resolveCartItemSelection (context : RequestContext) (input : CartItemSelectionInput) (db : Db) :
    Except ApiException CartItemSelection := do
  let product ← findProduct input.productId db.setup
  rejectIf (product.tenantId ≠ input.tenantId) (.badRequest "Product tenant mismatch.")
  let variant ← findVariant product input.variantId db.setup
  let modifierOptions ← findModifierOptions input.modifierOptionIds db.setup
  rejectIf (modifierOptions.any fun option =>
      option.groupId ∉ product.modifierGroupLinks.map ModifierGroup.id)
    (.badRequest "Modifier option does not belong to the product.")
  let price ← resolveSelectionTx context
    { tenantId := some input.tenantId
      storeId := input.storeId
      productId := input.productId
      variantId := input.variantId
      priceListId := input.priceListId
      modifierOptionIds := input.modifierOptionIds } db
  pure
    { product
      variant
      price
      modifiers := modifierOptions.map (modifierSnapshot product price) }

namespace CartItemSelection

def idText (id : Id) : Json := .str (toString id)

def modifierJson (modifier : ModifierSnapshot) : Json := .obj
  [("groupId", idText modifier.groupId),
   ("groupCode", .ofOption .str modifier.groupCode),
   ("groupName", .ofOption .str modifier.groupName),
   ("optionId", idText modifier.optionId),
   ("optionCode", .str modifier.optionCode),
   ("optionName", .str modifier.optionName),
   ("priceDelta", .str (formatCents modifier.priceDelta))]

def snapshot (selection : CartItemSelection) : Json := .obj
  [("priceListId", .ofOption idText selection.price.priceListId),
   ("source", .str selection.price.source.text),
   ("product", .obj
     [("id", idText selection.product.id),
      ("code", .str selection.product.code),
      ("name", .str selection.product.name),
      ("description", .ofOption .str selection.product.description)]),
   ("variant", .ofOption (fun variant => .obj
     [("id", idText variant.id),
      ("code", .str variant.code),
      ("name", .str variant.name),
      ("sku", .ofOption .str variant.sku),
      ("barcode", .ofOption .str variant.barcode)]) selection.variant),
   ("modifiers", .arr (selection.modifiers.map modifierJson))]

def lineModifiers (selection : CartItemSelection) : List LineModifier :=
  selection.modifiers.map fun modifier =>
    ⟨modifier.groupId, modifier.optionId, modifier.optionName, modifier.priceDelta⟩

def line (selection : CartItemSelection) (id : Id) (quantity : Int) : CartItem :=
  let lineTotals := calculateLineTotals quantity selection.price.basePrice
    (selection.price.modifierBreakdown.map PriceModifier.priceDelta)
  { id
    productId := selection.product.id
    variantId := selection.variant.map ProductVariant.id
    priceListId := selection.price.priceListId
    quantity
    unitBasePrice := selection.price.basePrice
    modifierTotal := lineTotals.modifierTotal
    lineTotal := lineTotals.lineTotal
    snapshot := selection.snapshot
    modifiers := selection.lineModifiers }

def rewrite (selection : CartItemSelection) (quantity : Int) (item : CartItem) : CartItem :=
  { selection.line item.id quantity with productId := item.productId }

end CartItemSelection

def withTotals (cart : Cart) : Cart :=
  let totals := calculateCartTotals cart.items cart.fulfillmentFee cart.discountTotal
  { cart with
    subtotal := totals.subtotal
    modifierTotal := totals.modifierTotal
    discountTotal := totals.discountTotal
    total := totals.total }

def recalculateCartTotals (cartId : Id) : Transaction Unit := do
  let _ ← carts.update cartId withTotals
  pure ()

def withoutPromotion (cart : Cart) : Cart :=
  { cart with discountTotal := 0, promotionCode := none, promotionSnapshot := none }

def clearCartPromotionTx (cartId : Id) : Transaction Unit := do
  let _ ← carts.update cartId withoutPromotion
  pure ()

def recordCart (context : RequestContext) (cart : Cart) (name : String) : Transaction Unit := do
  recordAudit
    { tenantId := cart.tenantId
      storeId := cart.storeId
      actorType := resolveActorType context
      actorId := resolveActorId context
      action := name
      entityType := "cart"
      entityId := cart.id }
  recordDomainEvent ⟨cart.tenantId, name, "cart", cart.id⟩

structure CreateCartDto where
  tenantId : Option Id := none
  storeId : Id
  channel : Option OrderChannel := none
  customerName : Option String := none
  customerPhone : Option String := none
  note : Option String := none
  deviceId : Option Id := none

def ensureDeviceBelongsToStore (tenantId storeId deviceId : Id) (db : Db) :
    Except ApiException Unit := do
  let device ← required (db.setup.devices.find? fun device => device.id = deviceId)
    (.recordNotFound "Device")
  rejectIf (device.tenantId ≠ tenantId ∨ device.storeId ≠ storeId)
    (.badRequest "Device does not belong to the requested store.")

def admitCart (context : RequestContext) (dto : CreateCartDto) (db : Db) :
    Except ApiException (Id × Store) := do
  let store ← required (db.setup.stores.find? fun store => store.id = dto.storeId)
    (.recordNotFound "Store")
  let tenantId ← resolveTenantId context (some (dto.tenantId.getD store.tenantId))
  enforceStoreAccess context store.id
  rejectIf (store.tenantId ≠ tenantId) (.badRequest "Store tenant mismatch.")
  match dto.deviceId with
  | none => pure (tenantId, store)
  | some deviceId => do
    ensureDeviceBelongsToStore tenantId store.id deviceId db
    pure (tenantId, store)

def newCart (context : RequestContext) (dto : CreateCartDto) (tenantId storeId id : Id) : Cart where
  id := id
  tenantId := tenantId
  storeId := storeId
  customerProfileId := none
  channel := dto.channel.getD .admin
  status := .open
  customerName := dto.customerName
  customerPhone := dto.customerPhone
  note := dto.note
  subtotal := 0
  modifierTotal := 0
  fulfillmentFee := 0
  discountTotal := 0
  total := 0
  promotionCode := none
  promotionSnapshot := none
  fulfillmentMode := none
  fulfillmentStatus := none
  fulfillmentPayload := none
  promisedAt := none
  etaAt := none
  deviceId := dto.deviceId
  createdByUserId := resolveCreatedByUserId context
  items := []

def createCartTx (context : RequestContext) (dto : CreateCartDto) : Transaction Cart := do
  let (tenantId, store) ← Tx.read (admitCart context dto)
  let id ← freshId
  let cart ← carts.create (newCart context dto tenantId store.id id)
  recordCart context cart "cart.created"
  pure cart

def openCart (context : RequestContext) (cartId : Id) (db : Db) : Except ApiException Cart := do
  let cart ← carts.findUniqueOrThrow cartId db
  rejectIf (cart.status ≠ .open) (.badRequest "Only open carts can be modified.")
  authorize context cart.tenantId cart.storeId
  pure cart

/-- A field left out of the request stays as it is; one given as null is cleared. -/
structure UpdateCartDto where
  customerName : Option (Option String) := none
  customerPhone : Option (Option String) := none
  note : Option (Option String) := none

def resetsPromotion (dto : UpdateCartDto) (cart : Cart) : Bool :=
  dto.customerPhone.any fun phone => phone ≠ cart.customerPhone

def withDetails (dto : UpdateCartDto) (shouldResetPromotion : Bool) (cart : Cart) : Cart :=
  { cart with
    customerProfileId := if shouldResetPromotion then none else cart.customerProfileId
    customerName := dto.customerName.getD cart.customerName
    customerPhone := dto.customerPhone.getD cart.customerPhone
    note := dto.note.getD cart.note }

def updateCartTx (context : RequestContext) (cartId : Id) (dto : UpdateCartDto) :
    Transaction Cart := do
  let cart ← Tx.read (openCart context cartId)
  let shouldResetPromotion := resetsPromotion dto cart
  (if shouldResetPromotion then clearCartPromotionTx cart.id else pure ())
  let updatedCart ← carts.update cart.id (withDetails dto shouldResetPromotion)
  (if shouldResetPromotion then recalculateCartTotals cart.id else pure ())
  recordCart context updatedCart "cart.updated"
  pure updatedCart

structure AddCartItemDto where
  productId : Id
  variantId : Option Id := none
  quantity : Int
  priceListId : Option Id := none
  modifierOptionIds : List Id := []

def admitNewItem (context : RequestContext) (cartId : Id) (dto : AddCartItemDto) (db : Db) :
    Except ApiException (Cart × CartItemSelection) := do
  let cart ← openCart context cartId db
  let selection ← resolveCartItemSelection context
    { tenantId := cart.tenantId
      storeId := cart.storeId
      productId := dto.productId
      variantId := dto.variantId
      priceListId := dto.priceListId
      modifierOptionIds := dto.modifierOptionIds } db
  pure (cart, selection)

def withItem (item : CartItem) (cart : Cart) : Cart := { cart with items := cart.items ++ [item] }

def settleCart (context : RequestContext) (cart : Cart) (name : String) : Transaction Cart := do
  clearCartPromotionTx cart.id
  recalculateCartTotals cart.id
  let updatedCart ← Tx.read (carts.findUniqueOrThrow cart.id)
  recordCart context cart name
  pure updatedCart

def addItemTx (context : RequestContext) (cartId : Id) (dto : AddCartItemDto) :
    Transaction Cart := do
  let (cart, selection) ← Tx.read (admitNewItem context cartId dto)
  let id ← freshId
  let _ ← carts.update cart.id (withItem (selection.line id dto.quantity))
  settleCart context cart "cart.item_added"

structure UpdateCartItemDto where
  variantId : Option (Option Id) := none
  quantity : Option Int := none
  priceListId : Option (Option Id) := none
  modifierOptionIds : Option (List Id) := none

def findCartItem (cart : Cart) (itemId : Id) : Except ApiException CartItem :=
  required (cart.items.find? fun item => item.id = itemId)
    (.badRequest "Cart item was not found.")

def admitItemChange (context : RequestContext) (cartId itemId : Id) (dto : UpdateCartItemDto)
    (db : Db) : Except ApiException (Cart × CartItem × CartItemSelection) := do
  let cart ← openCart context cartId db
  let currentItem ← findCartItem cart itemId
  let selection ← resolveCartItemSelection context
    { tenantId := cart.tenantId
      storeId := cart.storeId
      productId := currentItem.productId
      variantId := dto.variantId.getD currentItem.variantId
      priceListId := dto.priceListId.getD currentItem.priceListId
      modifierOptionIds :=
        dto.modifierOptionIds.getD (currentItem.modifiers.map LineModifier.modifierOptionId) } db
  pure (cart, currentItem, selection)

def withItemChanged (itemId : Id) (change : CartItem → CartItem) (cart : Cart) : Cart :=
  { cart with items := Rows.modify (fun item => item.id) itemId change cart.items }

def updateItemTx (context : RequestContext) (cartId itemId : Id) (dto : UpdateCartItemDto) :
    Transaction Cart := do
  let (cart, currentItem, selection) ← Tx.read (admitItemChange context cartId itemId dto)
  let _ ← carts.update cart.id
    (withItemChanged currentItem.id (selection.rewrite (dto.quantity.getD currentItem.quantity)))
  settleCart context cart "cart.item_updated"

def admitItemRemoval (context : RequestContext) (cartId itemId : Id) (db : Db) :
    Except ApiException (Cart × CartItem) := do
  let cart ← openCart context cartId db
  let currentItem ← findCartItem cart itemId
  pure (cart, currentItem)

def withoutItem (itemId : Id) (cart : Cart) : Cart :=
  { cart with items := cart.items.filter fun item => item.id ≠ itemId }

def deleteItemTx (context : RequestContext) (cartId itemId : Id) : Transaction Cart := do
  let (cart, _) ← Tx.read (admitItemRemoval context cartId itemId)
  let _ ← carts.update cart.id (withoutItem itemId)
  settleCart context cart "cart.item_removed"

def createCart (context : RequestContext) (dto : CreateCartDto) : ServiceCall Cart :=
  Call.transact (createCartTx context dto)

def updateCart (context : RequestContext) (cartId : Id) (dto : UpdateCartDto) : ServiceCall Cart :=
  Call.transact (updateCartTx context cartId dto)

def addItem (context : RequestContext) (cartId : Id) (dto : AddCartItemDto) : ServiceCall Cart :=
  Call.transact (addItemTx context cartId dto)

def updateItem (context : RequestContext) (cartId itemId : Id) (dto : UpdateCartItemDto) :
    ServiceCall Cart :=
  Call.transact (updateItemTx context cartId itemId dto)

def deleteItem (context : RequestContext) (cartId itemId : Id) : ServiceCall Cart :=
  Call.transact (deleteItemTx context cartId itemId)

end Exetron.Orders
