import Exetron.Access
import Exetron.Environment
import Exetron.Fulfillment.Runtime
import Exetron.Lib.Record
import Exetron.Orders.Money

/-!
# Fulfillment service

`FulfillmentService`: the configuration of a store as it is read and changed, and in
`applyCartFulfillment` the fulfillment of a cart, its fee, and the totals that follow from it. A new
fulfillment drops the promotion.
-/

namespace Exetron.Fulfillment

open Lib

def isConfigOf (storeId : Id) (setting : Setting) : Prop :=
  setting.ownerId = storeId ∧ setting.key = "fulfillment.config"

instance (storeId : Id) : DecidablePred (isConfigOf storeId) :=
  fun _ => inferInstanceAs (Decidable (_ ∧ _))

def loadConfigValue (storeId : Id) (setup : Setup) : Option Json :=
  (setup.storeSettings.find? fun setting => isConfigOf storeId setting).map Setting.value

def putConfigValue (storeId : Id) (value : Json) : List Setting → List Setting
  | [] => [⟨storeId, "fulfillment.config", value⟩]
  | setting :: settings =>
    if isConfigOf storeId setting then { setting with value } :: settings
    else setting :: putConfigValue storeId value settings

def admitStoreConfig (context : RequestContext) (storeId : Id) (setup : Setup) :
    Except ApiException Unit := do
  enforceStoreAccess context storeId
  let store ← required (setup.stores.find? fun store => store.id = storeId)
    (.recordNotFound "Store")
  let _ ← resolveTenantId context (some store.tenantId)

def getStoreConfig (context : RequestContext) (storeId : Id) (setup : Setup) :
    Except ApiException StoreFulfillmentConfig := do
  admitStoreConfig context storeId setup
  resolveStoreFulfillmentConfig storeId (loadConfigValue storeId setup)

/-- The properties a request has besides the store's id; those in `unset` are `undefined`. -/
structure UpdateStoreFulfillmentConfigDto where
  storeId : Id
  fields : Record String Json
  unset : List String := []

/-- `{ ...current, ...dto }`: an `undefined` property hides the stored one as well. -/
def UpdateStoreFulfillmentConfigDto.onto (dto : UpdateStoreFulfillmentConfigDto)
    (current : StoreFulfillmentConfig) : Json :=
  .obj (Record.spread (current.fields.filter fun field => field.1 ∉ dto.unset) dto.fields)

def upsertStoreConfig (context : RequestContext) (dto : UpdateStoreFulfillmentConfigDto)
    (setup : Setup) : Except ApiException (StoreFulfillmentConfig × Setup) := do
  admitStoreConfig context dto.storeId setup
  let current ← resolveStoreFulfillmentConfig dto.storeId (loadConfigValue dto.storeId setup)
  let next ← resolveStoreFulfillmentConfig dto.storeId (some (dto.onto current))
  pure (next, { setup with
    storeSettings := putConfigValue dto.storeId (.obj next.fields) setup.storeSettings })

def admitCartFulfillment (now : Instant) (context : RequestContext) (cartId : Id)
    (selectionInput : Json) (db : Db) : Except ApiException (Cart × FulfillmentQuote) := do
  let cart ← carts.findUniqueOrThrow cartId db
  authorize context cart.tenantId cart.storeId
  rejectIf (cart.status ≠ .open) (.badRequest "Only open carts can update fulfillment.")
  let selection ← required (normalizeFulfillmentSelection selectionInput)
    (.badRequest "Fulfillment selection is invalid.")
  let config ← resolveStoreFulfillmentConfig cart.storeId (loadConfigValue cart.storeId db.setup)
  let quote ← quoteFulfillment config selection now
  pure (cart, quote)

def withFulfillment (quote : FulfillmentQuote) (cart : Cart) : Cart :=
  let totals := Orders.calculateCartTotals cart.items quote.fee.cents 0
  { cart with
    fulfillmentMode := some quote.selection.mode.text
    fulfillmentStatus := some quote.status
    fulfillmentFee := quote.fee.cents
    discountTotal := 0
    promotionCode := none
    promotionSnapshot := none
    fulfillmentPayload := some quote.selection.toJson
    promisedAt := some quote.promisedAt
    etaAt := some quote.etaAt
    subtotal := totals.subtotal
    modifierTotal := totals.modifierTotal
    total := totals.total }

def applyCartFulfillmentTx (now : Instant) (context : RequestContext) (cartId : Id)
    (selectionInput : Json) : Transaction Unit := do
  let (cart, quote) ← Tx.read (admitCartFulfillment now context cartId selectionInput)
  let _ ← carts.update cart.id (withFulfillment quote)
  recordAudit
    { tenantId := cart.tenantId
      storeId := cart.storeId
      actorType := resolveActorType context
      actorId := resolveActorId context
      action := "cart.fulfillment_updated"
      entityType := "cart"
      entityId := cart.id }

def applyCartFulfillment (now : Instant) (context : RequestContext) (cartId : Id)
    (selectionInput : Json) : ServiceCall Unit :=
  Call.transact (applyCartFulfillmentTx now context cartId selectionInput)

end Exetron.Fulfillment
