import Exetron.Lib.Window
import Exetron.Pricing.Money

/-!
# Fulfillment runtime

`fulfillment-runtime.util.ts`: a store's fulfillment configuration as its setting spells it, the
selection of a request, and the quote for a selection. What the reading of a setting makes sure of
is part of the configuration's types, so that a configuration written down reads as itself.
-/

namespace Exetron.Fulfillment

open Pricing

def isRecord : Json → Bool
  | .obj _ => true
  | _ => false

def asFulfillmentMode : Option Json → Option FulfillmentMode
  | some (.str "DELIVERY") => some .delivery
  | some (.str "PICKUP") => some .pickup
  | some (.str "DINE_IN") => some .dineIn
  | _ => none

def toNumber (value : Option Json) (fallback : Rat) : Rat :=
  match value with
  | some (.num n) => n
  | _ => fallback

/-- A text that reads as an amount. -/
structure MoneyText where
  text : String
  cents : Money
  reads : parseMoneyToCents (some text) = .ok (some cents)

def MoneyText.zero : MoneyText := ⟨"0.00", 0, by decide +kernel⟩

/-- A text that is no amount of money is an error; an empty one is not. -/
def toMoney (value : Option Json) (fallback : MoneyText) : Except ApiException MoneyText :=
  match value with
  | some (.str text) =>
    match reads : parseMoneyToCents (some text) with
    | .error e => .error e
    | .ok none => .ok fallback
    | .ok (some cents) => .ok ⟨text, cents, reads⟩
  | _ => .ok fallback

/-- A text with more than white space in it. -/
abbrev FilledText := {text : String // Text.trim text ≠ ""}

theorem trim_append_ne_empty {text : String} (filled : Text.trim text ≠ "") (rest : String) :
    Text.trim (text ++ rest) ≠ "" := by
  obtain ⟨c, written, solid⟩ : ∃ c ∈ text.toList, Text.isSpace c = false := by
    by_contra blank
    push Not at blank
    have stripped : text.toList.dropWhile Text.isSpace = [] :=
      List.dropWhile_eq_nil_iff.mpr (by simpa using blank)
    refine filled ?_
    rw [Text.trim, stripped]
    rfl
  refine Text.trim_ne_empty (c := c) ?_ solid
  rw [String.toList_append]
  exact List.mem_append_left _ written

/-- A generated text: the word and the place in the list. -/
def FilledText.numbered (word : FilledText) (number : Nat) : FilledText :=
  ⟨word.val ++ toString number, trim_append_ne_empty word.property _⟩

def asFilledText : Option Json → Option FilledText
  | some (.str text) => if filled : Text.trim text ≠ "" then some ⟨text, filled⟩ else none
  | _ => none

def filledText (value : Option Json) : Option String := (asFilledText value).map Subtype.val

/-- The entry's own text under the key, or one generated for its place. -/
def FilledText.ofEntry (entry : Json) (key : String) (word : FilledText) (number : Nat) :
    FilledText :=
  (asFilledText (entry.get? key)).getD (word.numbered number)

def isSetTo (b : Bool) : Option Json → Bool
  | some (.bool b') => b' = b
  | _ => false

/-- `[...new Set(values)]`, first come first kept. -/
def uniqueModes (modes : List FulfillmentMode) : List FulfillmentMode := modes.eraseDups

def records (value : Option Json) : List (Json × Nat) :=
  (((value.bind Json.asArray?).getD []).filter isRecord).zipIdx 1

structure DeliveryZone where
  (code name : FilledText)
  postalCodes : List String
  fee : MoneyText
  (etaMinMinutes etaMaxMinutes slaMinutes : Rat)
  isActive : Bool

structure PickupConfig where
  enabled : Bool
  (leadTimeMinutes promisedWindowMinutes : Rat)
  instructions : Option FilledText

structure DineInTable where
  (code label : FilledText)
  capacity : Rat
  isActive : Bool

structure DineInConfig where
  enabled : Bool
  leadTimeMinutes : Rat
  tables : List DineInTable

inductive ProviderType where
  | manual
  | externalPlaceholder

def ProviderType.text : ProviderType → String
  | .manual => "MANUAL"
  | .externalPlaceholder => "EXTERNAL_PLACEHOLDER"

structure FulfillmentProvider where
  providerKey : FilledText
  providerType : ProviderType
  enabled : Bool

structure StoreFulfillmentConfig where
  storeId : Id
  enabledModes : List FulfillmentMode
  defaultMode : FulfillmentMode
  deliveryZones : List DeliveryZone
  pickup : PickupConfig
  dineIn : DineInConfig
  providers : List FulfillmentProvider
  offered : enabledModes ≠ []
  distinct : enabledModes.Nodup

def normalizeDeliveryZone (entry : Json) (number : Nat) : Except ApiException DeliveryZone := do
  let fee ← toMoney (entry.get? "fee") .zero
  pure
    { code := .ofEntry entry "code" ⟨"zone-", by decide⟩ number
      name := .ofEntry entry "name" ⟨"Zone ", by decide⟩ number
      postalCodes := (((entry.get? "postalCodes").bind Json.asArray?).getD []).filterMap
        Json.asString?
      fee
      etaMinMinutes := toNumber (entry.get? "etaMinMinutes") 20
      etaMaxMinutes := toNumber (entry.get? "etaMaxMinutes") 40
      slaMinutes := toNumber (entry.get? "slaMinutes") 60
      isActive := !isSetTo false (entry.get? "isActive") }

def normalizePickup (value : Option Json) : PickupConfig :=
  { enabled := !isSetTo false (value.bind (Json.get? "enabled"))
    leadTimeMinutes := toNumber (value.bind (Json.get? "leadTimeMinutes")) 20
    promisedWindowMinutes := toNumber (value.bind (Json.get? "promisedWindowMinutes")) 15
    instructions := asFilledText (value.bind (Json.get? "instructions")) }

def normalizeTable (entry : Json) (number : Nat) : DineInTable :=
  { code := .ofEntry entry "code" ⟨"table-", by decide⟩ number
    label := .ofEntry entry "label" ⟨"Table ", by decide⟩ number
    capacity := toNumber (entry.get? "capacity") 2
    isActive := !isSetTo false (entry.get? "isActive") }

def normalizeDineIn (value : Option Json) : DineInConfig :=
  { enabled := isSetTo true (value.bind (Json.get? "enabled"))
    leadTimeMinutes := toNumber (value.bind (Json.get? "leadTimeMinutes")) 15
    tables := (records (value.bind (Json.get? "tables"))).map fun (entry, number) =>
      normalizeTable entry number }

def normalizeDeliveryZones (value : Option Json) : Except ApiException (List DeliveryZone) :=
  (records value).mapM fun (entry, number) => normalizeDeliveryZone entry number

def asProviderType : Option Json → ProviderType
  | some (.str "EXTERNAL_PLACEHOLDER") => .externalPlaceholder
  | _ => .manual

def normalizeProvider (entry : Json) (number : Nat) : FulfillmentProvider :=
  { providerKey := .ofEntry entry "providerKey" ⟨"manual-", by decide⟩ number
    providerType := asProviderType (entry.get? "providerType")
    enabled := !isSetTo false (entry.get? "enabled") }

def givenModes (value : Option Json) : List FulfillmentMode :=
  uniqueModes <| match value with
    | some (.arr modes) => modes.filterMap fun mode => asFulfillmentMode (some mode)
    | _ => [.delivery, .pickup]

def enabledModes (value : Option Json) : List FulfillmentMode :=
  if givenModes value = [] then [.delivery] else givenModes value

theorem enabledModes_ne_nil (value : Option Json) : enabledModes value ≠ [] := by
  rw [enabledModes]
  split
  · exact List.cons_ne_nil _ _
  next given => exact given

theorem enabledModes_nodup (value : Option Json) : (enabledModes value).Nodup := by
  rw [enabledModes]
  split
  · exact List.nodup_singleton _
  · exact Lib.Window.nodup_eraseDups _

/-- The default is chosen before the modes fall back to delivery, and need not be one of them. -/
def defaultMode (value modes : Option Json) : FulfillmentMode :=
  ((asFulfillmentMode value).or (givenModes modes).head?).getD .delivery

def resolveStoreFulfillmentConfig (storeId : Id) (raw : Option Json) :
    Except ApiException StoreFulfillmentConfig := do
  let modes := raw.bind (Json.get? "enabledModes")
  let deliveryZones ← normalizeDeliveryZones (raw.bind (Json.get? "deliveryZones"))
  pure
    { storeId
      enabledModes := enabledModes modes
      defaultMode := defaultMode (raw.bind (Json.get? "defaultMode")) modes
      deliveryZones
      pickup := normalizePickup (raw.bind (Json.get? "pickup"))
      dineIn := normalizeDineIn (raw.bind (Json.get? "dineIn"))
      providers := (records (raw.bind (Json.get? "providers"))).map fun (entry, number) =>
        normalizeProvider entry number
      offered := enabledModes_ne_nil modes
      distinct := enabledModes_nodup modes }

def DeliveryZone.toJson (zone : DeliveryZone) : Json := .obj
  [("code", .str zone.code.val),
   ("name", .str zone.name.val),
   ("postalCodes", .arr (zone.postalCodes.map .str)),
   ("fee", .str zone.fee.text),
   ("etaMinMinutes", .num zone.etaMinMinutes),
   ("etaMaxMinutes", .num zone.etaMaxMinutes),
   ("slaMinutes", .num zone.slaMinutes),
   ("isActive", .bool zone.isActive)]

def PickupConfig.toJson (pickup : PickupConfig) : Json := .obj
  [("enabled", .bool pickup.enabled),
   ("leadTimeMinutes", .num pickup.leadTimeMinutes),
   ("promisedWindowMinutes", .num pickup.promisedWindowMinutes),
   ("instructions", .ofOption (fun text => .str text.val) pickup.instructions)]

def DineInTable.toJson (table : DineInTable) : Json := .obj
  [("code", .str table.code.val),
   ("label", .str table.label.val),
   ("capacity", .num table.capacity),
   ("isActive", .bool table.isActive)]

def DineInConfig.toJson (dineIn : DineInConfig) : Json := .obj
  [("enabled", .bool dineIn.enabled),
   ("leadTimeMinutes", .num dineIn.leadTimeMinutes),
   ("tables", .arr (dineIn.tables.map DineInTable.toJson))]

def FulfillmentProvider.toJson (provider : FulfillmentProvider) : Json := .obj
  [("providerKey", .str provider.providerKey.val),
   ("providerType", .str provider.providerType.text),
   ("enabled", .bool provider.enabled)]

def StoreFulfillmentConfig.fields (config : StoreFulfillmentConfig) : List (String × Json) :=
  [("storeId", .ofNat config.storeId),
   ("enabledModes", .arr (config.enabledModes.map fun mode => .str mode.text)),
   ("defaultMode", .str config.defaultMode.text),
   ("deliveryZones", .arr (config.deliveryZones.map DeliveryZone.toJson)),
   ("pickup", config.pickup.toJson),
   ("dineIn", config.dineIn.toJson),
   ("providers", .arr (config.providers.map FulfillmentProvider.toJson))]

structure FulfillmentSelection where
  mode : FulfillmentMode
  (zoneCode addressLine1 addressLine2 postalCode : Option String)
  contactless : Bool
  (pickupSlotLabel tableCode : Option String)
  guestCount : Option Rat
  instructions : Option String

def normalizeFulfillmentSelection (value : Json) : Option FulfillmentSelection :=
  (asFulfillmentMode (value.get? "mode")).map fun mode =>
    { mode
      zoneCode := filledText (value.get? "zoneCode")
      addressLine1 := filledText (value.get? "addressLine1")
      addressLine2 := filledText (value.get? "addressLine2")
      postalCode := filledText (value.get? "postalCode")
      contactless := isSetTo true (value.get? "contactless")
      pickupSlotLabel := filledText (value.get? "pickupSlotLabel")
      tableCode := filledText (value.get? "tableCode")
      guestCount := match value.get? "guestCount" with
        | some (.num n) => if n > 0 then some n else none
        | _ => none
      instructions := filledText (value.get? "instructions") }

def FulfillmentSelection.toJson (selection : FulfillmentSelection) : Json := .obj
  [("mode", .str selection.mode.text),
   ("zoneCode", .ofOption .str selection.zoneCode),
   ("addressLine1", .ofOption .str selection.addressLine1),
   ("addressLine2", .ofOption .str selection.addressLine2),
   ("postalCode", .ofOption .str selection.postalCode),
   ("contactless", .bool selection.contactless),
   ("pickupSlotLabel", .ofOption .str selection.pickupSlotLabel),
   ("tableCode", .ofOption .str selection.tableCode),
   ("guestCount", .ofOption .num selection.guestCount),
   ("instructions", .ofOption .str selection.instructions)]

structure FulfillmentQuote where
  status : String
  fee : MoneyText
  (promisedAt etaAt : Instant)
  selection : FulfillmentSelection

/-- A date out of the language's range is refused; one before the epoch is kept as the epoch. -/
def shiftIso (base : Instant) (minutes : Rat) : Except ApiException Instant :=
  let time : Rat := base + minutes * 60 * 1000
  if 8640000000000000 < time ∨ time < -8640000000000000 then
    .error (.badRequest "Invalid time value")
  else .ok time.floor.toNat

def zoneOfCode (zones : List DeliveryZone) (code : Option String) : Option DeliveryZone :=
  zones.find? fun zone => some zone.code.val = code ∧ zone.isActive

def zoneOfPostalCode (zones : List DeliveryZone) (postalCode : Option String) :
    Option DeliveryZone :=
  zones.find? fun zone =>
    zone.isActive ∧ postalCode.any fun postalCode => postalCode ∈ zone.postalCodes

def findZone (zones : List DeliveryZone) (selection : FulfillmentSelection) : Option DeliveryZone :=
  (zoneOfCode zones selection.zoneCode).or (zoneOfPostalCode zones selection.postalCode)

/-- What the quote throws reaches the caller as a bad request. -/
def quoteFulfillment (config : StoreFulfillmentConfig) (selection : FulfillmentSelection)
    (now : Instant) : Except ApiException FulfillmentQuote := do
  rejectIf (selection.mode ∉ config.enabledModes)
    (.badRequest ("Fulfillment mode " ++ selection.mode.text ++ " is disabled for this store."))
  match selection.mode with
  | .delivery =>
    let zone ← required (findZone config.deliveryZones selection)
      (.badRequest "Delivery selection does not match an active delivery zone.")
    let promisedAt ← shiftIso now zone.slaMinutes
    let etaAt ← shiftIso now zone.etaMaxMinutes
    pure
      { status := "PENDING"
        fee := zone.fee
        promisedAt
        etaAt
        selection := { selection with zoneCode := some zone.code.val } }
  | .pickup =>
    rejectIf (config.pickup.enabled = false) (.badRequest "Pickup is disabled for this store.")
    let readyAt ← shiftIso now config.pickup.leadTimeMinutes
    pure { status := "SCHEDULED", fee := .zero, promisedAt := readyAt, etaAt := readyAt, selection }
  | .dineIn =>
    rejectIf (config.dineIn.enabled = false) (.badRequest "Dine-in is disabled for this store.")
    let table ← required
      (config.dineIn.tables.find? fun table =>
        some table.code.val = selection.tableCode ∧ table.isActive)
      (.badRequest "Selected dine-in table is not active for this store.")
    let servedAt ← shiftIso now config.dineIn.leadTimeMinutes
    pure
      { status := "TABLE_ASSIGNED"
        fee := .zero
        promisedAt := servedAt
        etaAt := servedAt
        selection := { selection with tableCode := some table.code.val } }

end Exetron.Fulfillment
