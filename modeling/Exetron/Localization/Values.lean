import Exetron.Access
import Exetron.Customization.Runtime
import Exetron.Localization.Locales
import Mathlib.Data.List.Sort

/-!
# The values of localization settings

What the upserts of `LocalizationService` store for preferences, country profiles, contents and
templates, and what the parsers of the module read from a stored value.
-/

namespace Exetron.Localization

open Lib Customization

inductive LocalizedContentTargetType where
  | category
  | product
  | variant
  | modifierGroup
  | modifierOption
  | branding
  deriving DecidableEq

def LocalizedContentTargetType.text : LocalizedContentTargetType → String
  | .category => "CATEGORY"
  | .product => "PRODUCT"
  | .variant => "VARIANT"
  | .modifierGroup => "MODIFIER_GROUP"
  | .modifierOption => "MODIFIER_OPTION"
  | .branding => "BRANDING"

def localizedContentTargetTypes : List LocalizedContentTargetType :=
  [.category, .product, .variant, .modifierGroup, .modifierOption, .branding]

def channelText : CustomizationChannel → String
  | .admin => "ADMIN"
  | .pos => "POS"
  | .kiosk => "KIOSK"
  | .delivery => "DELIVERY"
  | .kitchen => "KITCHEN"
  | .board => "BOARD"
  | .backoffice => "BACKOFFICE"

def customizationChannels : List CustomizationChannel :=
  [.admin, .pos, .kiosk, .delivery, .kitchen, .board, .backoffice]

inductive TaxMode where
  | none
  | inclusive
  | exclusive
  deriving DecidableEq

def TaxMode.text : TaxMode → String
  | .none => "NONE"
  | .inclusive => "INCLUSIVE"
  | .exclusive => "EXCLUSIVE"

structure LocalizationPreferencesValue where
  (defaultLocale fallbackLocale : String)
  supportedLocales : List String
  (countryCode currency timezone : Option String)
  channelLocales : Record String String
  deriving DecidableEq

/-- A request may give the label any value. -/
structure CountryTax where
  mode : TaxMode
  ratePercent : Option Rat
  label : Json

structure CountryProfileValue where
  defaultLocale : String
  supportedLocales : List String
  currency : String
  tax : CountryTax
  complianceFlags : List String
  metadata : Fields

structure LocalizedContentValue where
  entries : Record String (Record String String)

/-- A parsed key may name any channel. -/
structure LocalizedTemplateValue where
  (channel description : Option String)
  variableNames : List String
  entries : Record String Fields

structure UpsertLocalizationPreferencesRequest where
  defaultLocale : String
  fallbackLocale : Option String
  supportedLocales : Option (List String)
  (countryCode currency timezone : Option String)
  channelLocales : Option Fields

structure UpsertCountryProfileRequest where
  (defaultLocale currency : String)
  supportedLocales : Option (List String)
  tax : Option Fields
  complianceFlags : Option (List String)
  metadata : Option Fields

structure UpsertLocalizedContentRequest where
  tenantId : Id
  targetType : LocalizedContentTargetType
  targetId : String
  entries : Fields

structure UpsertLocalizedTemplateRequest where
  tenantId : Id
  templateKey : String
  channel : Option CustomizationChannel
  description : Option String
  variableNames : Option (List String)
  entries : Fields

/-- `Object.fromEntries(entries)`. -/
def fromEntries {α : Type} (entries : List (String × α)) : Record String α :=
  Record.spread [] entries

def asStringRecord : Json → Record String String
  | .obj fields => fromEntries (fields.filterMap fun field =>
      field.2.asString?.map fun text => (field.1, text))
  | _ => []

def stringField (record : Fields) (key : String) : Option String :=
  (Record.get record key).bind Json.asString?

def arrayField (record : Fields) (key : String) : Option (List Json) :=
  (Record.get record key).bind Json.asArray?

/-- An element that `normalizeLocaleTag` is given: only texts can be trimmed. -/
def localeItem : Json → Except ApiException (Option String)
  | .null => .ok none
  | .str locale => .ok (some locale)
  | _ => .error .typeError

variable (casing : Casing)

/-- `normalizeLocaleTag(locale) ?? locale`. -/
def localeKey (locale : String) : String := (normalizeLocaleTag casing (some locale)).getD locale

/-- Entries by locale, each with its value read by `f`. -/
def localeEntries {α : Type} (f : Json → α) (entries : Fields) : Record String α :=
  fromEntries (entries.map fun entry => (localeKey casing entry.1, f entry.2))

def channelLocale (field : String × Json) : Option (String × String) :=
  if field.1 ∈ customizationChannels.map channelText then
    field.2.asString?.map fun locale => (field.1, localeKey casing locale)
  else none

def buildChannelLocales (value : Option Json) : Record String String :=
  match value with
  | some (.obj fields) => fromEntries (fields.filterMap (channelLocale casing))
  | _ => []

def isVariableChar (c : Char) : Bool :=
  ('a' ≤ c && c ≤ 'z') || ('A' ≤ c && c ≤ 'Z') || ('0' ≤ c && c ≤ '9') || c = '_' || c = '.' ||
    c = '-'

/-- `\{\{\s*([a-zA-Z0-9_.-]+)\s*\}\}` at the start of a text: the name, and the text after it. -/
def matchVariable : List Char → Option (String × List Char)
  | '\x7b' :: '\x7b' :: rest =>
    let body := rest.dropWhile Text.isSpace
    let name := body.takeWhile isVariableChar
    match name, (body.dropWhile isVariableChar).dropWhile Text.isSpace with
    | [], _ => none
    | _, '\x7d' :: '\x7d' :: after => some (String.ofList name, after)
    | _, _ => none
  | _ => none

/-- The matches of the expression one after the other; `skip` characters are part of the last. -/
def variablesOf (skip : Nat) : List Char → List String
  | [] => []
  | c :: rest =>
    match skip with
    | skip + 1 => variablesOf skip rest
    | 0 =>
      match matchVariable (c :: rest) with
      | none => variablesOf 0 rest
      | some (name, after) => name :: variablesOf (rest.length - after.length) rest

/-- The variables in the texts of the entries, in order of their names. -/
def collectTemplateVariables (entries : Record String Fields) : List String :=
  let texts := entries.flatMap fun entry =>
    (entry.2.filter fun field => Json.isTruthy (some field.2)).map fun field => field.2.toText
  ((texts.flatMap fun text => variablesOf 0 text.toList).dedup).insertionSort (· ≤ ·)

def buildPreferencesValue (dto : UpsertLocalizationPreferencesRequest) :
    LocalizationPreferencesValue :=
  let defaultLocale := (normalizeLocaleTag casing (some dto.defaultLocale)).getD "en-US"
  let fallbackLocale := (normalizeLocaleTag casing dto.fallbackLocale).getD defaultLocale
  { defaultLocale
    fallbackLocale
    supportedLocales := normalizeSupportedLocales casing
      ((dto.supportedLocales.getD []).map some) (some defaultLocale) (some fallbackLocale)
    countryCode := normalizeCountryCode casing dto.countryCode
    currency := dto.currency.map fun currency => casing.toUpperCase.apply (Text.trim currency)
    timezone := dto.timezone
    channelLocales := buildChannelLocales casing (dto.channelLocales.map .obj) }

def LocalizationPreferencesValue.toRequest (value : LocalizationPreferencesValue) :
    UpsertLocalizationPreferencesRequest where
  defaultLocale := value.defaultLocale
  fallbackLocale := some value.fallbackLocale
  supportedLocales := some value.supportedLocales
  countryCode := value.countryCode
  currency := value.currency
  timezone := value.timezone
  channelLocales := some (value.channelLocales.map fun entry => (entry.1, .str entry.2))

def taxMode (tax : Option Fields) : TaxMode :=
  match tax.bind fun tax => stringField tax "mode" with
  | some "INCLUSIVE" => .inclusive
  | some "EXCLUSIVE" => .exclusive
  | _ => .none

def taxRatePercent (tax : Option Fields) : Option Rat :=
  asNumber (tax.bind fun tax => Record.get tax "ratePercent")

def buildCountryProfileValue (dto : UpsertCountryProfileRequest) : CountryProfileValue where
  defaultLocale := (normalizeLocaleTag casing (some dto.defaultLocale)).getD "en-US"
  supportedLocales := normalizeSupportedLocales casing ((dto.supportedLocales.getD []).map some)
    (some dto.defaultLocale) (some dto.defaultLocale)
  currency := casing.toUpperCase.apply (Text.trim dto.currency)
  tax :=
    { mode := taxMode dto.tax
      ratePercent := taxRatePercent dto.tax
      label := Json.orElse (dto.tax.bind fun tax => Record.get tax "label") .null }
  complianceFlags := dedupeStrings ((dto.complianceFlags.getD []).map some)
  metadata := dto.metadata.getD []

def buildLocalizedContentValue (dto : UpsertLocalizedContentRequest) : LocalizedContentValue where
  entries := localeEntries casing asStringRecord dto.entries

def buildLocalizedTemplateValue (dto : UpsertLocalizedTemplateRequest) : LocalizedTemplateValue :=
  let normalizedEntries := localeEntries casing (fun entry => (asRecord entry).getD []) dto.entries
  { channel := dto.channel.map channelText
    description := dto.description
    variableNames :=
      match dto.variableNames with
      | some (name :: names) => dedupeStrings ((name :: names).map some)
      | _ => collectTemplateVariables normalizedEntries
    entries := normalizedEntries }

def textsJson (texts : List String) : Json := .arr (texts.map .str)

def entriesJson {α : Type} (f : α → Json) (entries : Record String α) : Json :=
  .obj (entries.map fun entry => (entry.1, f entry.2))

def LocalizationPreferencesValue.toJson (value : LocalizationPreferencesValue) : Json :=
  .obj [("defaultLocale", .str value.defaultLocale),
    ("fallbackLocale", .str value.fallbackLocale),
    ("supportedLocales", textsJson value.supportedLocales),
    ("countryCode", Json.ofOption .str value.countryCode),
    ("currency", Json.ofOption .str value.currency),
    ("timezone", Json.ofOption .str value.timezone),
    ("channelLocales", entriesJson .str value.channelLocales)]

def CountryTax.toJson (tax : CountryTax) : Json :=
  .obj [("mode", .str tax.mode.text), ("ratePercent", Json.ofOption .num tax.ratePercent),
    ("label", tax.label)]

def CountryProfileValue.toJson (value : CountryProfileValue) : Json :=
  .obj [("defaultLocale", .str value.defaultLocale),
    ("supportedLocales", textsJson value.supportedLocales),
    ("currency", .str value.currency),
    ("tax", value.tax.toJson),
    ("complianceFlags", textsJson value.complianceFlags),
    ("metadata", .obj value.metadata)]

def LocalizedContentValue.toJson (value : LocalizedContentValue) : Json :=
  .obj [("entries", entriesJson (entriesJson .str) value.entries)]

def LocalizedTemplateValue.toJson (value : LocalizedTemplateValue) : Json :=
  .obj [("channel", Json.ofOption .str value.channel),
    ("description", Json.ofOption .str value.description),
    ("variables", textsJson value.variableNames),
    ("entries", entriesJson .obj value.entries)]

/-- `Array.isArray(record[key]) ? record[key] : []`, as locales to normalise. -/
def localesField (record : Fields) (key : String) : Except ApiException (List (Option String)) :=
  ((arrayField record key).getD []).mapM localeItem

def parseLocalizationPreferences (value : Json) :
    Except ApiException LocalizationPreferencesValue := do
  let record := (asRecord value).getD []
  let defaultLocale :=
    (normalizeLocaleTag casing (stringField record "defaultLocale")).getD "en-US"
  let fallbackLocale :=
    (normalizeLocaleTag casing (stringField record "fallbackLocale")).getD defaultLocale
  let supportedLocales ← localesField record "supportedLocales"
  pure
    { defaultLocale
      fallbackLocale
      supportedLocales := normalizeSupportedLocales casing supportedLocales (some defaultLocale)
        (some fallbackLocale)
      countryCode := normalizeCountryCode casing (stringField record "countryCode")
      currency := (stringField record "currency").map fun currency =>
        casing.toUpperCase.apply (Text.trim currency)
      timezone := stringField record "timezone"
      channelLocales := buildChannelLocales casing (Record.get record "channelLocales") }

def parseCurrency (currency : Option String) : String :=
  match currency with
  | none => "USD"
  | some currency =>
    if Text.trim currency = "" then "USD" else casing.toUpperCase.apply (Text.trim currency)

/-- `typeof label === "string" ? label : null`. -/
def parseLabel (taxRecord : Option Fields) : Json :=
  Json.ofOption .str (taxRecord.bind fun tax => stringField tax "label")

def parseCountryProfile (value : Json) (countryCode : String) :
    Except ApiException CountryProfileValue := do
  let record := (asRecord value).getD []
  let defaultLocale :=
    (normalizeLocaleTag casing (stringField record "defaultLocale")).getD "en-US"
  let taxRecord := asRecord? (Record.get record "tax")
  let supportedLocales ← localesField record "supportedLocales"
  pure
    { defaultLocale
      supportedLocales := normalizeSupportedLocales casing supportedLocales (some defaultLocale)
        (some defaultLocale)
      currency := parseCurrency casing (stringField record "currency")
      tax :=
        { mode := taxMode taxRecord
          ratePercent := taxRatePercent taxRecord
          label := parseLabel taxRecord }
      complianceFlags := ((arrayField record "complianceFlags").getD []).filterMap Json.asString?
      metadata := (asRecord? (Record.get record "metadata")).getD
        [("countryCode", .str countryCode), ("profileStatus", .str "base")] }

def rawEntries (value : Json) : Fields :=
  (asRecord? (Record.get ((asRecord value).getD []) "entries")).getD []

def parseLocalizedContentValue (value : Json) : LocalizedContentValue where
  entries := localeEntries casing asStringRecord (rawEntries value)

/-- The items of an array of texts. -/
def asStrings? (items : List Json) : Option (List String) := items.mapM Json.asString?

def parseLocalizedTemplateValue (value : Json) (channel : Option String) : LocalizedTemplateValue :=
  let record := (asRecord value).getD []
  let entries := localeEntries casing (fun entry => (asRecord entry).getD []) (rawEntries value)
  { channel
    description := stringField record "description"
    variableNames := ((arrayField record "variables").bind asStrings?).getD
      (collectTemplateVariables entries)
    entries }

end Exetron.Localization
