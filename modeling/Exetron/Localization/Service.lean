import Exetron.Database
import Exetron.Lib.Transaction
import Exetron.Localization.Keys

/-!
# Localization

`LocalizationService`: the settings of tenants and stores, their upserts, and the two ways of a
tenant's language pack, export and import. Each call is one transaction.
-/

namespace Exetron.Localization

open Lib Customization

structure SettingRow where
  value : Json
  (createdAt updatedAt : Instant)

structure StoreSettingRow extends SettingRow where
  tenantId : Id

/-- Tenant settings by tenant and key, store settings by store and key. -/
structure LocalizationDb where
  tenants : List Id
  stores : List Store
  tenantSettings : Record.Unique (Id × String) SettingRow
  storeSettings : Record.Unique (Id × String) StoreSettingRow

abbrev Transaction := Tx LocalizationDb ApiException

def SettingRow.upserted (now : Instant) (value : Json) : Option SettingRow → SettingRow
  | none => { value, createdAt := now, updatedAt := now }
  | some row => { row with value, updatedAt := now }

def StoreSettingRow.upserted (now : Instant) (tenantId : Id) (value : Json) :
    Option StoreSettingRow → StoreSettingRow
  | none => { value, createdAt := now, updatedAt := now, tenantId }
  | some row => { row with value, updatedAt := now }

def admitTenantSetting (tenantId : Id) (key : String) (db : LocalizationDb) :
    Except ApiException Unit :=
  rejectIf ((Record.get db.tenantSettings.val (tenantId, key)).isNone ∧ tenantId ∉ db.tenants)
    .typeError

def admitStoreSetting (storeId : Id) (key : String) (db : LocalizationDb) :
    Except ApiException Unit :=
  rejectIf ((Record.get db.storeSettings.val (storeId, key)).isNone ∧
    ∀ store ∈ db.stores, store.id ≠ storeId) .typeError

def putTenantSetting (now : Instant) (tenantId : Id) (key : String) (value : Json)
    (db : LocalizationDb) : LocalizationDb :=
  let row := .upserted now value (Record.get db.tenantSettings.val (tenantId, key))
  { db with tenantSettings := db.tenantSettings.set (tenantId, key) row }

def putStoreSetting (now : Instant) (tenantId storeId : Id) (key : String) (value : Json)
    (db : LocalizationDb) : LocalizationDb :=
  let row := .upserted now tenantId value (Record.get db.storeSettings.val (storeId, key))
  { db with storeSettings := db.storeSettings.set (storeId, key) row }

def upsertTenantSetting (now : Instant) (tenantId : Id) (key : String) (value : Json) :
    Transaction PUnit := do
  Tx.read (admitTenantSetting tenantId key)
  Tx.write (putTenantSetting now tenantId key value)

def upsertStoreSetting (now : Instant) (tenantId storeId : Id) (key : String) (value : Json) :
    Transaction PUnit := do
  Tx.read (admitStoreSetting storeId key)
  Tx.write (putStoreSetting now tenantId storeId key value)

variable (casing : Casing) (now : Instant)

def upsertTenantPreferences (context : RequestContext) (dto : UpsertLocalizationPreferencesRequest)
    (tenantId : Option Id) : Transaction PUnit := do
  let tenantId ← Tx.lift (resolveTenantId context (tenantId.or context.tenantId))
  upsertTenantSetting now tenantId localizationPreferencesKey
    (buildPreferencesValue casing dto).toJson

def upsertStorePreferences (context : RequestContext) (storeId : Id)
    (dto : UpsertLocalizationPreferencesRequest) : Transaction PUnit := do
  Tx.lift (enforceStoreAccess context storeId)
  let store ← Tx.read fun db =>
    required (db.stores.find? fun store => store.id = storeId) (.recordNotFound "Store")
  let _ ← Tx.lift (resolveTenantId context (some store.tenantId))
  upsertStoreSetting now store.tenantId storeId localizationPreferencesKey
    (buildPreferencesValue casing dto).toJson

def upsertCountryProfile (context : RequestContext) (countryCode : String)
    (dto : UpsertCountryProfileRequest) (tenantId : Option Id) : Transaction PUnit := do
  let tenantId ← Tx.lift (resolveTenantId context (tenantId.or context.tenantId))
  let countryCode ← Tx.lift (required (normalizeCountryCode casing (some countryCode))
    (.badRequest "Country code is required."))
  upsertTenantSetting now tenantId (buildCountryProfileKey casing countryCode)
    (buildCountryProfileValue casing dto).toJson

def upsertLocalizedContent (context : RequestContext) (dto : UpsertLocalizedContentRequest) :
    Transaction PUnit := do
  let tenantId ← Tx.lift (resolveTenantId context (some dto.tenantId))
  upsertTenantSetting now tenantId (buildLocalizedContentKey dto.targetType dto.targetId)
    (buildLocalizedContentValue casing dto).toJson

def upsertTemplate (context : RequestContext) (dto : UpsertLocalizedTemplateRequest) :
    Transaction PUnit := do
  let tenantId ← Tx.lift (resolveTenantId context (some dto.tenantId))
  upsertTenantSetting now tenantId
    (buildLocalizedTemplateKey (dto.channel.map channelText) dto.templateKey)
    (buildLocalizedTemplateValue casing dto).toJson

inductive PreferencesScope where
  | tenant
  | store
  deriving DecidableEq

structure LocalizationPreferencesDto extends LocalizationPreferencesValue where
  scope : PreferencesScope
  tenantId : Id
  storeId : Option Id
  (createdAt updatedAt : Instant)

structure CountryProfileDto extends CountryProfileValue where
  tenantId : Id
  countryCode : String
  (createdAt updatedAt : Instant)

structure LocalizedContentDto extends LocalizedContentValue where
  tenantId : Id
  targetType : LocalizedContentTargetType
  targetId : String
  (createdAt updatedAt : Instant)

structure LocalizedTemplateDto extends LocalizedTemplateValue where
  tenantId : Id
  templateKey : String
  (createdAt updatedAt : Instant)

structure LanguagePack where
  tenantId : Option Id
  generatedAt : Instant
  tenantPreferences : Option LocalizationPreferencesDto
  storePreferences : List LocalizationPreferencesDto
  countryProfiles : List CountryProfileDto
  content : List LocalizedContentDto
  templates : List LocalizedTemplateDto

structure ScopedQuery where
  (tenantId storeId : Option Id)

/-- `resolveScopeTx`: the tenant that a query is about. -/
def resolveScope (context : RequestContext) (query : ScopedQuery) (db : LocalizationDb) :
    Except ApiException Id := do
  let store ← match query.storeId with
    | none => pure none
    | some storeId =>
      let store ← required (db.stores.find? fun store => store.id = storeId)
        (.recordNotFound "Store")
      enforceStoreAccess context store.id
      pure (some store)
  resolveTenantId context ((query.tenantId.or (store.map Store.tenantId)).or context.tenantId)

/-- `findMany` of a tenant's settings by the start of their keys, in order of the keys. -/
def tenantSettingsFrom (tenantId : Id) (kind : SettingKind) (db : LocalizationDb) :
    List (String × SettingRow) :=
  ((db.tenantSettings.val.filter fun field =>
    field.1.1 = tenantId ∧ kind.has field.1.2 = true).map fun field =>
      (field.1.2, field.2)).insertionSort fun left right => left.1 ≤ right.1

def storePreferencesOf (tenantId : Id) (db : LocalizationDb) : List (Id × StoreSettingRow) :=
  ((db.storeSettings.val.filter fun field =>
    field.2.tenantId = tenantId ∧ field.1.2 = localizationPreferencesKey).map fun field =>
      (field.1.1, field.2)).insertionSort fun left right => left.1 ≤ right.1

def mapPreferencesDto (scope : PreferencesScope) (tenantId : Id) (storeId : Option Id)
    (setting : SettingRow) : Except ApiException LocalizationPreferencesDto := do
  let value ← parseLocalizationPreferences casing setting.value
  pure { value with
    scope, tenantId, storeId, createdAt := setting.createdAt, updatedAt := setting.updatedAt }

def mapCountryProfileDto (tenantId : Id) (field : String × SettingRow) :
    Except ApiException (Option CountryProfileDto) :=
  match parseCountryProfileKey casing field.1 with
  | none => pure none
  | some countryCode => do
    let value ← parseCountryProfile casing field.2.value countryCode
    pure (some { value with
      tenantId, countryCode, createdAt := field.2.createdAt, updatedAt := field.2.updatedAt })

def mapLocalizedContentDto (tenantId : Id) (field : String × SettingRow) :
    Option LocalizedContentDto := do
  let (targetType, targetId) ← parseLocalizedContentKey field.1
  some { parseLocalizedContentValue casing field.2.value with
    tenantId, targetType, targetId,
    createdAt := field.2.createdAt, updatedAt := field.2.updatedAt }

def mapLocalizedTemplateDto (tenantId : Id) (field : String × SettingRow) :
    Option LocalizedTemplateDto := do
  let (channel, templateKey) ← parseLocalizedTemplateKey field.1
  some { parseLocalizedTemplateValue casing field.2.value channel with
    tenantId, templateKey, createdAt := field.2.createdAt, updatedAt := field.2.updatedAt }

def exportLanguagePack (context : RequestContext) (query : ScopedQuery) (db : LocalizationDb) :
    Except ApiException LanguagePack := do
  let tenantId ← resolveScope context query db
  let tenantPreferences ←
    (Record.get db.tenantSettings.val (tenantId, localizationPreferencesKey)).mapM
      (mapPreferencesDto casing .tenant tenantId none)
  let storePreferences ← (storePreferencesOf tenantId db).mapM fun field =>
    mapPreferencesDto casing .store field.2.tenantId (some field.1) field.2.toSettingRow
  let countryProfiles ← (tenantSettingsFrom tenantId .countryProfile db).mapM
    (mapCountryProfileDto casing tenantId)
  pure
    { tenantId := some tenantId
      generatedAt := now
      tenantPreferences
      storePreferences
      countryProfiles := countryProfiles.reduceOption
      content := (tenantSettingsFrom tenantId .content db).filterMap
        (mapLocalizedContentDto casing tenantId)
      templates := (tenantSettingsFrom tenantId .template db).filterMap
        (mapLocalizedTemplateDto casing tenantId) }

structure ImportLanguagePackDto where
  tenantId : Option Id
  pack : LanguagePack

def importStorePreference (context : RequestContext) (tenantId : Id)
    (preference : LocalizationPreferencesDto) : Transaction PUnit :=
  match preference.storeId with
  | none => pure ⟨⟩
  | some storeId => do
    Tx.lift (enforceStoreAccess context storeId)
    upsertStoreSetting now tenantId storeId localizationPreferencesKey
      (buildPreferencesValue casing preference.toLocalizationPreferencesValue.toRequest).toJson

def importLanguagePack (context : RequestContext) (dto : ImportLanguagePackDto) :
    Transaction LanguagePack := do
  let tenantId ← Tx.lift (resolveTenantId context
    ((dto.tenantId.or dto.pack.tenantId).or context.tenantId))
  Tx.lift (rejectIf (∃ own ∈ dto.pack.tenantId, own ≠ tenantId)
    (.badRequest "Language pack tenant mismatch."))
  dto.pack.tenantPreferences.toList.forM fun preferences =>
    upsertTenantSetting now tenantId localizationPreferencesKey
      (buildPreferencesValue casing preferences.toLocalizationPreferencesValue.toRequest).toJson
  dto.pack.storePreferences.forM (importStorePreference casing now context tenantId)
  dto.pack.countryProfiles.forM fun profile =>
    upsertTenantSetting now tenantId (buildCountryProfileKey casing profile.countryCode)
      profile.toCountryProfileValue.toJson
  dto.pack.content.forM fun content =>
    upsertTenantSetting now tenantId (buildLocalizedContentKey content.targetType content.targetId)
      content.toLocalizedContentValue.toJson
  dto.pack.templates.forM fun template =>
    upsertTenantSetting now tenantId
      (buildLocalizedTemplateKey template.channel template.templateKey)
      template.toLocalizedTemplateValue.toJson
  pure { dto.pack with tenantId := some tenantId, generatedAt := now }

end Exetron.Localization
