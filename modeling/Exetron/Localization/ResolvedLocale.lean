import Exetron.Localization.Parsed
import Exetron.Localization.Service

/-!
# The resolved locale

`resolveContextTx` lists the locale of every level, takes the first one, and the first supported
one when that is not supported. The store's default locale is never missing from the list: it is
inherited from the tenant, and the tenant's is American English when none is set. So the levels
below it decide only where they agree with it.
-/

namespace Exetron.Localization

open Lib Customization List

/-- `Partial<LocalizationPreferencesValue>`, the fields that a store inherits. -/
structure PreferencesFallback where
  (defaultLocale fallbackLocale countryCode currency timezone : Option String)

variable (casing : Casing)

def settingRecord (value : Option Json) : Fields := (value.bind asRecord).getD []

def localeField (value : Option Json) (key : String) : Option String :=
  normalizeLocaleTag casing (stringField (settingRecord value) key)

/-- `parseLocalizationPreferences(value, fallback)`. -/
def inheritPreferences (value : Option Json) (fallback : PreferencesFallback) :
    Except ApiException LocalizationPreferencesValue := do
  let record := settingRecord value
  let defaultLocale := ((localeField casing value "defaultLocale").or
    (normalizeLocaleTag casing fallback.defaultLocale)).getD "en-US"
  let fallbackLocale := ((localeField casing value "fallbackLocale").or
    (normalizeLocaleTag casing fallback.fallbackLocale)).getD defaultLocale
  let supportedLocales ← localesField record "supportedLocales"
  pure
    { defaultLocale
      fallbackLocale
      supportedLocales := normalizeSupportedLocales casing supportedLocales (some defaultLocale)
        (some fallbackLocale)
      countryCode := normalizeCountryCode casing
        ((stringField record "countryCode").or fallback.countryCode)
      currency := ((stringField record "currency").map fun currency =>
        casing.toUpperCase.apply (Text.trim currency)).or fallback.currency
      timezone := (stringField record "timezone").or fallback.timezone
      channelLocales := buildChannelLocales casing (Record.get record "channelLocales") }

structure ResolveLocalizationInput where
  (tenantId storeId : Option Id)
  (locale customerLocale countryCode : Option String)
  channel : Option CustomizationChannel
  currency : Option String

structure LocalizationScope where
  tenantId : Id
  store : Option Store

/-- `resolveScopeTx`. -/
def resolveStoreScope (context : RequestContext) (query : ScopedQuery) (db : LocalizationDb) :
    Except ApiException LocalizationScope := do
  let store ← match query.storeId with
    | none => pure none
    | some storeId =>
      let store ← required (db.stores.find? fun store => store.id = storeId)
        (.recordNotFound "Store")
      enforceStoreAccess context store.id
      pure (some store)
  let tenantId ← resolveTenantId context
    ((query.tenantId.or (store.map Store.tenantId)).or context.tenantId)
  pure { tenantId, store }

def channelLocaleOf (preferences : LocalizationPreferencesValue)
    (channel : Option CustomizationChannel) : Option String :=
  normalizeLocaleTag casing
    (channel.bind fun channel => Record.get preferences.channelLocales (channelText channel))

def localeCandidates (input : ResolveLocalizationInput)
    (store tenant : LocalizationPreferencesValue) (country : Option CountryProfileValue) :
    List (Option String × String) :=
  [(normalizeLocaleTag casing input.locale, "query.locale"),
    (normalizeLocaleTag casing input.customerLocale, "query.customerLocale"),
    (channelLocaleOf casing store input.channel, "store.preferences.channelLocale"),
    (some store.defaultLocale, "store.preferences.defaultLocale"),
    (channelLocaleOf casing tenant input.channel, "tenant.preferences.channelLocale"),
    (some tenant.defaultLocale, "tenant.preferences.defaultLocale"),
    (country.map CountryProfileValue.defaultLocale, "countryProfile.defaultLocale"),
    (some store.fallbackLocale, "store.preferences.fallbackLocale"),
    (some tenant.fallbackLocale, "tenant.preferences.fallbackLocale"),
    (some "en-US", "platform.defaultLocale")]

def mergedSupportedLocales (store tenant : LocalizationPreferencesValue)
    (country : Option CountryProfileValue) : List String :=
  normalizeSupportedLocales casing
    ((store.supportedLocales ++ tenant.supportedLocales ++
      (country.map CountryProfileValue.supportedLocales).getD []).map some)
    ((country.map CountryProfileValue.defaultLocale).or (some store.defaultLocale))
    (some store.fallbackLocale)

def chooseLocale (candidates : List (Option String)) (supportedLocales : List String)
    (tenantDefault : String) : String :=
  let resolvedLocale := (candidates.findSome? id).getD tenantDefault
  if supportedLocales ≠ [] ∧ resolvedLocale ∉ supportedLocales then
    ((candidates.filterMap id).find? fun locale => locale ≠ "" ∧ locale ∈ supportedLocales).getD
      (supportedLocales.headD "")
  else resolvedLocale

def resolvedBySources (resolvedLocale : String) : List (Option String × String) → List String
  | [] => []
  | (candidate, source) :: rest =>
    match candidate with
    | none => resolvedBySources resolvedLocale rest
    | some locale =>
      if locale = "" then resolvedBySources resolvedLocale rest
      else if locale = resolvedLocale then [source]
      else source :: resolvedBySources resolvedLocale rest

structure ResolvedLocalizationContext where
  tenantId : Id
  storeId : Option Id
  (locale fallbackLocale : String)
  resolvedBy : List String
  countryCode : Option String
  supportedLocales : List String
  currency : String
  tax : CountryTax
  (complianceFlags localeChain : List String)

def tenantSettingOf (tenantId : Id) (key : String) (db : LocalizationDb) : Option Json :=
  (Record.get db.tenantSettings.val (tenantId, key)).map SettingRow.value

def storeSettingOf (storeId : Id) (key : String) (db : LocalizationDb) : Option Json :=
  (Record.get db.storeSettings.val (storeId, key)).map fun row => row.value

def storeFallback (scope : LocalizationScope) (tenant : LocalizationPreferencesValue) :
    PreferencesFallback where
  defaultLocale := some tenant.defaultLocale
  fallbackLocale := some tenant.fallbackLocale
  countryCode := tenant.countryCode
  currency := tenant.currency
  timezone := (scope.store.map Store.timezone).or tenant.timezone

def currencyGiven (currency : Option String) : Option String :=
  (currency.map fun currency => casing.toUpperCase.apply (Text.trim currency)).filter
    fun currency => currency ≠ ""

/-- What a resolution reads: the settings as they are stored and as they are parsed. -/
structure LocalizationSettings where
  scope : LocalizationScope
  (tenantValue storeValue countryValue : Option Json)
  (tenant store : LocalizationPreferencesValue)
  countryCode : Option String
  country : Option CountryProfileValue

def readCountryProfile (countryCode : Option String) (value : Option Json) :
    Except ApiException (Option CountryProfileValue) :=
  match countryCode with
  | none => pure none
  | some code => do
    let profile ← parseCountryProfile casing (value.getD .null) code
    pure (some profile)

def readSettings (context : RequestContext) (input : ResolveLocalizationInput)
    (db : LocalizationDb) : Except ApiException LocalizationSettings := do
  let scope ← resolveStoreScope context ⟨input.tenantId, input.storeId⟩ db
  let tenantValue := tenantSettingOf scope.tenantId localizationPreferencesKey db
  let storeValue := scope.store.bind fun store =>
    storeSettingOf store.id localizationPreferencesKey db
  let tenant ← inheritPreferences casing tenantValue ⟨none, none, none, none, none⟩
  let store ← inheritPreferences casing storeValue (storeFallback scope tenant)
  let countryCode := ((normalizeCountryCode casing input.countryCode).or store.countryCode).or
    tenant.countryCode
  let countryValue := countryCode.bind fun code =>
    tenantSettingOf scope.tenantId (buildCountryProfileKey casing code) db
  let country ← readCountryProfile casing countryCode countryValue
  pure { scope, tenantValue, storeValue, countryValue, tenant, store, countryCode, country }

/-- `resolveContextTx`. -/
def resolveContext (context : RequestContext) (input : ResolveLocalizationInput)
    (db : LocalizationDb) : Except ApiException ResolvedLocalizationContext := do
  let settings ← readSettings casing context input db
  let candidates := localeCandidates casing input settings.store settings.tenant settings.country
  let supportedLocales := mergedSupportedLocales casing settings.store settings.tenant
    settings.country
  let locale := chooseLocale (candidates.map Prod.fst) supportedLocales
    settings.tenant.defaultLocale
  pure
    { tenantId := settings.scope.tenantId
      storeId := settings.scope.store.map Store.id
      locale
      fallbackLocale := settings.store.fallbackLocale
      resolvedBy := resolvedBySources locale candidates
      countryCode := settings.countryCode
      supportedLocales
      currency := (((currencyGiven casing input.currency).or settings.store.currency).or
        (settings.tenant.currency.or (settings.country.map CountryProfileValue.currency))).getD
          "USD"
      tax := (settings.country.map CountryProfileValue.tax).getD ⟨.none, none, .null⟩
      complianceFlags := (settings.country.map CountryProfileValue.complianceFlags).getD []
      localeChain := dedupeStrings [some locale, some settings.store.fallbackLocale,
        settings.country.map CountryProfileValue.defaultLocale, some "en-US"] }

/-- The locales that the levels name themselves, with nothing inherited. -/
structure LocaleLevels where
  (query customer storeChannel storeDefault tenantChannel tenantDefault : Option String)
  (countryDefault storeFallback tenantFallback : Option String)

namespace LocaleLevels

def aboveDefault (levels : LocaleLevels) : List (Option String) :=
  [levels.query, levels.customer, levels.storeChannel]

def belowDefault (levels : LocaleLevels) : List (Option String) :=
  [levels.tenantChannel, levels.tenantDefault, levels.countryDefault, levels.storeFallback,
    levels.tenantFallback, some "en-US"]

def inOrder (levels : LocaleLevels) : List (Option String) :=
  levels.aboveDefault ++ levels.storeDefault :: levels.belowDefault

/-- What a store inherits as its default locale. -/
def inherited (levels : LocaleLevels) : String := levels.tenantDefault.getD "en-US"

end LocaleLevels

def channelField (value : Option Json) (channel : Option CustomizationChannel) : Option String :=
  normalizeLocaleTag casing (channel.bind fun channel =>
    Record.get (buildChannelLocales casing (Record.get (settingRecord value) "channelLocales"))
      (channelText channel))

def LocalizationSettings.levels (settings : LocalizationSettings)
    (input : ResolveLocalizationInput) : LocaleLevels where
  query := normalizeLocaleTag casing input.locale
  customer := normalizeLocaleTag casing input.customerLocale
  storeChannel := channelField casing settings.storeValue input.channel
  storeDefault := localeField casing settings.storeValue "defaultLocale"
  tenantChannel := channelField casing settings.tenantValue input.channel
  tenantDefault := localeField casing settings.tenantValue "defaultLocale"
  countryDefault := settings.countryCode.bind fun _ =>
    localeField casing settings.countryValue "defaultLocale"
  storeFallback := localeField casing settings.storeValue "fallbackLocale"
  tenantFallback := localeField casing settings.tenantValue "fallbackLocale"

def firstSupported (supportedLocales : List String) (levels : List (Option String)) :
    Option String :=
  (levels.filterMap id).find? fun locale => locale ∈ supportedLocales

/-- A level above the store's default decides, or the store sets its default, or what the store
inherits is the first supported locale that is set below. -/
def Unshadowed (supportedLocales : List String) (levels : LocaleLevels) : Prop :=
  (firstSupported supportedLocales levels.aboveDefault).isSome ∨ levels.storeDefault.isSome ∨
    firstSupported supportedLocales levels.belowDefault = some levels.inherited

variable {casing}

def Spelled (casing : Casing) (locale : String) : Prop :=
  normalizeLocaleTag casing (some locale) = some locale ∧ locale ≠ ""

theorem spelled_of_normalized {locale : Option String} {tag : String}
    (normalized : normalizeLocaleTag casing locale = some tag) : Spelled casing tag :=
  normalizeLocaleTag_normalized normalized

theorem spelled_default : Spelled casing "en-US" := spelled_of_normalized normalizeLocaleTag_default

theorem mem_normalizeSupportedLocales {locales : List (Option String)}
    {defaultLocale fallbackLocale : Option String} {locale : String}
    (spelled : Spelled casing locale)
    (listed : some locale ∈ locales ++ [defaultLocale, fallbackLocale]) :
    locale ∈ normalizeSupportedLocales casing locales defaultLocale fallbackLocale := by
  rw [normalizeSupportedLocales, mem_dedupeStrings, mem_map]
  exact ⟨⟨some locale, listed, spelled.1⟩, spelled.2⟩

structure ParsedPreferences (casing : Casing) (value : Option Json) (inherited : Option String)
    (preferences : LocalizationPreferencesValue) : Prop where
  defaultLocale : preferences.defaultLocale = ((localeField casing value "defaultLocale").or
    (normalizeLocaleTag casing inherited)).getD "en-US"
  channel : ∀ channel,
    channelLocaleOf casing preferences channel = channelField casing value channel
  supported : preferences.defaultLocale ∈ preferences.supportedLocales

theorem inheritPreferences_parsed {value : Option Json} {fallback : PreferencesFallback}
    {preferences : LocalizationPreferencesValue}
    (h : inheritPreferences casing value fallback = .ok preferences) :
    ParsedPreferences casing value fallback.defaultLocale preferences ∧
      Spelled casing preferences.defaultLocale := by
  obtain ⟨supportedLocales, -, made⟩ := except_bind_ok_iff.mp h
  obtain rfl := Except.ok.inj made
  have spelled : Spelled casing (((localeField casing value "defaultLocale").or
      (normalizeLocaleTag casing fallback.defaultLocale)).getD "en-US") := by
    cases own : localeField casing value "defaultLocale" with
    | some tag => exact spelled_of_normalized own
    | none =>
      cases given : normalizeLocaleTag casing fallback.defaultLocale with
      | some tag => exact spelled_of_normalized given
      | none => exact spelled_default
  exact ⟨⟨rfl, fun _ => rfl, mem_normalizeSupportedLocales spelled (by simp)⟩, spelled⟩

theorem firstSupported_append (supportedLocales : List String)
    (above below : List (Option String)) : firstSupported supportedLocales (above ++ below) =
      (firstSupported supportedLocales above).or (firstSupported supportedLocales below) := by
  rw [firstSupported, filterMap_append, find?_append]
  rfl

theorem firstSupported_cons {supportedLocales : List String} {locale : String}
    (supported : locale ∈ supportedLocales) (below : List (Option String)) :
    firstSupported supportedLocales (some locale :: below) = some locale :=
  find?_cons_of_pos (decide_eq_true supported)

theorem firstSupported_none (supportedLocales : List String) (below : List (Option String)) :
    firstSupported supportedLocales (none :: below) = firstSupported supportedLocales below := rfl

theorem chooseLocale_eq {candidates : List (Option String)} {supportedLocales : List String}
    {tenantDefault locale : String} (written : "" ∉ supportedLocales)
    (first : firstSupported supportedLocales candidates = some locale) :
    chooseLocale candidates supportedLocales tenantDefault = locale := by
  unfold firstSupported at first
  have head : candidates.findSome? id = (candidates.filterMap id).head? := by
    rw [head?_filterMap]
  unfold chooseLocale
  rw [head]
  cases named : candidates.filterMap id with
  | nil =>
    rw [named] at first
    cases first
  | cons candidate rest =>
    rw [named] at first
    rw [head?_cons, Option.getD_some]
    by_cases supported : candidate ∈ supportedLocales
    · rw [if_neg fun h => h.2 supported]
      have here : (candidate :: rest).find? (fun locale => locale ∈ supportedLocales) =
          some candidate := find?_cons_of_pos (decide_eq_true supported)
      exact Option.some.inj (here.symm.trans first)
    · have some : supportedLocales ≠ [] := by
        have mem := find?_some first
        exact ne_nil_of_mem (a := locale) (by simpa using mem)
      rw [if_pos ⟨some, supported⟩]
      have same : (candidate :: rest).find? (fun locale =>
          locale ≠ "" ∧ locale ∈ supportedLocales) = .some locale := by
        rw [← first]
        congr 1
        funext locale
        have : locale ∈ supportedLocales → locale ≠ "" := fun mem blank => written (blank ▸ mem)
        simp only [decide_eq_decide]
        exact and_iff_right_of_imp this
      rw [same, Option.getD_some]

theorem readSettings_levels {context : RequestContext} {input : ResolveLocalizationInput}
    {db : LocalizationDb} {settings : LocalizationSettings}
    (read : readSettings casing context input db = .ok settings) :
    ParsedPreferences casing settings.tenantValue none settings.tenant ∧
      ParsedPreferences casing settings.storeValue (some settings.tenant.defaultLocale)
        settings.store ∧
      Spelled casing settings.tenant.defaultLocale ∧
      Spelled casing settings.store.defaultLocale := by
  simp only [readSettings] at read
  obtain ⟨scope, -, read⟩ := except_bind_ok_iff.mp read
  obtain ⟨tenant, parsed, read⟩ := except_bind_ok_iff.mp read
  obtain ⟨store, parsedStore, read⟩ := except_bind_ok_iff.mp read
  obtain ⟨country, -, read⟩ := except_bind_ok_iff.mp read
  obtain rfl := Except.ok.inj read
  obtain ⟨tenantParsed, tenantSpelled⟩ := inheritPreferences_parsed parsed
  obtain ⟨storeParsed, storeSpelled⟩ := inheritPreferences_parsed parsedStore
  exact ⟨tenantParsed, storeParsed, tenantSpelled, storeSpelled⟩

def LocalizationSettings.supported (casing : Casing) (settings : LocalizationSettings) :
    List String :=
  mergedSupportedLocales casing settings.store settings.tenant settings.country

section
variable {context : RequestContext} {input : ResolveLocalizationInput} {db : LocalizationDb}
  {settings : LocalizationSettings}

theorem mem_supported {locale : String} (spelled : Spelled casing locale)
    (listed : locale ∈ settings.store.supportedLocales ∨
      locale ∈ settings.tenant.supportedLocales) : locale ∈ settings.supported casing := by
  refine mem_normalizeSupportedLocales spelled (mem_append_left _ ?_)
  exact mem_map_of_mem (mem_append_left _ (mem_append.mpr listed))

/-- The locale that is resolved: the first supported one above the store's default, else that
default, its own or inherited. -/
theorem resolveContext_locale (read : readSettings casing context input db = .ok settings) :
    ∃ resolved, resolveContext casing context input db = .ok resolved ∧
      resolved.locale = (firstSupported (settings.supported casing)
        (settings.levels casing input).aboveDefault).getD settings.store.defaultLocale := by
  obtain ⟨-, store, -, storeSpelled⟩ := readSettings_levels read
  have storeSupported := mem_supported storeSpelled (.inl store.supported)
  refine ⟨_, except_bind_ok_iff.mpr ⟨settings, read, rfl⟩, ?_⟩
  obtain ⟨below, candidates⟩ : ∃ below,
      (localeCandidates casing input settings.store settings.tenant settings.country).map Prod.fst =
        (settings.levels casing input).aboveDefault ++
          some settings.store.defaultLocale :: below := by
    simp only [localeCandidates, map_cons, map_nil, store.channel]
    exact ⟨_, rfl⟩
  have written : "" ∉ settings.supported casing := by
    rw [LocalizationSettings.supported, mergedSupportedLocales, normalizeSupportedLocales]
    exact empty_not_mem_dedupeStrings _
  refine chooseLocale_eq written ?_
  have first := firstSupported_append (settings.supported casing)
    (settings.levels casing input).aboveDefault (some settings.store.defaultLocale :: below)
  rw [firstSupported_cons storeSupported] at first
  rw [candidates]
  refine first.trans ?_
  cases firstSupported (settings.supported casing) (settings.levels casing input).aboveDefault <;>
    rfl

/-- The resolved locale is the first supported one of the levels that are set exactly when the
inherited default does not shadow one. -/
theorem resolveContext_follows_iff (read : readSettings casing context input db = .ok settings) :
    (∃ resolved, resolveContext casing context input db = .ok resolved ∧
      firstSupported (settings.supported casing) (settings.levels casing input).inOrder =
        some resolved.locale) ↔
      Unshadowed (settings.supported casing) (settings.levels casing input) := by
  obtain ⟨tenant, store, tenantSpelled, storeSpelled⟩ := readSettings_levels read
  have storeSupported := mem_supported storeSpelled (.inl store.supported)
  obtain ⟨resolved, answer, locale⟩ := resolveContext_locale read
  have inherits : settings.tenant.defaultLocale = (settings.levels casing input).inherited := by
    have nothing : normalizeLocaleTag casing none = none := by
      rw [normalizeLocaleTag, Option.map_none]
    rw [tenant.defaultLocale, nothing, Option.or_none]
    rfl
  have default : settings.store.defaultLocale = (settings.levels casing input).storeDefault.getD
      (settings.levels casing input).inherited := by
    rw [store.defaultLocale, tenantSpelled.1, inherits]
    show ((settings.levels casing input).storeDefault.or _).getD "en-US" = _
    cases (settings.levels casing input).storeDefault <;> rfl
  have decided : (∃ resolved, resolveContext casing context input db = .ok resolved ∧
      firstSupported (settings.supported casing) (settings.levels casing input).inOrder =
        some resolved.locale) ↔
      firstSupported (settings.supported casing) (settings.levels casing input).inOrder =
        some resolved.locale := by
    constructor
    · rintro ⟨other, same, follows⟩
      rw [answer] at same
      rwa [Except.ok.inj same]
    · exact fun follows => ⟨resolved, answer, follows⟩
  rw [decided, locale, LocaleLevels.inOrder, firstSupported_append, Unshadowed]
  cases firstSupported (settings.supported casing) (settings.levels casing input).aboveDefault with
  | some above => simp
  | none =>
    rw [default]
    cases own : (settings.levels casing input).storeDefault with
    | some tag =>
      rw [own] at default
      have listed : tag ∈ settings.supported casing := by
        rw [default] at storeSupported
        exact storeSupported
      simp [firstSupported_cons listed]
    | none => simp [firstSupported_none]

end

def kioskLocales : Json := .obj [("defaultLocale", .str "ru-RU"),
  ("supportedLocales", .arr [.str "kk-KZ"]), ("channelLocales", .obj [("KIOSK", .str "kk-KZ")])]

def kioskDb : LocalizationDb where
  tenants := [7]
  stores := [{ id := 3, tenantId := 7, status := .active }]
  tenantSettings := ⟨[((7, localizationPreferencesKey), ⟨kioskLocales, 0, 0⟩)], by simp⟩
  storeSettings := ⟨[], by simp⟩

def kioskRequest (locale : Option String) : ResolveLocalizationInput where
  tenantId := some 7
  storeId := some 3
  locale := locale
  customerLocale := none
  countryCode := none
  channel := some .kiosk
  currency := none

def kioskManager : RequestContext where
  userId := "manager"
  tenantId := some 7
  scope := .tenantMember
  storeIds := []
  deviceId := none

def kioskSettings (locale : Option String) : Option LocalizationSettings :=
  (readSettings .ascii kioskManager (kioskRequest locale) kioskDb).toOption

def kioskRead : LocalizationSettings := (kioskSettings none).get (by decide +kernel)

/-- The tenant's locale for the kiosk is supported and set, but its default decides. -/
theorem kioskLocale_shadowed :
    readSettings .ascii kioskManager (kioskRequest none) kioskDb = .ok kioskRead ∧
      ¬∃ resolved, resolveContext .ascii kioskManager (kioskRequest none) kioskDb = .ok resolved ∧
        firstSupported (kioskRead.supported .ascii)
          (kioskRead.levels .ascii (kioskRequest none)).inOrder = some resolved.locale := by
  refine ⟨eq_ok_get _, ?_⟩
  rintro ⟨resolved, answer, follows⟩
  have named : firstSupported (kioskRead.supported .ascii)
      (kioskRead.levels .ascii (kioskRequest none)).inOrder = some "kk-KZ" := by decide +kernel
  have decided : (resolveContext .ascii kioskManager (kioskRequest none) kioskDb).toOption.map
      ResolvedLocalizationContext.locale = some "ru-RU" := by decide +kernel
  rw [answer] at decided
  have same : resolved.locale = "ru-RU" := Option.some.inj decided
  rw [named, same] at follows
  exact absurd follows (by decide)

def kazakhRead : LocalizationSettings := (kioskSettings (some "kk_kz")).get (by decide +kernel)

theorem kazakhLocale_follows :
    ∃ resolved, resolveContext .ascii kioskManager (kioskRequest (some "kk_kz")) kioskDb =
        .ok resolved ∧
      firstSupported (kazakhRead.supported .ascii)
        (kazakhRead.levels .ascii (kioskRequest (some "kk_kz"))).inOrder =
          some resolved.locale := by
  have read : readSettings .ascii kioskManager (kioskRequest (some "kk_kz")) kioskDb =
      .ok kazakhRead := eq_ok_get _
  refine (resolveContext_follows_iff read).mpr (.inl ?_)
  decide +kernel

end Exetron.Localization
