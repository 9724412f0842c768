import Exetron.Localization.Values

/-!
# What the parsers read

The parsers read from a stored value what an upsert has built; only a country profile may be read
otherwise than it was built.
-/

namespace Exetron.Localization

open Lib Customization List

variable {casing : Casing} {value : CountryProfileValue}

theorem nodup_fromEntries {α : Type} (entries : List (String × α)) :
    ((fromEntries entries).map Prod.fst).Nodup := 
  Record.nodup_keys_spread (by simp) entries

theorem mem_fromEntries {α : Type} {entries : List (String × α)} {field : String × α}
    (listed : field ∈ fromEntries entries) : field ∈ entries :=
  (Record.mem_spread listed).resolve_left not_mem_nil

theorem asStringRecord_entriesJson {r : Record String String}
    (distinct : (r.map Prod.fst).Nodup) : asStringRecord (entriesJson .str r) = r := by
  rw [entriesJson, asStringRecord, filterMap_map]
  have same : r.filterMap ((fun field : String × Json =>
      field.2.asString?.map fun text => (field.1, text)) ∘ fun field => (field.1, .str field.2)) =
      r := filterMap_some
  exact (congrArg fromEntries same).trans (Record.spread_empty distinct)

theorem nodup_asStringRecord (value : Json) : ((asStringRecord value).map Prod.fst).Nodup := by
  cases value with
  | obj fields => exact nodup_fromEntries _
  | _ => exact nodup_nil

theorem localeKey_localeKey (locale : String) :
    localeKey casing (localeKey casing locale) = localeKey casing locale := by
  cases tag : normalizeLocaleTag casing (some locale) with
  | none => rw [localeKey, localeKey, tag, Option.getD_none, tag, Option.getD_none]
  | some normalized =>
    rw [localeKey, localeKey, tag, Option.getD_some, (normalizeLocaleTag_normalized tag).1,
      Option.getD_some]

theorem localeEntries_localeEntries {α : Type} {f : Json → α} {g : α → Json}
    (read_back : ∀ value, f (g (f value)) = f value) (entries : Fields) :
    localeEntries casing f ((localeEntries casing f entries).map fun entry =>
      (entry.1, g entry.2)) = localeEntries casing f entries := by
  have same : ((localeEntries casing f entries).map fun entry => (entry.1, g entry.2)).map
      (fun entry => (localeKey casing entry.1, f entry.2)) = localeEntries casing f entries := by
    rw [map_map]
    refine (map_congr_left fun field listed => ?_).trans (map_id _)
    obtain ⟨entry, -, rfl⟩ := mem_map.mp (mem_fromEntries listed)
    simp only [Function.comp_apply, localeKey_localeKey, read_back, id_eq]
  rw [localeEntries, same]
  exact Record.spread_empty (nodup_fromEntries _)

theorem channelLocale_channelLocale {field field' : String × Json} {entry : String × String}
    (read : channelLocale casing field = some entry) (written : field' = (entry.1, .str entry.2)) :
    channelLocale casing field' = some entry := by
  unfold channelLocale at read
  split at read
  · rename_i channel
    obtain ⟨locale, -, rfl⟩ := Option.map_eq_some_iff.mp read
    rw [written, channelLocale, if_pos channel, Json.asString?, Option.map_some,
      localeKey_localeKey]
  · cases read

theorem buildChannelLocales_entriesJson (value : Option Json) :
    buildChannelLocales casing (some (entriesJson .str (buildChannelLocales casing value))) =
      buildChannelLocales casing value := by
  have empty : buildChannelLocales casing (some (entriesJson .str [])) = [] := rfl
  obtain _ | value := value
  · exact empty
  cases value with
  | obj fields =>
    let locales := fromEntries (fields.filterMap (channelLocale casing))
    have same : ∀ entry ∈ locales, (channelLocale casing ∘ fun entry : String × String =>
        (entry.1, Json.str entry.2)) entry = some entry := by
      intro entry listed
      obtain ⟨field, -, read⟩ := mem_filterMap.mp (mem_fromEntries listed)
      exact channelLocale_channelLocale read rfl
    show fromEntries (filterMap (channelLocale casing) (locales.map fun entry =>
      (entry.1, Json.str entry.2))) = locales
    rw [filterMap_map, filterMap_congr same, filterMap_some]
    exact Record.spread_empty (nodup_fromEntries _)
  | _ => exact empty

theorem mapM_localeItem (texts : List String) :
    (texts.map Json.str).mapM localeItem = .ok (texts.map some) := by
  induction texts with
  | nil => rfl
  | cons text texts ih =>
    rw [map_cons, mapM_cons, ih]
    rfl

theorem asStrings_textsJson (texts : List String) :
    asStrings? (texts.map Json.str) = some texts := by
  induction texts with
  | nil => rfl
  | cons text texts ih =>
    rw [asStrings?] at ih
    rw [asStrings?, map_cons, mapM_cons, ih]
    rfl

theorem filterMap_asString_map_str (texts : List String) :
    (texts.map Json.str).filterMap Json.asString? = texts := by
  rw [filterMap_map]
  exact filterMap_some

theorem normalizeLocaleTag_getD {locale : Option String} {fallback : String}
    (settled : normalizeLocaleTag casing (some fallback) = some fallback) :
    normalizeLocaleTag casing (some ((normalizeLocaleTag casing locale).getD fallback)) =
      some ((normalizeLocaleTag casing locale).getD fallback) := by
  cases tag : normalizeLocaleTag casing locale with
  | none => exact settled
  | some normalized => exact (normalizeLocaleTag_normalized tag).1

theorem normalizeCountryCode_normalizeCountryCode (countryCode : Option String) :
    normalizeCountryCode casing (normalizeCountryCode casing countryCode) =
      normalizeCountryCode casing countryCode := by
  cases code : normalizeCountryCode casing countryCode with
  | none => rfl
  | some normalized => exact (normalizeCountryCode_normalized code).1

theorem upper_trim_upper_trim (text : String) :
    casing.toUpperCase.apply (Text.trim (casing.toUpperCase.apply (Text.trim text))) =
      casing.toUpperCase.apply (Text.trim text) := by
  rw [CaseMapping.trim_apply_trim, CaseMapping.idempotent]

/-- Preferences that no normaliser changes. -/
structure SettledPreferences (casing : Casing) (value : LocalizationPreferencesValue) : Prop where
  defaultLocale : normalizeLocaleTag casing (some value.defaultLocale) = some value.defaultLocale
  fallbackLocale : normalizeLocaleTag casing (some value.fallbackLocale) = some value.fallbackLocale
  supportedLocales : normalizeSupportedLocales casing (value.supportedLocales.map some)
    (some value.defaultLocale) (some value.fallbackLocale) = value.supportedLocales
  countryCode : normalizeCountryCode casing value.countryCode = value.countryCode
  currency : value.currency.map (fun currency =>
    casing.toUpperCase.apply (Text.trim currency)) = value.currency
  channelLocales : buildChannelLocales casing (some (entriesJson .str value.channelLocales)) =
    value.channelLocales

theorem buildPreferencesValue_settled (dto : UpsertLocalizationPreferencesRequest) :
    SettledPreferences casing (buildPreferencesValue casing dto) := by
  have defaultLocale : normalizeLocaleTag casing
      (some (buildPreferencesValue casing dto).defaultLocale) =
      some (buildPreferencesValue casing dto).defaultLocale :=
    normalizeLocaleTag_getD normalizeLocaleTag_default
  refine ⟨defaultLocale, normalizeLocaleTag_getD defaultLocale, ?_,
    normalizeCountryCode_normalizeCountryCode dto.countryCode, ?_,
    buildChannelLocales_entriesJson _⟩
  · refine normalizeSupportedLocales_normalized fun locale added tag normalized => ?_
    rw [normalizeSupportedLocales, mem_dedupeStrings, mem_map]
    exact ⟨⟨locale, mem_append_right _ added, normalized⟩,
      (normalizeLocaleTag_normalized normalized).2⟩
  · rw [buildPreferencesValue, Option.map_map]
    refine Option.map_congr fun currency _ => ?_
    rw [Function.comp_apply, upper_trim_upper_trim]

theorem buildPreferencesValue_toRequest {value : LocalizationPreferencesValue}
    (settled : SettledPreferences casing value) :
    buildPreferencesValue casing value.toRequest = value := by
  have channelLocales : buildChannelLocales casing (value.toRequest.channelLocales.map .obj) =
      value.channelLocales := settled.channelLocales
  simp only [buildPreferencesValue, channelLocales]
  simp only [LocalizationPreferencesValue.toRequest, settled.defaultLocale, settled.fallbackLocale,
    Option.getD_some, settled.supportedLocales, settled.countryCode, settled.currency]

theorem stringField_ofOption {record : Fields} {key : String} {value : Option String}
    (stored : Record.get record key = some (Json.ofOption .str value)) :
    stringField record key = value := by
  rw [stringField, stored]
  cases value <;> rfl

theorem parseLocalizationPreferences_toJson {value : LocalizationPreferencesValue}
    (settled : SettledPreferences casing value) :
    parseLocalizationPreferences casing value.toJson = .ok value := by
  let fields := (asRecord value.toJson).getD []
  have defaultLocale : stringField fields "defaultLocale" = some value.defaultLocale := rfl
  have fallbackLocale : stringField fields "fallbackLocale" = some value.fallbackLocale := rfl
  have supportedLocales : localesField fields "supportedLocales" =
      .ok (value.supportedLocales.map some) := mapM_localeItem _
  have countryCode : stringField fields "countryCode" = value.countryCode :=
    stringField_ofOption rfl
  have currency : stringField fields "currency" = value.currency := stringField_ofOption rfl
  have timezone : stringField fields "timezone" = value.timezone := stringField_ofOption rfl
  have channelLocales : Record.get fields "channelLocales" =
      some (entriesJson .str value.channelLocales) := rfl
  unfold parseLocalizationPreferences
  simp only [fields] at *
  simp only [defaultLocale, fallbackLocale, supportedLocales, countryCode, currency, timezone,
    channelLocales, settled.defaultLocale, settled.fallbackLocale, Option.getD_some]
  show Except.ok _ = _
  simp only [settled.supportedLocales, settled.countryCode, settled.currency,
    settled.channelLocales]

/-- The default locale is supported, the currency is filled, and the label is a text or none. -/
def CountryProfileValue.Whole (value : CountryProfileValue) : Prop :=
  value.currency ≠ "" ∧ value.defaultLocale ∈ value.supportedLocales ∧
    (value.tax.label = .null ∨ ∃ text, value.tax.label = .str text)

def parsedLabel : Json → Json
  | .str label => .str label
  | _ => .null

def CountryProfileValue.parsed (value : CountryProfileValue) : CountryProfileValue :=
  { value with
    supportedLocales :=
      if value.defaultLocale ∈ value.supportedLocales then value.supportedLocales
      else value.supportedLocales ++ [value.defaultLocale]
    currency := if value.currency = "" then "USD" else value.currency
    tax := { value.tax with label := parsedLabel value.tax.label } }

structure SettledCountryProfile (casing : Casing) (value : CountryProfileValue) : Prop where
  defaultLocale : normalizeLocaleTag casing (some value.defaultLocale) = some value.defaultLocale
  supportedLocales : normalizeSupportedLocales casing (value.supportedLocales.map some)
    (some value.defaultLocale) (some value.defaultLocale) = value.parsed.supportedLocales
  trimmed : Text.trim value.currency = value.currency
  currency : casing.toUpperCase.apply value.currency = value.currency

theorem parsed_of_whole (whole : value.Whole) : value.parsed = value := by
  obtain ⟨filled, supported, label⟩ := whole
  have same : parsedLabel value.tax.label = value.tax.label := by
    rcases label with label | ⟨text, label⟩ <;> rw [label] <;> rfl
  rw [CountryProfileValue.parsed, if_pos supported, if_neg filled, same]

theorem textsJson_inj {texts texts' : List String} :
    textsJson texts = textsJson texts' ↔ texts = texts' := by
  rw [textsJson, textsJson, Json.arr.injEq]
  exact (map_injective_iff.mpr fun _ _ same => Json.str.inj same).eq_iff

theorem CountryProfileValue.toJson_inj {value' : CountryProfileValue}
    (same : value.toJson = value'.toJson) : value = value' := by
  obtain ⟨defaultLocale, supported, currency, ⟨mode, ratePercent, label⟩, flags, metadata⟩ := value
  obtain ⟨defaultLocale', supported', currency', ⟨mode', ratePercent', label'⟩, flags',
    metadata'⟩ := value'
  simp only [CountryProfileValue.toJson, CountryTax.toJson, Json.obj.injEq, cons.injEq,
    Prod.mk.injEq, true_and, and_true, textsJson_inj, Json.str.injEq] at same
  obtain ⟨rfl, rfl, rfl, ⟨mode_text, rate, rfl⟩, rfl, rfl⟩ := same
  obtain rfl : mode = mode' := by
    cases mode <;> cases mode' <;> first | rfl | exact absurd mode_text (by decide)
  obtain rfl : ratePercent = ratePercent' := by
    cases ratePercent <;> cases ratePercent' <;> first | rfl | cases rate
    rfl
  rfl

theorem whole_of_parsed (same : value.parsed.toJson = value.toJson) : value.Whole := by
  simp only [CountryProfileValue.toJson, CountryTax.toJson, Json.obj.injEq, cons.injEq,
    Prod.mk.injEq, true_and, and_true, textsJson_inj, Json.str.injEq] at same
  obtain ⟨-, supportedLocales, currency, ⟨-, -, label⟩, -, -⟩ := same
  refine ⟨fun empty => ?_, ?_, ?_⟩
  · rw [CountryProfileValue.parsed, if_pos empty, empty] at currency
    exact absurd (show "USD" = "" from currency) (by decide)
  · by_contra missing
    rw [CountryProfileValue.parsed, if_neg missing] at supportedLocales
    simp at supportedLocales
  · rw [← label]
    show parsedLabel value.tax.label = .null ∨ ∃ text, parsedLabel value.tax.label = .str text
    cases value.tax.label with
    | str text => exact .inr ⟨text, rfl⟩
    | _ => exact .inl rfl

theorem buildCountryProfileValue_settled (dto : UpsertCountryProfileRequest) :
    SettledCountryProfile casing (buildCountryProfileValue casing dto) := by
  have defaultLocale : normalizeLocaleTag casing
      (some (buildCountryProfileValue casing dto).defaultLocale) =
      some (buildCountryProfileValue casing dto).defaultLocale :=
    normalizeLocaleTag_getD normalizeLocaleTag_default
  refine ⟨defaultLocale, ?_, CaseMapping.trim_apply_trim _ _, CaseMapping.idempotent _ _⟩
  refine (normalizeSupportedLocales_add defaultLocale).trans ?_
  have shown := (normalizeLocaleTag_normalized defaultLocale).2
  rw [pushDistinct, CountryProfileValue.parsed]
  simp only [shown, false_or]
  rfl

theorem parseCountryProfile_toJson (settled : SettledCountryProfile casing value)
    (countryCode : String) :
    parseCountryProfile casing value.toJson countryCode = .ok value.parsed := by
  let fields := (asRecord value.toJson).getD []
  have defaultLocale : stringField fields "defaultLocale" = some value.defaultLocale := rfl
  have supportedLocales : localesField fields "supportedLocales" =
      .ok (value.supportedLocales.map some) := mapM_localeItem _
  have currency : parseCurrency casing (stringField fields "currency") =
      value.parsed.currency := by
    show (if Text.trim value.currency = "" then "USD"
      else casing.toUpperCase.apply (Text.trim value.currency)) = value.parsed.currency
    rw [settled.trimmed, settled.currency]
    rfl
  have tax : asRecord? (Record.get fields "tax") = asRecord value.tax.toJson := rfl
  have mode : taxMode (asRecord value.tax.toJson) = value.tax.mode := by
    have stored : (asRecord value.tax.toJson).bind (fun tax => stringField tax "mode") =
        some value.tax.mode.text := rfl
    rw [taxMode, stored]
    cases value.tax.mode <;> rfl
  have ratePercent : taxRatePercent (asRecord value.tax.toJson) = value.tax.ratePercent := by
    show asNumber (some (Json.ofOption .num value.tax.ratePercent)) = _
    cases value.tax.ratePercent <;> rfl
  have label : parseLabel (asRecord value.tax.toJson) = parsedLabel value.tax.label := by
    show Json.ofOption .str (value.tax.label.asString?) = _
    cases value.tax.label <;> rfl
  have complianceFlags : ((arrayField fields "complianceFlags").getD []).filterMap
      Json.asString? = value.complianceFlags := filterMap_asString_map_str _
  have metadata : asRecord? (Record.get fields "metadata") = some value.metadata := rfl
  unfold parseCountryProfile
  simp only [fields] at *
  simp only [defaultLocale, supportedLocales, currency, tax, mode, ratePercent, label,
    complianceFlags, metadata, settled.defaultLocale, Option.getD_some]
  show Except.ok _ = _
  simp only [settled.supportedLocales]
  rfl

theorem parseLocalizedContentValue_toJson (dto : UpsertLocalizedContentRequest) :
    parseLocalizedContentValue casing (buildLocalizedContentValue casing dto).toJson =
      buildLocalizedContentValue casing dto :=
  congrArg LocalizedContentValue.mk (localeEntries_localeEntries
    (fun value => asStringRecord_entriesJson (nodup_asStringRecord value)) dto.entries)

theorem parseLocalizedTemplateValue_toJson (dto : UpsertLocalizedTemplateRequest) :
    parseLocalizedTemplateValue casing (buildLocalizedTemplateValue casing dto).toJson
        (dto.channel.map channelText) = buildLocalizedTemplateValue casing dto := by
  let value := buildLocalizedTemplateValue casing dto
  have entries : localeEntries casing (fun entry => (asRecord entry).getD [])
      (rawEntries value.toJson) = value.entries :=
    localeEntries_localeEntries (fun _ => rfl) dto.entries
  have description : stringField ((asRecord value.toJson).getD []) "description" =
      value.description := stringField_ofOption rfl
  have names : (arrayField ((asRecord value.toJson).getD []) "variables").bind asStrings? =
      some value.variableNames := asStrings_textsJson _
  rw [parseLocalizedTemplateValue]
  simp only [value] at entries description names
  simp only [entries, description, names, Option.getD_some]
  rfl

end Exetron.Localization
