import Exetron.Localization.Imports
import Mathlib.Data.List.ReduceOption
import Mathlib.Data.String.Basic

/-!
# Exports

What the export of settled settings reads: each setting, as the parser of its key reads it. Equal
settings are exported alike, apart from their timestamps.
-/

namespace Exetron.Localization

open Lib Customization List Record

variable {casing : Casing}

theorem StoredSetting.isPreferences {key : String} {value : Json}
    (stored : StoredSetting casing key value) (same : key = localizationPreferencesKey) :
    StoredPreferences casing key value := by
  intro _
  cases stored with
  | preferences settled => exact ⟨_, settled, rfl⟩
  | countryProfile _ _ => simpa [← same] using has_preferences .countryProfile
  | content _ => simpa [← same] using has_preferences .content
  | template _ => simpa [← same] using has_preferences .template
  | other apart => simp [isLocalizationKey, same] at apart

theorem StoredSetting.isCountryProfile {key : String} {value : Json}
    (stored : StoredSetting casing key value)
    (kind : SettingKind.countryProfile.has key = true) : ∃ code profile,
      normalizeCountryCode casing (some code) = some code ∧ SettledCountryProfile casing profile ∧
        key = buildCountryProfileKey casing code ∧ value = profile.toJson := by
  cases stored with
  | countryProfile normalized settled => exact ⟨_, _, normalized, settled, rfl, rfl⟩
  | preferences _ => simp at kind
  | content _ => simp at kind
  | template _ => simp at kind
  | other apart => simp [has_of_isLocalizationKey apart] at kind

theorem StoredSetting.isContent {key : String} {value : Json}
    (stored : StoredSetting casing key value) (kind : SettingKind.content.has key = true) :
    ∃ dto, key = buildLocalizedContentKey dto.targetType dto.targetId ∧
      value = (buildLocalizedContentValue casing dto).toJson := by
  cases stored with
  | content dto => exact ⟨dto, rfl, rfl⟩
  | preferences _ => simp at kind
  | countryProfile _ _ => simp at kind
  | template _ => simp at kind
  | other apart => simp [has_of_isLocalizationKey apart] at kind

theorem StoredSetting.isTemplate {key : String} {value : Json}
    (stored : StoredSetting casing key value) (kind : SettingKind.template.has key = true) :
    ∃ dto, key = buildLocalizedTemplateKey (dto.channel.map channelText) dto.templateKey ∧
      value = (buildLocalizedTemplateValue casing dto).toJson := by
  cases stored with
  | template dto => exact ⟨dto, rfl, rfl⟩
  | preferences _ => simp at kind
  | countryProfile _ _ => simp at kind
  | content _ => simp at kind
  | other apart => simp [has_of_isLocalizationKey apart] at kind

def rereadField (casing : Casing) (field : String × SettingRow) : String × Json :=
  (field.1, reread casing field.1 field.2.value)

theorem mapCountryProfileDto_stored {tenantId : Id} {field : String × SettingRow}
    (stored : StoredSetting casing field.1 field.2.value)
    (kind : SettingKind.countryProfile.has field.1 = true) : ∃ profile,
      mapCountryProfileDto casing tenantId field = .ok (some profile) ∧
        profileField casing profile = rereadField casing field := by
  obtain ⟨code, profile, normalized, settled, key, value⟩ := stored.isCountryProfile kind
  have parsedKey : parseCountryProfileKey casing field.1 = some code := by
    rw [key, parseCountryProfileKey_build normalized]
  refine ⟨{ profile.parsed with
    tenantId, countryCode := code, createdAt := field.2.createdAt,
    updatedAt := field.2.updatedAt }, ?_, ?_⟩
  · simp only [mapCountryProfileDto, parsedKey, value, parseCountryProfile_toJson settled]
    rfl
  · rw [profileField, rereadField, reread, if_pos kind, value, parseCountryProfile_toJson settled,
      key]

theorem mapLocalizedContentDto_stored {tenantId : Id} {field : String × SettingRow}
    (stored : StoredSetting casing field.1 field.2.value)
    (kind : SettingKind.content.has field.1 = true) : ∃ content,
      mapLocalizedContentDto casing tenantId field = some content ∧
        contentField content = rereadField casing field := by
  obtain ⟨dto, key, value⟩ := stored.isContent kind
  have other : SettingKind.countryProfile.has field.1 = false := by simp [key]
  refine ⟨{ buildLocalizedContentValue casing dto with
    tenantId, targetType := dto.targetType, targetId := dto.targetId,
    createdAt := field.2.createdAt, updatedAt := field.2.updatedAt }, ?_, ?_⟩
  · rw [mapLocalizedContentDto, key, parseLocalizedContentKey_build, value,
      parseLocalizedContentValue_toJson]
    rfl
  · rw [contentField, rereadField, reread, other, if_neg (by simp), key, value]

theorem mapLocalizedTemplateDto_stored {tenantId : Id} {field : String × SettingRow}
    (stored : StoredSetting casing field.1 field.2.value)
    (kind : SettingKind.template.has field.1 = true) : ∃ template,
      mapLocalizedTemplateDto casing tenantId field = some template ∧
        templateField template = rereadField casing field := by
  obtain ⟨dto, key, value⟩ := stored.isTemplate kind
  have other : SettingKind.countryProfile.has field.1 = false := by simp [key]
  refine ⟨{ buildLocalizedTemplateValue casing dto with
    tenantId, templateKey := dto.templateKey,
    createdAt := field.2.createdAt, updatedAt := field.2.updatedAt }, ?_, ?_⟩
  · rw [mapLocalizedTemplateDto, key, parseLocalizedTemplateKey_build, value]
    show some _ = some _
    rw [parseLocalizedTemplateValue_toJson]
  · rw [templateField, rereadField, reread, other, if_neg (by simp), key, value]
    rfl

theorem mapPreferencesDto_stored {scope : PreferencesScope} {tenantId : Id} {storeId : Option Id}
    {setting : SettingRow} {key : String} (stored : StoredPreferences casing key setting.value)
    (kind : key = localizationPreferencesKey) : ∃ preferences,
      mapPreferencesDto casing scope tenantId storeId setting = .ok preferences ∧
        preferences.storeId = storeId ∧
        preferencesField casing preferences = (localizationPreferencesKey, setting.value) := by
  obtain ⟨value, settled, written⟩ := stored kind
  refine ⟨{ value with
    scope, tenantId, storeId, createdAt := setting.createdAt,
    updatedAt := setting.updatedAt }, ?_, rfl, ?_⟩
  · rw [mapPreferencesDto, written, parseLocalizationPreferences_toJson settled]
    rfl
  · rw [preferencesField, written, buildPreferencesValue_toRequest settled]

theorem mem_tenantSettingsFrom {tenantId : Id} {kind : SettingKind} {db : LocalizationDb}
    {field : String × SettingRow} : field ∈ tenantSettingsFrom tenantId kind db ↔
      Record.get db.tenantSettings.val (tenantId, field.1) = some field.2 ∧
        kind.has field.1 = true := by
  rw [tenantSettingsFrom, mem_insertionSort, mem_map, ← mem_iff_get db.tenantSettings.property]
  constructor
  · rintro ⟨⟨⟨owner, key⟩, row⟩, listed, rfl⟩
    obtain ⟨stored, picked⟩ := mem_filter.mp listed
    obtain ⟨rfl, kind⟩ := of_decide_eq_true picked
    exact ⟨stored, kind⟩
  · rintro ⟨listed, kind⟩
    exact ⟨((tenantId, field.1), field.2), mem_filter.mpr ⟨listed, decide_eq_true ⟨rfl, kind⟩⟩, rfl⟩

theorem mem_storePreferencesOf {tenantId : Id} {db : LocalizationDb}
    {field : Id × StoreSettingRow} : field ∈ storePreferencesOf tenantId db ↔
      Record.get db.storeSettings.val (field.1, localizationPreferencesKey) = some field.2 ∧
        field.2.tenantId = tenantId := by
  rw [storePreferencesOf, mem_insertionSort, mem_map, ← mem_iff_get db.storeSettings.property]
  constructor
  · rintro ⟨⟨⟨storeId, key⟩, row⟩, listed, rfl⟩
    obtain ⟨stored, picked⟩ := mem_filter.mp listed
    obtain ⟨owner, rfl⟩ := of_decide_eq_true picked
    exact ⟨stored, owner⟩
  · rintro ⟨listed, owner⟩
    exact ⟨((field.1, localizationPreferencesKey), field.2),
      mem_filter.mpr ⟨listed, decide_eq_true ⟨owner, rfl⟩⟩, rfl⟩

theorem mapM_ok_of_forall {α β γ : Type} {f : α → Except ApiException β} {g : β → γ} {h : α → γ}
    {xs : List α} (each : ∀ x ∈ xs, ∃ y, f x = .ok y ∧ g y = h x) :
    ∃ ys, xs.mapM f = .ok ys ∧ ys.map g = xs.map h := by
  induction xs with
  | nil => exact ⟨[], rfl, rfl⟩
  | cons x xs ih =>
    obtain ⟨y, first, same⟩ := each x mem_cons_self
    obtain ⟨ys, rest, sames⟩ := ih fun other listed => each other (mem_cons_of_mem x listed)
    refine ⟨y :: ys, ?_, by rw [map_cons, map_cons, same, sames]⟩
    rw [mapM_cons, first, rest]
    rfl

theorem map_filterMap_of_forall {α β γ : Type} {f : α → Option β} {g : β → γ} {h : α → γ}
    {xs : List α} (each : ∀ x ∈ xs, ∃ y, f x = some y ∧ g y = h x) :
    (xs.filterMap f).map g = xs.map h := by
  have same : ∀ x ∈ xs, (f x).map g = some (h x) := fun x listed => by
    obtain ⟨y, read, same⟩ := each x listed
    rw [read, Option.map_some, same]
  rw [map_filterMap, filterMap_congr same]
  exact congrFun filterMap_eq_map xs

def rereadFrom (casing : Casing) (tenantId : Id) (kind : SettingKind) (db : LocalizationDb) :
    List (String × Json) := (tenantSettingsFrom tenantId kind db).map (rereadField casing)

theorem storedSetting_of_mem {tenantId : Id} {kind : SettingKind} {db : LocalizationDb}
    (settled : Settled casing db) {field : String × SettingRow}
    (listed : field ∈ tenantSettingsFrom tenantId kind db) :
    StoredSetting casing field.1 field.2.value ∧ kind.has field.1 = true := by
  obtain ⟨found, kind⟩ := mem_tenantSettingsFrom.mp listed
  exact ⟨(settled.tenantSettings _ _ found).2, kind⟩

/-- What the export of a tenant answers: its settings, reread. -/
structure Exported (casing : Casing) (tenantId : Id) (db : LocalizationDb) (pack : LanguagePack) :
    Prop where
  ownTenant : pack.tenantId = some tenantId
  fields : ∀ field, field ∈ packFields casing pack ↔
    ∃ row, Record.get db.tenantSettings.val (tenantId, field.1) = some row ∧
      isLocalizationKey field.1 = true ∧ field.2 = reread casing field.1 row.value
  stores : ∀ field, field ∈ pack.storePreferences.filterMap (storeField casing) ↔
    ∃ row, Record.get db.storeSettings.val (field.1, localizationPreferencesKey) = some row ∧
      row.tenantId = tenantId ∧ field.2 = row.value
  addressed : ∀ preference ∈ pack.storePreferences, ∀ storeId,
    preference.storeId = some storeId → ∃ row,
      Record.get db.storeSettings.val (storeId, localizationPreferencesKey) = some row ∧
        row.tenantId = tenantId

theorem mem_rereadFrom {tenantId : Id} {kind : SettingKind} {db : LocalizationDb}
    {field : String × Json} : field ∈ rereadFrom casing tenantId kind db ↔
      ∃ row, Record.get db.tenantSettings.val (tenantId, field.1) = some row ∧
        kind.has field.1 = true ∧ field.2 = reread casing field.1 row.value := by
  rw [rereadFrom, mem_map]
  constructor
  · rintro ⟨stored, listed, rfl⟩
    obtain ⟨found, kind⟩ := mem_tenantSettingsFrom.mp listed
    exact ⟨stored.2, found, kind, rfl⟩
  · rintro ⟨row, found, kind, value⟩
    exact ⟨(field.1, row), mem_tenantSettingsFrom.mpr ⟨found, kind⟩, Prod.ext rfl value.symm⟩

theorem reread_other {key : String} (other : SettingKind.countryProfile.has key = false)
    (value : Json) : reread casing key value = value := by
  rw [reread, other, if_neg Bool.false_ne_true]

theorem mapM_tenantPreferences {tenantId : Id} {db : LocalizationDb}
    (settled : Settled casing db) : ∃ preferences,
      (Record.get db.tenantSettings.val (tenantId, localizationPreferencesKey)).mapM
          (mapPreferencesDto casing .tenant tenantId none) = .ok preferences ∧
        preferences.toList.map (preferencesField casing) =
          (Record.get db.tenantSettings.val (tenantId, localizationPreferencesKey)).toList.map
            fun row => (localizationPreferencesKey, row.value) := by
  cases found : get db.tenantSettings.val (tenantId, localizationPreferencesKey) with
  | none => exact ⟨none, rfl, rfl⟩
  | some row =>
    have stored := (settled.tenantSettings _ row found).2
    obtain ⟨preferences, mapped, -, field⟩ :=
      @mapPreferencesDto_stored _ .tenant tenantId none _ _ (stored.isPreferences rfl) rfl
    refine ⟨some preferences, ?_, congrArg (fun field => [field]) field⟩
    simp only [Option.mapM_some, mapped]
    rfl

theorem exportLanguagePack_exported (now : Instant) {context : RequestContext}
    {query : ScopedQuery} {tenantId : Id} {db : LocalizationDb} (settled : Settled casing db)
    (scope : resolveScope context query db = .ok tenantId) :
    ∃ pack, exportLanguagePack casing now context query db = .ok pack ∧
      Exported casing tenantId db pack := by
  obtain ⟨tenantPreferences, mapped, ownFields⟩ := 
    @mapM_tenantPreferences _ tenantId db settled
  obtain ⟨storePreferences, mappedStores, storeFields⟩ :=
    @mapM_ok_of_forall _ _ _ (fun field : Id × StoreSettingRow =>
        mapPreferencesDto casing .store field.2.tenantId (some field.1) field.2.toSettingRow)
      (fun preferences => (preferences.storeId, preferencesField casing preferences))
      (fun field => (some field.1, (localizationPreferencesKey, field.2.value)))
      (storePreferencesOf tenantId db) (by
        intro field listed
        obtain ⟨found, -⟩ := mem_storePreferencesOf.mp listed
        obtain ⟨preferences, mapped, addressed, field⟩ :=
          mapPreferencesDto_stored (settled.storeSettings _ _ found).2 rfl
        exact ⟨preferences, mapped, Prod.ext addressed field⟩)
  obtain ⟨countryProfiles, mappedProfiles, profileFields⟩ :=
    @mapM_ok_of_forall _ _ _ (mapCountryProfileDto casing tenantId)
      (Option.map (profileField casing)) (fun field => some (rereadField casing field))
      (tenantSettingsFrom tenantId .countryProfile db) (by
        intro field listed
        obtain ⟨stored, kind⟩ := storedSetting_of_mem settled listed
        obtain ⟨profile, mapped, same⟩ := mapCountryProfileDto_stored stored kind
        exact ⟨some profile, mapped, congrArg some same⟩)
  have content : ((tenantSettingsFrom tenantId .content db).filterMap
      (mapLocalizedContentDto casing tenantId)).map contentField =
      rereadFrom casing tenantId .content db := map_filterMap_of_forall fun field listed =>
    mapLocalizedContentDto_stored (storedSetting_of_mem settled listed).1
      (storedSetting_of_mem settled listed).2
  have templates : ((tenantSettingsFrom tenantId .template db).filterMap
      (mapLocalizedTemplateDto casing tenantId)).map templateField =
      rereadFrom casing tenantId .template db := map_filterMap_of_forall fun field listed =>
    mapLocalizedTemplateDto_stored (storedSetting_of_mem settled listed).1
      (storedSetting_of_mem settled listed).2
  have profiles : countryProfiles.reduceOption.map (profileField casing) =
      rereadFrom casing tenantId .countryProfile db := by
    rw [← reduceOption_map, profileFields, reduceOption, filterMap_map]
    exact congrFun filterMap_eq_map _
  have stores : storePreferences.filterMap (storeField casing) =
      (storePreferencesOf tenantId db).map fun field => (field.1, field.2.value) := by
    have split (preferences : LocalizationPreferencesDto) : storeField casing preferences =
        ((fun pair : Option Id × (String × Json) => pair.1.map fun storeId =>
          (storeId, pair.2.2)) ∘ fun preferences =>
            (preferences.storeId, preferencesField casing preferences)) preferences := rfl
    rw [filterMap_congr fun preferences _ => split preferences, ← filterMap_map,
      storeFields, filterMap_map]
    exact congrFun filterMap_eq_map _
  refine ⟨{
    tenantId := some tenantId
    generatedAt := now
    tenantPreferences
    storePreferences
    countryProfiles := countryProfiles.reduceOption
    content := (tenantSettingsFrom tenantId .content db).filterMap
      (mapLocalizedContentDto casing tenantId)
    templates := (tenantSettingsFrom tenantId .template db).filterMap
      (mapLocalizedTemplateDto casing tenantId) }, ?_, rfl, fun field => ?_, fun field => ?_, ?_⟩
  · simp only [exportLanguagePack, except_bind_ok_iff, except_pure_ok_iff]
    exact ⟨tenantId, scope, tenantPreferences, mapped, storePreferences, mappedStores,
      countryProfiles, mappedProfiles, rfl⟩
  · simp only [packFields, ownFields, profiles, content, templates, mem_append,
      mem_rereadFrom, mem_map, Option.mem_toList]
    constructor
    · rintro (((⟨row, found, rfl⟩ | ⟨row, found, kind, value⟩) | ⟨row, found, kind, value⟩) |
        ⟨row, found, kind, value⟩)
      · exact ⟨row, found, isLocalizationKey_iff.mpr (.inl rfl),
          (reread_other (has_preferences _) _).symm⟩
      all_goals exact ⟨row, found, isLocalizationKey_iff.mpr (.inr ⟨_, kind⟩), value⟩
    · obtain ⟨key, value⟩ := field
      rintro ⟨row, found, localized, same⟩
      obtain rfl : value = reread casing key row.value := same
      obtain rfl | ⟨kind, has⟩ := isLocalizationKey_iff.mp localized
      · have same : reread casing localizationPreferencesKey row.value = row.value :=
          reread_other (has_preferences _) _
        exact .inl (.inl (.inl ⟨row, found, by rw [same]⟩))
      · cases kind with
        | countryProfile => exact .inl (.inl (.inr ⟨row, found, has, rfl⟩))
        | content => exact .inl (.inr ⟨row, found, has, rfl⟩)
        | template => exact .inr ⟨row, found, has, rfl⟩
  · rw [stores, mem_map]
    constructor
    · rintro ⟨stored, listed, rfl⟩
      obtain ⟨found, owner⟩ := mem_storePreferencesOf.mp listed
      exact ⟨stored.2, found, owner, rfl⟩
    · rintro ⟨row, found, owner, value⟩
      exact ⟨(field.1, row), mem_storePreferencesOf.mpr ⟨found, owner⟩, Prod.ext rfl value.symm⟩
  · intro preference listed storeId addressed
    have field : (storeId, (preferencesField casing preference).2) ∈
        storePreferences.filterMap (storeField casing) :=
      mem_filterMap.mpr ⟨preference, listed, by rw [storeField, addressed]; rfl⟩
    rw [stores, mem_map] at field
    obtain ⟨stored, listed, same⟩ := field
    obtain ⟨found, owner⟩ := mem_storePreferencesOf.mp listed
    obtain rfl := (Prod.mk.inj same).1
    exact ⟨stored.2, found, owner⟩

def LocalizationPreferencesDto.untimed (dto : LocalizationPreferencesDto) :
    LocalizationPreferencesDto := { dto with createdAt := 0, updatedAt := 0 }

def CountryProfileDto.untimed (dto : CountryProfileDto) : CountryProfileDto :=
  { dto with createdAt := 0, updatedAt := 0 }

def LocalizedContentDto.untimed (dto : LocalizedContentDto) : LocalizedContentDto :=
  { dto with createdAt := 0, updatedAt := 0 }

def LocalizedTemplateDto.untimed (dto : LocalizedTemplateDto) : LocalizedTemplateDto :=
  { dto with createdAt := 0, updatedAt := 0 }

def LanguagePack.untimed (pack : LanguagePack) : LanguagePack where
  tenantId := pack.tenantId
  generatedAt := 0
  tenantPreferences := pack.tenantPreferences.map LocalizationPreferencesDto.untimed
  storePreferences := pack.storePreferences.map LocalizationPreferencesDto.untimed
  countryProfiles := pack.countryProfiles.map CountryProfileDto.untimed
  content := pack.content.map LocalizedContentDto.untimed
  templates := pack.templates.map LocalizedTemplateDto.untimed

theorem mapM_same {α β γ δ : Type} {f f' : α → Except ApiException β} {u : β → γ} {view : α → δ}
    (same : ∀ x y, view x = view y → (f x).map u = (f' y).map u) {xs ys : List α}
    (views : xs.map view = ys.map view) {bs : List β} (h : xs.mapM f = .ok bs) :
    ∃ bs', ys.mapM f' = .ok bs' ∧ bs'.map u = bs.map u := by
  induction xs generalizing ys bs with
  | nil =>
    obtain rfl := map_eq_nil_iff.mp views.symm
    exact ⟨[], rfl, by cases h; rfl⟩
  | cons x xs ih =>
    obtain ⟨y, ys, rfl, first, rest⟩ := map_eq_cons_iff.mp views.symm
    rw [mapM_cons] at h
    simp only [except_bind_ok_iff, except_pure_ok_iff] at h
    obtain ⟨b, read, bs, reads, rfl⟩ := h
    obtain ⟨bs', reads', sames⟩ := ih rest.symm reads
    have alike := same x y first.symm
    rw [read] at alike
    cases read' : f' y with
    | error e => rw [read'] at alike; cases alike
    | ok b' =>
      rw [read'] at alike
      refine ⟨b' :: bs', ?_, ?_⟩
      · rw [mapM_cons, read', reads']
        rfl
      · rw [map_cons, map_cons, sames, Except.ok.inj alike]

theorem mem_tenantSettingsFrom_values {tenantId : Id} {kind : SettingKind} {db : LocalizationDb}
    {field : String × Json} :
    field ∈ Record.mapValues SettingRow.value (tenantSettingsFrom tenantId kind db) ↔
      Record.get (tenantValues db) (tenantId, field.1) = some field.2 ∧
        kind.has field.1 = true := by
  rw [mapValues, mem_map, tenantValues, get_mapValues, Option.map_eq_some_iff]
  constructor
  · rintro ⟨stored, listed, rfl⟩
    obtain ⟨found, kind⟩ := mem_tenantSettingsFrom.mp listed
    exact ⟨⟨stored.2, found, rfl⟩, kind⟩
  · rintro ⟨⟨row, found, value⟩, kind⟩
    exact ⟨(field.1, row), mem_tenantSettingsFrom.mpr ⟨found, kind⟩, Prod.ext rfl value⟩

theorem nodup_tenantSettingsFrom (tenantId : Id) (kind : SettingKind) (db : LocalizationDb) :
    ((tenantSettingsFrom tenantId kind db).map Prod.fst).Nodup := by
  refine ((perm_insertionSort _ _).map Prod.fst).nodup_iff.mpr ?_
  rw [map_map]
  have distinct := db.tenantSettings.property
  refine List.Nodup.map_on (fun field listed field' listed' same => ?_)
    (List.Nodup.of_map _ distinct |>.filter _)
  obtain ⟨stored, picked⟩ := mem_filter.mp listed
  obtain ⟨stored', picked'⟩ := mem_filter.mp listed'
  have owner := (of_decide_eq_true picked).1.trans (of_decide_eq_true picked').1.symm
  exact inj_on_of_nodup_map distinct stored stored' (Prod.ext owner same)

theorem tenantSettingsFrom_same {db db' : LocalizationDb} (same : SameSettings db db')
    (tenantId : Id) (kind : SettingKind) :
    Record.mapValues SettingRow.value (tenantSettingsFrom tenantId kind db) =
      Record.mapValues SettingRow.value (tenantSettingsFrom tenantId kind db') := by
  refine eq_of_sorted ?_ ?_ ?_ ?_ fun field => ?_
  · exact pairwise_map.mpr (pairwise_sorted _)
  · exact pairwise_map.mpr (pairwise_sorted _)
  · rw [keys_mapValues]
    exact nodup_tenantSettingsFrom tenantId kind db
  · rw [keys_mapValues]
    exact nodup_tenantSettingsFrom tenantId kind db'
  · rw [mem_tenantSettingsFrom_values, mem_tenantSettingsFrom_values, same.tenants]

theorem mem_storePreferencesOf_values {tenantId : Id} {db : LocalizationDb}
    {field : Id × (Id × Json)} : field ∈ Record.mapValues (fun row => (row.tenantId, row.value))
        (storePreferencesOf tenantId db) ↔
      Record.get (storeValues db) (field.1, localizationPreferencesKey) = some field.2 ∧
        field.2.1 = tenantId := by
  rw [mapValues, mem_map, storeValues, get_mapValues, Option.map_eq_some_iff]
  constructor
  · rintro ⟨stored, listed, rfl⟩
    obtain ⟨found, owner⟩ := mem_storePreferencesOf.mp listed
    exact ⟨⟨stored.2, found, rfl⟩, owner⟩
  · rintro ⟨⟨row, found, value⟩, owner⟩
    rw [← value] at owner
    exact ⟨(field.1, row), mem_storePreferencesOf.mpr ⟨found, owner⟩, Prod.ext rfl value⟩

theorem nodup_storePreferencesOf (tenantId : Id) (db : LocalizationDb) :
    ((storePreferencesOf tenantId db).map Prod.fst).Nodup := by
  refine ((perm_insertionSort _ _).map Prod.fst).nodup_iff.mpr ?_
  rw [map_map]
  have distinct := db.storeSettings.property
  refine List.Nodup.map_on (fun field listed field' listed' same => ?_)
    (List.Nodup.of_map _ distinct |>.filter _)
  obtain ⟨stored, picked⟩ := mem_filter.mp listed
  obtain ⟨stored', picked'⟩ := mem_filter.mp listed'
  have key := (of_decide_eq_true picked).2.trans (of_decide_eq_true picked').2.symm
  exact inj_on_of_nodup_map distinct stored stored' (Prod.ext same key)

theorem storePreferencesOf_same {db db' : LocalizationDb} (same : SameSettings db db')
    (tenantId : Id) :
    Record.mapValues (fun row => (row.tenantId, row.value)) (storePreferencesOf tenantId db) =
      Record.mapValues (fun row => (row.tenantId, row.value))
        (storePreferencesOf tenantId db') := by
  refine eq_of_sorted ?_ ?_ ?_ ?_ fun field => ?_
  · exact pairwise_map.mpr (pairwise_sorted _)
  · exact pairwise_map.mpr (pairwise_sorted _)
  · rw [keys_mapValues]
    exact nodup_storePreferencesOf tenantId db
  · rw [keys_mapValues]
    exact nodup_storePreferencesOf tenantId db'
  · rw [mem_storePreferencesOf_values, mem_storePreferencesOf_values, same.stores]

theorem mapPreferencesDto_same {scope : PreferencesScope} {tenantId : Id} {storeId : Option Id}
    {row row' : SettingRow} (same : row.value = row'.value) :
    (mapPreferencesDto casing scope tenantId storeId row).map
        LocalizationPreferencesDto.untimed =
      (mapPreferencesDto casing scope tenantId storeId row').map
        LocalizationPreferencesDto.untimed := by
  rw [mapPreferencesDto, mapPreferencesDto, same]
  cases parseLocalizationPreferences casing row'.value <;> rfl

theorem mapCountryProfileDto_same {tenantId : Id} {field field' : String × SettingRow}
    (same : (field.1, field.2.value) = (field'.1, field'.2.value)) :
    (mapCountryProfileDto casing tenantId field).map (Option.map CountryProfileDto.untimed) =
      (mapCountryProfileDto casing tenantId field').map
        (Option.map CountryProfileDto.untimed) := by
  obtain ⟨key, value⟩ := Prod.mk.inj same
  rw [mapCountryProfileDto, mapCountryProfileDto, key, value]
  cases parseCountryProfileKey casing field'.1 with
  | none => rfl
  | some code =>
    dsimp only
    cases parseCountryProfile casing field'.2.value code <;> rfl

theorem mapLocalizedContentDto_same {tenantId : Id} {field field' : String × SettingRow}
    (same : (field.1, field.2.value) = (field'.1, field'.2.value)) :
    (mapLocalizedContentDto casing tenantId field).map LocalizedContentDto.untimed =
      (mapLocalizedContentDto casing tenantId field').map LocalizedContentDto.untimed := by
  obtain ⟨key, value⟩ := Prod.mk.inj same
  rw [mapLocalizedContentDto, mapLocalizedContentDto, key, value]
  cases parseLocalizedContentKey field'.1 <;> rfl

theorem mapLocalizedTemplateDto_same {tenantId : Id} {field field' : String × SettingRow}
    (same : (field.1, field.2.value) = (field'.1, field'.2.value)) :
    (mapLocalizedTemplateDto casing tenantId field).map LocalizedTemplateDto.untimed =
      (mapLocalizedTemplateDto casing tenantId field').map LocalizedTemplateDto.untimed := by
  obtain ⟨key, value⟩ := Prod.mk.inj same
  rw [mapLocalizedTemplateDto, mapLocalizedTemplateDto, key, value]
  cases parseLocalizedTemplateKey field'.1 <;> rfl

theorem filterMap_same {α β γ δ : Type} {f : α → Option β} {u : β → γ} {view : α → δ}
    (same : ∀ x y, view x = view y → (f x).map u = (f y).map u) {xs ys : List α}
    (views : xs.map view = ys.map view) : (ys.filterMap f).map u = (xs.filterMap f).map u := by
  rw [map_filterMap, map_filterMap]
  induction xs generalizing ys with
  | nil =>
    obtain rfl := map_eq_nil_iff.mp views.symm
    rfl
  | cons x xs ih =>
    obtain ⟨y, ys, rfl, first, rest⟩ := map_eq_cons_iff.mp views.symm
    rw [filterMap_cons, filterMap_cons, same x y first.symm, ih rest.symm]

theorem mapM_tenantPreferences_same {tenantId : Id} {row row' : Option SettingRow}
    {preferences : Option LocalizationPreferencesDto}
    (same : row'.map SettingRow.value = row.map SettingRow.value)
    (h : row.mapM (mapPreferencesDto casing .tenant tenantId none) = .ok preferences) :
    ∃ preferences', row'.mapM (mapPreferencesDto casing .tenant tenantId none) =
        .ok preferences' ∧
      preferences'.map LocalizationPreferencesDto.untimed =
        preferences.map LocalizationPreferencesDto.untimed := by
  cases row with
  | none =>
    obtain rfl := Option.map_eq_none_iff.mp same
    exact ⟨preferences, h, rfl⟩
  | some row =>
    obtain ⟨row', rfl, value⟩ := Option.map_eq_some_iff.mp same
    have alike := @mapPreferencesDto_same casing .tenant tenantId none row' row value
    simp only [Option.mapM_some] at h ⊢
    cases read : mapPreferencesDto casing .tenant tenantId none row with
    | error e => rw [read] at h; cases h
    | ok dto =>
      cases read' : mapPreferencesDto casing .tenant tenantId none row' with
      | error e => rw [read, read'] at alike; cases alike
      | ok dto' =>
        rw [read, read'] at alike
        rw [read] at h
        obtain rfl : some dto = preferences := Except.ok.inj h
        exact ⟨some dto', rfl, congrArg some (Except.ok.inj alike)⟩

theorem exportLanguagePack_same {now now' : Instant} {context context' : RequestContext}
    {query query' : ScopedQuery} {tenantId : Id} {db db' : LocalizationDb} {pack : LanguagePack}
    (same : SameSettings db db') (scope : resolveScope context query db = .ok tenantId)
    (scope' : resolveScope context' query' db' = .ok tenantId)
    (h : exportLanguagePack casing now context query db = .ok pack) :
    ∃ pack', exportLanguagePack casing now' context' query' db' = .ok pack' ∧
      pack'.untimed = pack.untimed := by
  simp only [exportLanguagePack, except_bind_ok_iff, except_pure_ok_iff, scope, Except.ok.injEq,
    exists_eq_left'] at h
  obtain ⟨preferences, mapped, storePreferences, mappedStores, profiles, mappedProfiles, rfl⟩ := h
  have alikeStores : ∃ storePreferences',
      (storePreferencesOf tenantId db').mapM (fun field => mapPreferencesDto casing .store
          field.2.tenantId (some field.1) field.2.toSettingRow) = .ok storePreferences' ∧
        storePreferences'.map LocalizationPreferencesDto.untimed =
          storePreferences.map LocalizationPreferencesDto.untimed := by
    refine mapM_same (fun x y alike => ?_) (storePreferencesOf_same same tenantId) mappedStores
    obtain ⟨storeId, row⟩ := Prod.mk.inj alike
    obtain ⟨owner, value⟩ := Prod.mk.inj row
    rw [storeId, owner, mapPreferencesDto_same value]
  have alikeProfiles : ∃ profiles', (tenantSettingsFrom tenantId .countryProfile db').mapM
          (mapCountryProfileDto casing tenantId) = .ok profiles' ∧
        profiles'.map (Option.map CountryProfileDto.untimed) =
          profiles.map (Option.map CountryProfileDto.untimed) :=
    mapM_same (fun x y => mapCountryProfileDto_same)
      (tenantSettingsFrom_same same tenantId .countryProfile) mappedProfiles
  have rows := same.tenants (tenantId, localizationPreferencesKey)
  rw [tenantValues, tenantValues, get_mapValues, get_mapValues] at rows
  obtain ⟨preferences', mapped', alikeTenant⟩ := mapM_tenantPreferences_same rows mapped
  obtain ⟨storePreferences', mappedStores', alikeStores⟩ := alikeStores
  obtain ⟨profiles', mappedProfiles', alikeProfiles⟩ := alikeProfiles
  refine ⟨_, by
    simp only [exportLanguagePack, except_bind_ok_iff, except_pure_ok_iff]
    exact ⟨tenantId, scope', preferences', mapped', storePreferences', mappedStores', profiles',
      mappedProfiles', rfl⟩, ?_⟩
  simp only [LanguagePack.untimed, alikeTenant, alikeStores, ← reduceOption_map, alikeProfiles]
  rw [filterMap_same (fun x y => mapLocalizedContentDto_same)
    (tenantSettingsFrom_same same tenantId .content),
    filterMap_same (fun x y => mapLocalizedTemplateDto_same)
    (tenantSettingsFrom_same same tenantId .template)]

end Exetron.Localization
