import Exetron.Localization.Exports

/-!
# Language packs

What the import of an exported pack leaves of a tenant's settings: the values that were exported,
but for the country profiles that the parser reads otherwise than they are stored.
-/

namespace Exetron.Localization

open Lib Customization Record Option

variable {casing : Casing} {tenantId : Id} {db : LocalizationDb} {k : Id × String}

def InPack (tenantId : Id) (db : LocalizationDb) (k : Id × String) : Prop :=
  k.1 = tenantId ∧ isLocalizationKey k.2 = true ∧
    (Record.get db.tenantSettings.val k).isSome = true

def InStorePack (tenantId : Id) (db : LocalizationDb) (k : Id × String) : Prop :=
  k.2 = localizationPreferencesKey ∧
    ∃ row, Record.get db.storeSettings.val k = some row ∧ row.tenantId = tenantId

/-- The settings of a pack that is imported are the exported ones, reread; others stay. -/
structure Imported (casing : Casing) (tenantId : Id) (db db₀ db' : LocalizationDb) : Prop where
  stores : db'.stores = db₀.stores
  inPack : ∀ k, InPack tenantId db k → Record.get (tenantValues db') k =
    (Record.get (tenantValues db) k).map (reread casing k.2)
  others : ∀ k, ¬InPack tenantId db k →
    Record.get (tenantValues db') k = Record.get (tenantValues db₀) k
  inStorePack : ∀ k, InStorePack tenantId db k →
    Record.get (storeValues db') k = Record.get (storeValues db) k
  otherStores : ∀ k, ¬InStorePack tenantId db k →
    Record.get (storeValues db') k = Record.get (storeValues db₀) k

theorem mem_keys_packFields {pack : LanguagePack} (exported : Exported casing tenantId db pack) :
    k ∈ ((packFields casing pack).map (ofTenant tenantId)).map Prod.fst ↔
      InPack tenantId db k := by
  rw [List.map_map, List.mem_map]
  constructor
  · rintro ⟨field, listed, rfl⟩
    obtain ⟨row, found, localized, -⟩ := (exported.fields field).mp listed
    exact ⟨rfl, localized, isSome_iff_exists.mpr ⟨row, found⟩⟩
  · obtain ⟨owner, key⟩ := k
    rintro ⟨rfl, localized, present⟩
    obtain ⟨row, found⟩ := isSome_iff_exists.mp present
    exact ⟨(key, reread casing key row.value),
      (exported.fields _).mpr ⟨row, found, localized, rfl⟩, rfl⟩

theorem mem_keys_storeFields {pack : LanguagePack} (exported : Exported casing tenantId db pack) :
    k ∈ ((pack.storePreferences.filterMap (storeField casing)).map (ofStore tenantId)).map
        Prod.fst ↔ InStorePack tenantId db k := by
  rw [List.map_map, List.mem_map]
  constructor
  · rintro ⟨field, listed, rfl⟩
    obtain ⟨row, found, owner, -⟩ := (exported.stores field).mp listed
    exact ⟨rfl, row, found, owner⟩
  · obtain ⟨storeId, key⟩ := k
    rintro ⟨rfl, row, found, owner⟩
    exact ⟨(storeId, row.value), (exported.stores _).mpr ⟨row, found, owner, rfl⟩, rfl⟩

theorem importLanguagePack_imported (now : Instant) (db₀ : LocalizationDb)
    {context : RequestContext} {dto : ImportLanguagePackDto} (settled : Settled casing db)
    (exported : Exported casing tenantId db dto.pack) (admitted : Admitted context tenantId dto)
    (tenants : db₀.tenants = db.tenants) (stores : db₀.stores = db.stores)
    (fewer : ∀ k row, Record.get db₀.storeSettings.val k = some row →
      Record.get db.storeSettings.val k = some row) :
    ∃ answer db', importLanguagePack casing now context dto db₀ = .ok (answer, db') ∧
      Imported casing tenantId db db₀ db' := by
  have known : ∀ field ∈ packFields casing dto.pack, tenantId ∈ db₀.tenants := by
    intro field listed
    obtain ⟨row, found, -⟩ := (exported.fields field).mp listed
    rw [tenants]
    exact (settled.tenantSettings _ row found).1
  have own : OwnStores tenantId (dto.pack.storePreferences.filterMap (storeField casing)) db₀ := by
    intro field listed
    obtain ⟨row, found, owner, -⟩ := (exported.stores field).mp listed
    refine ⟨stores ▸ (settled.storeSettings _ row found).1, fun row' found' => ?_⟩
    rw [fewer _ row' found'] at found
    rw [some.inj found, owner]
  obtain ⟨answer, db', done, stores', values, storeValues'⟩ :=
    @importLanguagePack_writes _ now context tenantId dto db₀ admitted exported.ownTenant known own
  have fields : ∀ field ∈ (packFields casing dto.pack).map (ofTenant tenantId),
      (get (tenantValues db) field.1).map (reread casing field.1.2) = some field.2 := by
    rw [List.forall_mem_map]
    intro field listed
    obtain ⟨row, found, -, value⟩ := (exported.fields field).mp listed
    rw [ofTenant, tenantValues, get_mapValues, found, value]
    rfl
  have storeFields : ∀ field ∈ (dto.pack.storePreferences.filterMap (storeField casing)).map
      (ofStore tenantId), get (storeValues db) field.1 = some field.2 := by
    rw [List.forall_mem_map]
    intro field listed
    obtain ⟨row, found, owner, value⟩ := (exported.stores field).mp listed
    rw [ofStore, storeValues, get_mapValues, found, value, ← owner]
    rfl
  have tenantRead (k : Id × String) := @get_spread_of_forall _ _ _
    (fun k => (get (tenantValues db) k).map (reread casing k.2)) _ fields
    (tenantValues db₀) k
  have storeRead (k : Id × String) := @get_spread_of_forall _ _ _
    (fun k => get (storeValues db) k) _ storeFields (storeValues db₀) k
  refine ⟨answer, db', done, stores', fun k listed => ?_, fun k other => ?_, fun k listed => ?_,
    fun k other => ?_⟩
  · rw [values, tenantRead, if_pos ((mem_keys_packFields exported).mpr listed)]
  · rw [values, tenantRead, if_neg fun listed => other ((mem_keys_packFields exported).mp listed)]
  · rw [storeValues', storeRead, if_pos ((mem_keys_storeFields exported).mpr listed)]
  · rw [storeValues', storeRead,
      if_neg fun listed => other ((mem_keys_storeFields exported).mp listed)]

def WholeProfiles (tenantId : Id) (db : LocalizationDb) : Prop :=
  ∀ key row, Record.get db.tenantSettings.val (tenantId, key) = some row →
    SettingKind.countryProfile.has key = true →
      ∃ profile : CountryProfileValue, row.value = profile.toJson ∧ profile.Whole

/-- Whoever exports the tenant's pack, an import of it that is admitted leaves every setting as it
is, brings all of them back when they were deleted, and leads to the same pack again. -/
def RoundTrips (casing : Casing) (tenantId : Id) (db : LocalizationDb) : Prop :=
  ∀ now exporter query, resolveScope exporter query db = .ok tenantId →
    ∃ pack, exportLanguagePack casing now exporter query db = .ok pack ∧
      ∀ later importer asked, Admitted importer tenantId ⟨asked, pack⟩ →
        (∃ answer db', importLanguagePack casing later importer ⟨asked, pack⟩ db =
            .ok (answer, db') ∧ SameSettings db db') ∧
        ∃ answer db', importLanguagePack casing later importer ⟨asked, pack⟩
              (deleteLocalization tenantId db) = .ok (answer, db') ∧ SameSettings db db' ∧
            ∀ now' exporter' query', resolveScope exporter' query' db' = .ok tenantId →
              ∃ pack', exportLanguagePack casing now' exporter' query' db' = .ok pack' ∧
                pack'.untimed = pack.untimed

theorem reread_eq_self {key : String} {value : Json} (stored : StoredSetting casing key value)
    (whole : SettingKind.countryProfile.has key = true →
      ∃ profile : CountryProfileValue, value = profile.toJson ∧ profile.Whole) :
    reread casing key value = value := by
  by_cases kind : SettingKind.countryProfile.has key = true
  · obtain ⟨_, profile, -, settled, -, rfl⟩ := stored.isCountryProfile kind
    obtain ⟨profile', same, whole⟩ := whole kind
    obtain rfl := CountryProfileValue.toJson_inj same
    rw [reread, if_pos kind, parseCountryProfile_toJson settled]
    exact congrArg CountryProfileValue.toJson (parsed_of_whole whole)
  · exact reread_other (by simpa using kind) value

theorem whole_of_reread {key : String} {value : Json} (stored : StoredSetting casing key value)
    (kind : SettingKind.countryProfile.has key = true) (same : reread casing key value = value) :
    ∃ profile : CountryProfileValue, value = profile.toJson ∧ profile.Whole := by
  obtain ⟨_, profile, -, settled, -, rfl⟩ := stored.isCountryProfile kind
  rw [reread, if_pos kind, parseCountryProfile_toJson settled] at same
  exact ⟨profile, rfl, whole_of_parsed same⟩

theorem Imported.same {db₀ db' : LocalizationDb} (settled : Settled casing db)
    (whole : WholeProfiles tenantId db) (imported : Imported casing tenantId db db₀ db')
    (left : ∀ k, ¬InPack tenantId db k →
      Record.get (tenantValues db₀) k = Record.get (tenantValues db) k)
    (leftStores : ∀ k, ¬InStorePack tenantId db k →
      Record.get (storeValues db₀) k = Record.get (storeValues db) k) : SameSettings db db' where
  tenants k := by
    by_cases listed : InPack tenantId db k
    · rw [imported.inPack k listed]
      obtain ⟨owner, key⟩ := k
      obtain ⟨rfl, -, present⟩ := listed
      obtain ⟨row, found⟩ := isSome_iff_exists.mp present
      have stored := (settled.tenantSettings _ row found).2
      rw [tenantValues, get_mapValues, found, map_some, map_some]
      exact congrArg some (reread_eq_self stored (whole key row found))
    · rw [imported.others k listed, left k listed]
  stores k := by
    by_cases listed : InStorePack tenantId db k
    · exact imported.inStorePack k listed
    · rw [imported.otherStores k listed, leftStores k listed]

theorem get_deleteLocalization (other : ¬InPack tenantId db k) :
    Record.get (tenantValues (deleteLocalization tenantId db)) k =
      Record.get (tenantValues db) k := by
  rw [tenantValues, tenantValues, get_mapValues, get_mapValues]
  refine congrArg _ ((get_filter db.tenantSettings.property _ k).trans ?_)
  cases found : get db.tenantSettings.val k with
  | none => rfl
  | some row =>
    have kept : ¬(k.1 = tenantId ∧ isLocalizationKey k.2 = true) := fun listed =>
      other ⟨listed.1, listed.2, isSome_iff_exists.mpr ⟨row, found⟩⟩
    rw [filter_some, if_pos (by simpa [imp_iff_not_or] using kept)]

theorem get_deleteLocalization_store (other : ¬InStorePack tenantId db k) :
    Record.get (storeValues (deleteLocalization tenantId db)) k =
      Record.get (storeValues db) k := by
  rw [storeValues, storeValues, get_mapValues, get_mapValues]
  refine congrArg _ ((get_filter db.storeSettings.property _ k).trans ?_)
  cases found : get db.storeSettings.val k with
  | none => rfl
  | some row =>
    have kept : ¬(row.tenantId = tenantId ∧ k.2 = localizationPreferencesKey) := fun listed =>
      other ⟨listed.2, row, found, listed.1⟩
    rw [filter_some, if_pos (by simpa [imp_iff_not_or] using kept)]

theorem roundTrips_of_whole (settled : Settled casing db) (whole : WholeProfiles tenantId db) :
    RoundTrips casing tenantId db := by
  intro now exporter query scope
  obtain ⟨pack, done, exported⟩ := exportLanguagePack_exported now settled scope
  refine ⟨pack, done, fun later importer asked admitted => ⟨?_, ?_⟩⟩
  · obtain ⟨answer, db', import_done, imported⟩ := importLanguagePack_imported later db
      settled exported admitted rfl rfl fun _ _ found => found
    exact ⟨answer, db', import_done, imported.same settled whole (fun _ _ => rfl) fun _ _ => rfl⟩
  · have fewer : ∀ k row, get (deleteLocalization tenantId db).storeSettings.val k = some row →
        get db.storeSettings.val k = some row := by
      intro k row found
      have kept := (get_filter db.storeSettings.property _ k).symm.trans found
      exact (filter_eq_some_iff.mp kept).1
    obtain ⟨answer, db', import_done, imported⟩ := importLanguagePack_imported later
      (deleteLocalization tenantId db) settled exported admitted rfl rfl fewer
    have same : SameSettings db db' := imported.same settled whole
      (fun _ other => get_deleteLocalization other)
      fun _ other => get_deleteLocalization_store other
    exact ⟨answer, db', import_done, same, fun _ _ _ scope' =>
      exportLanguagePack_same same scope scope' done⟩

def platformAdmin : RequestContext where
  userId := "root"
  tenantId := none
  scope := .platformAdmin
  storeIds := []
  deviceId := none

theorem whole_of_roundTrips (settled : Settled casing db) (trips : RoundTrips casing tenantId db) :
    WholeProfiles tenantId db := by
  have scope : resolveScope platformAdmin ⟨some tenantId, none⟩ db = .ok tenantId := rfl
  obtain ⟨pack, done, imports⟩ := trips 0 platformAdmin ⟨some tenantId, none⟩ scope
  obtain ⟨pack', done', exported⟩ := exportLanguagePack_exported 0 settled scope
  obtain rfl := Except.ok.inj (done.symm.trans done')
  have admitted : Admitted platformAdmin tenantId ⟨some tenantId, pack⟩ :=
    ⟨rfl, fun _ _ _ _ => rfl⟩
  obtain ⟨⟨answer, db', import_done, same⟩, -⟩ := imports 0 platformAdmin (some tenantId) admitted
  obtain ⟨answer', db'', import_done', imported⟩ := importLanguagePack_imported 0 db
    settled exported admitted rfl rfl fun _ _ found => found
  obtain ⟨rfl, rfl⟩ := Prod.mk.inj (Except.ok.inj (import_done.symm.trans import_done'))
  intro key row found kind
  have listed : InPack tenantId db (tenantId, key) :=
    ⟨rfl, isLocalizationKey_iff.mpr (.inr ⟨_, kind⟩), isSome_iff_exists.mpr ⟨row, found⟩⟩
  have kept := same.tenants (tenantId, key)
  rw [imported.inPack _ listed, tenantValues, get_mapValues, found, map_some,
    map_some] at kept
  exact whole_of_reread (settled.tenantSettings _ row found).2 kind (some.inj kept)

/-- After any upserts the pack of a tenant makes its round trips just when every country profile
has a currency, supports its default locale, and labels its tax with a text or not at all. -/
theorem languagePack_roundTrips_iff (casing : Casing) {start : LocalizationDb}
    (unset : Unset start) (calls : List UpsertCall) (tenantId : Id) :
    RoundTrips casing tenantId (Trace.run (upsertStep casing) start calls) ↔
      WholeProfiles tenantId (Trace.run (upsertStep casing) start calls) :=
  ⟨whole_of_roundTrips (upserts_settled unset calls),
    roundTrips_of_whole (upserts_settled unset calls)⟩

def freshDb : LocalizationDb where
  tenants := [1]
  stores := []
  tenantSettings := ⟨[], List.nodup_nil⟩
  storeSettings := ⟨[], List.nodup_nil⟩

theorem freshDb_unset : Unset freshDb := ⟨by simp [freshDb], by simp [freshDb]⟩

def russia (currency : String) : UpsertCountryProfileRequest where
  defaultLocale := "ru-RU"
  currency := currency
  supportedLocales := none
  tax := none
  complianceFlags := none
  metadata := none

def russiaUpserted (currency : String) : UpsertCall where
  now := 0
  context := platformAdmin
  request := .countryProfile "ru" (russia currency) (some 1)

theorem upsertStep_russia (currency : String) :
    upsertStep .ascii freshDb (russiaUpserted currency) =
      putTenantSetting 0 1 (buildCountryProfileKey .ascii "RU")
        (buildCountryProfileValue .ascii (russia currency)).toJson freshDb := by
  have code : normalizeCountryCode .ascii (some "ru") = some "RU" := by decide +kernel
  have required_code : required (normalizeCountryCode .ascii (some "ru"))
      (.badRequest "Country code is required.") = .ok "RU" := by rw [code]; rfl
  have done : (russiaUpserted currency).perform .ascii freshDb = .ok (⟨⟩,
      putTenantSetting 0 1 (buildCountryProfileKey .ascii "RU")
        (buildCountryProfileValue .ascii (russia currency)).toJson freshDb) := by
    refine (Tx.bind_of_ok (Tx.lift_ok_iff.mpr ⟨rfl, rfl⟩) _).trans ?_
    refine (Tx.bind_of_ok (Tx.lift_ok_iff.mpr ⟨required_code, rfl⟩) _).trans ?_
    exact upsertTenantSetting_ok_iff.mpr ⟨.inr List.mem_cons_self, rfl⟩
  rw [upsertStep, done]

theorem russia_roundTrips : RoundTrips .ascii 1
    (Trace.run (upsertStep .ascii) freshDb [russiaUpserted "rub"]) := by
  refine (languagePack_roundTrips_iff .ascii freshDb_unset [russiaUpserted "rub"] 1).mpr ?_
  intro key row found _
  have stored : Trace.run (upsertStep .ascii) freshDb [russiaUpserted "rub"] = _ :=
    upsertStep_russia "rub"
  rw [stored, get_putTenantSetting] at found
  split at found
  · obtain rfl := Option.some.inj found
    refine ⟨_, upserted_value _ _ _, ?_, ?_, .inl rfl⟩
    · decide +kernel
    · decide +kernel
  · cases found

def storedCurrency (db : LocalizationDb) : Option String :=
  (Record.get db.tenantSettings.val (1, "localization.country-profile.RU")).bind fun row =>
    stringField ((asRecord row.value).getD []) "currency"

def reimported (db db₀ : LocalizationDb) : Option LocalizationDb := do
  let pack ← (exportLanguagePack .ascii 1 platformAdmin ⟨some 1, none⟩ db).toOption
  let (_, db') ← (importLanguagePack .ascii 2 platformAdmin ⟨none, pack⟩ db₀).toOption
  some db'

/-- A blank currency is stored as it is, and leaves the pack as "USD". -/
theorem blank_currency_replaced :
    let db := Trace.run (upsertStep .ascii) freshDb [russiaUpserted " "]
    storedCurrency db = some "" ∧
      (reimported db db).bind storedCurrency = some "USD" ∧
      (reimported db (deleteLocalization 1 db)).bind storedCurrency = some "USD" := by
  decide +kernel

end Exetron.Localization
