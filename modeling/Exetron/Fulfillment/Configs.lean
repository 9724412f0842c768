import Exetron.Fulfillment.Service
import Exetron.Lib.Trace

/-!
# Coherence of configurations and quotes

A configuration is stored as it was answered and reads back as itself. Its default mode may be one
that is switched off, since a request can name both; and a zone found by its postal code is quoted
again by its code, which an earlier zone may carry too.
-/

namespace Exetron.Fulfillment

open Lib Pricing List

section ReadBack

theorem asFilledText_str (text : FilledText) : asFilledText (some (.str text.val)) = some text :=
  dif_pos text.property

theorem ofEntry_of_get {entry : Json} {key : String} {text : FilledText}
    (held : entry.get? key = some (.str text.val)) (word : FilledText) (number : Nat) :
    FilledText.ofEntry entry key word number = text := by
  rw [FilledText.ofEntry, held, asFilledText_str]
  rfl

theorem toMoney_text (fee fallback : MoneyText) :
    toMoney (some (.str fee.text)) fallback = .ok fee := by
  have reads := fee.reads
  simp only [toMoney]
  split <;> simp_all

theorem not_isSetTo_false (b : Bool) : (!isSetTo false (some (.bool b))) = b := by
  cases b <;> rfl

theorem asFulfillmentMode_text (mode : FulfillmentMode) :
    asFulfillmentMode (some (.str mode.text)) = some mode := by
  cases mode <;> rfl

theorem normalizeDeliveryZone_toJson (zone : DeliveryZone) (number : Nat) :
    normalizeDeliveryZone zone.toJson number = .ok zone := by
  have code : zone.toJson.get? "code" = some (.str zone.code.val) := rfl
  have name : zone.toJson.get? "name" = some (.str zone.name.val) := rfl
  have fee : toMoney (zone.toJson.get? "fee") .zero = .ok zone.fee := toMoney_text _ _
  have postalCodes : (zone.postalCodes.map Json.str).filterMap Json.asString? =
      zone.postalCodes := by
    rw [filterMap_map]
    exact filterMap_some
  have active : (!isSetTo false (zone.toJson.get? "isActive")) = zone.isActive :=
    not_isSetTo_false _
  simp only [normalizeDeliveryZone, fee, ofEntry_of_get code, ofEntry_of_get name, active]
  show Except.ok _ = Except.ok zone
  congr 2

theorem normalizePickup_toJson (pickup : PickupConfig) :
    normalizePickup (some pickup.toJson) = pickup := by
  obtain ⟨enabled, lead, window, instructions⟩ := pickup
  have told : asFilledText (some (.ofOption (fun text => .str text.val) instructions)) =
      instructions := by
    cases instructions with
    | none => rfl
    | some text => exact asFilledText_str text
  exact congr (congrArg (PickupConfig.mk · lead window) (not_isSetTo_false enabled)) told

theorem normalizeTable_toJson (table : DineInTable) (number : Nat) :
    normalizeTable table.toJson number = table := by
  have code : table.toJson.get? "code" = some (.str table.code.val) := rfl
  have label : table.toJson.get? "label" = some (.str table.label.val) := rfl
  have active : (!isSetTo false (table.toJson.get? "isActive")) = table.isActive :=
    not_isSetTo_false _
  rw [normalizeTable, ofEntry_of_get code, ofEntry_of_get label, active]
  rfl

theorem normalizeProvider_toJson (provider : FulfillmentProvider) (number : Nat) :
    normalizeProvider provider.toJson number = provider := by
  have key : provider.toJson.get? "providerKey" = some (.str provider.providerKey.val) := rfl
  have type : asProviderType (provider.toJson.get? "providerType") = provider.providerType := by
    obtain ⟨_, type, _⟩ := provider
    cases type <;> rfl
  have enabled : (!isSetTo false (provider.toJson.get? "enabled")) = provider.enabled :=
    not_isSetTo_false _
  rw [normalizeProvider, ofEntry_of_get key, type, enabled]

variable {α : Type} {toJson : α → Json}

theorem records_map (record : ∀ a, isRecord (toJson a) = true) (as : List α) :
    records (some (.arr (as.map toJson))) = (as.map toJson).zipIdx 1 := by
  have kept : (as.map toJson).filter isRecord = as.map toJson := by
    refine filter_eq_self.mpr fun json listed => ?_
    obtain ⟨a, _, rfl⟩ := mem_map.mp listed
    exact record a
  exact congrArg (·.zipIdx 1) kept

theorem map_zipIdx_toJson {f : Json → Nat → α} (back : ∀ a number, f (toJson a) number = a)
    (as : List α) (number : Nat) :
    ((as.map toJson).zipIdx number).map (fun (entry, number) => f entry number) = as := by
  induction as generalizing number with
  | nil => rfl
  | cons a as ih =>
    rw [map_cons, zipIdx_cons, map_cons, ih]
    exact congrArg (· :: as) (back a number)

theorem mapM_zipIdx_toJson {f : Json → Nat → Except ApiException α}
    (back : ∀ a number, f (toJson a) number = .ok a) (as : List α) (number : Nat) :
    ((as.map toJson).zipIdx number).mapM (fun (entry, number) => f entry number) = .ok as := by
  induction as generalizing number with
  | nil => rfl
  | cons a as ih =>
    rw [map_cons, zipIdx_cons, mapM_cons, ih]
    dsimp only
    rw [back]
    rfl

end ReadBack

theorem normalizeDineIn_toJson (dineIn : DineInConfig) :
    normalizeDineIn (some dineIn.toJson) = dineIn := by
  have tables : (records (some (.arr (dineIn.tables.map DineInTable.toJson)))).map
      (fun (entry, number) => normalizeTable entry number) = dineIn.tables := by
    rw [records_map fun _ => rfl]
    exact map_zipIdx_toJson normalizeTable_toJson _ _
  obtain ⟨enabled, lead, seats⟩ := dineIn
  refine congr (congrArg (DineInConfig.mk · lead) ?_) tables
  cases enabled <;> rfl

theorem givenModes_text {modes : List FulfillmentMode} (distinct : modes.Nodup) :
    givenModes (some (.arr (modes.map fun mode => .str mode.text))) = modes := by
  have read : (modes.map fun mode => Json.str mode.text).filterMap
      (fun mode => asFulfillmentMode (some mode)) = modes := by
    rw [filterMap_map]
    exact (filterMap_congr fun mode _ => asFulfillmentMode_text mode).trans filterMap_some
  rw [givenModes]
  exact (congrArg uniqueModes read).trans (Window.eraseDups_of_nodup distinct)

/-- Every field has a value that its own reading keeps, generated codes and defaults included. -/
theorem resolve_fields (config : StoreFulfillmentConfig) :
    resolveStoreFulfillmentConfig config.storeId (some (.obj config.fields)) = .ok config := by
  obtain ⟨storeId, modes, mode, zones, pickup, dineIn, providers, offered, distinct⟩ := config
  have zonesRead : normalizeDeliveryZones (some (.arr (zones.map DeliveryZone.toJson))) =
      .ok zones := by
    rw [normalizeDeliveryZones, records_map fun _ => rfl]
    exact mapM_zipIdx_toJson normalizeDeliveryZone_toJson _ _
  have providersRead : (records (some (.arr (providers.map FulfillmentProvider.toJson)))).map
      (fun (entry, number) => normalizeProvider entry number) = providers := by
    rw [records_map fun _ => rfl]
    exact map_zipIdx_toJson normalizeProvider_toJson _ _
  have given := givenModes_text distinct
  have modesRead : enabledModes (some (.arr (modes.map fun mode => .str mode.text))) = modes := by
    rw [enabledModes, given, if_neg offered]
  have modeRead : defaultMode (some (.str mode.text))
      (some (.arr (modes.map fun mode => .str mode.text))) = mode := by
    rw [defaultMode, asFulfillmentMode_text]
    rfl
  simp only [resolveStoreFulfillmentConfig, StoreFulfillmentConfig.fields, Option.bind_some]
  simp only [Json.get?, find?, String.reduceEq, decide_false, decide_true, Option.map_some]
  simp only [zonesRead, providersRead, modesRead, modeRead, normalizePickup_toJson,
    normalizeDineIn_toJson]
  rfl

theorem defaultMode_mem_iff {value modes : Option Json} :
    defaultMode value modes ∈ enabledModes modes ↔
      ∀ mode, asFulfillmentMode value = some mode → mode ∈ enabledModes modes := by
  cases asked : asFulfillmentMode value with
  | some mode =>
    rw [defaultMode, asked]
    exact ⟨fun offered _ same => Option.some.inj same ▸ offered, fun offered => offered mode rfl⟩
  | none =>
    have chosen : defaultMode value modes ∈ enabledModes modes := by
      rw [defaultMode, asked, enabledModes]
      cases given : givenModes modes with
      | nil => simp
      | cons mode modes => simp
    refine ⟨fun _ _ taken => ?_, fun _ => chosen⟩
    cases taken

/-- The code of a zone that a postal code finds is that of a zone with the same fee and times. -/
def Settled (zones : List DeliveryZone) : Prop :=
  ∀ postalCode zone first, zoneOfPostalCode zones postalCode = some zone →
    zoneOfCode zones (some zone.code.val) = some first →
      first.fee = zone.fee ∧ first.slaMinutes = zone.slaMinutes ∧
        first.etaMaxMinutes = zone.etaMaxMinutes

variable {config : StoreFulfillmentConfig} {selection : FulfillmentSelection} {now : Instant}

theorem zoneOfCode_some {zones : List DeliveryZone} {code : Option String} {zone : DeliveryZone}
    (found : zoneOfCode zones code = some zone) : some zone.code.val = code := by
  have holds := find?_some found
  exact (of_decide_eq_true holds).1

theorem findZone_again {zones : List DeliveryZone} {zone : DeliveryZone} (settled : Settled zones)
    (found : findZone zones selection = some zone) :
    ∃ first, findZone zones { selection with zoneCode := some zone.code.val } = some first ∧
      first.code = zone.code ∧ first.fee = zone.fee ∧ first.slaMinutes = zone.slaMinutes ∧
        first.etaMaxMinutes = zone.etaMaxMinutes := by
  rcases Option.or_eq_some_iff.mp found with byCode | ⟨_, byPostalCode⟩
  · refine ⟨zone, ?_, rfl, rfl, rfl, rfl⟩
    rw [findZone, zoneOfCode_some byCode, byCode]
    rfl
  · have holds := find?_some byPostalCode
    have active : zone.isActive := (of_decide_eq_true holds).1
    obtain ⟨first, named⟩ : ∃ first, zoneOfCode zones (some zone.code.val) = some first := by
      refine Option.isSome_iff_exists.mp (find?_isSome.mpr ?_)
      exact ⟨zone, mem_of_find?_eq_some byPostalCode, decide_eq_true ⟨rfl, active⟩⟩
    have same : first.code = zone.code := Subtype.ext (Option.some.inj (zoneOfCode_some named))
    refine ⟨first, ?_, same, settled _ _ _ byPostalCode named⟩
    rw [findZone, named]
    rfl

theorem quoteFulfillment_again {quote : FulfillmentQuote}
    (settled : .delivery ∈ config.enabledModes → Settled config.deliveryZones)
    (quoted : quoteFulfillment config selection now = .ok quote) :
    quoteFulfillment config quote.selection now = .ok quote := by
  obtain ⟨mode, zoneCode, line1, line2, postalCode, contactless, slot, tableCode, guests, told⟩ :=
    selection
  simp only [quoteFulfillment, except_bind_ok_iff, rejectIf_ok_iff, Decidable.not_not] at quoted
  obtain ⟨_, offered, quoted⟩ := quoted
  cases mode with
  | delivery =>
    simp only [except_bind_ok_iff, required_ok_iff, except_pure_ok_iff] at quoted
    obtain ⟨zone, found, promisedAt, promised, etaAt, eta, rfl⟩ := quoted
    obtain ⟨first, again, code, fee, sla, etaMax⟩ := findZone_again (settled offered) found
    simp only [quoteFulfillment, except_bind_ok_iff, rejectIf_ok_iff, Decidable.not_not,
      required_ok_iff, except_pure_ok_iff]
    refine ⟨(), offered, first, again, promisedAt, sla ▸ promised, etaAt, etaMax ▸ eta, ?_⟩
    rw [code, fee]
  | pickup =>
    simp only [except_bind_ok_iff, rejectIf_ok_iff, except_pure_ok_iff] at quoted
    obtain ⟨_, enabled, readyAt, ready, rfl⟩ := quoted
    simp only [quoteFulfillment, except_bind_ok_iff, rejectIf_ok_iff, Decidable.not_not,
      except_pure_ok_iff]
    exact ⟨(), offered, (), enabled, readyAt, ready, rfl⟩
  | dineIn =>
    simp only [except_bind_ok_iff, rejectIf_ok_iff, required_ok_iff, except_pure_ok_iff] at quoted
    obtain ⟨_, enabled, table, found, servedAt, served, rfl⟩ := quoted
    have holds := find?_some found
    obtain rfl : some table.code.val = tableCode := (of_decide_eq_true holds).1
    simp only [quoteFulfillment, except_bind_ok_iff, rejectIf_ok_iff, Decidable.not_not,
      required_ok_iff, except_pure_ok_iff]
    exact ⟨(), offered, (), enabled, table, found, servedAt, served, rfl⟩

theorem loadConfigValue_put (storeId other : Id) (value : Json) (setup : Setup) :
    loadConfigValue other { setup with
        storeSettings := putConfigValue storeId value setup.storeSettings } =
      if other = storeId then some value else loadConfigValue other setup := by
  simp only [loadConfigValue]
  induction setup.storeSettings with
  | nil =>
    by_cases own : other = storeId
    · subst own
      simp [putConfigValue, isConfigOf]
    · simp [putConfigValue, isConfigOf, own, Ne.symm own]
  | cons setting settings ih =>
    rw [putConfigValue]
    by_cases held : isConfigOf storeId setting
    · obtain ⟨rfl, key⟩ := held
      by_cases own : other = setting.ownerId
      · subst own
        simp [isConfigOf, key]
      · simp [isConfigOf, key, own, Ne.symm own]
    · rw [if_neg held]
      by_cases here : isConfigOf other setting
      · have apart : other ≠ storeId := by
          rintro rfl
          exact held here
        rw [find?_cons_of_pos (by simpa using here), if_neg apart,
          find?_cons_of_pos (by simpa using here)]
      · rw [find?_cons_of_neg (by simpa using here), ih, find?_cons_of_neg (by simpa using here)]

/-- The configuration a request asks for, over the one that is stored. -/
def UpdateStoreFulfillmentConfigDto.asked (dto : UpdateStoreFulfillmentConfigDto) (setup : Setup) :
    Option Json :=
  (resolveStoreFulfillmentConfig dto.storeId (loadConfigValue dto.storeId setup)).toOption.map
    dto.onto

/-- A default that is named is among the modes. -/
def OffersDefault (raw : Option Json) : Prop :=
  ∀ mode, asFulfillmentMode (raw.bind (Json.get? "defaultMode")) = some mode →
    mode ∈ enabledModes (raw.bind (Json.get? "enabledModes"))

def SettlesZones (raw : Option Json) : Prop :=
  .delivery ∈ enabledModes (raw.bind (Json.get? "enabledModes")) →
    ∀ zones, normalizeDeliveryZones (raw.bind (Json.get? "deliveryZones")) = .ok zones →
      Settled zones

section Runs

variable {context : RequestContext} {dto : UpdateStoreFulfillmentConfigDto} {setup setup' : Setup}
  {next : StoreFulfillmentConfig}

theorem resolve_inv {storeId : Id} {raw : Option Json}
    (resolved : resolveStoreFulfillmentConfig storeId raw = .ok config) :
    config.storeId = storeId ∧ (config.defaultMode ∈ config.enabledModes ↔ OffersDefault raw) ∧
      (SettlesZones raw → .delivery ∈ config.enabledModes → Settled config.deliveryZones) := by
  simp only [resolveStoreFulfillmentConfig, except_bind_ok_iff, except_pure_ok_iff] at resolved
  obtain ⟨zones, read, rfl⟩ := resolved
  exact ⟨rfl, defaultMode_mem_iff, fun settles delivers => settles delivers zones read⟩

theorem upsertStoreConfig_inv
    (accepted : upsertStoreConfig context dto setup = .ok (next, setup')) :
    admitStoreConfig context dto.storeId setup = .ok () ∧
      resolveStoreFulfillmentConfig dto.storeId (dto.asked setup) = .ok next ∧
      setup' = { setup with
        storeSettings := putConfigValue dto.storeId (.obj next.fields) setup.storeSettings } := by
  simp only [upsertStoreConfig, except_bind_ok_iff, except_pure_ok_iff] at accepted
  obtain ⟨_, admitted, current, stored, _, resolved, same⟩ := accepted
  cases same
  refine ⟨admitted, ?_, rfl⟩
  rwa [UpdateStoreFulfillmentConfigDto.asked, stored]

/-- A rejected call is rolled back. -/
def configStep (setup : Setup) (call : RequestContext × UpdateStoreFulfillmentConfigDto) : Setup :=
  ((upsertStoreConfig call.1 call.2 setup).toOption.map Prod.snd).getD setup

theorem configStep_stores (setup : Setup)
    (call : RequestContext × UpdateStoreFulfillmentConfigDto) :
    (configStep setup call).stores = setup.stores := by
  rw [configStep]
  cases called : upsertStoreConfig call.1 call.2 setup with
  | error e => rfl
  | ok answer =>
    show answer.2.stores = setup.stores
    rw [(upsertStoreConfig_inv called).2.2]

/-- Every call on the store is rejected. -/
def Refused (storeId : Id) (setup : Setup)
    (call : RequestContext × UpdateStoreFulfillmentConfigDto) : Prop :=
  call.2.storeId = storeId → (upsertStoreConfig call.1 call.2 setup).toOption = none

theorem configStep_loadConfigValue {storeId : Id}
    {call : RequestContext × UpdateStoreFulfillmentConfigDto}
    (refused : Refused storeId setup call) :
    loadConfigValue storeId (configStep setup call) = loadConfigValue storeId setup := by
  rw [configStep]
  cases called : upsertStoreConfig call.1 call.2 setup with
  | error e => rfl
  | ok answer =>
    have apart : storeId ≠ call.2.storeId := by
      intro own
      have none := refused own.symm
      rw [called] at none
      cases none
    show loadConfigValue storeId answer.2 = _
    rw [(upsertStoreConfig_inv called).2.2, loadConfigValue_put, if_neg apart]

theorem upserts_cohere {earlier later : List (RequestContext × UpdateStoreFulfillmentConfigDto)}
    (accepted : upsertStoreConfig context dto (Trace.run configStep setup earlier) =
      .ok (next, setup'))
    (last : Trace.Along configStep (Refused dto.storeId) setup' later) :
    (getStoreConfig context dto.storeId
        (Trace.run configStep setup (earlier ++ (context, dto) :: later)) = .ok next ∧
      ∀ reader config, getStoreConfig reader dto.storeId
          (Trace.run configStep setup (earlier ++ (context, dto) :: later)) = .ok config →
        config = next) ∧
    (next.defaultMode ∈ next.enabledModes ↔
      OffersDefault (dto.asked (Trace.run configStep setup earlier))) ∧
    (SettlesZones (dto.asked (Trace.run configStep setup earlier)) →
      ∀ selection now quote, quoteFulfillment next selection now = .ok quote →
        quoteFulfillment next quote.selection now = .ok quote) := by
  obtain ⟨admitted, resolved, rfl⟩ := upsertStoreConfig_inv accepted
  obtain ⟨own, offers, settles⟩ := resolve_inv resolved
  have reached : Trace.run configStep setup (earlier ++ (context, dto) :: later) =
      Trace.run configStep { Trace.run configStep setup earlier with
        storeSettings := putConfigValue dto.storeId (.obj next.fields)
          (Trace.run configStep setup earlier).storeSettings } later := by
    rw [Trace.run_append, Trace.run, configStep, accepted]
    rfl
  rw [reached]
  set saved := { Trace.run configStep setup earlier with
    storeSettings := putConfigValue dto.storeId (.obj next.fields)
      (Trace.run configStep setup earlier).storeSettings }
  obtain ⟨stores, value⟩ : (Trace.run configStep saved later).stores = saved.stores ∧
      loadConfigValue dto.storeId (Trace.run configStep saved later) =
        loadConfigValue dto.storeId saved := by
    have keeps : ∀ s call, (s.stores = saved.stores ∧
        loadConfigValue dto.storeId s = loadConfigValue dto.storeId saved) →
          Refused dto.storeId s call → ((configStep s call).stores = saved.stores ∧
            loadConfigValue dto.storeId (configStep s call) =
              loadConfigValue dto.storeId saved) := fun s call kept refused =>
      ⟨(configStep_stores s call).trans kept.1, (configStep_loadConfigValue refused).trans kept.2⟩
    exact Trace.run_invariant keeps ⟨rfl, rfl⟩ last
  have stored : loadConfigValue dto.storeId saved = some (.obj next.fields) :=
    (loadConfigValue_put _ _ _ _).trans (if_pos rfl)
  have reads : resolveStoreFulfillmentConfig dto.storeId
      (loadConfigValue dto.storeId (Trace.run configStep saved later)) = .ok next := by
    rw [value, stored, ← own]
    exact resolve_fields next
  refine ⟨⟨?_, fun reader config got => ?_⟩, offers, fun meets selection now quote quoted =>
    quoteFulfillment_again (settles meets) quoted⟩
  · have same : admitStoreConfig context dto.storeId (Trace.run configStep saved later) =
        .ok () := by
      rw [admitStoreConfig, stores]
      exact admitted
    rw [getStoreConfig, same, reads]
    rfl
  · simp only [getStoreConfig, except_bind_ok_iff, reads] at got
    obtain ⟨_, _, same⟩ := got
    exact (Except.ok.inj same).symm

end Runs

def corner : Setup where
  stores := [{ id := 1, tenantId := 1, status := .active }]
  devices := []
  posShifts := []
  posSessions := []
  products := []
  storeSettings := []
  tenantSettings := []
  paymentProviderConfigs := []
  warehouses := []
  recipeBoms := []
  stopListRules := []

def manager : RequestContext := ⟨"root", none, .platformAdmin, [], none⟩

def takeaway : UpdateStoreFulfillmentConfigDto :=
  ⟨1, [("enabledModes", .arr [.str "PICKUP"])], ["defaultMode"]⟩

theorem takeaway_coheres : ∃ next,
    getStoreConfig manager 1 (Trace.run configStep corner [(manager, takeaway)]) = .ok next ∧
      next.defaultMode ∈ next.enabledModes ∧
      ∀ selection now quote, quoteFulfillment next selection now = .ok quote →
        quoteFulfillment next quote.selection now = .ok quote := by
  obtain ⟨answer, accepted⟩ : ∃ answer,
      upsertStoreConfig manager takeaway (Trace.run configStep corner []) = .ok answer :=
    ⟨_, eq_ok_get (by decide +kernel)⟩
  have last : Trace.Along configStep (Refused takeaway.storeId) answer.2 [] := trivial
  obtain ⟨⟨got, _⟩, offers, again⟩ := upserts_cohere accepted last
  refine ⟨answer.1, got, offers.mpr fun mode named => ?_, again fun delivers => ?_⟩
  · have unnamed : asFulfillmentMode
        ((takeaway.asked corner).bind (Json.get? "defaultMode")) = none := by decide +kernel
    cases unnamed.symm.trans named
  · exact absurd delivers (by decide +kernel)

theorem corner_incoherent : (∃ answer, upsertStoreConfig manager
        ⟨1, [("enabledModes", .arr [.str "PICKUP"]), ("defaultMode", .str "DELIVERY")], []⟩ corner =
        .ok answer ∧ answer.1.defaultMode ∉ answer.1.enabledModes) ∧
    ∃ answer, upsertStoreConfig manager
        ⟨1, [("deliveryZones", .arr
          [.obj [("code", .str "near"), ("fee", .str "1.00")],
           .obj [("code", .str "near"), ("fee", .str "2.00"),
             ("postalCodes", .arr [.str "100000"])]])], []⟩ corner = .ok answer ∧
      ∃ quote again, quoteFulfillment answer.1
          ⟨.delivery, none, none, none, some "100000", false, none, none, none, none⟩ 0 =
          .ok quote ∧
        quoteFulfillment answer.1 quote.selection 0 = .ok again ∧
        again.fee.cents ≠ quote.fee.cents :=
  ⟨⟨_, eq_ok_get (by decide +kernel), by decide +kernel⟩,
    _, eq_ok_get (by decide +kernel), _, _, eq_ok_get (by decide +kernel),
    eq_ok_get (by decide +kernel), by decide +kernel⟩

end Exetron.Fulfillment
