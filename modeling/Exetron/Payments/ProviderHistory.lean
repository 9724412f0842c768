import Exetron.Lib.Trace
import Exetron.Payments.ProviderConfigs

/-!
# The settings given to a provider configuration

After any run of creations and updates a configuration resolves to the last settings and the last
secrets that it was given. A request that leaves one of them out keeps it; `null` and an empty
object clear it. A secret named `__proto__` is lost where it is given.
-/

namespace Exetron.Payments

open Lib List

structure ProviderConfigRequest where
  iv : String
  now : Instant
  context : RequestContext
  call : ProviderConfigCall

def ProviderConfigCall.settings : ProviderConfigCall → Option (Option Fields)
  | .create dto => dto.settings
  | .update _ dto => dto.settings

/-- The secrets of the request are an object, with each key once. -/
def ProviderConfigCall.DistinctSecrets (call : ProviderConfigCall) : Prop :=
  ∀ fields ∈ call.secrets.join, (fields.map Prod.fst).Nodup

instance (call : ProviderConfigCall) : Decidable call.DistinctSecrets :=
  inferInstanceAs (Decidable (∀ fields ∈ call.secrets.join, _))

/-- What a request gave to a configuration; what it left out is absent. -/
structure Given where
  configId : Id
  (settings secrets : Option (Option Fields))

section
variable (cipher : SecretCipher)

/-- The store after a request, whatever its answer. -/
def configure (s : ProviderConfigStore) (r : ProviderConfigRequest) : ProviderConfigStore :=
  ((r.call.perform cipher r.iv r.now r.context).exec s).2

/-- What a request that succeeds gave to the configuration that it answers with. -/
def given (s : ProviderConfigStore) (r : ProviderConfigRequest) : List Given :=
  match ((r.call.perform cipher r.iv r.now r.context).exec s).1 with
  | .ok answer => [⟨answer.id, r.call.settings, r.call.secrets⟩]
  | .error _ => []

def history : ProviderConfigStore → List ProviderConfigRequest → List Given :=
  Trace.recorded (configure cipher) (given cipher) []

def lastGiven (part : Given → Option (Option Fields)) (configId : Id) (history : List Given) :
    Option Fields :=
  ((history.filter fun entry => entry.configId = configId).findSome? part).join

/-- What a configuration resolves to when it was given the settings and the secrets. -/
structure Restores (settings secrets : Option Fields) (resolved : ResolvedProviderConfigSettings) :
    Prop where
  publicSettings : resolved.publicSettings = filled (settings.getD [])
  unreserved : PublicSettings resolved.publicSettings
  texts : ∀ key, key ≠ "__proto__" → Record.get (resolved.resolvedSecrets.getD []) key =
    (Record.get (secrets.getD []) key).bind Json.asString?
  cleared : secrets.getD [] = [] → resolved.resolvedSecrets = none

def ResolvesTo (stored settings secrets : Option Fields) : Prop :=
  ∃ resolved, resolveProviderConfigSettings (decryptSecrets cipher) stored = .ok resolved ∧
    Restores settings secrets resolved

/-- The column as it is written for the settings and the secrets. -/
structure StoredAs (stored settings secrets : Option Fields) : Prop where
  free : PublicSettings settings
  accepted : AcceptedSecrets secrets
  distinct : ((secrets.getD []).map Prod.fst).Nodup
  written : ∃ iv now, stored =
    filled (storeSecrets cipher iv now (settings.getD []) (normalizedSecrets secrets))

end

section
variable {cipher : SecretCipher} {stored settings secrets : Option Fields}

theorem public_getD (free : PublicSettings settings) :
    PublicSettings (some (settings.getD [])) := by
  intro fields same key reserved
  obtain rfl := Option.some.inj same
  cases settings with
  | none => exact not_mem_nil
  | some fields => exact free fields rfl key reserved

theorem public_filled {fields : Fields} (free : PublicSettings (some fields)) :
    PublicSettings (filled fields) := by
  intro fields' same
  unfold filled at same
  split at same
  · cases same
  · exact Option.some.inj same ▸ free fields rfl

theorem StoredAs.resolves (h : StoredAs cipher stored settings secrets) :
    resolveProviderConfigSettings (decryptSecrets cipher) stored =
      .ok ⟨filled (settings.getD []),
        if normalizedSecrets secrets = [] then none else some (normalizedSecrets secrets)⟩ := by
  obtain ⟨iv, now, rfl⟩ := h.written
  exact resolve_storeSecrets cipher iv now (public_getD h.free) (plain_normalizedSecrets secrets)

/-- The texts of the secrets stand under their keys, the prototype's apart. -/
theorem get_normalizedSecrets (distinct : ((secrets.getD []).map Prod.fst).Nodup)
    (accepted : AcceptedSecrets secrets) {key : String} (own : key ≠ "__proto__") :
    Record.get (normalizedSecrets secrets) key =
      (Record.get (secrets.getD []) key).bind Json.asString? := by
  have keys : (secretTexts (secrets.getD [])).map Prod.fst = (secrets.getD []).map Prod.fst := by
    simp [secretTexts, Function.comp_def]
  have distinctTexts : ((secretTexts (secrets.getD [])).map Prod.fst).Nodup := keys ▸ distinct
  have distinctOwn : ((ownTexts (secretTexts (secrets.getD []))).map Prod.fst).Nodup :=
    (filter_sublist.map _).nodup distinctTexts
  rw [normalizedSecrets, Record.spread_empty distinctOwn, ownTexts, Record.get_filter distinctTexts]
  have texts : Record.get (secretTexts (secrets.getD [])) key =
      (Record.get (secrets.getD []) key).map fun value => value.asString?.getD "" :=
    Record.get_mapValues (fun value : Json => value.asString?.getD "") (secrets.getD []) key
  rw [texts]
  cases found : Record.get (secrets.getD []) key with
  | none => rfl
  | some value =>
    have listed : (key, value) ∈ secrets.getD [] := (Record.mem_iff_get distinct).mpr found
    have text : isSecretValue value = true := by
      cases secrets with
      | none => cases listed
      | some fields => exact (accepted fields rfl _ listed).2
    cases read : value.asString? with
    | none => simp [isSecretValue, read] at text
    | some text => simp [own, read]

theorem StoredAs.resolvesTo (h : StoredAs cipher stored settings secrets) :
    ResolvesTo cipher stored settings secrets := by
  refine ⟨_, h.resolves, rfl, public_filled (public_getD h.free), fun key own => ?_, ?_⟩
  · rw [← get_normalizedSecrets h.distinct h.accepted own]
    dsimp only
    split
    · rename_i empty
      rw [empty]
      rfl
    · rfl
  · intro empty
    have nothing : normalizedSecrets secrets = [] := by
      rw [normalizedSecrets, empty]
      rfl
    exact if_pos nothing

theorem StoredAs.unset : StoredAs cipher none none none :=
  ⟨fun _ given => (by cases given), fun _ given => (by cases given), nodup_nil, "", 0, rfl⟩

/-- What a request stores over it. -/
theorem StoredAs.built {iv : String} {now : Instant} {built : Option Fields}
    {nextSettings nextSecrets : Option (Option Fields)}
    (h : StoredAs cipher stored settings secrets)
    (distinct : ∀ fields ∈ nextSecrets.join, (fields.map Prod.fst).Nodup)
    (builds : buildProviderConfigSettings cipher iv now stored nextSettings nextSecrets =
      .ok built) :
    StoredAs cipher built (nextSettings.getD settings) (nextSecrets.getD secrets) := by
  obtain ⟨opened, opens, free, accepted, rfl⟩ := buildProviderConfigSettings_ok_iff.mp builds
  have shown : nextPublicSettings stored nextSettings = (nextSettings.getD settings).getD [] := by
    cases nextSettings with
    | none =>
      obtain ⟨iv', now', rfl⟩ := h.written
      rw [nextPublicSettings, publicFields_filled, publicFields_storeSecrets,
        publicFields_eq_self (public_getD h.free)]
      rfl
    | some next => rfl
  have texts : nextSecretTexts opened nextSecrets =
      normalizedSecrets (nextSecrets.getD secrets) := by
    cases nextSecrets with
    | none =>
      have read := (resolve_ok_iff.mp h.resolves).1
      obtain rfl := Except.ok.inj (opens.symm.trans read)
      show (if normalizedSecrets secrets = [] then none else some _).getD [] = _
      split
      · rename_i empty
        exact empty.symm
      · rfl
    | some next => rfl
  refine ⟨?_, ?_, ?_, iv, now, by rw [shown, texts]⟩
  · cases nextSettings with
    | none => exact h.free
    | some next => exact free
  · cases nextSecrets with
    | none => exact h.accepted
    | some next => exact accepted
  · rcases nextSecrets with _ | _ | fields
    · exact h.distinct
    · exact nodup_nil
    · exact distinct fields rfl

end

theorem lastGiven_cons (part : Given → Option (Option Fields)) (configId : Id) (entry : Given)
    (history : List Given) : lastGiven part configId (entry :: history) =
      if entry.configId = configId then (part entry).getD (lastGiven part configId history)
      else lastGiven part configId history := by
  unfold lastGiven
  rw [filter_cons]
  by_cases same : entry.configId = configId
  · rw [if_pos (by simpa using same), if_pos same, findSome?_cons]
    cases part entry <;> rfl
  · rw [if_neg (by simpa using same), if_neg same]

theorem lastGiven_new (part : Given → Option (Option Fields)) {configId : Id}
    {history : List Given} (new : ∀ entry ∈ history, entry.configId < configId) :
    lastGiven part configId history = none := by
  have nothing : (history.filter fun entry => entry.configId = configId) = [] :=
    filter_eq_nil_iff.mpr fun entry listed => by simpa using (new entry listed).ne
  rw [lastGiven, nothing]
  rfl

/-- The column of a configuration is written for what it was last given. -/
def AsGiven (cipher : SecretCipher) (history : List Given) (config : ProviderConfig) : Prop :=
  StoredAs cipher config.settings (lastGiven Given.settings config.id history)
    (lastGiven Given.secrets config.id history)

/-- What every request keeps of the configurations and what they were given. -/
structure HistoryKept (cipher : SecretCipher) (history : List Given) (s : ProviderConfigStore) :
    Prop where
  unique : (s.configs.map (·.id)).Nodup
  old : ∀ config ∈ s.configs, config.id < s.nextId
  earlier : ∀ entry ∈ history, entry.configId < s.nextId
  stored : ∀ config ∈ s.configs, AsGiven cipher history config

section
variable {cipher : SecretCipher} {iv : String} {now : Instant} {context : RequestContext}
  {entries : List Given} {s t : ProviderConfigStore} {answer : PaymentProviderConfigDto}

theorem AsGiven.other {entry : Given} {config : ProviderConfig}
    (h : AsGiven cipher entries config) (apart : entry.configId ≠ config.id) :
    AsGiven cipher (entry :: entries) config := by
  unfold AsGiven
  rw [lastGiven_cons, lastGiven_cons, if_neg apart, if_neg apart]
  exact h

theorem AsGiven.own {entry : Given} {config : ProviderConfig} (same : entry.configId = config.id)
    (written : StoredAs cipher config.settings
      (entry.settings.getD (lastGiven Given.settings config.id entries))
      (entry.secrets.getD (lastGiven Given.secrets config.id entries))) :
    AsGiven cipher (entry :: entries) config := by
  unfold AsGiven
  rw [lastGiven_cons, lastGiven_cons, if_pos same, if_pos same]
  exact written

theorem create_kept {dto : CreatePaymentProviderConfigDto} (kept : HistoryKept cipher entries s)
    (distinct : (ProviderConfigCall.create dto).DistinctSecrets)
    (h : createProviderConfig cipher iv now context dto s = .ok (answer, t)) :
    HistoryKept cipher (⟨answer.id, dto.settings, dto.secrets⟩ :: entries) t := by
  obtain ⟨tenantId, settings, _, built, rfl, rfl⟩ := createProviderConfig_ok_iff.mp h
  have fresh : ∀ config ∈ s.configs, s.nextId ≠ config.id :=
    fun config listed same => lt_irrefl _ (same ▸ kept.old config listed)
  constructor
  · show (map (fun config => config.id) (s.configs ++ [_])).Nodup
    rw [map_append]
    refine Rows.nodup_append_new kept.unique fun id listed => ?_
    obtain ⟨config, stored, rfl⟩ := mem_map.mp listed
    exact kept.old config stored
  · intro config stored
    rcases mem_append.mp stored with before | new
    · exact Nat.lt_succ_of_lt (kept.old config before)
    · rw [mem_singleton.mp new]
      exact Nat.lt_succ_self _
  · intro entry listed
    rcases mem_cons.mp listed with rfl | before
    · exact Nat.lt_succ_self _
    · exact Nat.lt_succ_of_lt (kept.earlier entry before)
  · intro config stored
    rcases mem_append.mp stored with before | new
    · exact (kept.stored config before).other (fresh config before)
    · obtain rfl := mem_singleton.mp new
      have joined : (dto.secrets.join.map some).join = dto.secrets.join := by
        cases dto.secrets.join <;> rfl
      have last : (dto.secrets.join.map some).getD none = dto.secrets.getD none := by
        cases dto.secrets with
        | none => rfl
        | some secrets => cases secrets <;> rfl
      have written := StoredAs.unset.built
        (fun fields given => distinct fields (joined ▸ given)) built
      rw [last] at written
      have unknown (part : Given → Option (Option Fields)) :
          lastGiven part s.nextId entries = none := lastGiven_new part kept.earlier
      refine AsGiven.own rfl ?_
      show StoredAs cipher settings (dto.settings.getD (lastGiven Given.settings s.nextId entries))
        (dto.secrets.getD (lastGiven Given.secrets s.nextId entries))
      rw [unknown, unknown]
      exact written

theorem update_kept {configId : Id} {dto : UpdatePaymentProviderConfigDto}
    (kept : HistoryKept cipher entries s)
    (distinct : (ProviderConfigCall.update configId dto).DistinctSecrets)
    (h : updateProviderConfig cipher iv now context configId dto s = .ok (answer, t)) :
    HistoryKept cipher (⟨answer.id, dto.settings, dto.secrets⟩ :: entries) t := by
  obtain ⟨current, settings, admitted, built, rfl, rfl⟩ := updateProviderConfig_ok_iff.mp h
  have listed : current ∈ s.configs := (Table.findUnique_mem admitted.found).1
  constructor
  · show ((Rows.modify (·.id) current.id (dto.row now settings) s.configs).map (·.id)).Nodup
    rw [Rows.map_modify (f := dto.row now settings) fun _ => rfl]
    exact kept.unique
  · intro config stored
    obtain ⟨row, before, rfl⟩ := Rows.mem_modify.mp stored
    have older := kept.old row before
    split
    · exact older
    · exact older
  · intro entry member
    rcases mem_cons.mp member with rfl | before
    · exact kept.old current listed
    · exact kept.earlier entry before
  · intro config stored
    obtain ⟨row, before, rfl⟩ := Rows.mem_modify.mp stored
    split
    · rename_i here
      obtain rfl := Rows.eq_of_key kept.unique before listed here
      have was := kept.stored row listed
      refine AsGiven.own rfl ?_
      unfold UpdatePaymentProviderConfigDto.settingsAfter at built
      split at built
      · exact was.built distinct built
      · rename_i absent
        simp only [Option.isSome_iff_ne_none, not_or, not_not] at absent
        obtain rfl := Except.ok.inj built
        rw [absent.1, absent.2]
        exact was
    · rename_i elsewhere
      exact (kept.stored row before).other fun same => elsewhere same.symm

theorem configure_kept {r : ProviderConfigRequest} (distinct : r.call.DistinctSecrets)
    (kept : HistoryKept cipher entries s) :
    HistoryKept cipher (given cipher s r ++ entries) (configure cipher s r) := by
  obtain ⟨iv, now, context, call⟩ := r
  unfold given configure ProviderConfigCall.perform
  cases body : call.body cipher iv now context s with
  | error e =>
    rw [Call.transact_error body]
    exact kept
  | ok result =>
    obtain ⟨answer, t⟩ := result
    rw [Call.transact_ok body]
    cases call with
    | create dto => exact create_kept kept distinct body
    | update configId dto => exact update_kept kept distinct body

end

/-- After any run from a store without configurations, every configuration resolves to the last
settings and the last secrets that it was given. -/
theorem lastGiven_restored (cipher : SecretCipher) {s : ProviderConfigStore}
    (start : s.configs = []) (rs : List ProviderConfigRequest)
    (distinct : ∀ r ∈ rs, r.call.DistinctSecrets) :
    ∀ config ∈ (Trace.run (configure cipher) s rs).configs,
      ResolvesTo cipher config.settings
        (lastGiven Given.settings config.id (history cipher s rs))
        (lastGiven Given.secrets config.id (history cipher s rs)) := by
  have init : HistoryKept cipher [] s := by
    refine ⟨?_, ?_, ?_, ?_⟩ <;> simp [start]
  have kept : HistoryKept cipher (history cipher s rs) (Trace.run (configure cipher) s rs) :=
    Trace.run_recorded_along (Q := HistoryKept cipher)
      (fun _ _ _ kept distinct => configure_kept distinct kept) init
      (Trace.along_of_forall distinct s)
  exact fun config listed => (kept.stored config listed).resolvesTo

def noProviders : ProviderConfigStore := { terminals with configs := [] }

def clearedSettings : List ProviderConfigRequest :=
  [⟨"iv", 1, admin, .create {
      tenantId := 1
      storeId := some 2
      providerKey := "qr"
      providerType := .qrSimulated
      method := .qr
      settings := some (some [("endpoint", .str "https://pay")])
      secrets := some (some [("apiKey", .str "s3cret")]) }⟩,
    ⟨"iv", 2, admin, .update 11 { settings := some none }⟩]

theorem lastGiven_restored_cleared :
    (∀ config ∈ (Trace.run (configure plainCipher) noProviders clearedSettings).configs,
      ResolvesTo plainCipher config.settings
        (lastGiven Given.settings config.id (history plainCipher noProviders clearedSettings))
        (lastGiven Given.secrets config.id (history plainCipher noProviders clearedSettings))) ∧
      (history plainCipher noProviders clearedSettings).map Given.configId = [11, 11] :=
  ⟨lastGiven_restored plainCipher rfl clearedSettings (by decide), by decide +kernel⟩

def KeysHidden (resolved : ResolvedProviderConfigSettings) : Prop :=
  ∀ key ∈ (resolved.resolvedSecrets.getD []).map Prod.fst,
    key ∉ (resolved.publicSettings.getD []).map Prod.fst

instance (resolved : ResolvedProviderConfigSettings) : Decidable (KeysHidden resolved) :=
  inferInstanceAs (Decidable (∀ key ∈ _, _))

def namedTwice : List ProviderConfigRequest :=
  [⟨"iv", 1, admin, .create {
      tenantId := 1
      storeId := some 2
      providerKey := "qr"
      providerType := .qrSimulated
      method := .qr
      settings := some (some [("apiKey", .str "shown")])
      secrets := some (some [("apiKey", .str "s3cret")]) }⟩]

theorem namedTwice_not_hidden :
    ¬∀ config ∈ (Trace.run (configure plainCipher) noProviders namedTwice).configs,
      ∃ resolved,
        resolveProviderConfigSettings (decryptSecrets plainCipher) config.settings = .ok resolved ∧
        KeysHidden resolved := by
  have shown : (Trace.run (configure plainCipher) noProviders namedTwice).configs.any
      (fun config => (resolveProviderConfigSettings (decryptSecrets plainCipher)
        config.settings).toOption.any fun resolved => ¬KeysHidden resolved) = true := by
    decide +kernel
  intro hidden
  obtain ⟨config, stored, found⟩ := List.any_eq_true.mp shown
  obtain ⟨resolved, resolves, apart⟩ := hidden config stored
  rw [resolves] at found
  exact of_decide_eq_true found apart

end Exetron.Payments
