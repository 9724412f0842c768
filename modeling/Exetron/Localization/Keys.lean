import Exetron.Localization.Values

/-!
# Setting keys

The keys under which the values of a tenant are stored, and what their parsers read.
-/

namespace Exetron.Localization

open Lib Customization

def localizationPreferencesKey : String := "localization.preferences"

def countryProfilePrefix : String := "localization.country-profile."

def localizedContentPrefix : String := "localization.content."

def localizedTemplatePrefix : String := "localization.template."

/-- `key.startsWith(start) ? key.slice(start.length) : null`. -/
def afterStart (start key : String) : Option String :=
  (start.toList.isPrefixOf? key.toList).map String.ofList

variable (casing : Casing)

def buildCountryProfileKey (countryCode : String) : String :=
  countryProfilePrefix ++ (normalizeCountryCode casing (some countryCode)).getD "null"

def parseCountryProfileKey (key : String) : Option String :=
  (afterStart countryProfilePrefix key).bind fun countryCode =>
    normalizeCountryCode casing (some countryCode)

def buildLocalizedContentKey (targetType : LocalizedContentTargetType) (targetId : String) :
    String :=
  localizedContentPrefix ++ (targetType.text ++ "." ++ targetId)

def parseLocalizedContentKey (key : String) : Option (LocalizedContentTargetType × String) := do
  let payload ← afterStart localizedContentPrefix key
  match Text.split '.' payload with
  | targetType :: part :: parts =>
    let targetType ← localizedContentTargetTypes.find? fun known => known.text = targetType
    some (targetType, Text.join '.' (part :: parts))
  | _ => none

def buildLocalizedTemplateKey (channel : Option String) (templateKey : String) : String :=
  localizedTemplatePrefix ++ (channel.getD "shared" ++ "." ++ templateKey)

def parseLocalizedTemplateKey (key : String) : Option (Option String × String) := do
  let payload ← afterStart localizedTemplatePrefix key
  match Text.split '.' payload with
  | scope :: part :: parts =>
    if scope = "" then none
    else some (if scope = "shared" then none else some scope, Text.join '.' (part :: parts))
  | _ => none

theorem afterStart_eq_some_iff {start key rest : String} :
    afterStart start key = some rest ↔ start ++ rest = key := by
  rw [afterStart, Option.map_eq_some_iff]
  constructor
  · rintro ⟨letters, cut, rfl⟩
    rw [← String.toList_inj, String.toList_append, String.toList_ofList]
    exact List.isPrefixOf?_eq_some_iff_append_eq.mp cut
  · rintro rfl
    exact ⟨rest.toList, List.isPrefixOf?_eq_some_iff_append_eq.mpr String.toList_append.symm,
      String.ofList_toList⟩

@[simp] theorem afterStart_append (start rest : String) :
    afterStart start (start ++ rest) = some rest := afterStart_eq_some_iff.mpr rfl

theorem exists_split (separator : Char) (s : String) : ∃ part parts,
    Text.split separator s = part :: parts := by
  obtain ⟨part, parts, cut⟩ :=
    List.exists_cons_of_ne_nil (List.splitOn_ne_nil separator s.toList)
  exact ⟨String.ofList part, parts.map String.ofList, by rw [Text.split, cut, List.map_cons]⟩

theorem split_dot {first : String} (clear : '.' ∉ first.toList) (rest : String) :
    Text.split '.' (first ++ "." ++ rest) = first :: Text.split '.' rest :=
  Text.split_append clear rest

variable {casing}

theorem parseCountryProfileKey_build {countryCode code : String}
    (normalized : normalizeCountryCode casing (some countryCode) = some code) :
    parseCountryProfileKey casing (buildCountryProfileKey casing countryCode) = some code := by
  rw [parseCountryProfileKey, buildCountryProfileKey, afterStart_append, normalized]
  exact (normalizeCountryCode_normalized normalized).1

theorem parseLocalizedContentKey_build (targetType : LocalizedContentTargetType)
    (targetId : String) : parseLocalizedContentKey (buildLocalizedContentKey targetType targetId) =
      some (targetType, targetId) := by
  have clear : '.' ∉ targetType.text.toList := by cases targetType <;> decide
  have known : localizedContentTargetTypes.find? (fun known => known.text = targetType.text) =
      some targetType := by
    cases targetType <;> decide
  obtain ⟨part, parts, cut⟩ := exists_split '.' targetId
  rw [parseLocalizedContentKey, buildLocalizedContentKey, afterStart_append]
  simp only [Option.bind_eq_bind, Option.bind_some, split_dot clear, cut, known]
  rw [← cut, Text.join_split]

theorem parseLocalizedTemplateKey_build (channel : Option CustomizationChannel)
    (templateKey : String) : parseLocalizedTemplateKey
      (buildLocalizedTemplateKey (channel.map channelText) templateKey) =
        some (channel.map channelText, templateKey) := by
  have scope : ∃ scope, (channel.map channelText).getD "shared" = scope ∧ '.' ∉ scope.toList ∧
      scope ≠ "" ∧ (if scope = "shared" then none else some scope) = channel.map channelText := by
    refine ⟨_, rfl, ?_⟩
    obtain _ | channel := channel
    · decide
    · cases channel <;> decide
  obtain ⟨scope, written, clear, shown, read⟩ := scope
  obtain ⟨part, parts, cut⟩ := exists_split '.' templateKey
  rw [parseLocalizedTemplateKey, buildLocalizedTemplateKey, afterStart_append, written]
  simp only [Option.bind_eq_bind, Option.bind_some, split_dot clear, cut]
  rw [if_neg shown, read, ← cut, Text.join_split]

theorem afterStart_other {start other : String} (rest : String)
    (apart : ∀ letters, start.toList.isPrefixOf? (other.toList ++ letters) = none) :
    afterStart start (other ++ rest) = none := by
  rw [afterStart, String.toList_append, apart, Option.map_none]

/-- The kinds of settings that a tenant has many of. -/
inductive SettingKind where
  | countryProfile
  | content
  | template
  deriving DecidableEq

def SettingKind.start : SettingKind → String
  | .countryProfile => countryProfilePrefix
  | .content => localizedContentPrefix
  | .template => localizedTemplatePrefix

def SettingKind.has (kind : SettingKind) (key : String) : Bool :=
  (afterStart kind.start key).isSome

def isLocalizationKey (key : String) : Bool :=
  key = localizationPreferencesKey || SettingKind.countryProfile.has key ||
    SettingKind.content.has key || SettingKind.template.has key

theorem has_start (kind kind' : SettingKind) (rest : String) :
    kind.has (kind'.start ++ rest) = decide (kind = kind') := by
  have afterwards : afterStart kind.start (kind'.start ++ rest) =
      if kind = kind' then some rest else none := by
    cases kind <;> cases kind' <;>
      first | exact afterStart_append _ rest | exact afterStart_other rest fun _ => rfl
  rw [SettingKind.has, afterwards]
  split <;> simp_all

@[simp] theorem has_preferences (kind : SettingKind) :
    kind.has localizationPreferencesKey = false := by
  cases kind <;> decide

@[simp] theorem has_countryProfile (kind : SettingKind) (countryCode : String) :
    kind.has (buildCountryProfileKey casing countryCode) = decide (kind = .countryProfile) :=
  has_start kind .countryProfile _

@[simp] theorem has_content (kind : SettingKind) (targetType : LocalizedContentTargetType)
    (targetId : String) : kind.has (buildLocalizedContentKey targetType targetId) =
      decide (kind = .content) := has_start kind .content _

@[simp] theorem has_template (kind : SettingKind) (channel : Option String)
    (templateKey : String) : kind.has (buildLocalizedTemplateKey channel templateKey) =
      decide (kind = .template) := has_start kind .template _

theorem isLocalizationKey_iff {key : String} : isLocalizationKey key = true ↔
    key = localizationPreferencesKey ∨ ∃ kind : SettingKind, kind.has key = true := by
  simp only [isLocalizationKey, Bool.or_eq_true, decide_eq_true_eq]
  constructor
  · rintro (((same | kind) | kind) | kind)
    · exact .inl same
    · exact .inr ⟨.countryProfile, kind⟩
    · exact .inr ⟨.content, kind⟩
    · exact .inr ⟨.template, kind⟩
  · rintro (same | ⟨kind, has⟩)
    · exact .inl (.inl (.inl same))
    · cases kind with
      | countryProfile => exact .inl (.inl (.inr has))
      | content => exact .inl (.inr has)
      | template => exact .inr has

theorem has_of_isLocalizationKey {key : String} (apart : isLocalizationKey key = false)
    (kind : SettingKind) : kind.has key = false := by
  by_contra has
  rw [isLocalizationKey_iff.mpr (.inr ⟨kind, by simpa using has⟩)] at apart
  cases apart

end Exetron.Localization
