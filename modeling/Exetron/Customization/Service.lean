import Exetron.Access
import Exetron.Customization.Runtime
import Exetron.Database
import Mathlib.Data.List.Sort

/-!
# Customization

`CustomizationService.resolveEffectiveCustomization`: the settings, flags and branding of a tenant
and maybe a store, and the rules that the query finds, applied in their order.
-/

namespace Exetron.Customization

open Lib

structure FeatureFlag where
  tenantId : Id
  storeId : Option Id
  key : String
  enabled : Bool

structure CustomizationBrandingConfig where
  tenantId : Id
  storeId : Option Id
  channel : CustomizationChannel
  pointKey : Option String
  config : Json
  createdAt : Instant

inductive CustomizationRuleStatus where
  | active
  | archived
  deriving DecidableEq

structure CustomizationRule where
  (id tenantId : Id)
  storeId : Option Id
  channel : Option CustomizationChannel
  pointKey : Option String
  key : String
  description : Option String
  status : CustomizationRuleStatus
  priority : Int
  conditions : Option Json
  actions : Json
  createdAt : Instant

structure CustomizationDb where
  (tenantSettings storeSettings : List Setting)
  featureFlags : List FeatureFlag
  brandingConfigs : List CustomizationBrandingConfig
  rules : Rows.Keyed CustomizationRule CustomizationRule.id

def settingsOf (rows : List Setting) (ownerId : Id) : List Setting :=
  (rows.filter fun setting => setting.ownerId = ownerId).insertionSort
    fun left right => left.key ≤ right.key

def FlagBefore (left right : FeatureFlag) : Prop :=
  left.key < right.key ∨ left.key = right.key ∧ (right.storeId = none ∨ left.storeId ≠ none)

instance : DecidableRel FlagBefore := fun _ _ => inferInstanceAs (Decidable (_ ∨ _))

def findFeatureFlags (tenantId : Id) (storeId : Option Id) (db : CustomizationDb) :
    List FeatureFlag :=
  (db.featureFlags.filter fun flag =>
    flag.tenantId = tenantId ∧ (flag.storeId = none ∨ flag.storeId = storeId)).insertionSort
    FlagBefore

def atPoint (asked pointKey : Option String) : Prop := pointKey = none ∨ pointKey = asked

instance (asked pointKey : Option String) : Decidable (atPoint asked pointKey) :=
  inferInstanceAs (Decidable (_ ∨ _))

def findBrandingConfigs (tenantId : Id) (input : CustomizationEvaluationInput)
    (db : CustomizationDb) : List CustomizationBrandingConfig :=
  (db.brandingConfigs.filter fun config =>
    config.tenantId = tenantId ∧ config.channel = input.channel ∧
      (config.storeId = none ∨ config.storeId = input.storeId) ∧
      atPoint input.pointKey config.pointKey).insertionSort
    fun left right => left.createdAt ≤ right.createdAt

def RuleBefore (left right : CustomizationRule) : Prop :=
  left.priority < right.priority ∨
    left.priority = right.priority ∧ left.createdAt ≤ right.createdAt

instance : DecidableRel RuleBefore := fun _ _ => inferInstanceAs (Decidable (_ ∨ _))

/-- The `where` of the rules. The condition on the channel is a key `OR` of the object, and so is
the condition on the point when no store is asked for, which takes its place. -/
def ruleWhere (tenantId : Id) (input : CustomizationEvaluationInput) (rule : CustomizationRule) :
    Prop :=
  rule.tenantId = tenantId ∧ rule.status = .active ∧
    match input.storeId with
    | some storeId =>
      (rule.channel = none ∨ rule.channel = some input.channel) ∧
        (rule.storeId = none ∨ rule.storeId = some storeId) ∧
        atPoint input.pointKey rule.pointKey
    | none => rule.storeId = none ∧ atPoint input.pointKey rule.pointKey

instance (tenantId : Id) (input : CustomizationEvaluationInput) (rule : CustomizationRule) :
    Decidable (ruleWhere tenantId input rule) := by
  unfold ruleWhere
  cases input.storeId <;> infer_instance

def orderedRules (db : CustomizationDb) : List CustomizationRule :=
  db.rules.val.insertionSort RuleBefore

def findRules (tenantId : Id) (input : CustomizationEvaluationInput) (db : CustomizationDb) :
    List CustomizationRule :=
  (orderedRules db).filter fun rule => ruleWhere tenantId input rule

def addSetting (settings : Record String Fields) (setting : Setting) : Record String Fields :=
  settings.set setting.key ((asRecord setting.value).getD [])

def addFlag (featureFlags : Record String Bool) (flag : FeatureFlag) : Record String Bool :=
  featureFlags.set flag.key flag.enabled

def MoreSpecificLater (left right : CustomizationBrandingConfig) : Prop :=
  let leftScore := specificityScore left.storeId left.pointKey
  let rightScore := specificityScore right.storeId right.pointKey
  leftScore < rightScore ∨ leftScore = rightScore ∧ left.createdAt ≤ right.createdAt

instance : DecidableRel MoreSpecificLater := fun _ _ => inferInstanceAs (Decidable (_ ∨ _))

def addBranding (branding : Option Fields) (config : CustomizationBrandingConfig) : Option Fields :=
  match asRecord config.config with
  | none => branding
  | some patch => some (deepMergeRecord (branding.getD []) patch)

def baseState (tenantId : Id) (input : CustomizationEvaluationInput) (db : CustomizationDb) :
    EffectiveCustomizationState :=
  let tenantSettings := settingsOf db.tenantSettings tenantId
  let storeSettings :=
    match input.storeId with
    | some storeId => settingsOf db.storeSettings storeId
    | none => []
  let flags := findFeatureFlags tenantId input.storeId db
  let ofTenant := flags.filter fun flag => flag.storeId = none
  let ofStore := flags.filter fun flag => flag.storeId ≠ none ∧ flag.storeId = input.storeId
  let brandingConfigs := (findBrandingConfigs tenantId input db).insertionSort MoreSpecificLater
  { settings := (tenantSettings ++ storeSettings).foldl addSetting []
    featureFlags := (ofTenant ++ ofStore).foldl addFlag []
    branding := brandingConfigs.foldl addBranding none }

structure AppliedRule where
  id : Id
  key : String
  description : Option String
  priority : Int

structure Progress where
  state : EffectiveCustomizationState
  appliedRules : List AppliedRule

structure CustomizationEnv where
  now : Int
  parseDate : String → Option Int

def evaluationTime (env : CustomizationEnv) (input : CustomizationEvaluationInput) : Int :=
  match inputField input.inputs "now" with
  | some (.str text) => (env.parseDate text).getD env.now
  | _ => env.now

def ruleMatches (env : CustomizationEnv) (input : CustomizationEvaluationInput)
    (state : EffectiveCustomizationState) (rule : CustomizationRule) : Bool :=
  matchesCustomizationRule (asRecord? rule.conditions) input.inputs (evaluationTime env input)
    state.featureFlags

def applyRule (env : CustomizationEnv) (input : CustomizationEvaluationInput)
    (progress : Progress) (rule : CustomizationRule) : Progress :=
  if ruleMatches env input progress.state rule then
    { state := applyCustomizationRuleActions progress.state ((asRecord rule.actions).getD [])
      appliedRules := progress.appliedRules ++
        [⟨rule.id, rule.key, rule.description, rule.priority⟩] }
  else progress

structure CustomizationEvaluation where
  tenantId : Id
  storeId : Option Id
  channel : CustomizationChannel
  pointKey : Option String
  settings : Record String Fields
  featureFlags : Record String Bool
  branding : Option Fields
  appliedRules : List AppliedRule

def evaluationOf (tenantId : Id) (input : CustomizationEvaluationInput) (progress : Progress) :
    CustomizationEvaluation :=
  { tenantId
    storeId := input.storeId
    channel := input.channel
    pointKey := input.pointKey
    settings := progress.state.settings
    featureFlags := progress.state.featureFlags
    branding := progress.state.branding
    appliedRules := progress.appliedRules }

def admitEvaluation (context : RequestContext) (input : CustomizationEvaluationInput) :
    Except ApiException Id := do
  let tenantId ← resolveTenantId context input.tenantId
  match input.storeId with
  | some storeId => do
    enforceStoreAccess context storeId
    pure tenantId
  | none => pure tenantId

def resolveEffectiveCustomization (env : CustomizationEnv) (context : RequestContext)
    (input : CustomizationEvaluationInput) (db : CustomizationDb) :
    Except ApiException CustomizationEvaluation := do
  let tenantId ← admitEvaluation context input
  let progress := (findRules tenantId input db).foldl (applyRule env input)
    ⟨baseState tenantId input db, []⟩
  pure (evaluationOf tenantId input progress)

end Exetron.Customization
