import Exetron.Js
import Exetron.Lib.Record

/-!
# The rules of a customization

`customization-runtime.util`: when the conditions of a rule hold, and what its actions make of the
settings, the flags and the branding.
-/

namespace Exetron.Customization

open Lib

abbrev Fields := Record String Json

/-- `asRecord(value)`, and `isPlainObject(value)` with its fields. -/
def asRecord : Json → Option Fields
  | .obj fields => some fields
  | _ => none

def asRecord? (value : Option Json) : Option Fields := value.bind asRecord

mutual

def mergeField (current : Option Json) : Json → Json
  | .obj patch =>
    match current with
    | some (.obj base) => .obj (deepMergeRecord base patch)
    | _ => .obj patch
  | value => value

def deepMergeRecord (base : Fields) : List (String × Json) → Fields
  | [] => base
  | (key, value) :: patch =>
    deepMergeRecord (Record.set base key (mergeField (Record.get base key) value)) patch

end

inductive CustomizationChannel where
  | admin
  | pos
  | kiosk
  | delivery
  | kitchen
  | board
  | backoffice
  deriving DecidableEq

structure CustomizationEvaluationInput where
  (tenantId storeId : Option Nat)
  channel : CustomizationChannel
  pointKey : Option String
  inputs : Option Fields

structure EffectiveCustomizationState where
  settings : Record String Fields
  featureFlags : Record String Bool
  branding : Option Fields

def asNumber : Option Json → Option Rat
  | some (.num n) => some n
  | _ => none

def asStringArray : Option Json → List String
  | some (.arr items) => (items.filterMap Json.asString?).filter fun item => item ≠ ""
  | _ => []

/-- `now.getUTCDay()` of milliseconds since the epoch, a Thursday. -/
def utcDay (now : Int) : Int := (now / 86400000 + 4) % 7

def utcHours (now : Int) : Int := now / 3600000 % 24

def inputField (inputs : Option Fields) (key : String) : Option Json :=
  inputs.bind fun fields => Record.get fields key

def matchesPaymentMethod (conditions : Fields) (inputs : Option Fields) : Bool :=
  let paymentMethodIn := asStringArray (Record.get conditions "paymentMethodIn")
  paymentMethodIn = [] ||
    match inputField inputs "paymentMethod" with
    | some (.str paymentMethod) => paymentMethod ∈ paymentMethodIn
    | _ => false

def matchesCustomerName (conditions : Fields) (inputs : Option Fields) : Bool :=
  match Record.get conditions "customerNameProvided" with
  | some (.bool wanted) =>
    let provided : Bool :=
      match inputField inputs "customerName" with
      | some (.str name) => Text.trim name ≠ ""
      | _ => false
    wanted = provided
  | _ => true

def matchesWeekday (conditions : Fields) (now : Int) : Bool :=
  let weekdayIn : List Rat :=
    match Record.get conditions "weekdayIn" with
    | some (.arr items) =>
      (items.filterMap fun item => asNumber (some item)).filter fun day => 0 ≤ day ∧ day ≤ 6
    | _ => []
  weekdayIn = [] || (utcDay now : Rat) ∈ weekdayIn

def matchesHours (conditions : Fields) (now : Int) : Bool :=
  let currentHour : Rat := utcHours now
  (match asNumber (Record.get conditions "hourFrom") with
    | some hourFrom => hourFrom ≤ currentHour
    | none => true) &&
  match asNumber (Record.get conditions "hourTo") with
  | some hourTo => currentHour < hourTo
  | none => true

def matchesFlags (conditions : Fields) (featureFlags : Record String Bool) : Bool :=
  match asRecord? (Record.get conditions "featureFlagEquals") with
  | none => true
  | some wanted =>
    wanted.all fun (key, value) =>
      match value with
      | .bool value => (Record.get featureFlags key).getD false = value
      | _ => true

def isFalse : Option Json → Bool
  | some (.bool false) => true
  | _ => false

def matchesCustomizationRule (conditions : Option Fields) (inputs : Option Fields) (now : Int)
    (featureFlags : Record String Bool) : Bool :=
  match conditions with
  | none => true
  | some conditions =>
    !isFalse (Record.get conditions "always") &&
      matchesPaymentMethod conditions inputs && matchesCustomerName conditions inputs &&
      matchesWeekday conditions now && matchesHours conditions now &&
      matchesFlags conditions featureFlags

def actionFields (actions : Fields) (action : String) : Fields :=
  (asRecord? (Record.get actions action)).getD []

def setSetting (settings : Record String Fields) (field : String × Json) : Record String Fields :=
  match asRecord field.2 with
  | none => settings
  | some value => settings.set field.1 value

def patchSetting (settings : Record String Fields) (field : String × Json) : Record String Fields :=
  match asRecord field.2 with
  | none => settings
  | some patch => settings.set field.1 (deepMergeRecord ((settings.get field.1).getD []) patch)

def setFeatureFlag (featureFlags : Record String Bool) (field : String × Json) :
    Record String Bool :=
  match field.2 with
  | .bool value => featureFlags.set field.1 value
  | _ => featureFlags

def applyCustomizationRuleActions (state : EffectiveCustomizationState) (actions : Fields) :
    EffectiveCustomizationState :=
  { settings := (actionFields actions "patchSettings").foldl patchSetting
      ((actionFields actions "setSettings").foldl setSetting state.settings)
    featureFlags := (actionFields actions "setFeatureFlags").foldl setFeatureFlag
      state.featureFlags
    branding :=
      match asRecord? (Record.get actions "patchBranding") with
      | none => state.branding
      | some patch => some (deepMergeRecord (state.branding.getD []) patch) }

def specificityScore (storeId : Option Nat) (pointKey : Option String) : Nat :=
  (if storeId.isSome then 1 else 0) + if (pointKey.map Text.trim).getD "" ≠ "" then 2 else 0

end Exetron.Customization
