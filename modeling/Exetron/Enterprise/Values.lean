import Exetron.JsonText
import Exetron.Customization.Runtime
import Exetron.Lib.Rows
import Exetron.Localization.Locales
import Exetron.Types
import Mathlib.Data.List.Sort

/-!
# The values of the enterprise services

The untyped bodies and manifests of `enterprise.service`, and what its calls take from outside the
database: case, dates, digests and fresh identifiers.
-/

namespace Exetron.Enterprise

open Lib
open Customization (Fields asRecord?)
open Exetron.Localization (Casing)

abbrev Moment := Int

abbrev Uuid := String

/-- `randomUUID`: a text without blanks, and never the same one twice. -/
structure UuidSource where
  text : ℕ → Uuid
  distinct : Function.Injective text
  trimmed : ∀ n, Text.trim (text n) = text n
  filled : ∀ n, text n ≠ ""

structure EnterpriseEnv where
  casing : Casing
  /-- `new Date(text)`; an invalid date is `none`. -/
  parseDate : String → Option Moment
  toISOString : Moment → String
  (encodeURIComponent sha256 : String → String)
  /-- The key, and then the message. -/
  hmacSha256 : String → String → String
  uuid : UuidSource

namespace EnterpriseEnv

def upper (env : EnterpriseEnv) (s : String) : String := env.casing.toUpperCase.apply s

def lower (env : EnterpriseEnv) (s : String) : String := env.casing.toLowerCase.apply s

/-- `text.trim().toUpperCase()`. -/
def normalized (env : EnterpriseEnv) (s : String) : String := env.upper (Text.trim s)

end EnterpriseEnv

def asObject (value : Option Json) : Fields := (asRecord? value).getD []

/-- `String(value ?? fallback)`. -/
def textOr (value : Option Json) (fallback : String) : String :=
  ((Json.present value).map Json.toText).getD fallback

/-- `value ? String(value) : null`. -/
def textIfTruthy (value : Option Json) : Option String :=
  if Json.isTruthy value then value.map Json.toText else none

/-- `text || null`. -/
def orNull (text : String) : Option String := if text = "" then none else some text

/-- `value?.trim() || null`. -/
def trimmedOrNull (value : Option String) : Option String :=
  value.bind fun text => orNull (Text.trim text)

/-- Whether a field is given as `true`. -/
def isTrue : Option Json → Bool
  | some (.bool true) => true
  | _ => false

/-- `input.dryRun !== false`. -/
def isNotFalse : Option Json → Bool
  | some (.bool false) => false
  | _ => true

def jsonText (value : Option String) : Json := Json.ofOption Json.str value

/-- `orderBy: { column: "desc" }`. -/
def newestFirst {α : Type} (column : α → Moment) (rows : List α) : List α :=
  rows.insertionSort fun left right => column right ≤ column left

def updateOne {α : Type} (key : α → Uuid) (missing : ApiException) (id : Uuid)
    (change : α → Except ApiException α) (rows : List α) : Except ApiException (α × List α) := do
  let current ← required (Rows.find key rows id) missing
  let row ← change current
  pure (row, Rows.modify key id (fun _ => row) rows)

theorem updateOne_ok_iff {α : Type} {key : α → Uuid} {missing : ApiException} {id : Uuid}
    {change : α → Except ApiException α} {rows rows' : List α} {row : α} :
    updateOne key missing id change rows = .ok (row, rows') ↔
      ∃ current, Rows.find key rows id = some current ∧ change current = .ok row ∧
        Rows.modify key id (fun _ => row) rows = rows' := by
  simp only [updateOne, except_bind_ok_iff, required_ok_iff, except_pure_ok_iff, Prod.mk.injEq]
  constructor
  · rintro ⟨current, found, _, changed, rfl, stored⟩
    exact ⟨current, found, changed, stored⟩
  · rintro ⟨current, found, changed, stored⟩
    exact ⟨current, found, row, changed, rfl, stored⟩

theorem mem_newestFirst {α : Type} {column : α → Moment} {rows : List α} {row : α} :
    row ∈ newestFirst column rows ↔ row ∈ rows := List.mem_insertionSort _

theorem map_ok_iff {α β : Type} {f : α → β} {x : Except ApiException α} {b : β} :
    f <$> x = .ok b ↔ ∃ a, x = .ok a ∧ f a = b := by
  cases x <;> simp [Functor.map, Except.map]

theorem orNull_eq_some_iff {text value : String} :
    orNull text = some value ↔ text = value ∧ value ≠ "" := by
  unfold orNull
  split <;> grind

theorem trimmedOrNull_trim {value : Option String} {text : String}
    (h : trimmedOrNull value = some text) : Text.trim text = text ∧ text ≠ "" := by
  obtain ⟨given, -, kept⟩ := Option.bind_eq_some_iff.mp h
  obtain ⟨rfl, filled⟩ := orNull_eq_some_iff.mp kept
  exact ⟨Text.trim_trim given, filled⟩

end Exetron.Enterprise
