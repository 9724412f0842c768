import Exetron.Js
import Exetron.Lib.Record
import Exetron.Types
import Mathlib.Algebra.Order.Floor.Defs
import Mathlib.Data.Rat.Floor

/-!
# Replenishment jobs

A job and the record of its supplier order, which stands in the job's artifact as
`artifact.workflow.supplier`. Everything the supplier calls know of an order is in that record.
-/

namespace Exetron.Replenishment

open Lib

abbrev InventoryRecord := Record String Json

def asRecord : Option Json → InventoryRecord
  | some (.obj fields) => fields
  | _ => []

/-- `typeof value === "string" ? value : null`. -/
def textOf (value : Option Json) : Option String := value.bind Json.asString?

/-- `typeof value === "string" && value.trim() ? value.trim() : null`. -/
def filledTextOf (value : Option Json) : Option String :=
  ((textOf value).map Text.trim).filter (· ≠ "")

/-- `value?.trim() || null`. -/
def filled (value : Option String) : Option String := (value.map Text.trim).filter (· ≠ "")

def ofText : Option String → Json := Json.ofOption .str

/-- The whole number that a text of digits spells. -/
def wholeOf? (text : String) : Option Nat :=
  if text ≠ "" ∧ text.toList.all Char.isDigit then some (Nat.ofDigitChars 10 text.toList 0) else none

/-- The text of an instant. Only the instant is ever read back from it. -/
def isoText (t : Instant) : Json := .str (toString t)

/-- `new Date(text)`, with `none` for an invalid date. -/
def dateOf? (text : String) : Option Instant := wholeOf? text

/-- An id is a number here and a text in JSON. -/
def idText (id : Id) : Json := .str (toString id)

def idOf? (text : String) : Option Id := wholeOf? text

def digits? (cs : List Char) : Option ℚ :=
  if cs.all Char.isDigit then some (Nat.ofDigitChars 10 cs 0) else none

def decimal? (cs : List Char) : Option ℚ :=
  match cs.splitOn '.' with
  | [whole] => if whole = [] then none else digits? whole
  | [whole, fraction] =>
    if whole = [] ∧ fraction = [] then none
    else do
      let units ← digits? whole
      let parts ← digits? fraction
      pure (units + parts / 10 ^ fraction.length)
  | _ => none

/-- `Number(text)` of a text in decimal notation, with `none` for `NaN`. -/
def numberOf? (text : String) : Option ℚ :=
  match (Text.trim text).toList with
  | [] => some 0
  | '-' :: cs => (decimal? cs).map Neg.neg
  | '+' :: cs => decimal? cs
  | cs => decimal? cs

/-- `Number(value)`, with `none` for `NaN`. -/
def number? : Json → Option ℚ
  | .null => some 0
  | .bool b => some (if b then 1 else 0)
  | .num n => some n
  | .str s => numberOf? s
  | .arr items => numberOf? (Json.itemsText items)
  | .obj _ => none

/-- `Number(value ?? fallback) || fallback`. -/
def numberOr (value : Option Json) (fallback : ℚ) : ℚ :=
  ((number? (Json.orElse value (.num fallback))).filter (· ≠ 0)).getD fallback

/-- `toNumber(value)`: a number, or a text that spells one. -/
def toNumber : Option Json → ℚ
  | some (.num n) => n
  | some (.str s) => if Text.trim s = "" then 0 else (numberOf? s).getD 0
  | some (.arr items) => (numberOf? (Json.itemsText items)).getD 0
  | _ => 0

@[simp] theorem wholeOf?_toString (n : Nat) : wholeOf? (toString n) = some n := by
  have digits : (toString n).toList.all Char.isDigit = true := by
    rw [Nat.toString_eq_repr, Nat.toList_repr, List.all_eq_true]
    exact fun _ => Nat.isDigit_of_mem_toDigits (by decide) (by decide)
  have nonempty : toString n ≠ "" := by
    rw [Nat.toString_eq_repr]
    exact Nat.repr_ne_empty
  rw [wholeOf?, if_pos ⟨nonempty, digits⟩, Nat.toString_eq_repr, Nat.toList_repr,
    Nat.ofDigitChars_ten_toDigits]

@[simp] theorem toNumber_num (n : ℚ) : toNumber (some (.num n)) = n := rfl

@[simp] theorem asRecord_obj (fields : InventoryRecord) : asRecord (some (.obj fields)) = fields := rfl

@[simp] theorem textOf_str (s : String) : textOf (some (.str s)) = some s := rfl

@[simp] theorem textOf_null : textOf (some .null) = none := rfl

inductive ReplenishmentJobStatus where
  | generated | approved | dispatched | receiving | received | archived
  deriving DecidableEq

structure InventoryReplenishmentJob where
  (id tenantId : Id)
  (storeId warehouseId : Option Id)
  status : ReplenishmentJobStatus
  (summary artifact : Json)
  updatedAt : Instant

namespace InventoryReplenishmentJob

def getReplenishmentWorkflow (model : InventoryReplenishmentJob) : InventoryRecord :=
  asRecord ((asRecord (some model.artifact)).get "workflow")

def getReplenishmentSupplier (model : InventoryReplenishmentJob) : InventoryRecord :=
  asRecord (model.getReplenishmentWorkflow.get "supplier")

def supplier (job : InventoryReplenishmentJob) (key : String) : Option Json :=
  job.getReplenishmentSupplier.get key

def reconciliation (job : InventoryReplenishmentJob) (key : String) : Option Json :=
  (asRecord (job.supplier "reconciliation")).get key

/-- `Object.keys` has no doubles, so a key of the artifact is assigned where it stands. -/
def withReplenishmentWorkflowMetadata (current : InventoryReplenishmentJob)
    (patch : InventoryRecord) : Json :=
  .obj ((asRecord (some current.artifact)).set "workflow"
    (.obj (current.getReplenishmentWorkflow.spread patch)))

/-- The update that puts a supplier record in the place of the job's. The database stamps every
update with `updatedAt`. -/
def putSupplier (current : InventoryReplenishmentJob) (now : Instant) (record : InventoryRecord) :
    InventoryReplenishmentJob :=
  { current with
    artifact := current.withReplenishmentWorkflowMetadata [("supplier", .obj record)]
    updatedAt := now }

/-- `supplier: { ...supplier, ...patch }`. -/
def patchSupplier (current : InventoryReplenishmentJob) (now : Instant) (patch : InventoryRecord) :
    InventoryReplenishmentJob :=
  current.putSupplier now (current.getReplenishmentSupplier.spread patch)

section
variable (job : InventoryReplenishmentJob) (now : Instant) (record patch : InventoryRecord)

theorem artifact_putSupplier {key : String} (other : key ≠ "workflow") :
    (asRecord (some (job.putSupplier now record).artifact)).get key =
      (asRecord (some job.artifact)).get key := by
  show Record.get (Record.set _ "workflow" _) key = _
  rw [Record.get_set, if_neg other.symm]

theorem workflow_putSupplier : (job.putSupplier now record).getReplenishmentWorkflow =
      job.getReplenishmentWorkflow.set "supplier" (.obj record) := by
  show asRecord (Record.get (Record.set _ "workflow" _) "workflow") = _
  rw [Record.get_set, if_pos rfl]
  rfl

@[simp] theorem getReplenishmentSupplier_putSupplier :
    (job.putSupplier now record).getReplenishmentSupplier = record := by
  rw [getReplenishmentSupplier, workflow_putSupplier, Record.get_set, if_pos rfl]
  rfl

@[simp] theorem supplier_putSupplier (key : String) :
    (job.putSupplier now record).supplier key = record.get key := by
  rw [supplier, getReplenishmentSupplier_putSupplier]

theorem supplier_patchSupplier (distinct : (patch.map Prod.fst).Nodup) (key : String) :
    (job.patchSupplier now patch).supplier key = (patch.get key).or (job.supplier key) := by
  rw [patchSupplier, supplier_putSupplier, Record.get_spread distinct]
  rfl

end

end InventoryReplenishmentJob

end Exetron.Replenishment
