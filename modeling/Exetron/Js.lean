import Mathlib.Data.List.DropRight
import Mathlib.Tactic.Common

/-!
# JavaScript values

JSON values as the services read them from request bodies and `Json` columns, and the string
functions of the language that the services call.
-/

namespace Exetron

open List

inductive Json where
  | null
  | bool (b : Bool)
  | num (n : Rat)
  | str (s : String)
  | arr (items : List Json)
  | obj (fields : List (String × Json))
  deriving Inhabited

namespace Json

/-- `value.key`: `none` is `undefined`. -/
def get? (key : String) : Json → Option Json
  | .obj fields => (fields.find? fun field => field.1 = key).map (·.2)
  | _ => none

def asString? : Json → Option String
  | .str s => some s
  | _ => none

def asArray? : Json → Option (List Json)
  | .arr items => some items
  | _ => none

/-- `Boolean(value)`, where `none` is `undefined`. -/
def isTruthy : Option Json → Bool
  | none | some .null | some (.bool false) => false
  | some (.num n) => n ≠ 0
  | some (.str s) => s ≠ ""
  | some _ => true

/-- `value ?? fallback` after a property access: both `undefined` and `null` give way. -/
def orElse (value : Option Json) (fallback : Json) : Json :=
  match value with
  | none | some .null => fallback
  | some v => v

/-- A value that `??` does not replace. -/
def present : Option Json → Option Json
  | none | some .null => none
  | some v => some v

mutual

/-- `String(value)`. A number's text is only ever compared with words. -/
def toText : Json → String
  | .null => "null"
  | .bool b => if b then "true" else "false"
  | .num n => toString n
  | .str s => s
  | .arr items => itemsText items
  | .obj _ => "[object Object]"

/-- `items.join(",")`, where `null` prints as nothing. -/
def itemsText : List Json → String
  | [] => ""
  | [item] => itemText item
  | item :: items => itemText item ++ "," ++ itemsText items

def itemText : Json → String
  | .null => ""
  | .bool b => if b then "true" else "false"
  | .num n => toString n
  | .str s => s
  | .arr items => itemsText items
  | .obj _ => "[object Object]"

end

/-- An optional column as a payload field. -/
def ofOption {α : Type} (f : α → Json) : Option α → Json
  | none => .null
  | some a => f a

def ofNat (n : Nat) : Json := .num n

end Json

namespace Text

/-- White space and line terminators, as `trim` strips them. -/
def isSpace (c : Char) : Bool :=
  c.val ∈ [0x09, 0x0A, 0x0B, 0x0C, 0x0D, 0x20, 0xA0, 0x1680, 0x2028, 0x2029, 0x202F, 0x205F, 0x3000, 0xFEFF] ||
    (0x2000 ≤ c.val && c.val ≤ 0x200A)

def trim (s : String) : String :=
  String.ofList ((s.toList.dropWhile isSpace).reverse.dropWhile isSpace).reverse

theorem trim_sublist (s : String) : (trim s).toList.Sublist s.toList := by
  rw [trim, String.toList_ofList]
  exact ( rdropWhile_prefix isSpace (l := s.toList.dropWhile isSpace)).sublist.trans
    (dropWhile_sublist _)

theorem trim_trim (s : String) : trim (trim s) = trim s := by
  have front : ((s.toList.dropWhile isSpace).rdropWhile isSpace).dropWhile isSpace =
      (s.toList.dropWhile isSpace).rdropWhile isSpace := by
    obtain ⟨rest, parts⟩ := rdropWhile_prefix isSpace (l := s.toList.dropWhile isSpace)
    have kept := dropWhile_idempotent isSpace s.toList
    cases first : (s.toList.dropWhile isSpace).rdropWhile isSpace with
    | nil => rfl
    | cons c cs =>
      rw [first, cons_append] at parts
      rw [← parts, dropWhile_eq_self_iff] at kept
      exact dropWhile_eq_self_iff.mpr fun _ => kept (Nat.succ_pos _)
  have back := rdropWhile_idempotent isSpace (s.toList.dropWhile isSpace)
  show String.ofList (((String.ofList ((s.toList.dropWhile isSpace).rdropWhile
    isSpace)).toList.dropWhile isSpace).rdropWhile isSpace) = _
  rw [String.toList_ofList, front, back]
  rfl

theorem isSpace_of_isDigit {c : Char} (digit : c.isDigit = true) : isSpace c = false := by
  simp only [Char.isDigit, Bool.and_eq_true, decide_eq_true_eq, UInt32.le_iff_toNat_le] at digit
  simp only [isSpace, UInt32.le_iff_toNat_le, ← UInt32.toNat_inj, mem_cons, not_mem_nil]
  simp at digit ⊢
  omega

theorem trim_ne_empty {s : String} {c : Char} (written : c ∈ s.toList)
    (solid : isSpace c = false) : trim s ≠ "" := by
  intro blank
  have none : (s.toList.dropWhile isSpace).rdropWhile isSpace = [] := by
    have chars := congrArg String.toList blank
    rwa [trim, String.toList_ofList] at chars
  have spaces := rdropWhile_eq_nil_iff.mp none
  have all : isSpace c = true := by
    have parts := takeWhile_append_dropWhile (p := isSpace) (l := s.toList)
    rw [← parts, mem_append] at written
    exact written.elim mem_takeWhile_imp (spaces c)
  rw [all] at solid
  cases solid

/-- Upper case of one character. Characters outside ASCII are kept unless their upper case is
ASCII: the services only compare the result with ASCII words. -/
def upperChar (c : Char) : List Char :=
  if 'a' ≤ c ∧ c ≤ 'z' then [Char.ofNat (c.toNat - 32)]
  else match c.toNat with
    | 0xDF => ['S', 'S']
    | 0x131 => ['I']
    | 0x17F => ['S']
    | 0xFB00 => ['F', 'F']
    | 0xFB01 => ['F', 'I']
    | 0xFB02 => ['F', 'L']
    | 0xFB03 => ['F', 'F', 'I']
    | 0xFB04 => ['F', 'F', 'L']
    | 0xFB05 | 0xFB06 => ['S', 'T']
    | _ => [c]

def toUpperCase (s : String) : String := String.ofList (s.toList.flatMap upperChar)

def lowerChar (c : Char) : Char :=
  if 'A' ≤ c ∧ c ≤ 'Z' then Char.ofNat (c.toNat + 32)
  else if c.toNat = 0x212A then 'k'
  else c

def toLowerCase (s : String) : String := String.ofList (s.toList.map lowerChar)

/-- `s || fallback`: the empty string gives way. -/
def orElse (s fallback : String) : String := if s = "" then fallback else s

/-- `value?.trim()` is truthy. -/
def isFilled (value : Option String) : Bool :=
  match value with
  | none => false
  | some s => trim s ≠ ""

theorem isFilled_eq_isSome (value : Option String) :
    isFilled value = (value.filter fun s => trim s ≠ "").isSome := by
  cases value with
  | none => rfl
  | some s => by_cases blank : trim s = "" <;> simp [isFilled, Option.filter, blank]

end Text

end Exetron
