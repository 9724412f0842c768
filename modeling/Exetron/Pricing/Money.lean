import Exetron.Types
import Mathlib.Data.Nat.Cast.Order.Field
import Mathlib.Data.Rat.Defs
import Mathlib.Tactic.FieldSimp
import Mathlib.Tactic.Linarith
import Mathlib.Tactic.Ring

/-!
# Money

`money.util.ts`: the texts of amounts, and the choice of a price. An amount is kept in cents;
its text is read and written only where a row stores it as a text.
-/

namespace Exetron.Pricing

open List

/-- The digits of a text `\d+(?:\.\d{1,2})?`, before and after the point. -/
def moneyDigits (text : List Char) : Option (List Char × List Char) :=
  let whole := text.takeWhile Char.isDigit
  if whole = [] then none
  else match text.dropWhile Char.isDigit with
    | [] => some (whole, [])
    | '.' :: fraction =>
      if fraction.all Char.isDigit ∧ (fraction.length = 1 ∨ fraction.length = 2) then
        some (whole, fraction)
      else none
    | _ => none

def parseMoneyToCents (value : Option String) : Except ApiException (Option Money) :=
  match value with
  | none => .ok none
  | some text =>
    if text = "" then .ok none
    else
      let negative := text.toList.head? = some '-'
      match moneyDigits (if negative then text.toList.tail else text.toList) with
      | none => .error (.internalServerError ("Invalid money value: " ++ text))
      | some (whole, fraction) =>
        let cents : Money := Nat.ofDigitChars 10 whole 0 * 100 +
          Nat.ofDigitChars 10 (fraction.rightpad 2 '0') 0
        .ok (some (if negative then -cents else cents))

def fractionDigits (cents : Nat) : List Char := (Nat.toDigits 10 (cents % 100)).leftpad 2 '0'

def centsDigits (absolute : Nat) : List Char :=
  Nat.toDigits 10 (absolute / 100) ++ '.' :: fractionDigits absolute

def formatCents (value : Money) : String :=
  String.ofList (if value < 0 then '-' :: centsDigits value.natAbs else centsDigits value.natAbs)

theorem fractionDigits_spec (cents : Nat) :
    (fractionDigits cents).all Char.isDigit = true ∧ (fractionDigits cents).length = 2 ∧
      Nat.ofDigitChars 10 (fractionDigits cents) 0 = cents % 100 := by
  have small : ∀ n < 100, ((Nat.toDigits 10 n).leftpad 2 '0').all Char.isDigit = true ∧
      ((Nat.toDigits 10 n).leftpad 2 '0').length = 2 ∧
      Nat.ofDigitChars 10 ((Nat.toDigits 10 n).leftpad 2 '0') 0 = n := by decide
  exact small (cents % 100) (Nat.mod_lt _ (by decide))

theorem moneyDigits_centsDigits (absolute : Nat) : moneyDigits (centsDigits absolute) =
      some (Nat.toDigits 10 (absolute / 100), fractionDigits absolute) := by
  have digits : ∀ c ∈ Nat.toDigits 10 (absolute / 100), c.isDigit = true :=
    fun c member => Nat.isDigit_of_mem_toDigits (by decide) (by decide) member
  obtain ⟨fraction, two, _⟩ := fractionDigits_spec absolute
  have whole : (centsDigits absolute).takeWhile Char.isDigit =
      Nat.toDigits 10 (absolute / 100) := by
    rw [centsDigits, takeWhile_append_of_pos digits]
    simp
  have rest : (centsDigits absolute).dropWhile Char.isDigit = '.' :: fractionDigits absolute := by
    rw [centsDigits, dropWhile_append_of_pos digits]
    simp
  simp only [moneyDigits, whole, rest, if_neg Nat.toDigits_ne_nil]
  simp [fraction, two]

theorem centsDigits_head (absolute : Nat) : (centsDigits absolute).head? ≠ some '-' := by
  intro dash
  cases digits : Nat.toDigits 10 (absolute / 100) with
  | nil => exact Nat.toDigits_ne_nil digits
  | cons c rest =>
    have digit : c.isDigit = true :=
      Nat.isDigit_of_mem_toDigits (b := 10) (n := absolute / 100) (by decide) (by decide)
        (digits ▸ mem_cons_self)
    rw [centsDigits, digits, cons_append, head?_cons] at dash
    rw [Option.some.inj dash] at digit
    exact absurd digit (by decide)

/-- The text of an amount reads as that amount. -/
theorem parseMoneyToCents_formatCents (value : Money) :
    parseMoneyToCents (some (formatCents value)) = .ok (some value) := by
  have cents : ((Nat.ofDigitChars 10 (Nat.toDigits 10 (value.natAbs / 100)) 0 : Nat) : Int) * 100 +
      Nat.ofDigitChars 10 ((fractionDigits value.natAbs).rightpad 2 '0') 0 = value.natAbs := by
    obtain ⟨_, two, fraction⟩ := fractionDigits_spec value.natAbs
    have padded : (fractionDigits value.natAbs).rightpad 2 '0' = fractionDigits value.natAbs := by
      simp [rightpad, two]
    rw [padded, fraction, Nat.ofDigitChars_toDigits (by decide) (by decide)]
    omega
  have filled : ∀ {cs : List Char}, cs ≠ [] → String.ofList cs ≠ "" := by
    intro cs some empty
    exact some (by simpa using congrArg String.toList empty)
  by_cases negative : value < 0
  · rw [formatCents, if_pos negative, parseMoneyToCents]
    simp only [if_neg (filled (cons_ne_nil _ _)), String.toList_ofList, head?_cons,
      if_true, tail_cons, moneyDigits_centsDigits, cents]
    congr 2
    lia
  · have nonempty : centsDigits value.natAbs ≠ [] := by
      simp [centsDigits]
    rw [formatCents, if_neg negative, parseMoneyToCents]
    simp only [if_neg (filled nonempty), String.toList_ofList, if_neg (centsDigits_head _),
      moneyDigits_centsDigits, cents]
    congr 2
    lia

def magnitudeOf (text : List Char) : ℚ :=
  let whole := text.takeWhile (· ≠ '.')
  let fraction := (text.dropWhile (· ≠ '.')).tail
  Nat.ofDigitChars 10 whole 0 + Nat.ofDigitChars 10 fraction 0 / 10 ^ fraction.length

/-- The amount that a decimal text stands for. -/
def amountOf (text : String) : ℚ :=
  if text.toList.head? = some '-' then -magnitudeOf text.toList.tail
  else magnitudeOf text.toList

/-- A text in the pattern is its digits, with a point between them where there is a fraction. -/
theorem moneyDigits_spec {text whole fraction : List Char}
    (digits : moneyDigits text = some (whole, fraction)) :
    (∀ c ∈ whole, c ≠ '.') ∧ fraction.length ≤ 2 ∧
      (text = whole ∧ fraction = [] ∨ text = whole ++ '.' :: fraction) := by
  have halves := takeWhile_append_dropWhile (p := Char.isDigit) (l := text)
  have numeric : ∀ c ∈ text.takeWhile Char.isDigit, c ≠ '.' := by
    rintro c listed rfl
    exact absurd (all_takeWhile (p := Char.isDigit) (l := text)) fun all =>
      absurd (all_eq_true.mp all _ listed) (by decide)
  simp only [moneyDigits] at digits
  split at digits
  · cases digits
  · split at digits
    case h_1 none =>
      obtain ⟨rfl, rfl⟩ := Prod.mk.inj (Option.some.inj digits)
      rw [none, append_nil] at halves
      exact ⟨numeric, Nat.zero_le _, .inl ⟨halves.symm, rfl⟩⟩
    case h_2 rest point =>
      split at digits
      case isTrue shape =>
        obtain ⟨rfl, rfl⟩ := Prod.mk.inj (Option.some.inj digits)
        rw [point] at halves
        exact ⟨numeric, by omega, .inr halves.symm⟩
      case isFalse => cases digits
    case h_3 => cases digits

theorem ofDigitChars_rightpad {fraction : List Char} (short : fraction.length ≤ 2) :
    (Nat.ofDigitChars 10 (fraction.rightpad 2 '0') 0 : ℚ) =
      100 * (Nat.ofDigitChars 10 fraction 0 / 10 ^ fraction.length) := by
  have power : (10 : ℚ) ^ (2 - fraction.length) * 10 ^ fraction.length = 100 := by
    rw [← pow_add, Nat.sub_add_cancel short]
    norm_num
  have some_ : (10 : ℚ) ^ fraction.length ≠ 0 := pow_ne_zero _ (by norm_num)
  rw [rightpad, Nat.ofDigitChars_append, Nat.ofDigitChars_replicate_zero, Nat.cast_mul,
    Nat.cast_pow, Nat.cast_ofNat, ← power]
  field_simp

theorem magnitudeOf_digits {text whole fraction : List Char}
    (digits : moneyDigits text = some (whole, fraction)) : ((Nat.ofDigitChars 10 whole 0 * 100 +
      Nat.ofDigitChars 10 (fraction.rightpad 2 '0') 0 : ℕ) : ℚ) = 100 * magnitudeOf text := by
  obtain ⟨numeric, short, shape⟩ := moneyDigits_spec digits
  have passes : ∀ c ∈ whole, (decide (c ≠ '.')) = true :=
    fun c listed => decide_eq_true (numeric c listed)
  have parts : text.takeWhile (· ≠ '.') = whole ∧ (text.dropWhile (· ≠ '.')).tail = fraction := by
    rcases shape with ⟨rfl, rfl⟩ | rfl
    · rw [takeWhile_eq_self_iff.mpr passes, dropWhile_eq_nil_iff.mpr passes]
      exact ⟨rfl, rfl⟩
    · rw [takeWhile_append_of_pos passes, dropWhile_append_of_pos passes]
      simp
  rw [Nat.cast_add, ofDigitChars_rightpad short, magnitudeOf, parts.1, parts.2]
  push_cast
  ring

theorem amountOf_of_parse {text : String} {cents : Money}
    (parsed : parseMoneyToCents (some text) = .ok (some cents)) :
    (cents : ℚ) = 100 * amountOf text := by
  simp only [parseMoneyToCents] at parsed
  split at parsed
  · cases parsed
  · split at parsed
    · cases parsed
    · rename_i whole fraction digits
      have is := magnitudeOf_digits digits
      rw [amountOf]
      cases Option.some.inj (Except.ok.inj parsed)
      split at is <;> rename_i sign
      · rw [if_pos sign, if_pos sign, mul_neg, ← is]
        push_cast
        ring
      · rw [if_neg sign, if_neg sign, ← is]
        push_cast
        ring

/-- Texts and cents agree: cents come back from their text, and the text of a text's cents denotes
the same amount and is its own text. -/
theorem money_texts_agree :
    (∀ cents : Money, parseMoneyToCents (some (formatCents cents)) = .ok (some cents)) ∧
      ∀ (text : String) (cents : Money), parseMoneyToCents (some text) = .ok (some cents) →
        amountOf (formatCents cents) = amountOf text ∧
          (parseMoneyToCents (some (formatCents cents))).map (Option.map formatCents) =
            .ok (some (formatCents cents)) := by
  refine ⟨parseMoneyToCents_formatCents, fun text cents parsed => ⟨?_, ?_⟩⟩
  · have own := amountOf_of_parse (parseMoneyToCents_formatCents cents)
    have given := amountOf_of_parse parsed
    linarith
  · rw [parseMoneyToCents_formatCents]
    rfl

theorem money_texts_agree_short : amountOf (formatCents (-750)) = amountOf "-07.5" :=
  (money_texts_agree.2 "-07.5" (-750) (by decide +kernel)).1

structure PriceModifier where
  optionId : Id
  priceDelta : Money

structure PriceResolutionResult where
  basePrice : Option Money
  (modifierTotal finalPrice : Money)
  source : PriceSource
  modifierBreakdown : List PriceModifier

def resolvePrice (storeOverridePrice priceListPrice variantBasePrice productBasePrice : Option Money)
    (modifiers : List PriceModifier) : PriceResolutionResult :=
  let modifierTotal := (modifiers.map PriceModifier.priceDelta).sum
  let sources : List (PriceSource × Option Money) :=
    [(.storeOverride, storeOverridePrice), (.priceList, priceListPrice),
      (.variantBase, variantBasePrice), (.productBase, productBasePrice)]
  let (source, basePrice) := (sources.find? fun s => s.2.isSome).getD (.none, none)
  { basePrice
    modifierTotal
    finalPrice := basePrice.getD 0 + modifierTotal
    source
    modifierBreakdown := modifiers }

end Exetron.Pricing
