import Exetron.Js
import Mathlib.Data.List.Basic
import Mathlib.Data.Rat.Floor
import Mathlib.Tactic.Positivity

/-!
# The text of a JSON value

`JSON.stringify`. A text is the text of one value only: a value can be told from what stands after
it, since a number is followed by no character of a number.
-/

namespace Exetron.Json

variable {n den : Nat} {c : Char} {rest rest' : List Char}

def decimalPlaces (den : Nat) : Option Nat :=
  (List.range (Nat.log2 den + 1)).find? fun places => den ∣ 10 ^ places

def digitChars (n : Nat) : List Char := Nat.toDigits 10 n

/-- A number in decimal notation. A fraction without one is no number of the language. -/
def unsignedChars (num den : Nat) : List Char :=
  match decimalPlaces den with
  | some 0 => digitChars num
  | some places =>
    let scaled := num * (10 ^ places / den)
    digitChars (scaled / 10 ^ places) ++
      '.' :: (digitChars (scaled % 10 ^ places)).leftpad places '0'
  | none => digitChars num ++ '/' :: digitChars den

def numberChars (n : ℚ) : List Char :=
  if n.num < 0 then '-' :: unsignedChars n.num.natAbs n.den else unsignedChars n.num.natAbs n.den

def escape (c : Char) : List Char :=
  if c = '"' then ['\\', '"']
  else if c = '\\' then ['\\', '\\']
  else if c = '\x08' then ['\\', 'b']
  else if c = '\x0c' then ['\\', 'f']
  else if c = '\n' then ['\\', 'n']
  else if c = '\r' then ['\\', 'r']
  else if c = '\t' then ['\\', 't']
  else if c.toNat < 32 then
    ['\\', 'u', '0', '0', Nat.digitChar (c.toNat / 16), Nat.digitChar (c.toNat % 16)]
  else [c]

def quoted (s : String) : List Char := '"' :: s.toList.flatMap escape ++ ['"']

mutual

def chars : Json → List Char
  | .null => ['n', 'u', 'l', 'l']
  | .bool true => ['t', 'r', 'u', 'e']
  | .bool false => ['f', 'a', 'l', 's', 'e']
  | .num n => numberChars n
  | .str s => quoted s
  | .arr items => '[' :: itemChars items
  | .obj fields => '{' :: fieldChars fields

def itemChars : List Json → List Char
  | [] => [']']
  | item :: items => chars item ++ moreItemChars items

def moreItemChars : List Json → List Char
  | [] => [']']
  | item :: items => ',' :: chars item ++ moreItemChars items

def fieldChars : List (String × Json) → List Char
  | [] => ['}']
  | (key, value) :: fields => quoted key ++ ':' :: chars value ++ moreFieldChars fields

def moreFieldChars : List (String × Json) → List Char
  | [] => ['}']
  | (key, value) :: fields => ',' :: quoted key ++ ':' :: chars value ++ moreFieldChars fields

end

/-- `JSON.stringify(value)`. -/
def stringify (value : Json) : String := String.ofList (chars value)

def newLine (depth : Nat) : List Char := '\n' :: List.replicate (2 * depth) ' '

mutual

def indented (depth : Nat) : Json → List Char
  | .arr (item :: items) =>
    '[' :: newLine (depth + 1) ++ indented (depth + 1) item ++ moreIndentedItems depth items
  | .obj ((key, value) :: fields) =>
    '{' :: newLine (depth + 1) ++ quoted key ++ ':' :: ' ' :: indented (depth + 1) value ++
      moreIndentedFields depth fields
  | value => chars value

def moreIndentedItems (depth : Nat) : List Json → List Char
  | [] => newLine depth ++ [']']
  | item :: items =>
    ',' :: newLine (depth + 1) ++ indented (depth + 1) item ++ moreIndentedItems depth items

def moreIndentedFields (depth : Nat) : List (String × Json) → List Char
  | [] => newLine depth ++ ['}']
  | (key, value) :: fields =>
    ',' :: newLine (depth + 1) ++ quoted key ++ ':' :: ' ' :: indented (depth + 1) value ++
      moreIndentedFields depth fields

end

/-- `JSON.stringify(value, null, 2)`. -/
def stringifyIndented (value : Json) : String := String.ofList (indented 0 value)

def isNumberChar (c : Char) : Bool := c.isDigit || c = '-' || c = '.' || c = '/'

def unsignedOf (cs : List Char) : ℚ :=
  let whole := Nat.ofDigitChars 10 (cs.takeWhile Char.isDigit) 0
  match cs.dropWhile Char.isDigit with
  | '.' :: fraction => whole + Nat.ofDigitChars 10 fraction 0 / 10 ^ fraction.length
  | '/' :: den => whole / Nat.ofDigitChars 10 den 0
  | _ => whole

def numberOfChars : List Char → ℚ
  | '-' :: cs => -unsignedOf cs
  | cs => unsignedOf cs

theorem isDigit_of_mem_digitChars (h : c ∈ digitChars n) : c.isDigit = true :=
  Nat.isDigit_of_mem_toDigits (by decide) (by decide) h

theorem takeWhile_digitChars (n : Nat) (other : c.isDigit = false) (rest : List Char) :
    (digitChars n ++ c :: rest).takeWhile Char.isDigit = digitChars n := by
  rw [List.takeWhile_append_of_pos fun _ => isDigit_of_mem_digitChars,
    List.takeWhile_cons_of_neg (by simp [other]), List.append_nil]

theorem dropWhile_digitChars (n : Nat) (other : c.isDigit = false) (rest : List Char) :
    (digitChars n ++ c :: rest).dropWhile Char.isDigit = c :: rest := by
  rw [List.dropWhile_append_of_pos fun _ => isDigit_of_mem_digitChars,
    List.dropWhile_cons_of_neg (by simp [other])]

theorem ofDigitChars_leftpad (n places : Nat) :
    Nat.ofDigitChars 10 ((digitChars n).leftpad places '0') 0 = n := by
  rw [List.leftpad, Nat.ofDigitChars_append, Nat.ofDigitChars_replicate_zero, Nat.mul_zero]
  exact Nat.ofDigitChars_ten_toDigits

theorem length_leftpad {places : Nat} (fits : n < 10 ^ places) (some_ : 0 < places) :
    ((digitChars n).leftpad places '0').length = places := by
  rw [List.length_leftpad]
  exact max_eq_left ((Nat.length_toDigits_le_iff (by decide) some_).mpr fits)

theorem dvd_of_decimalPlaces {places : Nat} (h : decimalPlaces den = some places) :
    den ∣ 10 ^ places := by
  simpa using List.find?_some h

theorem unsignedOf_unsignedChars (num : Nat) (pos : 0 < den) :
    unsignedOf (unsignedChars num den) = num / den := by
  have plain (n : Nat) : Nat.ofDigitChars 10 (digitChars n) 0 = n := Nat.ofDigitChars_ten_toDigits
  have positive : (den : ℚ) ≠ 0 := Nat.cast_ne_zero.mpr pos.ne'
  unfold unsignedChars
  split
  · rename_i whole
    have divides : den ∣ 10 ^ 0 := dvd_of_decimalPlaces whole
    have only_digits : (digitChars num).dropWhile Char.isDigit = [] :=
      List.dropWhile_eq_nil_iff.mpr fun _ => isDigit_of_mem_digitChars
    have all_digits : (digitChars num).takeWhile Char.isDigit = digitChars num :=
      List.takeWhile_eq_self_iff.mpr fun _ => isDigit_of_mem_digitChars
    rw [unsignedOf, only_digits, all_digits, plain, Nat.dvd_one.mp divides]
    simp
  · rename_i places some_ found
    have divides : den ∣ 10 ^ places := dvd_of_decimalPlaces found
    have positive_places : 0 < places := Nat.pos_of_ne_zero some_
    obtain ⟨factor, product⟩ := divides
    have size : 10 ^ places / den = factor := by rw [product, Nat.mul_div_cancel_left _ pos]
    have fits : num * factor % 10 ^ places < 10 ^ places := Nat.mod_lt _ (by positivity)
    have parts := Nat.div_add_mod (num * factor) (10 ^ places)
    simp only [size]
    rw [unsignedOf, takeWhile_digitChars _ (by decide), dropWhile_digitChars _ (by decide)]
    simp only [plain, ofDigitChars_leftpad, length_leftpad fits positive_places]
    have scale : (10 : ℚ) ^ places = den * factor := by exact_mod_cast product
    have filled : (10 : ℚ) ^ places ≠ 0 := by positivity
    have both : (10 : ℚ) ^ places * (num * factor / 10 ^ places : Nat) +
        (num * factor % 10 ^ places : Nat) = num * factor := by exact_mod_cast parts
    have factor_ne : (factor : ℚ) ≠ 0 := by
      intro none
      rw [none, mul_zero] at scale
      exact filled scale
    rw [eq_div_iff positive, ← mul_left_inj' factor_ne, ← both, add_mul, add_mul, mul_assoc,
      ← scale, div_mul_eq_mul_div, div_mul_eq_mul_div, mul_assoc, ← scale,
      mul_div_cancel_right₀ _ filled, mul_comm]
  · rw [unsignedOf, takeWhile_digitChars _ (by decide), dropWhile_digitChars _ (by decide)]
    simp only [plain]

theorem isNumberChar_of_isDigit (h : c.isDigit = true) : isNumberChar c = true := by
  simp [isNumberChar, h]

theorem isNumberChar_digitChars (h : c ∈ digitChars n) : isNumberChar c = true :=
  isNumberChar_of_isDigit (isDigit_of_mem_digitChars h)

theorem isNumberChar_unsignedChars {num : Nat} (h : c ∈ unsignedChars num den) :
    isNumberChar c = true := by
  unfold unsignedChars at h
  split at h
  · exact isNumberChar_digitChars h
  · rcases List.mem_append.mp h with whole | fraction
    · exact isNumberChar_digitChars whole
    · rcases List.mem_cons.mp fraction with rfl | decimal
      · decide
      · rw [List.leftpad] at decimal
        rcases List.mem_append.mp decimal with zero | decimal
        · rw [List.eq_of_mem_replicate zero]
          decide
        · exact isNumberChar_digitChars decimal
  · rcases List.mem_append.mp h with whole | quotient
    · exact isNumberChar_digitChars whole
    · rcases List.mem_cons.mp quotient with rfl | divisor
      · decide
      · exact isNumberChar_digitChars divisor

theorem unsignedChars_head (num den : Nat) :
    ∃ c cs, unsignedChars num den = c :: cs ∧ c.isDigit = true := by
  have first (n : Nat) : ∃ c cs, digitChars n = c :: cs ∧ c.isDigit = true := by
    obtain ⟨c, cs, written⟩ := List.exists_cons_of_ne_nil (Nat.toDigits_ne_nil (n := n) (b := 10))
    exact ⟨c, cs, written, isDigit_of_mem_digitChars (n := n) (by
      rw [digitChars, written]; exact List.mem_cons_self)⟩
  unfold unsignedChars
  split
  · exact first num
  · obtain ⟨c, cs, written, digit⟩ := first (num * (10 ^ ‹Nat› / den) / 10 ^ ‹Nat›)
    exact ⟨c, _, by simp only [written]; rfl, digit⟩
  · obtain ⟨c, cs, written, digit⟩ := first num
    exact ⟨c, _, by rw [written]; rfl, digit⟩

theorem numberOfChars_numberChars (n : ℚ) : numberOfChars (numberChars n) = n := by
  have size : ((n.num.natAbs : ℚ) / n.den) = |n| := by
    rw [Nat.cast_natAbs, Int.cast_abs, ← Nat.abs_cast n.den, ← abs_div, Rat.num_div_den]
  unfold numberChars
  split
  · rename_i negative
    rw [numberOfChars, unsignedOf_unsignedChars _ n.den_pos, size,
      abs_of_neg (lt_of_not_ge fun h => absurd (Rat.num_nonneg.mpr h) (not_le.mpr negative)), neg_neg]
  · rename_i positive
    obtain ⟨c, cs, written, digit⟩ := unsignedChars_head n.num.natAbs n.den
    have unsigned : numberOfChars (unsignedChars n.num.natAbs n.den) =
        unsignedOf (unsignedChars n.num.natAbs n.den) := by
      rw [written, numberOfChars.eq_2]
      intro rest signed
      rw [(List.cons.inj signed).1] at digit
      cases digit
    rw [unsigned, unsignedOf_unsignedChars _ n.den_pos, size,
      abs_of_nonneg (Rat.num_nonneg.mp (not_lt.mp positive))]

theorem isNumberChar_numberChars {n : ℚ} (h : c ∈ numberChars n) : isNumberChar c = true := by
  unfold numberChars at h
  split at h
  · rcases List.mem_cons.mp h with rfl | unsigned
    · decide
    · exact isNumberChar_unsignedChars unsigned
  · exact isNumberChar_unsignedChars h

def hexValue (c : Char) : Nat := if c.isDigit then c.toNat - 48 else c.toNat - 87

/-- The first character of a string's text and what is left. -/
def unescape : List Char → Option (Char × List Char)
  | '\\' :: 'b' :: rest => some ('\x08', rest)
  | '\\' :: 'f' :: rest => some ('\x0c', rest)
  | '\\' :: 'n' :: rest => some ('\n', rest)
  | '\\' :: 'r' :: rest => some ('\r', rest)
  | '\\' :: 't' :: rest => some ('\t', rest)
  | '\\' :: 'u' :: '0' :: '0' :: high :: low :: rest =>
    some (Char.ofNat (16 * hexValue high + hexValue low), rest)
  | '\\' :: c :: rest => some (c, rest)
  | '"' :: _ => none
  | c :: rest => some (c, rest)
  | [] => none

theorem hexValue_digitChar : ∀ d < 16, hexValue (Nat.digitChar d) = d := by decide

theorem unescape_escape (c : Char) (rest : List Char) :
    unescape (escape c ++ rest) = some (c, rest) := by
  unfold escape
  split_ifs with quote backslash backspace feed line carriage tab control
  · rw [quote]; rfl
  · rw [backslash]; rfl
  · rw [backspace]; rfl
  · rw [feed]; rfl
  · rw [line]; rfl
  · rw [carriage]; rfl
  · rw [tab]; rfl
  · have high := hexValue_digitChar (c.toNat / 16) (by omega)
    have low := hexValue_digitChar (c.toNat % 16) (by omega)
    have whole : 16 * (c.toNat / 16) + c.toNat % 16 = c.toNat := Nat.div_add_mod _ _
    show some (Char.ofNat (16 * hexValue _ + hexValue _), rest) = _
    rw [high, low, whole, Char.ofNat_toNat]
  · show unescape (c :: rest) = _
    unfold unescape
    split <;> simp_all

theorem escaped_unique : ∀ (cs cs' : List Char) {rest rest' : List Char},
    cs.flatMap escape ++ '"' :: rest = cs'.flatMap escape ++ '"' :: rest' → cs = cs' ∧ rest = rest'
  | [], [], _, _, h => ⟨rfl, (List.cons.inj h).2⟩
  | [], c :: cs', _, _, h => by
    rw [List.flatMap_cons, List.append_assoc] at h
    have read := congrArg unescape h
    rw [unescape_escape] at read
    cases read
  | c :: cs, [], _, _, h => by
    rw [List.flatMap_cons, List.append_assoc] at h
    have read := congrArg unescape h
    rw [unescape_escape] at read
    cases read
  | c :: cs, c' :: cs', _, _, h => by
    rw [List.flatMap_cons, List.append_assoc, List.flatMap_cons, List.append_assoc] at h
    have read := congrArg unescape h
    rw [unescape_escape, unescape_escape, Option.some.injEq, Prod.mk.injEq] at read
    obtain ⟨rfl, left⟩ := read
    obtain ⟨rfl, same⟩ := escaped_unique cs cs' left
    exact ⟨rfl, same⟩

theorem quoted_unique {s s' : String} (h : quoted s ++ rest = quoted s' ++ rest') :
    s = s' ∧ rest = rest' := by
  simp only [quoted, List.cons_append, List.append_assoc, List.cons.injEq, true_and] at h
  obtain ⟨same, left⟩ := escaped_unique _ _ h
  exact ⟨String.toList_inj.mp same, left⟩

def Stops (rest : List Char) : Prop := ∀ c ∈ rest.head?, isNumberChar c = false

theorem number_unique {n n' : ℚ} (stops : Stops rest) (stops' : Stops rest')
    (h : numberChars n ++ rest = numberChars n' ++ rest') : n = n' ∧ rest = rest' := by
  have front (m : ℚ) (left : List Char) (ends : Stops left) :
      (numberChars m ++ left).takeWhile isNumberChar = numberChars m := by
    rw [List.takeWhile_append_of_pos fun _ => isNumberChar_numberChars]
    cases left with
    | nil => exact List.append_nil _
    | cons c left =>
      rw [List.takeWhile_cons_of_neg (by simp [ends c rfl]), List.append_nil]
  have same : numberChars n = numberChars n' := by
    rw [← front n rest stops, h, front n' rest' stops']
  rw [same] at h
  refine ⟨?_, List.append_cancel_left h⟩
  rw [← numberOfChars_numberChars n, same, numberOfChars_numberChars]

theorem numberChars_head (n : ℚ) : ∃ c cs, numberChars n = c :: cs ∧ isNumberChar c = true := by
  have nonempty : numberChars n ≠ [] := by
    obtain ⟨c, cs, written, -⟩ := unsignedChars_head n.num.natAbs n.den
    unfold numberChars
    split
    · exact List.cons_ne_nil _ _
    · rw [written]
      exact List.cons_ne_nil _ _
  obtain ⟨c, cs, written⟩ := List.exists_cons_of_ne_nil nonempty
  exact ⟨c, cs, written, isNumberChar_numberChars (n := n) (by
    rw [written]; exact List.mem_cons_self)⟩

def kind : Json → Nat
  | .null => 0
  | .bool true => 1
  | .bool false => 2
  | .num _ => 3
  | .str _ => 4
  | .arr _ => 5
  | .obj _ => 6

/-- The kind of the values whose text begins with a character. -/
def kindOf (c : Char) : Option Nat :=
  if isNumberChar c then some 3
  else if c = 'n' then some 0
  else if c = 't' then some 1
  else if c = 'f' then some 2
  else if c = '"' then some 4
  else if c = '[' then some 5
  else if c = '{' then some 6
  else none

theorem chars_head (value : Json) : ∃ c cs, chars value = c :: cs ∧ kindOf c = some (kind value) := by
  cases value with
  | null => exact ⟨_, _, by rw [chars], rfl⟩
  | bool b => cases b <;> exact ⟨_, _, by rw [chars], rfl⟩
  | num n =>
    obtain ⟨c, cs, written, number⟩ := numberChars_head n
    exact ⟨c, cs, by rw [chars, written], by rw [kindOf, if_pos number, kind]⟩
  | str s => exact ⟨'"', _, by rw [chars, quoted]; rfl, rfl⟩
  | arr items | obj fields => exact ⟨_, _, by rw [chars], rfl⟩

theorem kind_unique {a b : Json} (h : chars a ++ rest = chars b ++ rest') : kind a = kind b := by
  obtain ⟨c, cs, written, opens⟩ := chars_head a
  obtain ⟨c', cs', written', opens'⟩ := chars_head b
  rw [written, written'] at h
  rw [(List.cons.inj h).1, opens'] at opens
  exact (Option.some.inj opens).symm

theorem not_chars_of_kindOf (none : kindOf c = none) (value : Json) (rest rest' : List Char) :
    c :: rest ≠ chars value ++ rest' := by
  obtain ⟨c', cs, written, opens⟩ := chars_head value
  rw [written]
  intro same
  rw [← (List.cons.inj same).1, none] at opens
  cases opens

theorem stops_cons (other : isNumberChar c = false) (rest : List Char) : Stops (c :: rest) := by
  intro c' first
  obtain rfl : c = c' := by simpa using first
  exact other

theorem stops_moreItemChars (items : List Json) (rest : List Char) :
    Stops (moreItemChars items ++ rest) := by
  cases items <;> rw [moreItemChars] <;> exact stops_cons (by decide) _

theorem stops_moreFieldChars (fields : List (String × Json)) (rest : List Char) :
    Stops (moreFieldChars fields ++ rest) := by
  cases fields <;> rw [moreFieldChars.eq_def] <;> exact stops_cons (by decide) _

mutual

/-- A value can be told from what stands after its text. -/
theorem chars_unique : (a : Json) → ∀ {b : Json} {rest rest' : List Char}, Stops rest →
    Stops rest' → chars a ++ rest = chars b ++ rest' → a = b ∧ rest = rest'
  | .null, b, _, _, _, _, h => by
    have same := kind_unique h
    cases b with
    | null => exact ⟨rfl, List.append_cancel_left h⟩
    | bool b => cases b <;> cases same
    | _ => cases same
  | .bool true, b, _, _, _, _, h => by
    have same := kind_unique h
    cases b with
    | bool b =>
      cases b with
      | true => exact ⟨rfl, List.append_cancel_left h⟩
      | false => cases same
    | _ => cases same
  | .bool false, b, _, _, _, _, h => by
    have same := kind_unique h
    cases b with
    | bool b =>
      cases b with
      | true => cases same
      | false => exact ⟨rfl, List.append_cancel_left h⟩
    | _ => cases same
  | .num n, b, _, _, stops, stops', h => by
    have same := kind_unique h
    cases b with
    | num n' =>
      rw [chars, chars] at h
      obtain ⟨rfl, left⟩ := number_unique stops stops' h
      exact ⟨rfl, left⟩
    | bool b => cases b <;> cases same
    | _ => cases same
  | .str s, b, _, _, _, _, h => by
    have same := kind_unique h
    cases b with
    | str s' =>
      rw [chars, chars] at h
      obtain ⟨rfl, left⟩ := quoted_unique h
      exact ⟨rfl, left⟩
    | bool b => cases b <;> cases same
    | _ => cases same
  | .arr items, b, _, _, _, _, h => by
    have same := kind_unique h
    cases b with
    | arr items' =>
      rw [chars, chars] at h
      obtain ⟨rfl, left⟩ := itemChars_unique items (List.cons.inj h).2
      exact ⟨rfl, left⟩
    | bool b => cases b <;> cases same
    | _ => cases same
  | .obj fields, b, _, _, _, _, h => by
    have same := kind_unique h
    cases b with
    | obj fields' =>
      rw [chars, chars] at h
      obtain ⟨rfl, left⟩ := fieldChars_unique fields (List.cons.inj h).2
      exact ⟨rfl, left⟩
    | bool b => cases b <;> cases same
    | _ => cases same

theorem itemChars_unique : (items : List Json) → ∀ {items' : List Json} {rest rest' : List Char},
    itemChars items ++ rest = itemChars items' ++ rest' → items = items' ∧ rest = rest'
  | [], [], _, _, h => ⟨rfl, List.append_cancel_left h⟩
  | [], item :: items, _, _, h => by
    rw [itemChars, itemChars, List.append_assoc] at h
    exact absurd h (not_chars_of_kindOf (by decide) _ _ _)
  | item :: items, [], _, _, h => by
    rw [itemChars, itemChars, List.append_assoc] at h
    exact absurd h.symm (not_chars_of_kindOf (by decide) _ _ _)
  | item :: items, item' :: items', _, _, h => by
    rw [itemChars, itemChars, List.append_assoc, List.append_assoc] at h
    obtain ⟨rfl, others⟩ :=
      chars_unique item (stops_moreItemChars _ _) (stops_moreItemChars _ _) h
    obtain ⟨rfl, left⟩ := moreItemChars_unique items others
    exact ⟨rfl, left⟩

theorem moreItemChars_unique : (items : List Json) → ∀ {items' : List Json}
    {rest rest' : List Char}, moreItemChars items ++ rest = moreItemChars items' ++ rest' →
      items = items' ∧ rest = rest'
  | [], [], _, _, h => ⟨rfl, List.append_cancel_left h⟩
  | [], item :: items, _, _, h => by
    rw [moreItemChars, moreItemChars] at h
    exact absurd (List.cons.inj h).1 (by decide)
  | item :: items, [], _, _, h => by
    rw [moreItemChars, moreItemChars] at h
    exact absurd (List.cons.inj h).1 (by decide)
  | item :: items, item' :: items', _, _, h => by
    rw [moreItemChars, moreItemChars] at h
    simp only [List.cons_append, List.append_assoc, List.cons.injEq, true_and] at h
    obtain ⟨rfl, others⟩ :=
      chars_unique item (stops_moreItemChars _ _) (stops_moreItemChars _ _) h
    obtain ⟨rfl, left⟩ := moreItemChars_unique items others
    exact ⟨rfl, left⟩

theorem fieldChars_unique : (fields : List (String × Json)) → ∀ {fields' : List (String × Json)}
    {rest rest' : List Char}, fieldChars fields ++ rest = fieldChars fields' ++ rest' →
      fields = fields' ∧ rest = rest'
  | [], [], _, _, h => ⟨rfl, List.append_cancel_left h⟩
  | [], (key, value) :: fields, _, _, h => by
    rw [fieldChars, fieldChars, quoted] at h
    exact absurd (List.cons.inj h).1 (by decide)
  | (key, value) :: fields, [], _, _, h => by
    rw [fieldChars, fieldChars, quoted] at h
    exact absurd (List.cons.inj h).1 (by decide)
  | (key, value) :: fields, (key', value') :: fields', _, _, h => by
    rw [fieldChars, fieldChars] at h
    simp only [List.append_assoc, List.cons_append] at h
    obtain ⟨rfl, valued⟩ := quoted_unique h
    obtain ⟨rfl, others⟩ := chars_unique value (stops_moreFieldChars _ _)
      (stops_moreFieldChars _ _) (List.cons.inj valued).2
    obtain ⟨rfl, left⟩ := moreFieldChars_unique fields others
    exact ⟨rfl, left⟩

theorem moreFieldChars_unique : (fields : List (String × Json)) →
    ∀ {fields' : List (String × Json)} {rest rest' : List Char},
      moreFieldChars fields ++ rest = moreFieldChars fields' ++ rest' →
        fields = fields' ∧ rest = rest'
  | [], [], _, _, h => ⟨rfl, List.append_cancel_left h⟩
  | [], (key, value) :: fields, _, _, h => by
    rw [moreFieldChars, moreFieldChars] at h
    exact absurd (List.cons.inj h).1 (by decide)
  | (key, value) :: fields, [], _, _, h => by
    rw [moreFieldChars, moreFieldChars] at h
    exact absurd (List.cons.inj h).1 (by decide)
  | (key, value) :: fields, (key', value') :: fields', _, _, h => by
    rw [moreFieldChars, moreFieldChars] at h
    simp only [List.cons_append, List.append_assoc, List.cons.injEq, true_and] at h
    obtain ⟨rfl, valued⟩ := quoted_unique h
    obtain ⟨rfl, others⟩ := chars_unique value (stops_moreFieldChars _ _)
      (stops_moreFieldChars _ _) (List.cons.inj valued).2
    obtain ⟨rfl, left⟩ := moreFieldChars_unique fields others
    exact ⟨rfl, left⟩

end

theorem stringify_injective {a b : Json} (h : stringify a = stringify b) : a = b := by
  have same : chars a = chars b := String.ofList_injective h
  have ends : Stops [] := fun _ first => by cases first
  exact (chars_unique a ends ends (by rw [same])).1

instance : DecidableEq Json := fun a b =>
  decidable_of_iff (chars a = chars b)
    ⟨fun same => stringify_injective (congrArg String.ofList same), congrArg chars⟩

def readQuoted : Nat → List Char → Option (List Char × List Char)
  | 0, _ => none
  | fuel + 1, cs =>
    match unescape cs, cs with
    | some (c, rest), _ => (readQuoted fuel rest).map fun read => (c :: read.1, read.2)
    | none, '"' :: rest => some ([], rest)
    | none, _ => none

def readText : List Char → Option (String × List Char)
  | '"' :: cs => (readQuoted (cs.length + 1) cs).map fun read => (String.ofList read.1, read.2)
  | _ => none

/-- The fields of a record of texts, up to its brace. -/
def readTexts : Nat → List Char → Option (List (String × String))
  | 0, _ => none
  | fuel + 1, cs => do
    let (key, rest) ← readText cs
    let (value, rest) ← readText (rest.drop 1)
    match rest with
    | ['}'] => some [(key, value)]
    | ',' :: rest => (readTexts fuel rest).map ((key, value) :: ·)
    | _ => none

def readRecord : List Char → Option (List (String × String))
  | ['{', '}'] => some []
  | '{' :: cs => readTexts cs.length cs
  | _ => none

theorem readQuoted_of_unescape {cs : List Char} (fuel : Nat) (h : unescape cs = some (c, rest)) :
    readQuoted (fuel + 1) cs = (readQuoted fuel rest).map fun read => (c :: read.1, read.2) := by
  simp only [readQuoted, h]

theorem readQuoted_escaped (cs rest : List Char) {fuel : Nat} (enough : cs.length < fuel) :
    readQuoted fuel (cs.flatMap escape ++ '"' :: rest) = some (cs, rest) := by
  obtain ⟨fuel, rfl⟩ := Nat.exists_eq_add_one_of_ne_zero (Nat.ne_zero_of_lt enough)
  induction cs generalizing fuel with
  | nil => rfl
  | cons c cs ih =>
    rw [List.flatMap_cons, List.append_assoc, readQuoted_of_unescape fuel (unescape_escape c _)]
    obtain ⟨fuel, rfl⟩ := Nat.exists_eq_add_one_of_ne_zero
      (Nat.ne_zero_of_lt (Nat.lt_of_succ_lt_succ enough))
    rw [ih fuel (Nat.lt_of_succ_lt_succ enough)]
    rfl

theorem length_le_flatMap_escape (cs : List Char) : cs.length ≤ (cs.flatMap escape).length := by
  induction cs with
  | nil => exact le_rfl
  | cons c cs ih =>
    have first : 1 ≤ (escape c).length := by
      unfold escape
      split_ifs <;> simp
    rw [List.flatMap_cons, List.length_append, List.length_cons]
    omega

theorem readText_quoted (s : String) (rest : List Char) :
    readText (quoted s ++ rest) = some (s, rest) := by
  simp only [quoted, List.cons_append, List.append_assoc, List.nil_append, readText]
  rw [readQuoted_escaped]
  · simp
  · have shorter := length_le_flatMap_escape s.toList
    simp only [List.length_append, List.length_cons]
    omega

def textFields (fields : List (String × String)) : List (String × Json) :=
  fields.map fun field => (field.1, .str field.2)

theorem readTexts_field (key value : String) (rest : List Char) (fuel : Nat) :
    readTexts (fuel + 1) (quoted key ++ ':' :: (quoted value ++ rest)) =
      match rest with
      | ['}'] => some [(key, value)]
      | ',' :: rest => (readTexts fuel rest).map ((key, value) :: ·)
      | _ => none := by
  simp only [readTexts, readText_quoted, List.drop_one, List.tail_cons, Option.bind_eq_bind,
    Option.bind_some]

theorem readTexts_written (key value : String) (fields : List (String × String)) {fuel : Nat}
    (enough : fields.length < fuel) :
    readTexts fuel (fieldChars (textFields ((key, value) :: fields))) =
      some ((key, value) :: fields) := by
  obtain ⟨fuel, rfl⟩ := Nat.exists_eq_add_one_of_ne_zero (Nat.ne_zero_of_lt enough)
  induction fields generalizing key value fuel with
  | nil =>
    simp only [textFields, List.map_cons, List.map_nil, fieldChars, moreFieldChars, chars,
      List.append_assoc, List.cons_append, readTexts_field]
  | cons field fields ih =>
    obtain ⟨key', value'⟩ := field
    obtain ⟨fuel, rfl⟩ := Nat.exists_eq_add_one_of_ne_zero
      (Nat.ne_zero_of_lt (Nat.lt_of_succ_lt_succ enough))
    have others := ih key' value' fuel (Nat.lt_of_succ_lt_succ enough)
    simp only [textFields, List.map_cons, fieldChars, chars, List.append_assoc,
      List.cons_append] at others
    simp only [textFields, List.map_cons, fieldChars, moreFieldChars, chars,
      List.append_assoc, List.cons_append]
    rw [readTexts_field]
    show (readTexts (fuel + 1) _).map _ = _
    rw [others]
    rfl

theorem length_lt_fieldChars (fields : List (String × Json)) :
    fields.length < (fieldChars fields).length := by
  have more (fields : List (String × Json)) : fields.length < (moreFieldChars fields).length := by
    induction fields with
    | nil => exact Nat.zero_lt_one
    | cons field fields ih =>
      rw [moreFieldChars, List.length_append, List.length_append, List.length_cons,
        List.length_cons]
      omega
  cases fields with
  | nil => exact Nat.zero_lt_one
  | cons field fields =>
    have others := more fields
    rw [fieldChars, List.length_append, List.length_append, List.length_cons, List.length_cons]
    omega

theorem readRecord_written (fields : List (String × String)) :
    readRecord (chars (.obj (textFields fields))) = some fields := by
  cases fields with
  | nil => rfl
  | cons field fields =>
    have long := length_lt_fieldChars (textFields (field :: fields))
    rw [textFields, List.length_map, List.length_cons, ← textFields] at long
    have read := readTexts_written field.1 field.2 fields (Nat.lt_of_succ_lt long)
    rw [chars, readRecord]
    · exact read
    · intro closed
      have short : fieldChars (textFields (field :: fields)) = ['}'] := closed
      rw [short] at long
      exact absurd long (Nat.not_lt.mpr (Nat.succ_le_succ (Nat.zero_le _)))

end Exetron.Json
