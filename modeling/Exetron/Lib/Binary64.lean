import Mathlib.Algebra.BigOperators.Group.List.Basic
import Mathlib.Algebra.Order.Ring.Pow
import Mathlib.Data.Int.ConditionallyCompleteOrder
import Mathlib.Data.Int.Log
import Mathlib.Data.Rat.Floor
import Mathlib.Order.Monotone.Basic
import Mathlib.Tactic.Linarith
import Mathlib.Tactic.Positivity

/-!
# Double precision

A finite double as the rational it stands for. An operation gives the double nearest to its exact
result; exponents are not bounded.
-/

namespace Exetron.Lib.Binary64

open List

variable {y n : ℚ} {k : ℤ}

/-- The nearest integer, the even one of two. -/
def roundHalfEven (x : ℚ) : ℤ :=
  if Int.fract x < 1 / 2 then ⌊x⌋
  else if 1 / 2 < Int.fract x then ⌊x⌋ + 1
  else if ⌊x⌋ % 2 = 0 then ⌊x⌋
  else ⌊x⌋ + 1

/-- The distance of neighbouring doubles of the size of `x`: 53 bits are kept. -/
def ulp (x : ℚ) : ℚ := 2 ^ (Int.log 2 |x| - 52)

def round (x : ℚ) : ℚ := roundHalfEven (x / ulp x) * ulp x

def add (x y : ℚ) : ℚ := round (x + y)

def sub (x y : ℚ) : ℚ := round (x - y)

def mul (x y : ℚ) : ℚ := round (x * y)

def div (x y : ℚ) : ℚ := round (x / y)

theorem floor_le_roundHalfEven (x : ℚ) : ⌊x⌋ ≤ roundHalfEven x := by
  unfold roundHalfEven
  split_ifs <;> omega

theorem ulp_pos (x : ℚ) : 0 < ulp x := zpow_pos two_pos _

theorem round_nonneg {x : ℚ} (h : 0 ≤ x) : 0 ≤ round x := by
  have scaled : 0 ≤ ⌊x / ulp x⌋ := Int.floor_nonneg.mpr (div_nonneg h (ulp_pos x).le)
  have rounded : 0 ≤ roundHalfEven (x / ulp x) := le_trans scaled (floor_le_roundHalfEven _)
  exact mul_nonneg (Int.cast_nonneg rounded) (ulp_pos x).le

theorem nonneg_mul {x : ℚ} (hx : 0 ≤ x) (hy : 0 ≤ y) : 0 ≤ mul x y :=
  round_nonneg (mul_nonneg hx hy)

theorem nonneg_div {x : ℚ} (hx : 0 ≤ x) (hy : 0 ≤ y) : 0 ≤ div x y :=
  round_nonneg (div_nonneg hx hy)

theorem roundHalfEven_int (m : ℤ) : roundHalfEven m = m := by
  rw [roundHalfEven, Int.fract_intCast, if_pos (by norm_num), Int.floor_intCast]

theorem round_of_multiple {x : ℚ} {m : ℤ} (h : x = m * ulp x) : round x = x := by
  have scaled : x / ulp x = m := by
    rw [div_eq_iff (ulp_pos x).ne']
    exact h
  rw [round, scaled, roundHalfEven_int]
  exact h.symm

theorem round_zero : round 0 = 0 := round_of_multiple (m := 0) (by simp)

/-- A number of 53 bits in units of `2 ^ k`. -/
def OnGrid (k : ℤ) (x : ℚ) : Prop := ∃ m : ℤ, |m| < 2 ^ 53 ∧ x = m * 2 ^ k

theorem OnGrid.abs_lt {x : ℚ} (h : OnGrid k x) : |x| < 2 ^ (53 + k) := by
  obtain ⟨m, small, rfl⟩ := h
  have unit : (0 : ℚ) < 2 ^ k := zpow_pos two_pos k
  have bound : (|m| : ℚ) < 2 ^ (53 : ℤ) := by exact_mod_cast small
  rw [abs_mul, abs_of_pos unit, zpow_add₀ two_ne_zero]
  exact mul_lt_mul_of_pos_right bound unit

theorem OnGrid.round {x : ℚ} (h : OnGrid k x) : round x = x := by
  by_cases zero : x = 0
  · rw [zero, round_zero]
  have magnitude : Int.log 2 |x| < 53 + k := by
    have positive : (0 : ℚ) < |x| := abs_pos.mpr zero
    exact_mod_cast (Int.lt_zpow_iff_log_lt (by decide) positive).mp (by exact_mod_cast h.abs_lt)
  obtain ⟨m, _, is⟩ := h
  obtain ⟨n, shift⟩ : ∃ n : ℕ, k = (n : ℤ) + (Int.log 2 |x| - 52) :=
    ⟨(k - (Int.log 2 |x| - 52)).toNat, by omega⟩
  refine round_of_multiple (m := m * 2 ^ n) ?_
  have units : (2 : ℚ) ^ k = 2 ^ n * ulp x := by
    rw [ulp, ← zpow_natCast, ← zpow_add₀ two_ne_zero, ← shift]
  calc x = m * 2 ^ k := is
    _ = m * (2 ^ n * ulp x) := by rw [units]
    _ = ((m * 2 ^ n : ℤ) : ℚ) * ulp x := by push_cast; ring

def epsilon : ℚ := 1 / 2 ^ 53

theorem epsilon_pos : 0 < epsilon := by norm_num [epsilon]

theorem epsilon_lt_one : epsilon < 1 := by norm_num [epsilon]

theorem abs_roundHalfEven_sub_le (x : ℚ) : |(roundHalfEven x : ℚ) - x| ≤ 1 / 2 := by
  have parts := Int.floor_add_fract x
  have fraction := Int.fract_nonneg x
  have less := Int.fract_lt_one x
  rw [abs_le]
  unfold roundHalfEven
  split_ifs with below above even <;> push_cast <;> constructor <;> linarith

theorem abs_round_sub_le (x : ℚ) : |round x - x| ≤ |x| * epsilon := by
  by_cases zero : x = 0
  · simp [zero, round_zero]
  have some_ : 0 < |x| := abs_pos.mpr zero
  have least : (2 : ℚ) ^ Int.log 2 |x| ≤ |x| := by
    exact_mod_cast Int.zpow_log_le_self (b := 2) (by decide) some_
  have unit : 2 ^ 52 * ulp x = 2 ^ Int.log 2 |x| := by
    rw [ulp, ← zpow_natCast, ← zpow_add₀ two_ne_zero]
    congr 1
    omega
  have scaled : round x - x = (roundHalfEven (x / ulp x) - x / ulp x) * ulp x := by
    rw [sub_mul, div_mul_cancel₀ _ (ulp_pos x).ne', round]
  rw [scaled, abs_mul, abs_of_pos (ulp_pos x), epsilon]
  have near := mul_le_mul_of_nonneg_right (abs_roundHalfEven_sub_le (x / ulp x)) (ulp_pos x).le
  linarith

theorem le_roundHalfEven {x : ℚ} {m : ℤ} (h : (m : ℚ) ≤ x) : m ≤ roundHalfEven x :=
  le_trans (Int.le_floor.mpr h) (floor_le_roundHalfEven x)

theorem roundHalfEven_nonpos {x : ℚ} (h : x ≤ 0) : roundHalfEven x ≤ 0 := by
  have bound := (abs_le.mp (abs_roundHalfEven_sub_le x)).2
  have less : (roundHalfEven x : ℚ) < 1 := by linarith
  have whole : roundHalfEven x < 1 := by exact_mod_cast less
  omega

theorem round_nonpos {x : ℚ} (h : x ≤ 0) : round x ≤ 0 := by
  have scaled : x / ulp x ≤ 0 := div_nonpos_of_nonpos_of_nonneg h (ulp_pos x).le
  have whole : (roundHalfEven (x / ulp x) : ℚ) ≤ 0 := by exact_mod_cast roundHalfEven_nonpos scaled
  exact mul_nonpos_of_nonpos_of_nonneg whole (ulp_pos x).le

theorem ulp_of_pos {x : ℚ} (h : 0 < x) : 2 ^ 52 * ulp x = 2 ^ Int.log 2 x := by
  rw [ulp, abs_of_pos h, ← zpow_natCast, ← zpow_add₀ two_ne_zero]
  congr 1
  omega

theorem round_le {x : ℚ} (h : 0 < x) : round x ≤ x * (1 + epsilon) := by
  have near := (abs_le.mp (abs_round_sub_le x)).2
  rw [abs_of_pos h] at near
  linarith

theorem round_pos_iff {x : ℚ} : 0 < round x ↔ 0 < x := by
  constructor
  · intro rounded
    by_contra none
    exact absurd rounded (not_lt.mpr (round_nonpos (not_lt.mp none)))
  · intro positive
    have near := (abs_le.mp (abs_round_sub_le x)).1
    rw [abs_of_pos positive] at near
    have less := mul_lt_mul_of_pos_left epsilon_lt_one positive
    linarith

theorem le_round {x : ℚ} (positive : 0 < y) (kept : round y = y) (h : y ≤ x) : y ≤ round x := by
  have some_ : 0 < x := lt_of_lt_of_le positive h
  have unit := ulp_of_pos some_
  have least : (2 : ℚ) ^ Int.log 2 x ≤ x := by
    exact_mod_cast Int.zpow_log_le_self (b := 2) (by decide) some_
  have whole {m : ℤ} (below : m * ulp x ≤ x) : m * ulp x ≤ round x := by
    have scaled : (m : ℚ) ≤ x / ulp x := (le_div_iff₀ (ulp_pos x)).mpr below
    have rounded : (m : ℚ) ≤ roundHalfEven (x / ulp x) := by exact_mod_cast le_roundHalfEven scaled
    exact mul_le_mul_of_nonneg_right rounded (ulp_pos x).le
  by_cases binade : Int.log 2 y = Int.log 2 x
  · have same : ulp y = ulp x := by
      rw [ulp, ulp, abs_of_pos positive, abs_of_pos some_, binade]
    rw [round, same] at kept
    rw [← kept] at h ⊢
    exact whole h
  · have logs : Int.log 2 y < Int.log 2 x :=
      lt_of_le_of_ne (Int.log_mono_right positive h) binade
    have below : y < 2 ^ Int.log 2 x := by
      exact_mod_cast (Int.lt_zpow_iff_log_lt (b := 2) (by decide) positive).mpr logs
    have cast : ((2 ^ 52 : ℤ) : ℚ) = 2 ^ 52 := by norm_cast
    have power : ((2 ^ 52 : ℤ) : ℚ) * ulp x ≤ round x := whole (by rwa [cast, unit])
    rw [cast, unit] at power
    exact le_trans below.le power

theorem onGrid_of_lt {x : ℚ} (nonneg : 0 ≤ x) {m : ℤ} (is : x = m * 2 ^ k)
    (small : x < 2 ^ (53 + k)) : OnGrid k x := by
  have unit : (0 : ℚ) < 2 ^ k := zpow_pos two_pos k
  refine ⟨m, ?_, is⟩
  have least : (0 : ℚ) ≤ m := by
    rw [is] at nonneg
    exact nonneg_of_mul_nonneg_left nonneg unit
  have bound : (m : ℚ) < 2 ^ (53 : ℤ) := by
    rw [is, zpow_add₀ two_ne_zero] at small
    exact lt_of_mul_lt_mul_right small unit.le
  have whole : 0 ≤ m := by exact_mod_cast least
  rw [abs_of_nonneg whole]
  exact_mod_cast bound

theorem sum_of_units {xs : List ℚ} (units : ∀ x ∈ xs, 0 ≤ x ∧ ∃ m : ℤ, x = m * 2 ^ k) :
    0 ≤ xs.sum ∧ ∃ m : ℤ, xs.sum = m * 2 ^ k := by
  induction xs with
  | nil => exact ⟨le_rfl, 0, by simp⟩
  | cons x xs ih =>
    obtain ⟨nonneg, m, is⟩ := units x mem_cons_self
    obtain ⟨nonneg', m', is'⟩ := ih fun y listed => units y (mem_cons_of_mem _ listed)
    rw [sum_cons]
    exact ⟨add_nonneg nonneg nonneg', m + m', by rw [is, is']; push_cast; ring⟩

theorem foldl_add_of_units {xs : List ℚ} (units : ∀ x ∈ xs, 0 ≤ x ∧ ∃ m : ℤ, x = m * 2 ^ k)
    (small : xs.sum < 2 ^ (53 + k)) : xs.foldl add 0 = xs.sum := by
  induction xs using reverseRecOn with
  | nil => rfl
  | append_singleton xs x ih =>
    obtain ⟨nonneg, _⟩ := units x (mem_append_right _ mem_cons_self)
    obtain ⟨_, m, is⟩ := sum_of_units units
    have whole := sum_of_units units
    rw [sum_append, sum_singleton] at small is whole
    have before := ih (fun y listed => units y (mem_append_left _ listed)) (by linarith)
    rw [foldl_append, foldl_cons, foldl_nil, before, sum_append, sum_singleton, add]
    exact (onGrid_of_lt whole.1 is small).round

theorem roundHalfEven_le_succ_floor (x : ℚ) : roundHalfEven x ≤ ⌊x⌋ + 1 := by
  unfold roundHalfEven
  split_ifs <;> omega

theorem roundHalfEven_mono : Monotone roundHalfEven := by
  intro x y le
  obtain less | same := lt_or_eq_of_le (Int.floor_mono le)
  · calc roundHalfEven x ≤ ⌊x⌋ + 1 := roundHalfEven_le_succ_floor x
      _ ≤ ⌊y⌋ := less
      _ ≤ roundHalfEven y := floor_le_roundHalfEven y
  · have fraction : Int.fract x ≤ Int.fract y := by
      rw [Int.fract, Int.fract, same]
      exact sub_le_sub_right le _
    unfold roundHalfEven
    rw [same]
    split_ifs <;> first | omega | linarith

theorem round_zpow (k : ℤ) : round (2 ^ k) = 2 ^ k :=
  OnGrid.round (k := k) ⟨1, by norm_num, by simp⟩

theorem round_le_zpow {x : ℚ} (positive : 0 < x) (below : x < 2 ^ k) : round x ≤ 2 ^ k := by
  have logs : Int.log 2 x < k :=
    (Int.lt_zpow_iff_log_lt (b := 2) (by decide) positive).mp (by exact_mod_cast below)
  have unit := ulp_of_pos positive
  have next : x < 2 ^ (Int.log 2 x + 1) := by
    exact_mod_cast Int.lt_zpow_succ_log_self (b := 2) (by decide) x
  have scaled : x / ulp x ≤ ((2 ^ 53 : ℤ) : ℚ) := by
    rw [div_le_iff₀ (ulp_pos x)]
    calc x ≤ 2 ^ (Int.log 2 x + 1) := next.le
      _ = 2 * (2 ^ 52 * ulp x) := by rw [unit, zpow_add_one₀ two_ne_zero]; ring
      _ = ((2 ^ 53 : ℤ) : ℚ) * ulp x := by push_cast; ring
  have whole : (roundHalfEven (x / ulp x) : ℚ) ≤ ((2 ^ 53 : ℤ) : ℚ) := by
    exact_mod_cast (roundHalfEven_mono scaled).trans_eq (roundHalfEven_int _)
  calc round x ≤ ((2 ^ 53 : ℤ) : ℚ) * ulp x :=
        mul_le_mul_of_nonneg_right whole (ulp_pos x).le
    _ = 2 * (2 ^ 52 * ulp x) := by push_cast; ring
    _ = 2 ^ (Int.log 2 x + 1) := by rw [unit, zpow_add_one₀ two_ne_zero]; ring
    _ ≤ 2 ^ k := zpow_le_zpow_right₀ one_le_two logs

/-- Rounding keeps the order: within a binade that of the integers, and otherwise a power of two
lies between. -/
theorem round_le_round {x : ℚ} (nonneg : 0 ≤ x) (le : x ≤ y) : round x ≤ round y := by
  obtain rfl | positive := nonneg.eq_or_lt
  · rw [round_zero]
    exact round_nonneg le
  have positive' : 0 < y := lt_of_lt_of_le positive le
  obtain less | same := lt_or_eq_of_le (Int.log_mono_right (b := 2) positive le)
  · have power : (2 : ℚ) ^ Int.log 2 y ≤ y := by
      exact_mod_cast Int.zpow_log_le_self (b := 2) (by decide) positive'
    have below : x < 2 ^ Int.log 2 y := by
      exact_mod_cast (Int.lt_zpow_iff_log_lt (b := 2) (by decide) positive).mpr less
    exact (round_le_zpow positive below).trans (le_round (zpow_pos two_pos _) (round_zpow _) power)
  · have unit : ulp x = ulp y := by
      rw [ulp, ulp, abs_of_pos positive, abs_of_pos positive', same]
    have scaled : x / ulp y ≤ y / ulp y := div_le_div_of_nonneg_right le (ulp_pos y).le
    have whole : (roundHalfEven (x / ulp y) : ℚ) ≤ roundHalfEven (y / ulp y) := by
      exact_mod_cast roundHalfEven_mono scaled
    rw [round, round, unit]
    exact mul_le_mul_of_nonneg_right whole (ulp_pos y).le

theorem mul_mono {x x' y' : ℚ} (nonneg : 0 ≤ x) (nonneg' : 0 ≤ y) (le : x ≤ x') (le' : y ≤ y') :
    mul x y ≤ mul x' y' :=
  round_le_round (mul_nonneg nonneg nonneg') (mul_le_mul le le' nonneg' (nonneg.trans le))

theorem div_mono {x x' : ℚ} (nonneg : 0 ≤ x) (divisor : 0 ≤ y) (le : x ≤ x') : div x y ≤ div x' y :=
  round_le_round (div_nonneg nonneg divisor) (div_le_div_of_nonneg_right le divisor)

/-- `c` roundings lie between a number and the result. -/
structure Within (c : ℕ) (result x : ℚ) : Prop where
  lower : x * (1 - epsilon) ^ c ≤ result
  upper : result ≤ x * (1 + epsilon) ^ c

namespace Within

variable {c d : ℕ} {result x : ℚ}

theorem exact_ (x : ℚ) : Within 0 x x := ⟨by simp, by simp⟩

theorem mono (within : Within c result x) (nonneg : 0 ≤ x) (le : c ≤ d) : Within d result x where
  lower := le_trans (mul_le_mul_of_nonneg_left
    (pow_le_pow_of_le_one (by linarith [epsilon_lt_one]) (by linarith [epsilon_pos]) le)
    nonneg) within.lower
  upper := le_trans within.upper (mul_le_mul_of_nonneg_left
    (pow_le_pow_right₀ (by linarith [epsilon_pos]) le) nonneg)

theorem nonneg (within : Within c result x) (nonneg : 0 ≤ x) : 0 ≤ result :=
  le_trans (mul_nonneg nonneg (pow_nonneg (by linarith [epsilon_lt_one]) c)) within.lower

theorem pos (within : Within c result x) (pos : 0 < x) : 0 < result :=
  lt_of_lt_of_le (mul_pos pos (pow_pos (by linarith [epsilon_lt_one]) c)) within.lower

theorem zero (within : Within c result 0) : result = 0 :=
  le_antisymm (by simpa using within.upper) (by simpa using within.lower)

theorem add {result' : ℚ} (left : Within c result x) (right : Within c result' y) :
    Within c (result + result') (x + y) where
  lower := by rw [add_mul]; exact add_le_add left.lower right.lower
  upper := by rw [add_mul]; exact add_le_add left.upper right.upper

theorem mul_right (within : Within c result x) (nonneg : 0 ≤ y) :
    Within c (result * y) (x * y) where
  lower := by
    rw [mul_right_comm]
    exact mul_le_mul_of_nonneg_right within.lower nonneg
  upper := by
    rw [mul_right_comm]
    exact mul_le_mul_of_nonneg_right within.upper nonneg

theorem round (within : Within c result x) (nonneg : 0 ≤ x) : Within (c + 1) (round result) x := by
  have some_ := within.nonneg nonneg
  have near := abs_le.mp (abs_round_sub_le result)
  rw [abs_of_nonneg some_] at near
  have below := mul_le_mul_of_nonneg_right within.lower (by linarith [epsilon_lt_one] :
    0 ≤ 1 - epsilon)
  have above := mul_le_mul_of_nonneg_right within.upper (by linarith [epsilon_pos] :
    0 ≤ 1 + epsilon)
  constructor
  · rw [pow_succ, ← mul_assoc]
    linarith
  · rw [pow_succ, ← mul_assoc]
    linarith

theorem sum {α : Type} {f g : α → ℚ} {rows : List α}
    (near : ∀ row ∈ rows, 0 ≤ g row ∧ Within c (f row) (g row)) : 0 ≤ (rows.map g).sum ∧
      Within (c + rows.length) ((rows.map f).foldl Binary64.add 0) (rows.map g).sum := by
  induction rows using reverseRecOn with
  | nil => exact ⟨le_rfl, by simp, by simp⟩
  | append_singleton rows row ih =>
    obtain ⟨nonneg, before⟩ := ih fun row listed => near row (mem_append_left _ listed)
    obtain ⟨nonneg', last⟩ := near row (mem_append_right _ mem_cons_self)
    simp only [map_append, map_cons, map_nil, sum_append, sum_singleton,
      foldl_append, foldl_cons, foldl_nil, length_append, length_cons,
      length_nil, zero_add, ← add_assoc]
    refine ⟨add_nonneg nonneg nonneg', ?_⟩
    exact (before.add (last.mono nonneg' (Nat.le_add_right _ _))).round (add_nonneg nonneg nonneg')

theorem le_pow (c : ℕ) : 1 - c * epsilon ≤ (1 - epsilon) ^ c := by
  have bernoulli := one_add_mul_le_pow (a := -epsilon) (by linarith [epsilon_lt_one]) c
  calc 1 - c * epsilon = 1 + c * -epsilon := by ring
    _ ≤ (1 + -epsilon) ^ c := bernoulli
    _ = (1 - epsilon) ^ c := by rw [← sub_eq_add_neg]

theorem ge (within : Within c result x) (nonneg : 0 ≤ x) : x * (1 - c * epsilon) ≤ result :=
  le_trans (mul_le_mul_of_nonneg_left (le_pow c) nonneg) within.lower

theorem le (within : Within c result x) (nonneg : 0 ≤ y) (gap : x ≤ y * (1 - c * epsilon)) :
    result ≤ y := by
  have factor : (1 - c * epsilon) * (1 + epsilon) ^ c ≤ 1 := by
    calc (1 - c * epsilon) * (1 + epsilon) ^ c
        ≤ (1 - epsilon) ^ c * (1 + epsilon) ^ c :=
          mul_le_mul_of_nonneg_right (le_pow c) (pow_nonneg (by linarith [epsilon_pos]) c)
      _ = (1 - epsilon ^ 2) ^ c := by rw [← mul_pow]; ring
      _ ≤ 1 := pow_le_one₀ (by norm_num [epsilon]) (by linarith [pow_pos epsilon_pos 2])
  calc result ≤ x * (1 + epsilon) ^ c := within.upper
    _ ≤ y * (1 - c * epsilon) * (1 + epsilon) ^ c :=
        mul_le_mul_of_nonneg_right gap (pow_nonneg (by linarith [epsilon_pos]) c)
    _ = y * ((1 - c * epsilon) * (1 + epsilon) ^ c) := mul_assoc _ _ _
    _ ≤ y * 1 := mul_le_mul_of_nonneg_left factor nonneg
    _ = y := mul_one y

end Within

theorem abs_sub_round_le (x y : ℚ) :
    |sub (round x) (round y) - (x - y)| ≤ 3 * epsilon * (|x| + |y|) := by
  have left := abs_le.mp (abs_round_sub_le x)
  have right := abs_le.mp (abs_round_sub_le y)
  have last := abs_round_sub_le (round x - round y)
  have size : |round x - round y| ≤ (1 + epsilon) * (|x| + |y|) := by
    have left' := abs_le.mp (le_refl |x|)
    have right' := abs_le.mp (le_refl |y|)
    rw [abs_le]
    constructor <;> linarith
  have bound : |round x - round y| * epsilon ≤ 2 * epsilon * (|x| + |y|) := by
    have scaled := mul_le_mul_of_nonneg_right size epsilon_pos.le
    have small : (1 + epsilon) * (|x| + |y|) * epsilon ≤ 2 * (|x| + |y|) * epsilon :=
      mul_le_mul_of_nonneg_right (mul_le_mul_of_nonneg_right (by linarith [epsilon_lt_one])
        (by positivity)) epsilon_pos.le
    linarith
  have last' := abs_le.mp last
  rw [sub, abs_le]
  constructor <;> linarith

/-- The rounded quotient reaches a whole number just when the product does, if neither the dividend
nor the product is rounded. -/
theorem le_div_iff_mul_le {a q : ℚ} {n : ℕ} (dividend : OnGrid k a) (product : OnGrid k (n * q))
    (divisor : 0 < q) (positive : 0 < n) (small : n < 2 ^ 53) : (n : ℚ) ≤ div a q ↔ n * q ≤ a := by
  have some_ : (0 : ℚ) < n := by exact_mod_cast positive
  constructor
  · intro reached
    by_contra short
    by_cases negative : a ≤ 0
    · have none := round_nonpos (div_nonpos_of_nonpos_of_nonneg negative divisor.le)
      exact absurd (lt_of_lt_of_le some_ (le_trans reached none)) (lt_irrefl _)
    obtain ⟨m, _, rfl⟩ := dividend
    have top := product.abs_lt
    obtain ⟨m', _, is⟩ := product
    have unit : (0 : ℚ) < 2 ^ k := zpow_pos two_pos k
    rw [is] at short
    have next : m + 1 ≤ m' := by
      have less := lt_of_mul_lt_mul_right (not_le.mp short) unit.le
      exact_mod_cast less
    have gap : (m : ℚ) * 2 ^ k + 2 ^ k ≤ n * q := by
      have whole : (m : ℚ) + 1 ≤ m' := by exact_mod_cast next
      have scaled := mul_le_mul_of_nonneg_right whole unit.le
      rw [is]
      linarith
    have some' : 0 < (m : ℚ) * 2 ^ k / q := div_pos (not_le.mp negative) divisor
    have back : (m : ℚ) * 2 ^ k / q * q = m * 2 ^ k := div_mul_cancel₀ _ divisor.ne'
    have rounded : (n : ℚ) * q ≤ m * 2 ^ k * (1 + 1 / 2 ^ 53) := by
      have scaled := mul_le_mul_of_nonneg_right (le_trans reached (round_le some')) divisor.le
      rw [epsilon] at scaled
      linarith
    have range : (n : ℚ) * q < 2 ^ 53 * 2 ^ k := by
      rw [zpow_add₀ two_ne_zero] at top
      exact lt_of_le_of_lt (le_abs_self _) (by exact_mod_cast top)
    linarith
  · intro covered
    have quotient : (n : ℚ) ≤ a / q := (le_div_iff₀ divisor).mpr covered
    have exact_ : OnGrid 0 (n : ℚ) := ⟨n, by rw [abs_of_nonneg (by omega)]; omega, by simp⟩
    exact le_round some_ exact_.round quotient

/-- Where the exact amounts are further apart than the roundings reach, both comparisons with a
rounded dividend come out as the exact one. -/
theorem decides {c n : ℕ} {a A s S t W δ : ℚ} (near : |a - A| ≤ 3 * epsilon * W)
    (taken : Within c s S) (planned : Within c t (n * S)) (positive : 0 < S) (some_ : 0 < n)
    (small : n < 2 ^ 53) (gap : 0 < δ) (slack : epsilon * ((c + 1) * (n * S + δ) + 6 * W) < δ)
    (apart : n * S + δ ≤ A ∨ A + δ ≤ n * S) :
    ((n : ℚ) ≤ div a s ↔ n * S ≤ A) ∧ (t ≤ a ↔ n * S ≤ A) := by
  have count : (0 : ℚ) < n := by exact_mod_cast some_
  have total : 0 < n * S := mul_pos count positive
  have tiny := epsilon_pos
  have bounds := abs_le.mp near
  have error : 0 ≤ epsilon * W := by linarith [abs_nonneg (a - A)]
  have roundings : (0 : ℚ) ≤ c * epsilon := mul_nonneg (Nat.cast_nonneg c) tiny.le
  -- What the slack leaves for the stock and for the roundings of the total.
  have spare : 6 * (epsilon * W) + c * epsilon * (n * S + δ) + epsilon * (n * S + δ) < δ := by
    linarith
  have least : 0 ≤ c * epsilon * (n * S + δ) := mul_nonneg roundings (by linarith)
  have least' : 0 ≤ epsilon * (n * S + δ) := mul_nonneg tiny.le (by linarith)
  have factor : 0 ≤ 1 - c * epsilon := by
    have below : c * epsilon * δ ≤ δ := by
      have part := mul_nonneg roundings total.le
      linarith
    have bound : c * epsilon ≤ 1 := le_of_mul_le_mul_right (by linarith) gap
    linarith
  have divisor := taken.pos positive
  have multiple := taken.mul_right count.le
  rw [mul_comm s, mul_comm S] at multiple
  obtain covered | short := apart
  · have stock : n * S ≤ a * (1 - c * epsilon) := by
      have scaled := mul_le_mul_of_nonneg_right
        (show n * S + δ - 3 * (epsilon * W) ≤ a by linarith) factor
      have product := mul_nonneg roundings error
      linarith
    have nonneg : 0 ≤ a := by linarith
    have exact_ : OnGrid 0 (n : ℚ) := ⟨n, by rw [abs_of_nonneg (by omega)]; omega, by simp⟩
    have enough : n * S ≤ A := by linarith
    refine ⟨iff_of_true ?_ enough, iff_of_true (planned.le nonneg stock) enough⟩
    exact le_round count exact_.round ((le_div_iff₀ divisor).mpr (multiple.le nonneg stock))
  · have lower := planned.ge total.le
    have lower' := multiple.ge total.le
    have missing : ¬n * S ≤ A := by linarith
    have part := mul_nonneg tiny.le total.le
    have more := mul_nonneg (add_nonneg roundings tiny.le) gap.le
    refine ⟨iff_of_false (fun reached => ?_) missing, iff_of_false (fun passes => ?_) missing⟩
    · by_cases none : a ≤ 0
      · have zero := round_nonpos (div_nonpos_of_nonpos_of_nonneg none divisor.le)
        exact absurd (lt_of_lt_of_le count (le_trans reached zero)) (lt_irrefl _)
      · have quotient : 0 < a / s := div_pos (not_le.mp none) divisor
        have back : a / s * s = a := div_mul_cancel₀ _ divisor.ne'
        have scaled := mul_le_mul_of_nonneg_right (le_trans reached (round_le quotient)) divisor.le
        have above : n * s ≤ a + a * epsilon := by
          calc n * s ≤ a / s * (1 + epsilon) * s := scaled
            _ = a / s * s * (1 + epsilon) := by ring
            _ = a + a * epsilon := by rw [back]; ring
        have stock : a * epsilon ≤ n * S * epsilon :=
          mul_le_mul_of_nonneg_right (by linarith) tiny.le
        linarith
    · linarith

inductive Extended where
  | nan
  | negInfinity
  | posInfinity
  | finite (x : ℚ)
  deriving DecidableEq

namespace Extended

def quotient (x y : ℚ) : Extended :=
  if y ≠ 0 then .finite (div x y)
  else if 0 < x then .posInfinity
  else if x < 0 then .negInfinity
  else .nan

def floor : Extended → Extended
  | .finite x => .finite ⌊x⌋
  | x => x

def min : Extended → Extended → Extended
  | .nan, _ | _, .nan => .nan
  | .negInfinity, _ | _, .negInfinity => .negInfinity
  | .posInfinity, y => y
  | x, .posInfinity => x
  | .finite x, .finite y => .finite (Min.min x y)

def finiteOr0 : Extended → ℚ
  | .finite x => x
  | _ => 0

def AtLeast (n : ℚ) : Extended → Prop
  | .posInfinity => True
  | .finite x => n ≤ x
  | _ => False

theorem atLeast_posInfinity (n : ℚ) : AtLeast n .posInfinity := trivial

theorem atLeast_min {x y : Extended} : AtLeast n (min x y) ↔ AtLeast n x ∧ AtLeast n y := by
  cases x <;> cases y <;> simp [min, AtLeast]

theorem min_eq_posInfinity {x y : Extended} :
    min x y = .posInfinity ↔ x = .posInfinity ∧ y = .posInfinity := by
  cases x <;> cases y <;> simp [min]

theorem atLeast_floor {n : ℕ} {x : Extended} : AtLeast n (floor x) ↔ AtLeast n x := by
  cases x with
  | finite x =>
    show (n : ℚ) ≤ (⌊x⌋ : ℚ) ↔ (n : ℚ) ≤ x
    have whole : (n : ℤ) ≤ ⌊x⌋ ↔ ((n : ℤ) : ℚ) ≤ x := Int.le_floor
    exact_mod_cast whole
  | nan | negInfinity | posInfinity => rfl

theorem floor_eq_posInfinity {x : Extended} : floor x = .posInfinity ↔ x = .posInfinity := by
  cases x <;> simp [floor]

theorem quotient_eq_posInfinity {x : ℚ} (reached : AtLeast n (quotient x y)) :
    quotient x y = .posInfinity ↔ y = 0 := by
  by_cases zero : y = 0
  · refine iff_of_true ?_ zero
    rw [quotient, if_neg (not_not.mpr zero)] at reached ⊢
    split at reached
    · rename_i some_
      rw [if_pos some_]
    · split at reached <;> exact absurd reached id
  · rw [quotient, if_pos zero]
    simp [zero]

theorem le_finiteOr0 (positive : 0 < n) {x : Extended} :
    n ≤ finiteOr0 x ↔ AtLeast n x ∧ x ≠ .posInfinity := by
  cases x with
  | finite x => simp [finiteOr0, AtLeast]
  | nan | negInfinity | posInfinity => simp [finiteOr0, AtLeast, positive]

theorem foldl_min (xs : List Extended) (x : Extended) :
    (AtLeast n (xs.foldl min x) ↔ AtLeast n x ∧ ∀ y ∈ xs, AtLeast n y) ∧
      (xs.foldl min x = .posInfinity ↔ x = .posInfinity ∧ ∀ y ∈ xs, y = .posInfinity) := by
  induction xs generalizing x with
  | nil => simp
  | cons y xs ih =>
    obtain ⟨reached, infinite⟩ := ih (min x y)
    rw [foldl_cons]
    refine ⟨reached.trans ?_, infinite.trans ?_⟩
    · rw [atLeast_min, forall_mem_cons, and_assoc]
    · rw [min_eq_posInfinity, forall_mem_cons, and_assoc]

end Extended

end Exetron.Lib.Binary64
