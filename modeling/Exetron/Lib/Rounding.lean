import Mathlib.Algebra.Order.Round
import Mathlib.Tactic.Linarith
import Mathlib.Tactic.Ring

/-!
# Rounding half away from zero

The rounding of a decimal column, in units of its last digit.
-/

namespace Exetron.Lib

variable {R : Type} [Field R] [LinearOrder R] [IsStrictOrderedRing R] [FloorRing R] {x y : R} {n : ℤ}

def roundHalfAway (x : R) : ℤ := if 0 ≤ x then ⌊x + 1 / 2⌋ else ⌈x - 1 / 2⌉

def Halfway (x : R) : Prop := Int.fract x = 1 / 2

instance (x : R) : Decidable (Halfway x) := inferInstanceAs (Decidable (_ = _))

omit [IsStrictOrderedRing R] in
theorem roundHalfAway_of_nonneg (h : 0 ≤ x) : roundHalfAway x = ⌊x + 1 / 2⌋ := if_pos h

omit [IsStrictOrderedRing R] in
theorem roundHalfAway_of_neg (h : x < 0) : roundHalfAway x = ⌈x - 1 / 2⌉ := if_neg (not_le.mpr h)

theorem ceil_sub_half (h : ¬Halfway x) : ⌈x - 1 / 2⌉ = ⌊x + 1 / 2⌋ := by
  have below := Int.floor_le (x + 1 / 2)
  have above := Int.lt_floor_add_one (x + 1 / 2)
  rw [Int.ceil_eq_iff]
  refine ⟨?_, by linarith⟩
  rcases lt_or_eq_of_le below with strict | same
  · linarith
  · refine absurd ?_ h
    have is : x = ((⌊x + 1 / 2⌋ - 1 : ℤ) : R) + 1 / 2 := by
      push_cast
      linarith
    rw [Halfway, is, Int.fract_intCast_add, Int.fract_eq_self]
    constructor <;> norm_num

theorem roundHalfAway_of_not_halfway (h : ¬Halfway x) : roundHalfAway x = ⌊x + 1 / 2⌋ := by
  unfold roundHalfAway
  split
  · rfl
  · exact ceil_sub_half h

@[simp] theorem roundHalfAway_intCast (n : ℤ) : roundHalfAway (n : R) = n := by
  have whole : ¬Halfway (n : R) := by
    rw [Halfway, Int.fract_intCast]
    norm_num
  rw [roundHalfAway_of_not_halfway whole, Int.floor_intCast_add]
  norm_num

theorem halfway_int_add : Halfway ((n : R) + x) ↔ Halfway x := by
  rw [Halfway, Halfway, Int.fract_intCast_add]

/-- Adding a whole number commutes with the rounding, unless it turns the sign of a number that
is exactly halfway. -/
theorem roundHalfAway_int_add (h : Halfway x → (0 ≤ (n : R) + x ↔ 0 ≤ x)) :
    roundHalfAway ((n : R) + x) = n + roundHalfAway x := by
  by_cases half : Halfway x
  · unfold roundHalfAway
    rw [add_assoc, add_sub_assoc, Int.floor_intCast_add, Int.ceil_intCast_add]
    by_cases sign : 0 ≤ x
    · rw [if_pos sign, if_pos ((h half).mpr sign)]
    · rw [if_neg sign, if_neg (fun is => sign ((h half).mp is))]
  · rw [roundHalfAway_of_not_halfway half,
      roundHalfAway_of_not_halfway (fun is => half (halfway_int_add.mp is)), add_assoc,
      Int.floor_intCast_add]

theorem add_roundHalfAway_le (h : 0 ≤ n) : n + roundHalfAway x ≤ roundHalfAway ((n : R) + x) := by
  have whole : (0 : R) ≤ n := by exact_mod_cast h
  by_cases sign : 0 ≤ x
  · exact le_of_eq (roundHalfAway_int_add fun _ => iff_of_true (add_nonneg whole sign) sign).symm
  · by_cases turned : 0 ≤ (n : R) + x
    · rw [roundHalfAway_of_neg (not_le.mp sign), roundHalfAway_of_nonneg turned, add_assoc,
        Int.floor_intCast_add]
      have below := Int.ceil_le_floor_add_one (x - 1 / 2)
      have shifted : ⌊x + 1 / 2⌋ = ⌊x - 1 / 2⌋ + 1 := by
        rw [← Int.floor_add_one]
        congr 1
        ring
      lia
    · exact le_of_eq (roundHalfAway_int_add fun _ => iff_of_false turned sign).symm

theorem roundHalfAway_mono (h : x ≤ y) : roundHalfAway x ≤ roundHalfAway y := by
  by_cases left : 0 ≤ x
  · rw [roundHalfAway_of_nonneg left, roundHalfAway_of_nonneg (le_trans left h)]
    exact Int.floor_mono (by linarith)
  · rw [not_le] at left
    by_cases right : 0 ≤ y
    · have below : roundHalfAway x ≤ 0 := by
        rw [roundHalfAway_of_neg left, Int.ceil_le]
        push_cast
        linarith
      refine le_trans below ?_
      rw [roundHalfAway_of_nonneg right, Int.floor_nonneg]
      linarith
    · rw [roundHalfAway_of_neg left, roundHalfAway_of_neg (not_le.mp right)]
      exact Int.ceil_mono (by linarith)

theorem roundHalfAway_of_near (h : |x - n| < 1 / 2) : roundHalfAway x = n := by
  obtain ⟨below, above⟩ := abs_lt.mp h
  unfold roundHalfAway
  split
  · rw [Int.floor_eq_iff]
    constructor <;> linarith
  · rw [Int.ceil_eq_iff]
    constructor <;> linarith
theorem le_roundHalfAway (h : (n : R) ≤ x) : n ≤ roundHalfAway x := by
  rw [← roundHalfAway_intCast (R := R) n]
  exact roundHalfAway_mono h

theorem roundHalfAway_le (h : x ≤ (n : R)) : roundHalfAway x ≤ n := by
  rw [← roundHalfAway_intCast (R := R) n]
  exact roundHalfAway_mono h

end Exetron.Lib
