import Mathlib.Data.ZMod.Basic
import Mathlib.Tactic.Abel

/-!
# Arcs

Half-open intervals on a circle of `n` points. An arc may run past the last point and go on from
the first one.
-/

namespace Exetron.Lib

variable {n : ℕ} [NeZero n] {start length : ℕ} {x : ZMod n}

/-- The points that come less than `length` steps after `start`. -/
def arc (start : ZMod n) (length : ℕ) : Set (ZMod n) := {x | (x - start).val < length}

instance (start : ZMod n) : Decidable (x ∈ arc start length) :=
  inferInstanceAs (Decidable ((x - start).val < length))

theorem val_sub_natCast (inside : start < n) :
    (x - (start : ZMod n)).val = (x.val + (n - start)) % n := by
  have steps : x - (start : ZMod n) = ((x.val + (n - start) : ℕ) : ZMod n) := by
    rw [Nat.cast_add, Nat.cast_sub inside.le, ZMod.natCast_self, ZMod.natCast_zmod_val]
    abel
  rw [steps, ZMod.val_natCast]

theorem mem_arc_iff (inside : start < n) : x ∈ arc (start : ZMod n) length ↔
      start ≤ x.val ∧ x.val < start + length ∨ x.val + n < start + length := by
  have small := x.val_lt
  have at_ : (x.val + (n - start)) % n =
      if start ≤ x.val then x.val - start else x.val + (n - start) := by
    split
    · rw [show x.val + (n - start) = (x.val - start) + n by omega, Nat.add_mod_right,
        Nat.mod_eq_of_lt (by omega)]
    · exact Nat.mod_eq_of_lt (by omega)
  show (x - (start : ZMod n)).val < length ↔ _
  rw [val_sub_natCast inside, at_]
  split <;> omega

end Exetron.Lib
