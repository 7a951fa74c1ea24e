import Mathlib.Algebra.Field.Rat
import Mathlib.Tactic.FieldSimp
import Mathlib.Tactic.Ring
import Crosstab.Proofs.Number.Whole

/-!
# Sums and halves of whole binary numbers

A whole number of no more than 53 binary places is a binary number, and so is its half, which takes
one place to the right of the point. Adding whole binary numbers and halving them hence is exact as
long as the sum is no longer than that.
-/

namespace Crosstab.Number.Binary64

/-- The rational number that a binary number is; none for what is not finite. -/
def toRat? : Binary64 → Option ℚ
  | .finite s u => some (signed s u / one)
  | _ => none

/-- The units that make up a half. -/
def half : Nat := twoTo (places - 1)

/-- Half of a whole number as a count of units. -/
def halfOf (n : Int) : Binary64 :=
  .finite (decide (n < 0)) (n.natAbs * half)

theorem one_eq_half : one = half * 2 := by
  have hplaces : places - 1 + 1 = places := Nat.sub_add_cancel (by decide)
  rw [one, half, ← twoTo_succ, hplaces]

theorem half_pos : 0 < half := twoTo_pos _

/-! ## Rational numbers -/

theorem toRat?_ofWhole (n : Int) : (ofWhole n).toRat? = some (n : ℚ) := by
  have hone : (one : ℚ) ≠ 0 := Nat.cast_ne_zero.2 (Nat.ne_of_gt one_pos)
  rw [ofWhole, toRat?, signed_natAbs, Int.cast_mul, Int.cast_natCast, mul_div_cancel_right₀ _ hone]

theorem toRat?_halfOf (n : Int) : (halfOf n).toRat? = some (n / 2 : ℚ) := by
  have hhalf : (half : ℚ) ≠ 0 := Nat.cast_ne_zero.2 (Nat.ne_of_gt half_pos)
  rw [halfOf, toRat?, signed_natAbs, one_eq_half, Int.cast_mul, Int.cast_natCast, Nat.cast_mul,
    mul_comm (n : ℚ), Nat.cast_ofNat, mul_div_mul_left _ _ hhalf]

/-! ## Arithmetic -/

/-- Whole binary numbers are added as whole numbers. -/
theorem add_ofWhole {m n : Int} (h : (m + n).natAbs ≤ twoTo 53) :
    (ofWhole m).add (ofWhole n) = ofWhole (m + n) := by
  have hone : (0 : Int) < one := Int.natCast_pos.2 one_pos
  have hsum : signed (decide (m < 0)) (m.natAbs * one) + signed (decide (n < 0)) (n.natAbs * one) =
      (m + n) * one := by
    rw [signed_natAbs, signed_natAbs, Int.add_mul]
  rw [ofWhole, ofWhole, add, hsum]
  by_cases hzero : m + n = 0
  · -- not both are negative, so the zero is not
    have hsign : (decide (m < 0) && decide (n < 0)) = false := by
      rw [Bool.and_eq_false_iff, decide_eq_false_iff_not, decide_eq_false_iff_not]
      omega
    rw [hzero, Int.zero_mul, if_pos (beq_self_eq_true _), hsign, ofWhole, Int.natAbs_zero,
      Nat.zero_mul]
    rfl
  · have hne : (m + n) * one ≠ 0 := Int.mul_ne_zero hzero (Int.ne_of_gt hone)
    have hsign : decide ((m + n) * (one : Int) < 0) = decide (m + n < 0) := by
      rw [decide_eq_decide, ← Int.mul_lt_mul_right (b := m + n) (c := 0) hone, Int.zero_mul]
    rw [if_neg (mt beq_iff_eq.1 hne), hsign, Int.natAbs_mul, Int.natAbs_natCast, round_exact _ h,
      ofWhole]

theorem round_half (negative : Bool) {k den : Nat} (hden : 0 < den) (h : k ≤ twoTo 53) :
    round negative (k * half * den) den = .finite negative (k * half) :=
  round_kept negative hden (Nat.sub_le places 1) h

/-- The quotient of a whole number by two. -/
theorem ofRatio_two (negative : Bool) {n : Nat} (h : n ≤ twoTo 53) :
    ofRatio negative n 2 = .finite negative (n * half) := by
  rw [ofRatio, one_eq_half, ← Nat.mul_assoc, round_half negative Nat.two_pos h]

/-- A whole binary number is halved as a whole number. -/
theorem div_two {n : Int} (h : n.natAbs ≤ twoTo 53) : (ofWhole n).div (ofWhole 2) = halfOf n := by
  have htwo : 0 < Int.natAbs 2 * one := Nat.mul_pos (by decide) one_pos
  have hunits : n.natAbs * one * one = n.natAbs * half * (Int.natAbs 2 * one) := by
    have habs : Int.natAbs 2 = 2 := rfl
    rw [habs]
    nth_rewrite 1 [one_eq_half]
    ring
  have hsign : (decide (n < 0) != decide ((2 : Int) < 0)) = decide (n < 0) :=
    Bool.bne_false _
  rw [ofWhole, ofWhole, div, if_neg (mt beq_iff_eq.1 (Nat.ne_of_gt htwo)), hsign, hunits,
    round_half _ htwo h, halfOf]

end Crosstab.Number.Binary64
