import Crosstab.Proofs.Number.Half
import Crosstab.Value.Arithmetic
import Crosstab.Value.Sorted

/-!
# Whole numbers among values

A whole number is a value as such or as a binary number. Either way it is ordered by the number that
it is, and as long as no more than 53 binary places are needed, adding two of them and halving one
loses nothing.
-/

namespace Crosstab

open Number

namespace Value

/-! ## Arithmetic -/

section Binary

variable {a b : Int} {x y : Binary64}

theorem plus_real_real (x y : Binary64) : (real x).plus (.real y) = .ok (.real (x.add y)) := by
  rw [plus, operands]
  rfl

theorem plus_int_real (h : (int a).toReal = .ok x) (y : Binary64) :
    (int a).plus (.real y) = .ok (.real (x.add y)) := by
  rw [plus, operands, operands.operandsOf, h]
  rfl

theorem plus_real_int (x : Binary64) (h : (int b).toReal = .ok y) :
    (real x).plus (.int b) = .ok (.real (x.add y)) := by
  rw [plus, operands, h]
  rfl

theorem dividedBy_real_int (x : Binary64) (h : (int b).toReal = .ok y) (hzero : y.isZero = false) :
    (real x).dividedBy (.int b) = .ok (.real (x.div y)) := by
  have hoperands : operands (.real x) (.int b) = .ok (.binary x y) := by
    rw [operands, h]
    rfl
  rw [dividedBy, hoperands]
  show (if y.isZero = true then _ else _) = _
  rw [hzero, if_neg Bool.false_ne_true]
  rfl

theorem dividedBy_int_int (hzero : (b == 0) = false)
    (h : Binary64.ofRatio (decide (a < 0) != decide (b < 0)) a.natAbs b.natAbs = x)
    (hfinite : x.isInfinite = false) : (int a).dividedBy (.int b) = .ok (.real x) := by
  rw [dividedBy, operands, operands.operandsOf]
  show wholeQuotient a b = _
  rw [wholeQuotient, hzero, if_neg Bool.false_ne_true]
  dsimp only
  rw [h, hfinite, if_neg Bool.false_ne_true]

theorem toReal_two : (int 2).toReal = .ok (.ofWhole 2) := by
  rw [toReal, Binary64.ofInt?_exact (by decide), Option.elim_some]

theorem isZero_two : (Binary64.ofWhole 2).isZero = false := by
  decide +kernel

end Binary

/-! ## Whole numbers -/

/-- The value is the whole number, as such or as a binary number. -/
inductive IsInteger : Value → Int → Prop where
  | whole (n : Int) : IsInteger (.int n) n
  | binary (n : Int) : IsInteger (.real (.ofWhole n)) n

namespace IsInteger

variable {v w : Value} {m n : Int}

theorem isNumber (h : v.IsInteger n) : v.isNumber = true := by
  cases h <;> rfl

theorem isOrdered (h : v.IsInteger n) : v.isOrdered = true := by
  cases h <;> rfl

/-- The exact number that the value is. -/
theorem measure? (h : v.IsInteger n) :
    ∃ den : Nat, 0 < den ∧ v.measure? = some (.ratio (n * den) den) := by
  cases h with
  | whole => exact ⟨1, Nat.one_pos, by rw [Value.measure?, Int.natCast_one, Int.mul_one]⟩
  | binary =>
    refine ⟨Binary64.one, Binary64.one_pos, ?_⟩
    rw [Value.measure?, Binary64.ofWhole, Exact.ofBinary64?, Binary64.signed_natAbs]

/-- The values are in the order of their numbers. -/
theorem less? (hv : v.IsInteger m) (hw : w.IsInteger n) :
    v.less? w = some (decide (m < n)) := by
  obtain ⟨k, hk, hvMeasure⟩ := hv.measure?
  obtain ⟨l, hl, hwMeasure⟩ := hw.measure?
  have hless : decide (m * k * (l : Int) < n * l * k) = decide (m < n) := by
    have hpos : (0 : Int) < k * l := Int.mul_pos (Int.natCast_pos.2 hk) (Int.natCast_pos.2 hl)
    rw [decide_eq_decide, Int.mul_assoc, Int.mul_assoc, Int.mul_comm (l : Int),
      Int.mul_lt_mul_right hpos]
  rw [Value.less?]
  · simp only [hv.isNumber, hw.isNumber, hvMeasure, hwMeasure, Bool.and_self, if_true, Exact.lt,
      hless]
  all_goals
    intros
    subst_vars
    cases hv

theorem toReal (h : v.IsInteger n) (hn : n.natAbs ≤ twoTo 53) :
    v.toReal = .ok (.ofWhole n) := by
  cases h with
  | whole =>
    rw [Value.toReal, Binary64.ofInt?_exact hn, Option.elim_some]
  | binary => rfl

/-- The sum of the values is the sum of the numbers. -/
theorem plus (hv : v.IsInteger m) (hw : w.IsInteger n) (hm : m.natAbs ≤ twoTo 53)
    (hn : n.natAbs ≤ twoTo 53) (hsum : (m + n).natAbs ≤ twoTo 53) :
    ∃ sum, v.plus w = .ok sum ∧ sum.IsInteger (m + n) := by
  have hbinary : Value.IsInteger (.real ((Binary64.ofWhole m).add (.ofWhole n))) (m + n) := by
    rw [Binary64.add_ofWhole hsum]
    exact .binary _
  have hmReal := (whole m).toReal hm
  have hnReal := (whole n).toReal hn
  cases hv with
  | whole =>
    cases hw with
    | whole => exact ⟨_, rfl, .whole _⟩
    | binary => exact ⟨_, plus_int_real hmReal _, hbinary⟩
  | binary =>
    cases hw with
    | whole => exact ⟨_, plus_real_int _ hnReal, hbinary⟩
    | binary => exact ⟨_, plus_real_real _ _, hbinary⟩

/-- Half of the value is half of the number. -/
theorem halved (h : v.IsInteger n) (hn : n.natAbs ≤ twoTo 53) :
    v.dividedBy (.int 2) = .ok (.real (.halfOf n)) := by
  cases h with
  | whole =>
    have hsign : (decide (n < 0) != decide ((2 : Int) < 0)) = decide (n < 0) := Bool.bne_false _
    have htwo : Int.natAbs 2 = 2 := rfl
    have hquotient : Binary64.ofRatio (decide (n < 0) != decide ((2 : Int) < 0)) n.natAbs
        (Int.natAbs 2) = .halfOf n := by
      rw [hsign, htwo, Binary64.ofRatio_two _ hn, Binary64.halfOf]
    exact dividedBy_int_int rfl hquotient rfl
  | binary => rw [dividedBy_real_int _ toReal_two isZero_two, Binary64.div_two hn]

end IsInteger

end Value

end Crosstab
