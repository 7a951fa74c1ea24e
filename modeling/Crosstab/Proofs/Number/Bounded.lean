import Crosstab.Proofs.Number.Rounding
import Crosstab.Value.EpochMillis
import Crosstab.Value.Order

/-!
# Bounded numbers stay finite

Rounding at most doubles a number of units, so what is far from the largest number does not become
infinite. A time within a range of years is some whole number of milliseconds, whatever kind of
number it is.
-/

namespace Crosstab

namespace Number.Binary64

/-! ## Rounding -/

theorem spacing_le (units : Nat) : spacing units ≤ units + 1 := by
  rcases Nat.eq_zero_or_pos units with rfl | hpos
  · decide
  · have hplaces : spacing units ≤ twoTo units.log2 :=
      Nat.pow_le_pow_right (by decide) (Nat.sub_le _ _)
    have hself : twoTo units.log2 ≤ units := Nat.log2_self_le (Nat.ne_of_gt hpos)
    omega

/-- Rounding at most doubles a quotient, but for one unit. -/
theorem roundUnits_le (num den : Nat) : roundUnits num den ≤ 2 * (num / den) + 1 := by
  unfold roundUnits
  dsimp only
  have hstep := spacing_le (num / den)
  generalize spacing (num / den) = step at hstep
  calc divRound num (den * step) * step
      ≤ (num / (den * step) + 1) * step := Nat.mul_le_mul_right step (divRound_le _ _)
    _ = num / den / step * step + step := by rw [Nat.succ_mul, Nat.div_div_eq_div_mul]
    _ ≤ num / den + step := Nat.add_le_add_right (Nat.div_mul_le_self _ _) _
    _ ≤ 2 * (num / den) + 1 := by omega

/-- A quotient of no more than so many units is finite if twice as many are. -/
theorem round_finite (negative : Bool) {num den bound : Nat} (h : num / den ≤ bound)
    (hbound : 2 * bound + 1 < overflow) : roundUnits num den ≤ 2 * bound + 1 ∧
      round negative num den = .finite negative (roundUnits num den) := by
  have hunits : roundUnits num den ≤ 2 * bound + 1 := by
    have := roundUnits_le num den
    omega
  exact ⟨hunits, round_of_lt negative rfl (Nat.lt_of_le_of_lt hunits hbound)⟩

/-- The bound of times in seconds. -/
def secondsBound : Nat := tenTo 15

theorem ofRatio_units (negative : Bool) {num den : Nat} (h : num < secondsBound * den) :
    roundUnits (num * one) den ≤ 2 * (secondsBound * one) + 1 ∧
      ofRatio negative num den = .finite negative (roundUnits (num * one) den) := by
  have hunits : num * one ≤ den * (secondsBound * one) := by
    calc num * one ≤ secondsBound * den * one := Nat.mul_le_mul_right one (Nat.le_of_lt h)
      _ = den * (secondsBound * one) := by ring
  exact round_finite negative (Nat.div_le_of_le_mul hunits) (by decide +kernel)

theorem ofRatio_finite (negative : Bool) {num den : Nat} (h : num < secondsBound * den) :
    ∃ u ≤ 2 * (secondsBound * one) + 1, ofRatio negative num den = .finite negative u :=
  ⟨_, ofRatio_units negative h⟩

/-- A bounded number times a thousand is finite, too. -/
theorem mul_thousand (negative : Bool) {u : Nat} (hu : u ≤ 2 * (secondsBound * one) + 1) :
    (finite negative u).mul (ofNat 1000) =
      .finite negative (roundUnits (u * (1000 * one)) one) := by
  have hone := one_pos
  have hunits : u * (1000 * one) ≤ one * ((2 * secondsBound + 1) * 1000 * one) := by
    calc u * (1000 * one) ≤ (2 * secondsBound + 1) * one * (1000 * one) :=
          Nat.mul_le_mul_right _ (by rw [Nat.succ_mul, Nat.mul_assoc]; omega)
      _ = one * ((2 * secondsBound + 1) * 1000 * one) := by ring
  have hround := round_finite negative (Nat.div_le_of_le_mul hunits) (by decide +kernel)
  rw [ofNat_exact (by decide), mul, Bool.bne_false]
  exact hround.2

theorem ofNat_eq_ofRatio (n : Nat) : ofNat n = ofRatio false n 1 := rfl

theorem natAbs_signed (negative : Bool) (units : Nat) : (signed negative units).natAbs = units := by
  cases negative <;> simp [signed]

end Number.Binary64

open Number Binary64

/-! ## Decimals -/

theorem tenTo_le_of_digitCount {c : Nat} (hc : c ≠ 0) : tenTo (digitCount c - 1) ≤ c := by
  rcases Nat.eq_zero_or_pos (digitCount c - 1) with hzero | hpos
  · rw [hzero]
    exact Nat.pos_of_ne_zero hc
  · by_contra hless
    have hshort := (Nat.length_toDigits_le_iff (by decide : 1 < 10) hpos).2 (Nat.lt_of_not_le hless)
    have hlength : digitCount c ≤ digitCount c - 1 := hshort
    omega

/-- The digits of a bounded decimal do not go far to the left. -/
theorem digitCount_add_le {c m n : Nat} (hc : c ≠ 0) (h : c * tenTo m < secondsBound * tenTo n) :
    digitCount c + m ≤ 15 + n := by
  have hpow : tenTo (digitCount c - 1 + m) < tenTo (15 + n) := by
    calc tenTo (digitCount c - 1 + m) = tenTo (digitCount c - 1) * tenTo m := Nat.pow_add 10 _ _
      _ ≤ c * tenTo m := Nat.mul_le_mul_right _ (tenTo_le_of_digitCount hc)
      _ < secondsBound * tenTo n := h
      _ = tenTo (15 + n) := (Nat.pow_add 10 15 n).symm
  have := (Nat.pow_lt_pow_iff_right (by decide : 1 < 10)).1 hpow
  omega

theorem Number.Decimal.toBinary64_finite {d : Decimal} {num : Int} {den : Nat}
    (hd : Exact.ofDecimal d = .ratio num den) (h : num.natAbs < secondsBound * den) :
    ∃ u ≤ 2 * (secondsBound * one) + 1, d.toBinary64 = .finite d.negative u := by
  obtain ⟨negative, c, e⟩ := d
  unfold Exact.ofDecimal at hd
  unfold toBinary64 ofScaled scaled
  dsimp only at hd ⊢
  by_cases hc : c = 0
  · exact ⟨0, Nat.zero_le _, if_pos (by simpa using hc)⟩
  · rw [if_neg (by simpa using hc)]
    have hsmall : ∃ u ≤ 2 * (secondsBound * one) + 1,
        Binary64.finite negative 0 = .finite negative u := ⟨0, Nat.zero_le _, rfl⟩
    split at hd
    · next he =>
      obtain ⟨rfl, rfl⟩ := Exact.ratio.inj hd
      rw [natAbs_signed] at h
      have hdigits : digitCount c + e.toNat ≤ 15 + 0 := digitCount_add_le hc h
      rw [if_neg (by omega)]
      split
      · exact hsmall
      · exact ofRatio_finite negative h
    · next he =>
      obtain ⟨rfl, rfl⟩ := Exact.ratio.inj hd
      rw [natAbs_signed] at h
      have hdigits : digitCount c + 0 ≤ 15 + (-e).toNat :=
        digitCount_add_le hc (by rwa [show tenTo 0 = 1 from rfl, Nat.mul_one])
      rw [if_neg (by omega)]
      split
      · exact hsmall
      · exact ofRatio_finite negative h

/-! ## Values -/

namespace Value

/-- The value is a number of magnitude below the bound of times. -/
def IsSeconds (v : Value) : Prop :=
  ∃ num den, v.measure? = some (.ratio num den) ∧ num.natAbs < secondsBound * den

/-- A bounded number of any kind is a finite binary number, and points of time count seconds by
it. -/
theorem IsSeconds.finite {v : Value} (h : v.IsSeconds) :
    v ≠ .null ∧ v.epochSeconds = v.toReal ∧
      ∃ s u, u ≤ 2 * (secondsBound * one) + 1 ∧ v.toReal = .ok (.finite s u) := by
  obtain ⟨num, den, hmeasure, hless⟩ := h
  cases v with
  | bool b =>
    refine ⟨Value.noConfusion, rfl, ?_⟩
    rw [toReal]
    cases b with
    | true =>
      obtain ⟨u, hu, hone⟩ := ofRatio_finite false (by decide : 1 < secondsBound * 1)
      rw [if_pos rfl, ofNat_eq_ofRatio, hone]
      exact ⟨false, u, hu, rfl⟩
    | false =>
      rw [if_neg Bool.false_ne_true, zero]
      exact ⟨false, 0, Nat.zero_le _, rfl⟩
  | int n =>
    obtain ⟨rfl, rfl⟩ := Exact.ratio.inj (Option.some.inj hmeasure)
    obtain ⟨u, hu, hround⟩ := ofRatio_finite (decide (n < 0)) hless
    refine ⟨Value.noConfusion, rfl, decide (n < 0), u, hu, ?_⟩
    have hint : Binary64.ofInt? n = some (.finite (decide (n < 0)) u) := congrArg finite? hround
    rw [toReal, hint]
    rfl
  | real x =>
    cases x with
    | nan => cases hmeasure
    | infinite s => cases s <;> cases hmeasure
    | finite s u =>
      obtain ⟨rfl, rfl⟩ := Exact.ratio.inj (Option.some.inj hmeasure)
      rw [natAbs_signed] at hless
      exact ⟨Value.noConfusion, rfl, s, u, by omega, rfl⟩
  | decimal d =>
    obtain ⟨u, hu, hround⟩ := d.toBinary64_finite (Option.some.inj hmeasure) hless
    exact ⟨Value.noConfusion, rfl, _, u, hu, congrArg Except.ok hround⟩
  | _ => cases hmeasure

theorem epochMillis_of_finite {v : Value} {x : Binary64} {s : Bool} {u : Nat} (hnull : v ≠ .null)
    (hseconds : v.epochSeconds = .ok x) (hproduct : x.mul (.ofNat 1000) = .finite s u) :
    v.epochMillis = .ok (some (Int.fdiv (signed s u) one)) := by
  unfold Value.epochMillis
  rw [if_neg (by simpa using hnull), hseconds]
  simp only [bind, Except.bind, hproduct, pure, Except.pure]

/-- A bounded number of seconds is some whole number of milliseconds. -/
theorem IsSeconds.epochMillis {v : Value} (h : v.IsSeconds) :
    ∃ t, v.epochMillis = .ok (some t) := by
  obtain ⟨hnull, hseconds, s, u, hu, hreal⟩ := h.finite
  exact ⟨_, epochMillis_of_finite hnull (hseconds.trans hreal) (mul_thousand s hu)⟩

end Value

end Crosstab
