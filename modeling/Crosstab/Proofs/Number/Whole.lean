import Crosstab.Value.Convert

/-!
# Whole binary numbers

A whole number of no more than 53 binary places is a binary number itself, so that nothing is lost
where it is compared as one. Numbers with the other sign are in the other order.
-/

namespace Crosstab

namespace Number

theorem twoTo_add (m n : Nat) : twoTo (m + n) = twoTo m * twoTo n :=
  Nat.pow_add 2 m n

theorem twoTo_dvd {m n : Nat} (h : m ≤ n) : twoTo m ∣ twoTo n :=
  Nat.pow_dvd_pow 2 h

theorem twoTo_lt {m n : Nat} (h : m < n) : twoTo m < twoTo n :=
  Nat.pow_lt_pow_right (by decide) h

theorem log2_lt_of_lt_twoTo {k n : Nat} (hk : k ≠ 0) (h : k < twoTo n) : k.log2 < n :=
  (Nat.log2_lt hk).2 h

namespace Binary64

/-! ## Rounding -/

theorem divRound_of_dvd {num den : Nat} (hden : 0 < den) (h : den ∣ num) :
    divRound num den = num / den := by
  have hrest : num % den = 0 := Nat.mod_eq_zero_of_dvd h
  simp only [divRound, hrest, Nat.mul_zero, hden, if_true]

theorem one_pos : 0 < one := twoTo_pos places

theorem twoTo_mul_one (n : Nat) : twoTo n * one = twoTo (n + places) := by
  rw [one, twoTo_add]

theorem spacing_pos (units : Nat) : 0 < spacing units := twoTo_pos _

/-- The places of a number are kept if there are no more than 53. -/
theorem spacing_dvd {k : Nat} (shift : Nat) (h : k ≤ twoTo 53) :
    spacing (k * twoTo shift) ∣ k * twoTo shift := by
  rcases Nat.eq_zero_or_pos k with rfl | hpos
  · rw [Nat.zero_mul]
    exact Nat.dvd_zero _
  have hne : k * twoTo shift ≠ 0 := Nat.ne_of_gt (Nat.mul_pos hpos (twoTo_pos shift))
  rcases Nat.lt_or_eq_of_le h with hlt | rfl
  · have hless : k * twoTo shift < twoTo 53 * twoTo shift :=
      Nat.mul_lt_mul_of_pos_right hlt (twoTo_pos shift)
    rw [← twoTo_add] at hless
    have hplaces : (k * twoTo shift).log2 - 52 ≤ shift := by
      have := log2_lt_of_lt_twoTo hne hless
      omega
    exact Nat.dvd_mul_left_of_dvd (twoTo_dvd hplaces) k
  · rw [← twoTo_add] at hne ⊢
    have hplaces : (twoTo (53 + shift)).log2 - 52 ≤ 53 + shift := by
      have := log2_lt_of_lt_twoTo hne (twoTo_lt (Nat.lt_succ_self _))
      omega
    exact twoTo_dvd hplaces

/-- So nothing is lost of such a number. -/
theorem roundUnits_exact {k den : Nat} (shift : Nat) (hden : 0 < den) (h : k ≤ twoTo 53) :
    roundUnits (k * twoTo shift * den) den = k * twoTo shift := by
  have hkept := spacing_dvd shift h
  generalize k * twoTo shift = units at hkept
  have hdvd : den * spacing units ∣ units * den := Nat.mul_comm den units ▸
    Nat.mul_dvd_mul_left den hkept
  rw [roundUnits, Nat.mul_div_cancel units hden,
    divRound_of_dvd (Nat.mul_pos hden (spacing_pos units)) hdvd, Nat.mul_comm units den,
    Nat.mul_div_mul_left _ _ hden, Nat.div_mul_cancel hkept]

theorem round_of_lt (negative : Bool) {num den units : Nat} (h : roundUnits num den = units)
    (hless : units < overflow) : round negative num den = .finite negative units := by
  subst h
  unfold round
  dsimp only
  split
  · rfl
  · next hnot => exact absurd hless hnot

/-- A whole number as a count of units. -/
def ofWhole (n : Int) : Binary64 :=
  .finite (decide (n < 0)) (n.natAbs * one)

/-- A number of no more than 53 places is its own rounding, however far to the left it stands. -/
theorem round_kept (negative : Bool) {k den shift : Nat} (hden : 0 < den) (hshift : shift ≤ places)
    (h : k ≤ twoTo 53) :
    round negative (k * twoTo shift * den) den = .finite negative (k * twoTo shift) := by
  refine round_of_lt negative (roundUnits_exact shift hden h) ?_
  calc k * twoTo shift ≤ twoTo 53 * twoTo shift := Nat.mul_le_mul_right _ h
    _ = twoTo (53 + shift) := (twoTo_add 53 shift).symm
    _ < overflow := twoTo_lt (by omega)

theorem round_exact (negative : Bool) {n : Nat} (h : n ≤ twoTo 53) :
    round negative (n * one) 1 = .finite negative (n * one) := by
  have hkept := round_kept negative Nat.one_pos (Nat.le_refl places) h
  rwa [Nat.mul_one] at hkept

theorem ofNat_exact {n : Nat} (h : n ≤ twoTo 53) : ofNat n = .finite false (n * one) :=
  round_exact false h

theorem ofInt?_exact {n : Int} (h : n.natAbs ≤ twoTo 53) : ofInt? n = some (ofWhole n) := by
  rw [ofInt?, round_exact _ h, finite?, ofWhole]

/-! ## Order -/

/-- A size with the sign of a number is the number. -/
theorem signed_natAbs (n : Int) (units : Nat) :
    signed (decide (n < 0)) (n.natAbs * units) = n * units := by
  by_cases hneg : n < 0
  · have habs : (n.natAbs : Int) = -n := Int.ofNat_natAbs_of_nonpos (Int.le_of_lt hneg)
    rw [decide_eq_true hneg, signed, if_pos rfl, Int.natCast_mul, habs, Int.neg_mul, Int.neg_neg]
  · have habs : (n.natAbs : Int) = n := Int.natAbs_of_nonneg (Int.not_lt.1 hneg)
    rw [decide_eq_false hneg, signed, if_neg Bool.false_ne_true, Int.natCast_mul, habs]

theorem rank?_ofWhole (n : Int) : (ofWhole n).rank? = some (intRank n) := by
  rw [ofWhole, rank?, intRank, signed_natAbs]

theorem lt_ofWhole (m n : Int) : (ofWhole m).lt (ofWhole n) = decide (m < n) := by
  have hone : (0 : Int) < one := Int.natCast_pos.2 (twoTo_pos places)
  rw [lt, rank?_ofWhole, rank?_ofWhole]
  show decide (m * one < n * one) = decide (m < n)
  rw [decide_eq_decide]
  exact Int.mul_lt_mul_right hone

/-- Numbers with the other sign are in the other order. -/
theorem lt_neg (a b : Binary64) : a.neg.lt b.neg = b.lt a := by
  have hsigned : ∀ s u, signed (!s) u = -signed s u := by
    intro s u
    cases s <;> simp [signed]
  cases a with
  | nan => cases b with
    | infinite t => cases t <;> rfl
    | _ => rfl
  | infinite s => cases b with
    | nan => cases s <;> rfl
    | infinite t => cases s <;> cases t <;> rfl
    | finite t v => cases s <;> rfl
  | finite s u => cases b with
    | nan => rfl
    | infinite t => cases t <;> rfl
    | finite t v =>
      show decide (signed (!s) u < signed (!t) v) = decide (signed t v < signed s u)
      rw [hsigned, hsigned, decide_eq_decide]
      exact Int.neg_lt_neg_iff

theorem isNaN_neg (a : Binary64) : a.neg.isNaN = a.isNaN := by
  cases a <;> rfl

end Binary64

end Number

theorem Value.toReal_int_finite {n : Int} (h : n.natAbs ≤ Number.twoTo 53) :
    ∃ s u, (Value.int n).toReal = .ok (.finite s u) := by
  rw [toReal, Number.Binary64.ofInt?_exact h]
  exact ⟨_, _, rfl⟩

/-- A whole number of no more than 53 binary places is a binary number itself. -/
theorem Value.toReal?_int {n : Int} (h : n.natAbs ≤ Number.twoTo 53) :
    (Value.int n).toReal? = .ok (some (Number.Binary64.ofWhole n)) := by
  rw [toReal?, toReal, Number.Binary64.ofInt?_exact h]
  · rfl
  · rintro ⟨⟩

end Crosstab
