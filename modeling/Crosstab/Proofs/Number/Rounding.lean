import Crosstab.Proofs.Number.Whole
import Mathlib.Tactic.Linarith
import Mathlib.Tactic.Ring

/-!
# Rounding keeps the order and errs little

A quotient is rounded to a neighbouring number, so a larger one is not rounded to a smaller number.
If the quotient is a normal number, its 53 bits leave an error of no more than one part in
2⁵³ + 1.
-/

namespace Crosstab.Number.Binary64

/-! ## Quotients -/

/-- A quotient is rounded down with a rest of no more than half the divisor, or up with one of no
less. -/
theorem divRound_cases (num den : Nat) :
    divRound num den = num / den ∧ 2 * (num % den) ≤ den ∨
      divRound num den = num / den + 1 ∧ den ≤ 2 * (num % den) := by
  unfold divRound
  dsimp only
  split
  · exact .inl ⟨rfl, by omega⟩
  · split
    · exact .inr ⟨rfl, by omega⟩
    · split
      · exact .inl ⟨rfl, by omega⟩
      · exact .inr ⟨rfl, by omega⟩

variable {m n num den k : Nat}

theorem div_le_divRound (num den : Nat) : num / den ≤ divRound num den := by
  rcases divRound_cases num den with ⟨h, -⟩ | ⟨h, -⟩ <;> omega

theorem divRound_le (num den : Nat) : divRound num den ≤ num / den + 1 := by
  rcases divRound_cases num den with ⟨h, -⟩ | ⟨h, -⟩ <;> omega

theorem divRound_mono (h : m ≤ n) : divRound m den ≤ divRound n den := by
  have hquot := Nat.div_le_div_right (c := den) h
  rcases Nat.lt_or_eq_of_le hquot with hless | hsame
  · calc divRound m den ≤ m / den + 1 := divRound_le m den
      _ ≤ n / den := hless
      _ ≤ divRound n den := div_le_divRound n den
  · -- the rests are in the order of the numbers
    have hm := Nat.div_add_mod m den
    have hn := Nat.div_add_mod n den
    rw [hsame] at hm
    have hrest : m % den ≤ n % den := by omega
    unfold divRound
    dsimp only
    rw [hsame]
    split_ifs <;> omega

/-- The error of a rounded quotient is no more than the rest of the division, so it is small beside
the dividend if the quotient is large. -/
theorem divRound_relative (hden : 0 < den) (h : k ≤ num / den) :
    (2 * k + 1) * (divRound num den * den) ≤ (2 * k + 2) * num ∧
      2 * k * num ≤ (2 * k + 1) * (divRound num den * den) := by
  have hnum := Nat.div_add_mod num den
  have hk : den * k ≤ den * (num / den) := Nat.mul_le_mul_left den h
  rcases divRound_cases num den with ⟨hd, hrest⟩ | ⟨hd, hrest⟩
  · generalize num / den = q at hnum hk hd
    generalize num % den = r at hnum hrest
    have herror : k * (2 * r) ≤ k * den := Nat.mul_le_mul_left k hrest
    rw [hd]
    constructor <;> nlinarith
  · have hless := Nat.mod_lt num hden
    generalize num / den = q at hnum hk hd
    generalize num % den = r at hnum hrest hless
    obtain ⟨e, rfl⟩ := Nat.exists_eq_add_of_lt hless
    have herror : k * (e + 1) ≤ k * r := Nat.mul_le_mul_left k (by omega)
    rw [hd]
    constructor <;> nlinarith

/-- A rounded quotient is no further off than half. -/
theorem divRound_half (num : Nat) (hden : 0 < den) :
    2 * num ≤ 2 * (divRound num den * den) + den ∧
      2 * (divRound num den * den) ≤ 2 * num + den := by
  have hnum := Nat.div_add_mod num den
  have hless := Nat.mod_lt num hden
  rw [Nat.mul_comm] at hnum
  rcases divRound_cases num den with ⟨hd, hrest⟩ | ⟨hd, hrest⟩
  · rw [hd]
    omega
  · rw [hd, Nat.succ_mul (num / den)]
    omega

/-- The whole number that is nearer than half is the rounded quotient. -/
theorem divRound_nearest (hden : 0 < den) (hup : 2 * num < 2 * (k * den) + den)
    (hdown : 2 * (k * den) < 2 * num + den) : divRound num den = k := by
  obtain ⟨hle, hge⟩ := divRound_half num hden
  have hless : divRound num den < k + 1 := by
    refine Nat.lt_of_mul_lt_mul_right ?_ (a := den)
    rw [Nat.succ_mul]
    omega
  have hmore : k < divRound num den + 1 := by
    refine Nat.lt_of_mul_lt_mul_right ?_ (a := den)
    rw [Nat.succ_mul]
    omega
  omega

/-! ## Numbers of units -/

theorem spacing_eq {units : Nat} (shift : Nat) (hlow : twoTo (shift + 52) ≤ units)
    (hhigh : units < twoTo (shift + 53)) : spacing units = twoTo shift := by
  have hne : units ≠ 0 := Nat.ne_of_gt (Nat.lt_of_lt_of_le (twoTo_pos _) hlow)
  have hlog : units.log2 = shift + 52 := (Nat.log2_eq_iff hne).2 ⟨hlow, hhigh⟩
  rw [spacing, hlog, Nat.add_sub_cancel]

/-- A rounded quotient is no further off than half the spacing. -/
theorem roundUnits_half (num : Nat) (hden : 0 < den) :
    2 * num ≤ 2 * (roundUnits num den * den) + den * spacing (num / den) ∧
      2 * (roundUnits num den * den) ≤ 2 * num + den * spacing (num / den) := by
  have hunits : ∀ d : Nat, d * spacing (num / den) * den = d * (den * spacing (num / den)) :=
    fun d => by ring
  rw [roundUnits, hunits]
  exact divRound_half num (Nat.mul_pos hden (spacing_pos _))

/-- The number of the same spacing that is nearer than half is the rounded quotient. -/
theorem roundUnits_nearest (hden : 0 < den) {units step : Nat} (hstep : spacing (num / den) = step)
    (hdvd : step ∣ units) (hup : 2 * num < 2 * (units * den) + den * step)
    (hdown : 2 * (units * den) < 2 * num + den * step) : roundUnits num den = units := by
  obtain ⟨c, rfl⟩ := hdvd
  have hpos : 0 < step := hstep ▸ spacing_pos _
  have hunits : step * c * den = c * (den * step) := by ring
  rw [hunits] at hup hdown
  rw [roundUnits, hstep, divRound_nearest (Nat.mul_pos hden hpos) hup hdown, Nat.mul_comm]

/-- There are no more than 53 bits above the spacing. -/
theorem div_spacing_lt (units : Nat) : units / spacing units < twoTo 53 := by
  rw [Nat.div_lt_iff_lt_mul (spacing_pos units), spacing, ← twoTo_add]
  calc units < twoTo (units.log2 + 1) := Nat.lt_log2_self
    _ ≤ twoTo (53 + (units.log2 - 52)) := Nat.pow_le_pow_right (by decide) (by omega)

/-- There are 53 of them, if there are that many at all. -/
theorem le_div_spacing {units : Nat} (h : twoTo 52 ≤ units) :
    twoTo 52 ≤ units / spacing units := by
  have hne : units ≠ 0 := Nat.ne_of_gt (Nat.lt_of_lt_of_le (twoTo_pos 52) h)
  have hlog : 52 ≤ units.log2 := (Nat.le_log2 hne).2 h
  rw [Nat.le_div_iff_mul_le (spacing_pos units), spacing, ← twoTo_add,
    Nat.add_sub_cancel' hlog]
  exact Nat.log2_self_le hne

/-- A rounded quotient of normal size errs by no more than one part in 2⁵³ + 1. -/
theorem roundUnits_relative (hden : 0 < den) (h : twoTo 52 ≤ num / den) :
    (twoTo 53 + 1) * (roundUnits num den * den) ≤ (twoTo 53 + 2) * num ∧
      twoTo 53 * num ≤ (twoTo 53 + 1) * (roundUnits num den * den) := by
  have hquot := le_div_spacing h
  have hstep := spacing_pos (num / den)
  rw [roundUnits]
  generalize spacing (num / den) = step at hquot hstep
  rw [Nat.div_div_eq_div_mul] at hquot
  have herror := divRound_relative (Nat.mul_pos hden hstep) hquot
  have hunits : ∀ d : Nat, d * step * den = d * (den * step) := fun d => by ring
  have htwice : twoTo 53 = 2 * twoTo 52 := Nat.mul_comm _ _
  rw [hunits, htwice]
  exact herror

/-- A number of 53 bits is not rounded to more than the next power of two. -/
theorem roundUnits_le_spacing (num den : Nat) :
    roundUnits num den ≤ twoTo 53 * spacing (num / den) := by
  have hquot := div_spacing_lt (num / den)
  rw [roundUnits]
  refine Nat.mul_le_mul_right _ ?_
  rw [Nat.div_div_eq_div_mul] at hquot
  exact (divRound_le _ _).trans hquot

/-- Nor is it rounded to less than the last one. -/
theorem spacing_le_roundUnits (h : twoTo 52 ≤ num / den) :
    twoTo 52 * spacing (num / den) ≤ roundUnits num den := by
  have hquot := le_div_spacing h
  rw [roundUnits]
  refine Nat.mul_le_mul_right _ ?_
  rw [Nat.div_div_eq_div_mul] at hquot
  exact hquot.trans (div_le_divRound _ _)

/-- Rounding keeps the order. -/
theorem roundUnits_mono (h : m ≤ n) : roundUnits m den ≤ roundUnits n den := by
  have hquot : m / den ≤ n / den := Nat.div_le_div_right h
  have hlog : (m / den).log2 ≤ (n / den).log2 := by
    rcases Nat.eq_zero_or_pos (m / den) with hzero | hpos
    · rw [hzero, Nat.log2_zero]
      exact Nat.zero_le _
    · exact (Nat.le_log2 (by omega)).2 ((Nat.log2_self_le (by omega)).trans hquot)
  by_cases hsame : (m / den).log2 - 52 = (n / den).log2 - 52
  · have hstep : spacing (m / den) = spacing (n / den) := congrArg twoTo hsame
    rw [roundUnits, roundUnits, hstep]
    exact Nat.mul_le_mul_right _ (divRound_mono h)
  · -- the first number is below a power of two that the second reaches
    have hstep : spacing (m / den) * 2 ≤ spacing (n / den) := by
      rw [spacing, ← twoTo_succ]
      exact Nat.pow_le_pow_right (by decide) (by omega)
    have hne : n / den ≠ 0 := by
      intro hzero
      rw [hzero, Nat.log2_zero] at hlog hsame
      omega
    have hnormal : twoTo 52 ≤ n / den := (Nat.le_log2 hne).1 (by omega)
    calc roundUnits m den ≤ twoTo 53 * spacing (m / den) := roundUnits_le_spacing m den
      _ = twoTo 52 * (spacing (m / den) * 2) := by rw [twoTo_succ 52]; ring
      _ ≤ twoTo 52 * spacing (n / den) := Nat.mul_le_mul_left _ hstep
      _ ≤ roundUnits n den := spacing_le_roundUnits hnormal

end Crosstab.Number.Binary64
