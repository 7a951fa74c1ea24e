import Crosstab.Proofs.Calendar.Bounds
import Crosstab.Proofs.Number.Bounded

/-!
# Milliseconds of instants

The milliseconds of an instant are computed from its seconds, which are rounded, times a thousand,
rounded again, and are cut down to a whole number. Two roundings err by no more than one part in
2⁵², so what is computed is the whole millisecond of the instant, or one beside it.
-/

namespace Crosstab

namespace Number.Binary64

/-! ## Units -/

/-- The units of a number of microseconds in milliseconds, as they are computed. -/
def milliUnits (micros : Nat) : Nat :=
  roundUnits (roundUnits (micros * one) 1000000 * (1000 * one)) one

theorem milliUnits_mono {m n : Nat} (h : m ≤ n) : milliUnits m ≤ milliUnits n :=
  roundUnits_mono (Nat.mul_le_mul_right _ (roundUnits_mono (Nat.mul_le_mul_right _ h)))

theorem milliUnits_zero : milliUnits 0 = 0 := by decide +kernel

/-- The two roundings together err by no more than one part in 2⁵². -/
theorem milliUnits_error (n : Nat) :
    twoTo 52 * (1000 * milliUnits n) ≤ (twoTo 52 + 1) * (n * one) ∧
      twoTo 52 * (n * one) ≤ twoTo 52 * (1000 * milliUnits n) + n * one := by
  rcases Nat.eq_zero_or_pos n with rfl | hpos
  · rw [milliUnits_zero, Nat.zero_mul]
    decide
  · have hseconds : twoTo 52 ≤ n * one / 1000000 := by
      have hone : twoTo 52 ≤ 1 * one / 1000000 := by decide +kernel
      exact hone.trans (Nat.div_le_div_right (Nat.mul_le_mul_right _ hpos))
    have hfirst := roundUnits_relative (by decide) hseconds
    have hnormal : twoTo 52 ≤ roundUnits (n * one) 1000000 :=
      (Nat.le_mul_of_pos_right _ (spacing_pos _)).trans (spacing_le_roundUnits hseconds)
    rw [milliUnits]
    generalize roundUnits (n * one) 1000000 = u at hfirst hnormal
    have hthousand : u * (1000 * one) = 1000 * u * one := by ring
    have hproduct : twoTo 52 ≤ u * (1000 * one) / one := by
      rw [hthousand, Nat.mul_div_cancel _ one_pos]
      omega
    have hsecond := roundUnits_relative one_pos hproduct
    generalize roundUnits (u * (1000 * one)) one = v at hsecond
    have hup : (twoTo 53 + 1) * v ≤ (twoTo 53 + 2) * (1000 * u) := by
      refine Nat.le_of_mul_le_mul_right ?_ one_pos
      rw [Nat.mul_assoc, Nat.mul_assoc, ← hthousand]
      exact hsecond.1
    have hdown : twoTo 53 * (1000 * u) ≤ (twoTo 53 + 1) * v := by
      refine Nat.le_of_mul_le_mul_right ?_ one_pos
      rw [Nat.mul_assoc, Nat.mul_assoc (twoTo 53 + 1), ← hthousand]
      exact hsecond.2
    have h52 : twoTo 52 = 4503599627370496 := by decide
    have h53 : twoTo 53 = 9007199254740992 := by decide
    rw [h53] at hfirst hup hdown
    rw [h52]
    generalize n * one = micros at hfirst ⊢
    omega

/-- Nothing is lost of a number of 64ths of a second. -/
theorem milliUnits_exact {n : Nat} (h : 15625 ∣ n) (hn : n < tenTo 18) :
    1000 * milliUnits n = n * one := by
  obtain ⟨j, rfl⟩ := h
  have hj : 125 * j ≤ twoTo 53 := by
    have hbound : tenTo 18 ≤ 125 * twoTo 53 := by decide
    omega
  have hone : one = 64 * twoTo 1068 := by
    have h6 : twoTo 6 = 64 := rfl
    rw [one, ← h6, ← twoTo_add, places]
  have hshift : twoTo 1071 = 8 * twoTo 1068 := by
    have h3 : twoTo 3 = 8 := rfl
    rw [← h3, ← twoTo_add]
  have hseconds : 15625 * j * one = j * twoTo 1068 * 1000000 := by
    rw [hone]
    ring
  have hmillis : j * twoTo 1068 * (1000 * one) = 125 * j * twoTo 1071 * one := by
    rw [hshift]
    ring
  rw [milliUnits, hseconds, roundUnits_exact 1068 (by decide) (by omega), hmillis,
    roundUnits_exact 1071 one_pos hj, hshift]
  ring

/-! ## Units of whole milliseconds -/

variable {k e u : Nat}

theorem lt_of_shifted (hlow : 1024 * twoTo e < k) (hk : k ≤ twoTo 53) : e < 43 := by
  have hless : twoTo (10 + e) < twoTo 53 := by
    rw [twoTo_add]
    exact Nat.lt_of_lt_of_le hlow hk
  have := (Nat.pow_lt_pow_iff_right (by decide : 1 < 2)).1 hless
  omega

/-- A power of two by the units of one that comes so many places above it. -/
theorem twoTo_shifted {a : Nat} (b e : Nat) (h : a = b + (e + places)) :
    twoTo a = twoTo b * (twoTo e * one) := by
  rw [twoTo_mul_one, ← twoTo_add, h]

/-- The spacing of the seconds, if there are from 2ᵉ to twice as many. -/
theorem spacing_seconds (hlow : 1024 * twoTo e < k) (hhigh : k < 2000 * twoTo e) :
    spacing (1000 * k * one / 1000000) = twoTo (1022 + e) := by
  have hbelow := Nat.mul_lt_mul_of_pos_right hlow one_pos
  have habove := Nat.mul_lt_mul_of_pos_right hhigh one_pos
  refine spacing_eq _ ?_ ?_
  · rw [twoTo_shifted 0 e (by rw [places]; omega), Nat.le_div_iff_mul_le (by decide)]
    show 1 * (twoTo e * one) * 1000000 ≤ _
    linarith
  · rw [twoTo_shifted 1 e (by rw [places]; omega), Nat.div_lt_iff_lt_mul (by decide)]
    show _ < 2 * (twoTo e * one) * 1000000
    linarith

/-- The spacing of the seconds is a small part of one, and so is that of the product, ten places
above it. -/
theorem spacing_fine (he : e < 43) : twoTo (1032 + e) = 1024 * twoTo (1022 + e) ∧
    twoTo (1032 + e) ∣ one := by
  have h10 : twoTo 10 = 1024 := rfl
  refine ⟨?_, twoTo_dvd (by rw [places]; omega)⟩
  rw [← h10, ← twoTo_add, ← Nat.add_assoc]

/-- The product of the seconds with a thousand has ten more places before the point. -/
theorem spacing_product (he : e < 43) (hlow : 1024 * twoTo e < k) (hhigh : k < 2000 * twoTo e)
    (hup : 1000 * u ≤ k * one + 500 * twoTo (1022 + e))
    (hdown : k * one ≤ 1000 * u + 500 * twoTo (1022 + e)) :
    spacing (1000 * u) = twoTo (1032 + e) := by
  obtain ⟨hsteps, hdvd⟩ := spacing_fine he
  have hfine : 1024 * twoTo (1022 + e) ≤ one := hsteps ▸ Nat.le_of_dvd one_pos hdvd
  -- the milliseconds are one away from the bounds, more than the error
  have hbelow : 1024 * (twoTo e * one) + one ≤ k * one := by
    have := Nat.mul_le_mul_right one hlow
    linarith
  have habove : k * one + one ≤ 2000 * (twoTo e * one) := by
    have := Nat.mul_le_mul_right one hhigh
    linarith
  refine spacing_eq _ ?_ ?_
  · rw [twoTo_shifted 10 e (by rw [places]; omega)]
    show 1024 * (twoTo e * one) ≤ _
    linarith
  · rw [twoTo_shifted 11 e (by rw [places]; omega)]
    show _ < 2048 * (twoTo e * one)
    have := Nat.mul_pos (twoTo_pos e) one_pos
    linarith

/-- Whole milliseconds are kept if their seconds are not too close above a power of two: then the
error of the seconds, a thousand times half their spacing, is less than half the spacing of the
product. -/
theorem milliUnits_whole (hlow : 1024 * twoTo e < k) (hhigh : k < 2000 * twoTo e)
    (hk : k ≤ twoTo 53) : milliUnits (1000 * k) = k * one := by
  have he := lt_of_shifted hlow hk
  obtain ⟨hdown, hup⟩ := roundUnits_half (1000 * k * one) (by decide : 0 < 1000000)
  rw [spacing_seconds hlow hhigh] at hdown hup
  rw [milliUnits]
  generalize roundUnits (1000 * k * one) 1000000 = u at hdown hup
  have hproduct : spacing (u * (1000 * one) / one) = twoTo (1032 + e) := by
    have hthousand : u * (1000 * one) = 1000 * u * one := by ring
    rw [hthousand, Nat.mul_div_cancel _ one_pos]
    exact spacing_product he hlow hhigh (by linarith) (by linarith)
  obtain ⟨hsteps, hdvd⟩ := spacing_fine he
  have hpos := twoTo_pos (1022 + e)
  have hless : 2 * (1000 * u) < 2 * (k * one) + twoTo (1032 + e) := by
    rw [hsteps]
    linarith
  have hmore : 2 * (k * one) < 2 * (1000 * u) + twoTo (1032 + e) := by
    rw [hsteps]
    linarith
  refine roundUnits_nearest one_pos hproduct (Nat.dvd_mul_left_of_dvd hdvd k) ?_ ?_
  · linarith [Nat.mul_lt_mul_of_pos_right hless one_pos]
  · linarith [Nat.mul_lt_mul_of_pos_right hmore one_pos]

/-! ## Whole milliseconds -/

/-- The units with the sign of the microseconds. -/
def signedUnits (micros : Int) : Int :=
  signed (micros < 0) (milliUnits micros.natAbs)

/-- The whole milliseconds of a number of microseconds, as they are computed. -/
def wholeMillis (micros : Int) : Int :=
  Int.fdiv (signedUnits micros) one

variable {μ ν : Int}

theorem signedUnits_of_neg (h : μ < 0) : signedUnits μ = -(milliUnits μ.natAbs : Int) := by
  rw [signedUnits, decide_eq_true h, signed, if_pos rfl]

theorem signedUnits_of_nonneg (h : 0 ≤ μ) : signedUnits μ = milliUnits μ.natAbs := by
  rw [signedUnits, decide_eq_false (Int.not_lt.2 h), signed, if_neg Bool.false_ne_true]

theorem signedUnits_mono (h : μ ≤ ν) : signedUnits μ ≤ signedUnits ν := by
  rcases Int.lt_or_le μ 0 with hμ | hμ
  · rcases Int.lt_or_le ν 0 with hν | hν
    · have := milliUnits_mono (by omega : ν.natAbs ≤ μ.natAbs)
      rw [signedUnits_of_neg hμ, signedUnits_of_neg hν]
      omega
    · rw [signedUnits_of_neg hμ, signedUnits_of_nonneg hν]
      omega
  · have := milliUnits_mono (by omega : μ.natAbs ≤ ν.natAbs)
    rw [signedUnits_of_nonneg hμ, signedUnits_of_nonneg (by omega)]
    omega

theorem signedUnits_error (μ : Int) :
    twoTo 52 * (1000 * signedUnits μ - μ * one) ≤ |μ| * one ∧
      twoTo 52 * (μ * one - 1000 * signedUnits μ) ≤ |μ| * one := by
  obtain ⟨hup, hdown⟩ := milliUnits_error μ.natAbs
  zify at hup hdown
  rcases Int.lt_or_le μ 0 with hμ | hμ
  · rw [signedUnits_of_neg hμ]
    rw [abs_of_neg hμ] at hup hdown ⊢
    constructor <;> linarith
  · rw [signedUnits_of_nonneg hμ]
    rw [abs_of_nonneg hμ] at hup hdown ⊢
    constructor <;> linarith

theorem signedUnits_exact (h : 1000 * milliUnits μ.natAbs = μ.natAbs * one) :
    1000 * signedUnits μ = μ * one := by
  zify at h
  rcases Int.lt_or_le μ 0 with hμ | hμ
  · rw [abs_of_neg hμ] at h
    rw [signedUnits_of_neg hμ]
    linarith
  · rw [abs_of_nonneg hμ] at h
    rw [signedUnits_of_nonneg hμ]
    exact h

theorem one_pos_int : (0 : Int) < one := Int.natCast_pos.2 one_pos

/-- The whole milliseconds are the greatest whole number that is no more than the units are. -/
theorem wholeMillis_spec (μ : Int) :
    wholeMillis μ * one ≤ signedUnits μ ∧ signedUnits μ < (wholeMillis μ + 1) * one := by
  rw [wholeMillis, Int.fdiv_eq_ediv_of_nonneg _ (Int.le_of_lt one_pos_int)]
  exact ⟨Int.ediv_mul_le _ (Int.ne_of_gt one_pos_int), Int.lt_ediv_add_one_mul_self _ one_pos_int⟩

theorem wholeMillis_mono (h : μ ≤ ν) : wholeMillis μ ≤ wholeMillis ν := by
  rw [wholeMillis, wholeMillis, Int.fdiv_eq_ediv_of_nonneg _ (Int.le_of_lt one_pos_int),
    Int.fdiv_eq_ediv_of_nonneg _ (Int.le_of_lt one_pos_int)]
  exact Int.ediv_le_ediv one_pos_int (signedUnits_mono h)

/-- The milliseconds begin after the microseconds, or end before them, by no more than the error of
the two roundings. -/
theorem wholeMillis_error (μ : Int) :
    twoTo 52 * (1000 * wholeMillis μ - μ) ≤ |μ| ∧
      twoTo 52 * (μ - 1000 * (wholeMillis μ + 1)) < |μ| := by
  obtain ⟨hup, hdown⟩ := signedUnits_error μ
  obtain ⟨hle, hlt⟩ := wholeMillis_spec μ
  have hpos : (0 : Int) < twoTo 52 := Int.natCast_pos.2 (twoTo_pos 52)
  constructor
  · refine le_of_mul_le_mul_right ?_ one_pos_int
    have := mul_le_mul_of_nonneg_left hle (Int.le_of_lt hpos)
    linarith
  · refine lt_of_mul_lt_mul_right ?_ (Int.le_of_lt one_pos_int)
    have := mul_lt_mul_of_pos_left hlt hpos
    linarith

/-- What is computed without error is cut down to the millisecond. -/
theorem wholeMillis_exact (h : 1000 * milliUnits μ.natAbs = μ.natAbs * one) :
    wholeMillis μ = μ / 1000 := by
  have hexact := signedUnits_exact h
  obtain ⟨hle, hlt⟩ := wholeMillis_spec μ
  have hbegin : 1000 * wholeMillis μ ≤ μ := by
    refine le_of_mul_le_mul_right ?_ one_pos_int
    linarith
  have hend : μ < 1000 * (wholeMillis μ + 1) := by
    refine lt_of_mul_lt_mul_right ?_ (Int.le_of_lt one_pos_int)
    linarith
  omega

/-- The milliseconds are those of the microseconds or next to them. They are exact for 64ths of a
second, and for whole milliseconds of which the seconds are more than 1.024 times the power of two
below them. They are not too few if as much as the error has gone by of the millisecond, and not too
many if more than the error is left of it. -/
structure IsNearly (micros millis : Int) : Prop where
  near : micros / 1000 - 1 ≤ millis ∧ millis ≤ micros / 1000 + 1
  fraction : 15625 ∣ micros → millis = micros / 1000
  whole : ∀ k e : Nat, |micros| = 1000 * k → 1024 * twoTo e < k → k < 2000 * twoTo e →
    millis = micros / 1000
  not_few : |micros| ≤ micros % 1000 * twoTo 52 → micros / 1000 ≤ millis
  not_many : |micros| < (1000 - micros % 1000) * twoTo 52 → millis ≤ micros / 1000

theorem wholeMillis_isNearly (h : |μ| < tenTo 18) : IsNearly μ (wholeMillis μ) := by
  have hnat : μ.natAbs < tenTo 18 := by
    zify
    exact h
  obtain ⟨hup, hdown⟩ := wholeMillis_error μ
  have h52 : (twoTo 52 : Int) = 4503599627370496 := by decide
  have h18 : (tenTo 18 : Int) = 1000000000000000000 := by decide
  rw [h52] at hup hdown
  rw [h18] at h
  refine ⟨?_, ?_, ?_, ?_, ?_⟩
  · generalize |μ| = error at hup hdown h
    omega
  · intro hdvd
    exact wholeMillis_exact (milliUnits_exact (Int.natCast_dvd.1 hdvd) hnat)
  · intro k e hk hlow hhigh
    have hsame : μ.natAbs = 1000 * k := by
      zify
      exact hk
    have hsmall : k ≤ twoTo 53 := by
      have hbound : tenTo 18 ≤ 1000 * twoTo 53 := by decide
      omega
    refine wholeMillis_exact ?_
    rw [hsame, milliUnits_whole hlow hhigh hsmall, Nat.mul_assoc]
  · intro hmore
    rw [h52] at hmore
    generalize |μ| = error at hdown hmore
    omega
  · intro hless
    rw [h52] at hless
    generalize |μ| = error at hup hless
    omega

end Number.Binary64

open Number Binary64 Calendar

namespace Value

/-- The value is an instant so many microseconds after the start of 1970: a moment, with an offset
of less than a day if it has one, or a date. -/
inductive IsInstant : Value → Int → Prop where
  | moment {m : Moment} (h : m.OffsetInDay) : IsInstant (.moment m) m.epochMicros
  | date (d : Date) : IsInstant (.date d) d.moment.epochMicros

variable {v w : Value} {μ ν : Int}

theorem epochMillis_moment {m : Moment} (h : m.OffsetInDay) :
    (Value.moment m).epochMillis = .ok (some (wholeMillis m.epochMicros)) := by
  have hbound : m.epochMicros.natAbs < secondsBound * 1000000 := by
    have hmicros := Moment.epochMicros_lt h
    have h21 : tenTo 18 < secondsBound * 1000000 := by decide
    zify at h21 ⊢
    exact hmicros.trans h21
  obtain ⟨hunits, hseconds⟩ := ofRatio_units (decide (m.epochMicros < 0)) hbound
  have hproduct := mul_thousand (decide (m.epochMicros < 0)) hunits
  rw [← hseconds] at hproduct
  exact epochMillis_of_finite Value.noConfusion rfl hproduct

theorem IsInstant.epochMillis (h : v.IsInstant μ) :
    v.epochMillis = .ok (some (wholeMillis μ)) ∧ |μ| < tenTo 18 := by
  cases h with
  | moment h => exact ⟨epochMillis_moment h, Moment.epochMicros_lt h⟩
  | date d =>
    have h : d.moment.OffsetInDay := by
      rintro o ⟨⟩
      decide
    exact ⟨epochMillis_moment h, Moment.epochMicros_lt h⟩

/-- An instant has milliseconds, which are nearly its own, and a later one has no fewer. -/
theorem instants_have_nearly_their_millis (hv : v.IsInstant μ) :
    ∃ t, v.epochMillis = .ok (some t) ∧ IsNearly μ t ∧
      ∀ (w : Value) (ν : Int), w.IsInstant ν → μ ≤ ν →
        ∃ s, w.epochMillis = .ok (some s) ∧ t ≤ s := by
  obtain ⟨hmillis, hbound⟩ := hv.epochMillis
  refine ⟨_, hmillis, wholeMillis_isNearly hbound, ?_⟩
  intro w ν hw h
  exact ⟨_, hw.epochMillis.1, wholeMillis_mono h⟩

/-- A moment of a morning in May, nine hours ahead of universal time. -/
def mayMorning : Moment :=
  ⟨⟨2024, 5, 6, by decide⟩, ⟨7, 8, 9, 123456, by decide⟩, some (9 * 3600 * 1000000)⟩

theorem mayMorning_has_its_millis :
    (Value.moment mayMorning).IsInstant 1714946889123456 ∧
    (Value.moment mayMorning).epochMillis = .ok (some 1714946889123) ∧
    ∃ s, (Value.date ⟨2024, 5, 7, by decide⟩).epochMillis = .ok (some s) ∧ 1714946889123 ≤ s := by
  have hmicros : mayMorning.epochMicros = 1714946889123456 := by decide +kernel
  have hinstant : (Value.moment mayMorning).IsInstant 1714946889123456 := by
    rw [← hmicros]
    refine .moment ?_
    rintro o ⟨⟩
    decide
  obtain ⟨t, hmillis, hnearly, hlater⟩ := instants_have_nearly_their_millis hinstant
  have h52 : (twoTo 52 : Int) = 4503599627370496 := by decide
  have habs : |(1714946889123456 : Int)| = 1714946889123456 := rfl
  have hfew := hnearly.not_few (by rw [h52, habs]; decide)
  have hmany := hnearly.not_many (by rw [h52, habs]; decide)
  obtain rfl : t = 1714946889123 := by omega
  have hday : mayMorning.epochMicros ≤ (Date.moment ⟨2024, 5, 7, by decide⟩).epochMicros := by
    decide +kernel
  exact ⟨hinstant, hmillis, hlater _ _ (.date _) (hmicros ▸ hday)⟩

/-- A moment on a whole millisecond in the winter of 2004, when the seconds have passed 2³⁰. -/
def winterMorning : Moment :=
  ⟨⟨2004, 2, 3, by decide⟩, ⟨4, 5, 6, 1000, by decide⟩, none⟩

/-- It has a millisecond too few. -/
theorem winterMorning_has_too_few_millis :
    winterMorning.epochMicros = 1000 * 1075781106001 ∧
    (Value.moment winterMorning).epochMillis = .ok (some 1075781106000) := by
  constructor
  · decide +kernel
  · decide +kernel

end Value

end Crosstab
