import Crosstab.Proofs.Numeral
import Mathlib.Data.List.Induction
import Mathlib.Data.Nat.Digits.Defs

/-!
# Texts that look like whole numbers

A text of digits with minuses before them looks like a whole number. It is one if there is no more
than one minus and all digits are decimal, of whatever script, and few enough.
-/

namespace Crosstab.Number

open Text

/-! ## Plain forms of digits -/

/-- No digit is blank. -/
theorem not_isBlankChar_of_isDigitChar {c : Char} (h : isDigitChar c = true) :
    isBlankChar c = false := by
  have hdecimal : ∀ r ∈ blankRanges, ∀ z ∈ decimalZeros, r.last < z ∨ z + 10 ≤ r.first := by
    decide +kernel
  have hother : ∀ r ∈ blankRanges, ∀ d ∈ otherDigitRanges, r.last < d.first ∨ d.last < r.first := by
    decide +kernel
  refine List.any_eq_false.2 fun r hr hin => ?_
  simp only [CodeRange.contains, Bool.and_eq_true, decide_eq_true_eq] at hin
  rcases Bool.or_eq_true_iff.1 h with h | h
  · simp only [decimalValue?, Option.isSome_map, List.find?_isSome, Bool.and_eq_true,
      decide_eq_true_eq] at h
    obtain ⟨z, hz, hlow, hhigh⟩ := h
    have := hdecimal r hr z hz
    omega
  · obtain ⟨d, hd, hdin⟩ := List.any_eq_true.1 h
    simp only [CodeRange.contains, Bool.and_eq_true, decide_eq_true_eq] at hdin
    have := hother r hr d hd
    omega

theorem decimalValue?_lt {c : Char} {d : Nat} (h : decimalValue? c = some d) : d < 10 := by
  obtain ⟨z, hz, rfl⟩ := Option.map_eq_some_iff.1 h
  have hin := List.find?_some hz
  simp only [Bool.and_eq_true, decide_eq_true_eq] at hin
  omega

/-- The digits of ASCII are the plain ones. -/
theorem digits_of_ascii {c : Char} (h : c.toNat < 127) :
    decimalValue? c = asciiDigit? c ∧ (isDigitChar c = true → (decimalValue? c).isSome = true) := by
  have hall : ∀ n < 127, decimalValue? (Char.ofNat n) = asciiDigit? (Char.ofNat n) ∧
      (isDigitChar (Char.ofNat n) = true → (decimalValue? (Char.ofNat n)).isSome = true) := by
    decide +kernel
  have := hall c.toNat h
  rwa [Char.ofNat_toNat] at this

/-- A decimal digit has the plain digit of its value for its plain form. -/
theorem asciiDigit?_plainChar {c : Char} {d : Nat} (h : decimalValue? c = some d) :
    asciiDigit? (plainChar c) = some d := by
  by_cases hascii : c.toNat < 127
  · rw [plainChar, if_pos hascii, ← (digits_of_ascii hascii).1, h]
  · have hdigit : isDigitChar c = true := by rw [isDigitChar, h, Option.isSome_some, Bool.true_or]
    have hblank := not_isBlankChar_of_isDigitChar hdigit
    have hplain : plainChar c = Char.ofNat (48 + d) := by
      rw [plainChar, if_neg hascii, hblank, if_neg Bool.false_ne_true, h]
    have hten : ∀ d < 10, asciiDigit? (Char.ofNat (48 + d)) = some d := by decide
    rw [hplain, hten d (decimalValue?_lt h)]

/-- A digit that is not decimal has none. -/
theorem plainChar_of_not_decimal {c : Char} (hdigit : isDigitChar c = true)
    (h : decimalValue? c = none) : plainChar c = '?' := by
  by_cases hascii : c.toNat < 127
  · have hsome := (digits_of_ascii hascii).2 hdigit
    rw [h] at hsome
    cases hsome
  · have hblank := not_isBlankChar_of_isDigitChar hdigit
    rw [plainChar, if_neg hascii, hblank, if_neg Bool.false_ne_true, h]

/-! ## Minuses and digits -/

/-- The character is a minus or a digit. -/
def IsDashOrDigit (c : Char) : Prop :=
  c = '-' ∨ isDigitChar c = true

variable {c : Char} {cs : List Char} {s : String} {n : Int}

theorem plainChar_cases (h : IsDashOrDigit c) :
    c = '-' ∨ plainChar c = '?' ∧ decimalValue? c = none ∨
      (plainChar c).isDigit = true ∧ (decimalValue? c).isSome = true := by
  rcases h with rfl | hdigit
  · exact .inl rfl
  · cases h : decimalValue? c with
    | none => exact .inr (.inl ⟨plainChar_of_not_decimal hdigit h, rfl⟩)
    | some d =>
      refine .inr (.inr ⟨?_, rfl⟩)
      rw [← isPlainDigit_eq, isPlainDigit, asciiDigit?_plainChar h, Option.isSome_some]

theorem isDigit_plainChar (h : IsDashOrDigit c) :
    (plainChar c).isDigit = (decimalValue? c).isSome := by
  rcases plainChar_cases h with rfl | ⟨hplain, hvalue⟩ | ⟨hplain, hvalue⟩
  · decide
  · rw [hplain, hvalue]
    rfl
  · rw [hplain, hvalue]

theorem not_isPadding_plainChar (h : IsDashOrDigit c) : isPadding (plainChar c) = false := by
  rcases plainChar_cases h with rfl | ⟨hplain, -⟩ | ⟨hplain, -⟩
  · decide
  · rw [hplain]
    decide
  · exact not_isPadding_of_isDigit hplain

/-- Plain forms are minuses, digits and question marks. -/
theorem not_mem_plain (h : ∀ c ∈ cs, IsDashOrDigit c) {d : Char} (hd : d.isDigit = false)
    (hminus : d ≠ '-') (hquestion : d ≠ '?') : d ∉ cs.map plainChar := by
  intro hmem
  obtain ⟨c, hc, rfl⟩ := List.mem_map.1 hmem
  rcases plainChar_cases (h c hc) with rfl | ⟨hplain, -⟩ | ⟨hplain, -⟩
  · exact hminus (by decide)
  · exact hquestion hplain
  · rw [hplain] at hd
    cases hd

/-- A minus or a digit of ASCII is its own plain form. -/
theorem plainChar_of_ascii (h : IsDashOrDigit c) (hascii : c.toNat < 128) : plainChar c = c := by
  have hall : ∀ n < 128, Char.ofNat n = '-' ∨ isDigitChar (Char.ofNat n) = true →
      plainChar (Char.ofNat n) = Char.ofNat n := by decide +kernel
  have := hall c.toNat hascii
  rw [Char.ofNat_toNat] at this
  exact this h

/-- Nothing is cut from minuses and digits. -/
theorem plainChars_of_dashes (h : ∀ c ∈ s.toList, IsDashOrDigit c) :
    plainChars s = s.toList.map plainChar := by
  have hsame : s.toList.all (·.toNat < 128) = true → s.toList.map plainChar = s.toList := by
    intro hascii
    refine (List.map_congr_left fun c hc => ?_).trans (List.map_id _)
    exact plainChar_of_ascii (h c hc) (of_decide_eq_true (List.all_eq_true.1 hascii c hc))
  have hpadding : ∀ c ∈ s.toList.map plainChar, isPadding c = false := by
    intro c hc
    obtain ⟨d, hd, rfl⟩ := List.mem_map.1 hc
    exact not_isPadding_plainChar (h d hd)
  unfold plainChars
  split
  · next hascii => rw [hsame hascii, dropAround_eq (hsame hascii ▸ hpadding)]
  · exact dropAround_eq hpadding

/-! ## Numbers -/

/-- The number that decimal digits spell, of which there is at least one and not too many. -/
def natOf? (ds : List Char) : Option Nat :=
  if ds ≠ [] ∧ ds.length ≤ maxDigits ∧ ds.all (fun c => (decimalValue? c).isSome) = true then
    some (Nat.ofDigits 10 (ds.reverse.filterMap decimalValue?))
  else none

/-- The number that a text spells by decimal digits, with no more than one minus before them. -/
def spelled? (s : String) : Option Int :=
  match s.toList with
  | '-' :: ds => (natOf? ds).map fun n : Nat => -(n : Int)
  | ds => (natOf? ds).map fun n : Nat => (n : Int)

/-- The plain forms of decimal digits have their value. -/
theorem digitsValue_plain (h : ∀ c ∈ cs, (decimalValue? c).isSome = true) :
    digitsValue (cs.map plainChar) = Nat.ofDigits 10 (cs.reverse.filterMap decimalValue?) := by
  induction cs using List.reverseRecOn with
  | nil => rfl
  | append_singleton cs c ih =>
    obtain ⟨d, hd⟩ := Option.isSome_iff_exists.1 (h c (List.mem_append_right _ List.mem_cons_self))
    have hbefore := ih fun c hc => h c (List.mem_append_left _ hc)
    have hstep : digitsValue ((cs ++ [c]).map plainChar) =
        digitsValue (cs.map plainChar) * 10 + d := by
      rw [List.map_append, digitsValue, List.foldl_append, ← digitsValue]
      simp only [List.map_cons, List.map_nil, List.foldl_cons, List.foldl_nil,
        asciiDigit?_plainChar hd, Option.getD_some]
    rw [hstep, hbefore, List.reverse_append, List.reverse_singleton, List.singleton_append,
      List.filterMap_cons_some hd, Nat.ofDigits_cons, Nat.mul_comm, Nat.add_comm]

/-- Minuses and digits are read as the number that they spell, and only then. -/
theorem readInt_split {negative : Bool} (h : ∀ c ∈ cs, IsDashOrDigit c)
    (hsign : splitSign (plainChars s) = (negative, cs.map plainChar)) :
    readInt s = .ok n ↔
      (natOf? cs).map (fun m : Nat => if negative then -(m : Int) else m) = some n := by
  have hall : AllDigits (cs.map plainChar) ↔ ∀ c ∈ cs, (decimalValue? c).isSome = true := by
    rw [AllDigits, List.forall_mem_map]
    exact forall₂_congr fun c hc => by rw [isDigit_plainChar (h c hc)]
  have hunder := not_mem_plain h (d := '_') (by decide) (by decide) (by decide)
  by_cases hspells : cs ≠ [] ∧ cs.length ≤ maxDigits ∧
      cs.all (fun c => (decimalValue? c).isSome) = true
  · obtain ⟨hne, hfew, halldecimal⟩ := hspells
    have hdecimal := List.all_eq_true.1 halldecimal
    have hlength : (cs.map plainChar).length ≤ maxDigits := by rwa [List.length_map]
    have hread := readInt_digits hsign (hall.2 hdecimal) (mt List.map_eq_nil_iff.1 hne) hlength
    have hnat : natOf? cs = some (Nat.ofDigits 10 (cs.reverse.filterMap decimalValue?)) :=
      if_pos ⟨hne, hfew, halldecimal⟩
    rw [hread, hnat, digitsValue_plain hdecimal, Option.map_some, Except.ok.injEq,
      Option.some.injEq]
  · have hnat : natOf? cs = none := if_neg hspells
    rw [hnat, Option.map_none]
    refine iff_of_false (fun hread => hspells ?_) nofun
    obtain ⟨hdigits, hne, hfew⟩ := digits_of_readInt hsign hunder hread
    rw [List.length_map] at hfew
    exact ⟨mt List.map_eq_nil_iff.2 hne, hfew, List.all_eq_true.2 (hall.1 hdigits)⟩

/-- A text of minuses and digits is read just if it spells a number. -/
theorem readInt_iff (h : ∀ c ∈ s.toList, IsDashOrDigit c) :
    readInt s = .ok n ↔ spelled? s = some n := by
  have hplain := plainChars_of_dashes h
  unfold spelled?
  split
  · next ds hds =>
    have hminus : plainChar '-' = '-' := by decide
    rw [hds, List.map_cons, hminus] at hplain
    rw [hds] at h
    have hsign : splitSign (plainChars s) = (true, ds.map plainChar) := by rw [hplain, splitSign]
    exact readInt_split (List.forall_mem_cons.1 h).2 hsign
  · next hfirst =>
    have hminus : (s.toList.map plainChar).head? ≠ some '-' := by
      intro hhead
      obtain ⟨rest, hrest⟩ := List.head?_eq_some_iff.1 hhead
      obtain ⟨c, cs, hcs, hc, -⟩ := List.map_eq_cons_iff.1 hrest
      rcases plainChar_cases (h c (hcs ▸ List.mem_cons_self)) with rfl | ⟨hplain, -⟩ | ⟨hplain, -⟩
      · exact hfirst cs hcs
      · rw [hc] at hplain
        cases hplain
      · rw [hc] at hplain
        cases hplain
    have hplus := not_mem_plain h (d := '+') (by decide) (by decide) (by decide)
    have hsign : splitSign (plainChars s) = (false, s.toList.map plainChar) := by
      rw [hplain]
      exact splitSign_unsigned hminus (mt List.mem_of_mem_head? hplus)
    exact readInt_split h hsign

/-- What spells a number is digits with perhaps a minus before them. -/
theorem digits_of_natOf? {m : Nat} (h : natOf? cs = some m) :
    cs ≠ [] ∧ ∀ c ∈ cs, isDigitChar c = true := by
  obtain ⟨⟨hne, -, hdecimal⟩, -⟩ := Option.ite_none_right_eq_some.1 h
  refine ⟨hne, fun c hc => ?_⟩
  rw [isDigitChar, List.all_eq_true.1 hdecimal c hc, Bool.true_or]

/-- A text of minuses and not too many digits that spells no number is not read. -/
theorem readInt_of_unspelled (h : ∀ c ∈ s.toList, IsDashOrDigit c) (hnone : spelled? s = none) :
    ∃ f, readInt s = .error f ∧ (s.toList.countP isDigitChar ≤ maxDigits → f = .notWhole s) := by
  cases hread : readInt s with
  | ok n =>
    have hspelled := (readInt_iff h).1 hread
    rw [hnone] at hspelled
    cases hspelled
  | error f =>
    refine ⟨f, rfl, fun hfew => notWhole_of_readInt hread ?_⟩
    refine Nat.le_trans ?_ hfew
    rw [plainChars_of_dashes h, ← List.countP_eq_length_filter, List.countP_map]
    refine List.countP_mono_left fun c hc hplain => ?_
    rw [Function.comp_apply, isPlainDigit_eq, isDigit_plainChar (h c hc)] at hplain
    rw [isDigitChar, hplain, Bool.true_or]

end Crosstab.Number
