import Crosstab.Number.Numeral
import Mathlib.Data.List.TakeWhile

/-!
# Numerals of whole numbers

A whole number that has few enough digits to be written is read again from its text. The digits of
its size are plain ones, at least one, and the first is no zero unless it is the only one.
-/

namespace Crosstab.Number

open Text

/-! ## Plain digits -/

theorem isPlainDigit_eq (c : Char) : isPlainDigit c = c.isDigit := by
  have hiff : ('0' ≤ c ∧ c ≤ '9') ↔ c.isDigit = true := by
    simp only [Char.isDigit, Bool.and_eq_true, decide_eq_true_eq]
    exact Iff.rfl
  unfold isPlainDigit asciiDigit?
  by_cases h : c.isDigit = true
  · have hrange : ('0' ≤ c && c ≤ '9') = true := by simpa using hiff.2 h
    rw [if_pos hrange, h]
    rfl
  · have hrange : ¬('0' ≤ c && c ≤ '9') = true := fun hc => h (hiff.1 (by simpa using hc))
    rw [if_neg hrange, Bool.eq_false_iff.2 h]
    rfl

/-- The characters are digits from `0` to `9`. -/
def AllDigits (cs : List Char) : Prop :=
  ∀ c ∈ cs, c.isDigit = true

theorem allDigits_toDigits (n : Nat) : AllDigits (Nat.toDigits 10 n) := fun _ hc =>
  Nat.isDigit_of_mem_toDigits (by decide) (by decide) hc

/-- A digit is no other character. -/
theorem ne_of_isDigit {c d : Char} (hc : c.isDigit = true) (hd : d.isDigit = false) : c ≠ d := by
  rintro rfl
  exact absurd hc (by simp [hd])

theorem toNat_of_isDigit {c : Char} (h : c.isDigit = true) : 48 ≤ c.toNat ∧ c.toNat ≤ 57 := by
  simp only [Char.isDigit, Bool.and_eq_true, decide_eq_true_eq] at h
  exact h

/-- The number that digits spell does not depend on the reader. -/
theorem digitsValue_eq {cs : List Char} (h : AllDigits cs) :
    digitsValue cs = Nat.ofDigitChars 10 cs 0 := by
  suffices hfrom : ∀ n, cs.foldl (fun n c => n * 10 + (asciiDigit? c).getD 0) n =
      Nat.ofDigitChars 10 cs n from hfrom 0
  induction cs with
  | nil => exact fun _ => rfl
  | cons c cs ih =>
    obtain ⟨hc, hcs⟩ := List.forall_mem_cons.1 h
    have hvalue : (asciiDigit? c).getD 0 = c.toNat - '0'.toNat := by
      have hplain := isPlainDigit_eq c ▸ hc
      unfold isPlainDigit asciiDigit? at hplain
      unfold asciiDigit?
      split
      · rfl
      · next hrange => simp [hrange] at hplain
    intro n
    rw [List.foldl_cons, ih hcs, Nat.ofDigitChars_cons, hvalue, Nat.mul_comm n 10]

theorem digitsValue_toDigits (n : Nat) : digitsValue (Nat.toDigits 10 n) = n := by
  rw [digitsValue_eq (allDigits_toDigits n), Nat.ofDigitChars_ten_toDigits]

/-- The digits of a number start with a zero only for zero itself. -/
theorem head_toDigits {n : Nat} (h : 0 < n) (cs : List Char) : Nat.toDigits 10 n ≠ '0' :: cs := by
  induction n using Nat.strongRecOn generalizing cs with
  | ind n ih =>
    by_cases hn : n < 10
    · have hall : ∀ m ∈ List.range 10, 0 < m → Nat.digitChar m ≠ '0' := by decide
      rw [Nat.toDigits_of_lt_base hn]
      exact fun heq => hall n (List.mem_range.2 hn) h (List.cons.inj heq).1
    · rw [Nat.toDigits_of_base_le (by decide) (Nat.le_of_not_lt hn)]
      intro heq
      cases hd : Nat.toDigits 10 (n / 10) with
      | nil => exact Nat.toDigits_ne_nil hd
      | cons d ds =>
        rw [hd, List.cons_append] at heq
        have hzero : d = '0' := (List.cons.inj heq).1
        exact ih (n / 10) (by omega) (by omega) ds (hzero ▸ hd)

/-! ## Texts -/

theorem toList_intText_ofNat (n : Nat) : (intText n).toList = Nat.toDigits 10 n := by
  show (Nat.repr n).toList = _
  rw [Nat.repr_eq_ofList_toDigits, String.toList_ofList]

theorem toList_intText_negSucc (n : Nat) :
    (intText (.negSucc n)).toList = '-' :: Nat.toDigits 10 (n + 1) := by
  show ("-" ++ Nat.repr (n + 1)).toList = _
  rw [String.toList_append]
  exact congrArg ('-' :: ·) (toList_intText_ofNat (n + 1))

/-- The sign of a whole number. -/
def signOf : Int → List Char
  | .ofNat _ => []
  | .negSucc _ => ['-']

/-- The text of a whole number is its sign and the digits of its size. -/
theorem toList_intText (n : Int) : (intText n).toList = signOf n ++ Nat.toDigits 10 n.natAbs := by
  cases n with
  | ofNat n => exact toList_intText_ofNat n
  | negSucc n => exact toList_intText_negSucc n

/-- The characters of a whole number are digits, and perhaps a minus. -/
theorem mem_intText {n : Int} {c : Char} (hc : c ∈ (intText n).toList) :
    c = '-' ∨ c.isDigit = true := by
  rw [toList_intText] at hc
  rcases List.mem_append.1 hc with hc | hc
  · cases n with
    | ofNat n => exact nomatch hc
    | negSucc n => exact .inl (List.mem_singleton.1 hc)
  · exact .inr (allDigits_toDigits _ c hc)

theorem toDigits_cons (n : Nat) : ∃ d ds, Nat.toDigits 10 n = d :: ds ∧ d.isDigit = true := by
  cases hd : Nat.toDigits 10 n with
  | nil => exact absurd hd Nat.toDigits_ne_nil
  | cons d ds => exact ⟨d, ds, rfl, allDigits_toDigits n d (hd ▸ List.mem_cons_self)⟩

/-- The text of a whole number starts with a digit, or with a minus before one. -/
theorem intText_cases (n : Int) : ∃ d ds, d.isDigit = true ∧
    ((intText n).toList = d :: ds ∨ (intText n).toList = '-' :: d :: ds) := by
  cases n with
  | ofNat n =>
    obtain ⟨d, ds, hd, hdigit⟩ := toDigits_cons n
    exact ⟨d, ds, hdigit, .inl (hd ▸ toList_intText_ofNat n)⟩
  | negSucc n =>
    obtain ⟨d, ds, hd, hdigit⟩ := toDigits_cons (n + 1)
    exact ⟨d, ds, hdigit, .inr (hd ▸ toList_intText_negSucc n)⟩

theorem toDigits_inj {m n : Nat} (h : Nat.toDigits 10 m = Nat.toDigits 10 n) : m = n := by
  rw [← digitsValue_toDigits m, h, digitsValue_toDigits]

/-- The text of a whole number tells the number. -/
theorem intText_inj {m n : Int} (h : intText m = intText n) : m = n := by
  have hsigns : ∀ k l : Nat, Nat.toDigits 10 k ≠ '-' :: Nat.toDigits 10 (l + 1) := by
    intro k l heq
    have hminus : '-' ∈ Nat.toDigits 10 k := heq ▸ List.mem_cons_self
    exact absurd (allDigits_toDigits k _ hminus) (by decide)
  have hchars := congrArg String.toList h
  rw [toList_intText, toList_intText] at hchars
  cases m with
  | ofNat k =>
    cases n with
    | ofNat l => exact congrArg Int.ofNat (toDigits_inj hchars)
    | negSucc l => exact absurd hchars (hsigns k l)
  | negSucc k =>
    cases n with
    | ofNat l => exact absurd hchars.symm (hsigns l k)
    | negSucc l =>
      exact congrArg Int.negSucc (Nat.succ.inj (toDigits_inj (List.cons.inj hchars).2))

/-- A smaller number can be written if a larger one can. -/
theorem isWritable_of_le {m n : Int} (hm : 0 ≤ m) (h : m ≤ n) (hn : isWritable n = true) :
    isWritable m = true := by
  have hwidest : n.natAbs < tenTo maxDigits := of_decide_eq_true hn
  refine decide_eq_true (Nat.lt_of_le_of_lt ?_ hwidest)
  omega

/-- A number of one digit can be written. -/
theorem isWritable_digit {n : Int} (hlow : 0 ≤ n) (hhigh : n ≤ 9) : isWritable n = true :=
  isWritable_of_le hlow hhigh (by decide +kernel)

/-! ## Reading -/

theorem not_isPadding_of_isDigit {c : Char} (h : c.isDigit = true) : isPadding c = false := by
  obtain ⟨h1, _⟩ := toNat_of_isDigit h
  have hspace : c ≠ ' ' := ne_of_isDigit h (by decide)
  have hrange : ¬c ≤ '\r' := by
    show ¬c.toNat ≤ 13
    omega
  simp [isPadding, hspace, hrange]

theorem not_isBlankChar_of_isDigit {c : Char} (h : c.isDigit = true) : isBlankChar c = false := by
  obtain ⟨h1, h2⟩ := toNat_of_isDigit h
  have houtside : ∀ r ∈ blankRanges, r.last < 48 ∨ 57 < r.first := by decide
  refine List.any_eq_false.2 fun r hr hin => ?_
  obtain ⟨hfirst, hlast⟩ := Bool.and_eq_true_iff.1 hin
  have hlow := of_decide_eq_true hfirst
  have hhigh := of_decide_eq_true hlast
  rcases houtside r hr with h | h
  · omega
  · omega

/-- Only what stands around characters of which none is of the class is cut. -/
theorem dropAround_append {p : Char → Bool} {before cs after : List Char}
    (hbefore : ∀ c ∈ before, p c = true) (h : ∀ c ∈ cs, p c = false)
    (hafter : ∀ c ∈ after, p c = true) : dropAround p (before ++ cs ++ after) = cs := by
  have hkeep : ∀ ds : List Char, (∀ c ∈ ds, p c = false) → ds.dropWhile p = ds := by
    intro ds hds
    cases ds with
    | nil => rfl
    | cons d ds => rw [List.dropWhile_cons, hds d List.mem_cons_self, if_neg Bool.false_ne_true]
  have hlast : ∀ c ∈ after.reverse, p c = true := fun c hc => hafter c (List.mem_reverse.1 hc)
  have hcs : ∀ c ∈ cs.reverse, p c = false := fun c hc => h c (List.mem_reverse.1 hc)
  rw [dropAround, dropLeading, List.append_assoc, List.dropWhile_append_of_pos hbefore,
    dropTrailing]
  cases cs with
  | nil => simp [List.dropWhile_eq_nil_iff.2 hafter]
  | cons c cs =>
    have hfirst : (c :: cs ++ after).dropWhile p = c :: cs ++ after := by
      rw [List.cons_append, List.dropWhile_cons, h c List.mem_cons_self, if_neg Bool.false_ne_true]
    rw [hfirst, List.reverse_append, List.dropWhile_append_of_pos hlast, hkeep _ hcs,
      List.reverse_reverse]

/-- Nothing is cut from characters of which none is of the class. -/
theorem dropAround_eq {p : Char → Bool} {cs : List Char} (h : ∀ c ∈ cs, p c = false) :
    dropAround p cs = cs := by
  have hnone : ∀ c ∈ ([] : List Char), p c = true := nofun
  simpa using dropAround_append hnone h hnone

theorem underscoresApart_digits {cs : List Char} (h : AllDigits cs) :
    underscoresApart cs = true := by
  induction cs with
  | nil => rfl
  | cons c cs ih =>
    obtain ⟨hc, hcs⟩ := List.forall_mem_cons.1 h
    have hne : c ≠ '_' := ne_of_isDigit hc (by decide)
    rw [underscoresApart.eq_4]
    · exact ih hcs
    · rintro rfl
      exact fun _ => hne rfl
    · rintro rest rfl
      exact fun _ => hne rfl

/-- Characters that start with no sign are not split. -/
theorem splitSign_unsigned {cs : List Char} (hminus : cs.head? ≠ some '-')
    (hplus : cs.head? ≠ some '+') : splitSign cs = (false, cs) := by
  refine splitSign.eq_3 _ ?_ ?_
  · rintro rest rfl
    exact hminus rfl
  · rintro rest rfl
    exact hplus rfl

/-- Digits with a sign before them are read, if they are few enough. -/
theorem readInt_digits {s : String} {negative : Bool} {ds : List Char}
    (hsign : splitSign (plainChars s) = (negative, ds)) (hall : AllDigits ds) (hne : ds ≠ [])
    (hfew : ds.length ≤ maxDigits) :
    readInt s = .ok (if negative then -(digitsValue ds : Int) else digitsValue ds) := by
  have hplain : ∀ c ∈ ds, isPlainDigit c = true := fun c hc => isPlainDigit_eq c ▸ hall c hc
  have htake : ds.takeWhile (fun c => isPlainDigit c || c == '_') = ds :=
    List.takeWhile_eq_self_iff.2 fun c hc => by rw [hplain c hc, Bool.true_or]
  have hfilter : ds.filter isPlainDigit = ds := List.filter_eq_self.2 hplain
  have hhead : (ds.head? == some '_') = false := by
    refine beq_eq_false_iff_ne.2 fun h => ?_
    exact ne_of_isDigit (hall _ (List.mem_of_mem_head? h)) (by decide) rfl
  simp only [readInt, hsign, htake, hfilter, hhead, underscoresApart_digits hall,
    Nat.not_lt.2 hfew, List.isEmpty_eq_false_iff.2 hne, bne_self_eq_false, Bool.not_true,
    Bool.or_self, Bool.false_eq_true, if_false]

/-- The digits of a number with a sign before them are read as the number. -/
theorem readInt_signed {s : String} (negative : Bool) {n : Nat}
    (hsign : splitSign (plainChars s) = (negative, Nat.toDigits 10 n))
    (hsize : n < tenTo maxDigits) : readInt s = .ok (if negative then -(n : Int) else n) := by
  have htenTo : ∀ k, tenTo k = 10 ^ k := fun _ => rfl
  have hlength : (Nat.toDigits 10 n).length ≤ maxDigits := by
    rwa [Nat.length_toDigits_le_iff (by decide) (by decide), ← htenTo]
  have hread := readInt_digits hsign (allDigits_toDigits n) Nat.toDigits_ne_nil hlength
  rwa [digitsValue_toDigits] at hread

/-- A whole number is read again from its text. -/
theorem readInt_intText {n : Int} (h : isWritable n = true) : readInt (intText n) = .ok n := by
  have hsize : n.natAbs < tenTo maxDigits := of_decide_eq_true h
  have hdigits := allDigits_toDigits n.natAbs
  have hascii : (intText n).toList.all (·.toNat < 128) = true := by
    rw [List.all_eq_true]
    intro c hc
    rcases mem_intText hc with rfl | hc
    · rfl
    · have := toNat_of_isDigit hc
      exact decide_eq_true (by omega)
  have hpadding : ∀ c ∈ (intText n).toList, isPadding c = false := by
    intro c hc
    rcases mem_intText hc with rfl | hc
    · rfl
    · exact not_isPadding_of_isDigit hc
  have hplain : plainChars (intText n) = signOf n ++ Nat.toDigits 10 n.natAbs := by
    simp only [plainChars, hascii, if_true]
    rw [dropAround_eq hpadding, toList_intText]
  cases n with
  | ofNat n =>
    have hsign : splitSign (Nat.toDigits 10 n) = (false, Nat.toDigits 10 n) :=
      splitSign_unsigned (fun hc => absurd (hdigits _ (List.mem_of_mem_head? hc)) (by decide))
        (fun hc => absurd (hdigits _ (List.mem_of_mem_head? hc)) (by decide))
    exact readInt_signed false (hplain ▸ hsign) hsize
  | negSucc n => exact readInt_signed true (n := n + 1) (hplain ▸ rfl) hsize

/-- What is read is digits with perhaps a sign before them, if there is no underscore. -/
theorem digits_of_readInt {s : String} {negative : Bool} {body : List Char} {n : Int}
    (hsign : splitSign (plainChars s) = (negative, body)) (hunder : '_' ∉ body)
    (h : readInt s = .ok n) : AllDigits body ∧ body ≠ [] ∧ body.length ≤ maxDigits := by
  simp only [readInt, hsign] at h
  split at h
  · cases h
  · split at h
    · cases h
    · next hfew =>
      split at h
      · cases h
      · next hwhole =>
        simp only [Bool.or_eq_true, bne_iff_ne, not_or, not_not, Bool.not_eq_true,
          List.isEmpty_eq_false_iff] at hwhole
        obtain ⟨hne, hlength⟩ := hwhole
        have htake := (List.takeWhile_prefix _).eq_of_length hlength
        have hall : ∀ c ∈ body, isPlainDigit c = true := by
          intro c hc
          have hread := List.takeWhile_eq_self_iff.1 htake c hc
          rcases Bool.or_eq_true_iff.1 hread with hplain | hline
          · exact hplain
          · exact absurd (beq_iff_eq.1 hline ▸ hc) hunder
        rw [htake, List.filter_eq_self.2 hall] at hne hfew
        exact ⟨fun c hc => isPlainDigit_eq c ▸ hall c hc, hne, Nat.not_lt.1 hfew⟩

theorem splitSign_sublist (cs : List Char) : (splitSign cs).2.Sublist cs := by
  unfold splitSign
  split
  · exact List.sublist_cons_self _ _
  · exact List.sublist_cons_self _ _
  · exact List.Sublist.refl _

/-- A text with few enough digits that is not read spells no number. -/
theorem notWhole_of_readInt {s : String} {f : NumeralError} (h : readInt s = .error f)
    (hfew : ((plainChars s).filter isPlainDigit).length ≤ maxDigits) : f = .notWhole s := by
  have hnumeral := (List.takeWhile_sublist fun c => isPlainDigit c || c == '_').trans
    (splitSign_sublist (plainChars s))
  have hdigits := (hnumeral.filter isPlainDigit).length_le.trans hfew
  simp only [readInt] at h
  split at h
  · exact (Except.error.inj h).symm
  · rw [if_neg (Nat.not_lt.2 hdigits)] at h
    split at h
    · exact (Except.error.inj h).symm
    · cases h

/-- The text of a whole number has no blanks around it. -/
theorem trim_intText (n : Int) : trim (intText n) = intText n := by
  have hblank : ∀ c ∈ (intText n).toList, isBlankChar c = false := by
    intro c hc
    rcases mem_intText hc with rfl | hc
    · rfl
    · exact not_isBlankChar_of_isDigit hc
  rw [trim, dropAround_eq hblank, String.ofList_toList]

/-- A decimal starts with a digit. -/
theorem Scaled.head_text (d : Scaled) : ∃ c cs, d.text = c :: cs ∧ c.isDigit = true := by
  obtain ⟨c, cs, hdigits, hc⟩ := toDigits_cons d.coefficient
  have hzero : ('0' : Char).isDigit = true := rfl
  unfold text
  split
  · exact ⟨_, _, rfl, hzero⟩
  split
  · unfold positional
    dsimp only
    split
    · exact ⟨_, _, rfl, hzero⟩
    split
    · rw [digits, hdigits]
      exact ⟨c, _, rfl, hc⟩
    · next hpoint _ =>
      obtain ⟨k, hk⟩ : ∃ k, (d.exponent + d.digits.length).toNat = k + 1 :=
        Nat.exists_eq_add_one.2 (by omega)
      rw [hk, digits, hdigits]
      exact ⟨c, _, rfl, hc⟩
  · unfold scientific
    rw [digits, hdigits]
    cases cs with
    | nil => exact ⟨c, _, rfl, hc⟩
    | cons d ds => exact ⟨c, _, rfl, hc⟩

/-- A whole number that can be written is. -/
theorem writeInt_eq {n : Int} (h : isWritable n = true) : writeInt n = .ok (intText n) :=
  if_pos h

end Crosstab.Number
