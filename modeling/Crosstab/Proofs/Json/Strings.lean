import Crosstab.Json.Reader
import Crosstab.Json.Writer
import Mathlib.Data.List.Chain

/-!
# Strings in JSON text

A string is read back from its escaped characters. The one thing that escapes do not keep apart is a
first half of a pair that stands right before a second half: both are read as the character of the
pair, so a text must be free of such pairs to be told by JSON text.
-/

namespace Crosstab.Json

open Text
open Text.Surrogate (isHigh isLow ofUnit ofPair code firstStandIn)

/-! ## Code escapes -/

theorem isHigh_iff {n : Nat} : isHigh n = true ↔ 0xD800 ≤ n ∧ n ≤ 0xDBFF := by
  simp only [isHigh, Bool.and_eq_true, decide_eq_true_eq]

theorem isLow_iff {n : Nat} : isLow n = true ↔ 0xDC00 ≤ n ∧ n ≤ 0xDFFF := by
  simp only [isLow, Bool.and_eq_true, decide_eq_true_eq]

theorem hexValue?_digitChar {n : Nat} (h : n < 16) : hexValue? (Nat.digitChar n) = some n := by
  have hall : ∀ m ∈ List.range 16, hexValue? (Nat.digitChar m) = some m := by decide
  exact hall n (List.mem_range.2 h)

/-- The last digit of several is that of the remainder. -/
theorem hexDigits_succ (k n : Nat) :
    hexDigits (k + 2) n = hexDigits (k + 1) (n / 16) ++ [Nat.digitChar (n % 16)] := by
  unfold hexDigits
  by_cases h : n < 16
  · rw [Nat.toDigits_of_lt_base h, Nat.div_eq_of_lt h, Nat.mod_eq_of_lt h]
    show List.replicate (k + 1) '0' ++ [Nat.digitChar n] =
      List.replicate k '0' ++ ['0'] ++ [Nat.digitChar n]
    rw [← List.replicate_succ']
  · have hwidth : k + 2 - ((Nat.toDigits 16 (n / 16)).length + 1) =
        k + 1 - (Nat.toDigits 16 (n / 16)).length := by omega
    rw [Nat.toDigits_of_base_le (by decide) (Nat.le_of_not_lt h)]
    simp only [List.length_append, List.length_singleton, ← List.append_assoc, hwidth]

theorem hexDigits_one {n : Nat} (h : n < 16) : hexDigits 1 n = [Nat.digitChar n] := by
  unfold hexDigits
  rw [Nat.toDigits_of_lt_base h]
  rfl

/-- Four digits spell their number. -/
theorem hexUnit?_hexDigits {n : Nat} (h : n < 0x10000) (rest : List Char) :
    hexUnit? (hexDigits 4 n ++ rest) = some n := by
  have hdigits : hexDigits 4 n ++ rest = Nat.digitChar (n / 16 / 16 / 16) ::
      Nat.digitChar (n / 16 / 16 % 16) :: Nat.digitChar (n / 16 % 16) ::
      Nat.digitChar (n % 16) :: rest := by
    rw [hexDigits_succ, hexDigits_succ, hexDigits_succ, hexDigits_one (by omega)]
    rfl
  have hsum : (n / 16 / 16 / 16 * 16 + n / 16 / 16 % 16) * 256 + n / 16 % 16 * 16 + n % 16 = n := by
    omega
  rw [hdigits, hexUnit?, hexValue?_digitChar (by omega), hexValue?_digitChar (by omega),
    hexValue?_digitChar (by omega), hexValue?_digitChar (by omega)]
  exact congrArg some hsum

theorem length_hexDigits {n : Nat} (h : n < 0x10000) : (hexDigits 4 n).length = 4 := by
  rw [hexDigits_succ, hexDigits_succ, hexDigits_succ, hexDigits_one (by omega)]
  rfl

/-- Where the characters go on with a code escape, it is not that of a second half. -/
def NoLowAhead (cs : List Char) : Prop :=
  ∀ tail, cs = '\\' :: 'u' :: tail → ∃ unit, hexUnit? tail = some unit ∧ isLow unit = false

/-- A unit that opens no pair is read as its character. -/
theorem readUnit_single {n : Nat} (h : n < 0x10000) {rest : List Char} (hrest : rest ≠ [])
    (hahead : isHigh n = true → NoLowAhead rest) (position : Nat) :
    readUnit position (hexDigits 4 n ++ rest) = .ok (ofUnit n, position + 4, rest) := by
  have hlength : ¬(hexDigits 4 n ++ rest).length ≤ 4 := by
    rw [List.length_append, length_hexDigits h]
    have := List.length_pos_of_ne_nil hrest
    omega
  have hdrop : (hexDigits 4 n ++ rest).drop 4 = rest := List.drop_left' (length_hexDigits h)
  rw [readUnit, if_neg hlength, hexUnit?_hexDigits h]
  simp only [hdrop]
  split
  · next tail =>
    split
    · next hpair =>
      obtain ⟨unit, hunit, hlow⟩ := hahead (Bool.and_eq_true_iff.1 hpair).1 tail rfl
      simp only [hunit, hlow, Bool.false_eq_true, if_false]
    · rfl
  · rfl

/-- Two halves of a pair are read as one character. -/
theorem readUnit_pair {high low : Nat} (hhigh : isHigh high = true) (hlow : isLow low = true)
    {rest : List Char} (hrest : rest ≠ []) (position : Nat) :
    readUnit position (hexDigits 4 high ++ '\\' :: 'u' :: (hexDigits 4 low ++ rest)) =
      .ok (ofPair high low, position + 10, rest) := by
  have h1 : high < 0x10000 := Nat.lt_of_le_of_lt (isHigh_iff.1 hhigh).2 (by decide)
  have h2 : low < 0x10000 := Nat.lt_of_le_of_lt (isLow_iff.1 hlow).2 (by decide)
  have hpos := List.length_pos_of_ne_nil hrest
  have hlength : ¬(hexDigits 4 high ++ '\\' :: 'u' :: (hexDigits 4 low ++ rest)).length ≤ 4 := by
    simp only [List.length_append, List.length_cons, length_hexDigits h1]
    omega
  have hlater : 6 < ('\\' :: 'u' :: (hexDigits 4 low ++ rest)).length := by
    simp only [List.length_append, List.length_cons, length_hexDigits h2]
    omega
  rw [readUnit, if_neg hlength, hexUnit?_hexDigits h1]
  simp only [List.drop_left' (length_hexDigits h1), hhigh, hlater, decide_true, Bool.and_self,
    if_true, hexUnit?_hexDigits h2, hlow, List.drop_left' (length_hexDigits h2)]

/-! ## Strings -/

/-- No first half of a pair has a second half right behind it; text where one has is told as the
character of the pair. -/
def Unsplit (cs : List Char) : Prop :=
  cs.IsChain fun c d => ¬(isHigh (code c) = true ∧ isLow (code d) = true)

instance (cs : List Char) : Decidable (Unsplit cs) :=
  inferInstanceAs (Decidable (cs.IsChain _))

/-- A unit tells its character. -/
theorem ofUnit_code {c : Char} (h : code c < 0x10000) : ofUnit (code c) = c := by
  have hvalid : c.toNat < 0xD800 ∨ 0xDFFF < c.toNat ∧ c.toNat < 0x110000 := c.valid
  unfold code at h ⊢
  split at h
  · next hstand =>
    rw [if_pos hstand]
    simp only [Bool.and_eq_true, decide_eq_true_eq] at hstand
    have hhalf : (isHigh (c.toNat - firstStandIn + 0xD800) ||
        isLow (c.toNat - firstStandIn + 0xD800)) = true := by
      rw [Bool.or_eq_true, isHigh_iff, isLow_iff]
      omega
    have hnumber : firstStandIn + (c.toNat - firstStandIn + 0xD800 - 0xD800) = c.toNat := by omega
    rw [ofUnit, if_pos hhalf, hnumber, Char.ofNat_toNat]
  · next hstand =>
    rw [if_neg hstand]
    have hhalf : ¬(isHigh c.toNat || isLow c.toNat) = true := by
      rw [Bool.or_eq_true, isHigh_iff, isLow_iff]
      omega
    rw [ofUnit, if_neg hhalf, Char.ofNat_toNat]

/-- The first half of a character that is no unit. -/
def highHalf (c : Char) : Nat := 0xD800 + (code c - 0x10000) / 0x400

/-- The second half of a character that is no unit. -/
def lowHalf (c : Char) : Nat := 0xDC00 + (code c - 0x10000) % 0x400

theorem code_eq_toNat {c : Char} (h : ¬code c < 0x10000) : code c = c.toNat := by
  have hvalid : c.toNat < 0xD800 ∨ 0xDFFF < c.toNat ∧ c.toNat < 0x110000 := c.valid
  unfold code at h ⊢
  split at h
  · next hstand =>
    simp only [Bool.and_eq_true, decide_eq_true_eq] at hstand
    omega
  · next hstand => rw [if_neg hstand]

theorem isHigh_highHalf {c : Char} (h : ¬code c < 0x10000) : isHigh (highHalf c) = true := by
  have hvalid : c.toNat < 0xD800 ∨ 0xDFFF < c.toNat ∧ c.toNat < 0x110000 := c.valid
  have hcode := code_eq_toNat h
  rw [isHigh_iff, highHalf]
  omega

theorem isLow_lowHalf (c : Char) : isLow (lowHalf c) = true := by
  rw [isLow_iff, lowHalf]
  omega

/-- A character that is no unit is told by its halves. -/
theorem ofPair_halves {c : Char} (h : ¬code c < 0x10000) : ofPair (highHalf c) (lowHalf c) = c := by
  have hcode := code_eq_toNat h
  have hsum : 0x10000 + (highHalf c - 0xD800) * 0x400 + (lowHalf c - 0xDC00) = c.toNat := by
    unfold highHalf lowHalf
    omega
  rw [ofPair, hsum, Char.ofNat_toNat]

/-- The ways in which a character stands in a string. -/
theorem escapedChar_cases (c : Char) :
    (∃ e, e ≠ 'u' ∧ simpleEscape? e = some c ∧ escapedChar c = ['\\', e]) ∨
    (c ≠ '"' ∧ c ≠ '\\' ∧ 0x1f < c.toNat ∧ escapedChar c = [c]) ∨
    escapedChar c = codeEscapes c := by
  unfold escapedChar
  split_ifs with hquote hline hreturn htab hfeed hback hplain
  · refine .inl ⟨c, ?_, ?_, rfl⟩
    · rintro rfl
      exact absurd hquote (by decide)
    · rcases Bool.or_eq_true_iff.1 hquote with h | h <;> rw [eq_of_beq h] <;> decide
  · rw [eq_of_beq hline]
    exact .inl ⟨'n', by decide, by decide, rfl⟩
  · rw [eq_of_beq hreturn]
    exact .inl ⟨'r', by decide, by decide, rfl⟩
  · rw [eq_of_beq htab]
    exact .inl ⟨'t', by decide, by decide, rfl⟩
  · rw [eq_of_beq hfeed]
    exact .inl ⟨'f', by decide, by decide, rfl⟩
  · rw [eq_of_beq hback]
    exact .inl ⟨'b', by decide, by decide, rfl⟩
  · simp only [Bool.or_eq_true, beq_iff_eq, not_or] at hquote
    simp only [Bool.and_eq_true, decide_eq_true_eq] at hplain
    exact .inr (.inl ⟨hquote.1, hquote.2, by omega, rfl⟩)
  · exact .inr (.inr rfl)

theorem codeEscapes_eq (c : Char) : codeEscapes c =
    if code c < 0x10000 then '\\' :: 'u' :: hexDigits 4 (code c)
    else ('\\' :: 'u' :: hexDigits 4 (highHalf c)) ++ '\\' :: 'u' :: hexDigits 4 (lowHalf c) :=
  rfl

theorem codeEscapes_unit {c : Char} (h : code c < 0x10000) :
    codeEscapes c = '\\' :: 'u' :: hexDigits 4 (code c) := by
  rw [codeEscapes_eq, if_pos h]

theorem codeEscapes_pair {c : Char} (h : ¬code c < 0x10000) : codeEscapes c =
    '\\' :: 'u' :: (hexDigits 4 (highHalf c) ++ '\\' :: 'u' :: hexDigits 4 (lowHalf c)) := by
  rw [codeEscapes_eq, if_neg h, List.cons_append, List.cons_append]

/-- The characters of a string between its quotes. -/
def spelled (cs : List Char) : List Char :=
  cs.flatMap escapedChar

/-- What a reader of characters makes of one that is read before others. -/
def before (c : Char) (read : Except Failed (List Char × Rest)) :
    Except Failed (List Char × Rest) :=
  read.map fun r => (c :: r.1, r.2)

theorem before_eq_bind (c : Char) (read : Except Failed (List Char × Rest)) :
    (do let r ← read; .ok (c :: r.1, r.2.1, r.2.2)) = before c read := by
  cases read <;> rfl

theorem readChars_simple {c e : Char} (he : e ≠ 'u') (hc : simpleEscape? e = some c)
    (start fuel position : Nat) (more : List Char) :
    readChars start (fuel + 1) position ('\\' :: e :: more) =
      before c (readChars start fuel (position + 2) more) := by
  simp only [readChars, hc]
  rw [if_neg (by decide), if_pos (by decide)]
  exact before_eq_bind c _

theorem readChars_plain {c : Char} (hquote : c ≠ '"') (hslash : c ≠ '\\') (hc : 0x1f < c.toNat)
    (start fuel position : Nat) (more : List Char) :
    readChars start (fuel + 1) position (c :: more) =
      before c (readChars start fuel (position + 1) more) := by
  simp only [readChars]
  rw [if_neg (mt eq_of_beq hquote), if_neg (mt eq_of_beq hslash), if_neg (Nat.not_le.2 hc)]
  exact before_eq_bind c _

theorem readChars_unit {c : Char} {next : Nat} {more rest : List Char} {position : Nat}
    (hread : readUnit (position + 2) more = .ok (c, next, rest)) (start fuel : Nat) :
    readChars start (fuel + 1) position ('\\' :: 'u' :: more) =
      before c (readChars start fuel next rest) := by
  simp only [readChars, hread]
  rw [if_neg (by decide), if_pos (by decide)]
  exact before_eq_bind c _

theorem readChars_quote (start fuel position : Nat) (rest : List Char) :
    readChars start (fuel + 1) position ('"' :: rest) = .ok ([], position + 1, rest) := by
  simp only [readChars]
  exact if_pos (by decide)

theorem spelled_cons (c : Char) (cs : List Char) :
    spelled (c :: cs) = escapedChar c ++ spelled cs :=
  List.flatMap_cons

/-- A first half is not followed by what would complete it. -/
theorem noLowAhead_spelled {c : Char} {cs : List Char} (h : Unsplit (c :: cs))
    (hc : isHigh (code c) = true) (rest : List Char) : NoLowAhead (spelled cs ++ '"' :: rest) := by
  intro tail htail
  cases cs with
  | nil => exact absurd (List.cons.inj htail).1 (by decide)
  | cons d ds =>
    rw [spelled_cons, List.append_assoc] at htail
    rcases escapedChar_cases d with ⟨e, he, -, hd⟩ | ⟨-, hslash, -, hd⟩ | hd
    · rw [hd] at htail
      exact absurd (List.cons.inj (List.cons.inj htail).2).1 he
    · rw [hd] at htail
      exact absurd (List.cons.inj htail).1 hslash
    · rw [hd] at htail
      by_cases hunit : code d < 0x10000
      · rw [codeEscapes_unit hunit] at htail
        have hlow : ¬isLow (code d) = true := fun hlow => (List.isChain_cons_cons.1 h).1 ⟨hc, hlow⟩
        refine ⟨code d, ?_, Bool.eq_false_iff.2 hlow⟩
        rw [← (List.cons.inj (List.cons.inj htail).2).2]
        exact hexUnit?_hexDigits hunit _
      · have hhigh := isHigh_iff.1 (isHigh_highHalf hunit)
        rw [codeEscapes_pair hunit, List.cons_append, List.cons_append, List.append_assoc] at htail
        refine ⟨highHalf d, ?_, ?_⟩
        · rw [← (List.cons.inj (List.cons.inj htail).2).2]
          exact hexUnit?_hexDigits (by omega) _
        · rw [Bool.eq_false_iff, ne_eq, isLow_iff]
          omega

/-- A code escape is read back, or the two that make up a character. -/
theorem readUnit_codeEscapes {c : Char} {more : List Char} (hmore : more ≠ [])
    (hahead : isHigh (code c) = true → NoLowAhead more) (position : Nat) :
    ∃ digits next, codeEscapes c = '\\' :: 'u' :: digits ∧
      readUnit position (digits ++ more) = .ok (c, next, more) := by
  by_cases hunit : code c < 0x10000
  · refine ⟨_, position + 4, codeEscapes_unit hunit, ?_⟩
    rw [readUnit_single hunit hmore hahead, ofUnit_code hunit]
  · refine ⟨_, position + 10, codeEscapes_pair hunit, ?_⟩
    rw [List.append_assoc, List.cons_append, List.cons_append,
      readUnit_pair (isHigh_highHalf hunit) (isLow_lowHalf c) hmore, ofPair_halves hunit]

/-- An escaped character is read back, whatever comes behind it. -/
theorem readChars_escapedChar {c : Char} {more : List Char} (hmore : more ≠ [])
    (hahead : isHigh (code c) = true → NoLowAhead more) (start fuel position : Nat) :
    ∃ next, readChars start (fuel + 1) position (escapedChar c ++ more) =
      before c (readChars start fuel next more) := by
  rcases escapedChar_cases c with ⟨e, he, hc, hspelled⟩ | ⟨hquote, hslash, hc, hspelled⟩ | hspelled
  · rw [hspelled]
    exact ⟨_, readChars_simple he hc start fuel position more⟩
  · rw [hspelled]
    exact ⟨_, readChars_plain hquote hslash hc start fuel position more⟩
  · obtain ⟨digits, next, hdigits, hread⟩ := readUnit_codeEscapes hmore hahead (position + 2)
    rw [hspelled, hdigits]
    exact ⟨next, readChars_unit hread start fuel⟩

/-- A string is read back up to its closing quote. -/
theorem readChars_spelled {cs : List Char} (h : Unsplit cs) (fuel : Nat)
    (hfuel : cs.length < fuel) (start position : Nat) (rest : List Char) :
    ∃ next, readChars start fuel position (spelled cs ++ '"' :: rest) = .ok (cs, next, rest) := by
  induction cs generalizing fuel position with
  | nil =>
    obtain ⟨k, rfl⟩ := Nat.exists_eq_add_of_lt hfuel
    exact ⟨position + 1, readChars_quote start _ position rest⟩
  | cons c cs ih =>
    obtain ⟨k, rfl⟩ := Nat.exists_eq_add_of_lt hfuel
    have hmore : spelled cs ++ '"' :: rest ≠ [] := by simp
    obtain ⟨next, hnext⟩ := readChars_escapedChar hmore (noLowAhead_spelled h · rest) start
      (cs.length + 1 + k) position
    obtain ⟨next', hrest⟩ := ih h.of_cons (cs.length + 1 + k) (by omega) next
    refine ⟨next', ?_⟩
    rw [spelled_cons, List.append_assoc]
    show readChars start (cs.length + 1 + k + 1) position _ = _
    rw [hnext, hrest]
    rfl

end Crosstab.Json
