import Crosstab.Proofs.Number.Spelling
import Crosstab.Proofs.Outcome
import Crosstab.Value.Convert

/-!
# Whole numbers of requests

A whole number of a request is read or rejected with the code that is asked for, unless it is given
by a text that looks like a number and spells none: such a text is not rejected, it fails as a
numeral.
-/

namespace Crosstab

open Number Text

/-! ## Texts that look whole -/

namespace Number

/-- The text is digits of any kind after any number of minuses. -/
def LooksWhole (s : String) : Prop :=
  allDigits (s.toList.dropWhile (· == '-')) = true

instance (s : String) : Decidable (LooksWhole s) :=
  inferInstanceAs (Decidable (_ = true))

variable {s : String} {n : Int}

theorem LooksWhole.dashes (h : LooksWhole s) : ∀ c ∈ s.toList, IsDashOrDigit c := by
  obtain ⟨-, hdigits⟩ := Bool.and_eq_true_iff.1 h
  intro c hc
  rw [← List.takeWhile_append_dropWhile (p := (· == '-')) (l := s.toList)] at hc
  rcases List.mem_append.1 hc with hc | hc
  · exact .inl (beq_iff_eq.1 (List.mem_takeWhile_imp (p := (· == '-')) hc))
  · exact .inr (List.all_eq_true.1 hdigits c hc)

/-- A text that spells a number looks like one. -/
theorem looksWhole_of_spelled (h : spelled? s = some n) : LooksWhole s := by
  have hdigits : ∀ {ds : List Char} {m : Nat}, natOf? ds = some m →
      allDigits (ds.dropWhile (· == '-')) = true := by
    intro ds m hm
    obtain ⟨hne, hall⟩ := digits_of_natOf? hm
    have hkept : ds.dropWhile (· == '-') = ds := by
      cases ds with
      | nil => rfl
      | cons d ds =>
        have hd : (d == '-') = false := by
          refine beq_eq_false_iff_ne.2 ?_
          rintro rfl
          exact absurd (hall _ List.mem_cons_self) (by decide)
        rw [List.dropWhile_cons, hd, if_neg Bool.false_ne_true]
    rw [hkept, allDigits, List.isEmpty_eq_false_iff.2 hne, List.all_eq_true.2 hall]
    rfl
  unfold spelled? at h
  rw [LooksWhole]
  split at h
  · next ds hds =>
    obtain ⟨m, hm, -⟩ := Option.map_eq_some_iff.1 h
    rw [hds, List.dropWhile_cons, if_pos (beq_self_eq_true '-')]
    exact hdigits hm
  · obtain ⟨m, hm, -⟩ := Option.map_eq_some_iff.1 h
    exact hdigits hm

end Number

/-- The failure rejects the request with the code. -/
def RejectedBy (code : ErrorCode) (e : Failure) : Prop :=
  ∃ detail, e = .rejected code detail

namespace Value

/-- The whole number that a value stands for, or the default if it stands for none given; a text
stands for the number that it spells between blanks. -/
def whole? (default_ : Int) : Value → Option Int
  | .null => some default_
  | .int n => some n
  | .real (.finite negative units) =>
    if units % Binary64.one = 0 then some (Binary64.signed negative (units / Binary64.one))
    else none
  | .text s => if s = "" then some default_ else spelled? (trim s)
  | _ => none

/-- The value is a text that looks like a whole number and spells none: it has more than one minus,
a digit that is not decimal, or too many digits. -/
def IsMisread : Value → Prop
  | .text s => LooksWhole (trim s) ∧ spelled? (trim s) = none
  | _ => False

variable {v : Value} {s : String} {n : Int}

/-- A text that looks like a whole number is read as one. -/
theorem toWhole?_text (h : LooksWhole (trim s)) (name : String) (code : ErrorCode) :
    s ≠ "" ∧ (Value.text s).toWhole? name code = some <$> (Value.text (trim s)).toInt := by
  have hdigits : allDigits ((trim s).toList.dropWhile (· == '-')) = true := h
  have hne : s ≠ "" := by
    rintro rfl
    exact absurd h (by decide)
  have hempty : s.isEmpty = false := Bool.eq_false_iff.2 (mt String.isEmpty_iff.1 hne)
  refine ⟨hne, ?_⟩
  rw [toWhole?, hempty, if_neg Bool.false_ne_true, if_pos hdigits]

/-- A number that is not misread is read just if it stands for a whole number, and is rejected with
the code if it does not. -/
theorem toWhole_read (h : ¬v.IsMisread) (name : String) (default_ : Int) (code : ErrorCode) :
    Outcome.Yields (fun e => RejectedBy code e ∧ v.whole? default_ = none)
      (fun n => v.whole? default_ = some n) (v.toWhole name default_ code) := by
  unfold toWhole
  cases v with
  | null => exact .ok rfl
  | int n => exact .ok rfl
  | real x =>
    cases x with
    | finite negative units =>
      by_cases hwhole : units % Binary64.one = 0
      · rw [toWhole?, Binary64.isWhole, if_pos (beq_iff_eq.2 hwhole)]
        exact .ok (if_pos hwhole)
      · rw [toWhole?, Binary64.isWhole, if_neg (mt beq_iff_eq.1 hwhole)]
        exact .error ⟨⟨_, rfl⟩, if_neg hwhole⟩
    | nan => exact .error ⟨⟨_, rfl⟩, rfl⟩
    | infinite negative => exact .error ⟨⟨_, rfl⟩, rfl⟩
  | text s =>
    by_cases hlooks : LooksWhole (trim s)
    · obtain ⟨hne, hread⟩ := toWhole?_text hlooks name code
      obtain ⟨n, hn⟩ := Option.ne_none_iff_exists'.1 (not_and.1 h hlooks)
      rw [hread, toInt, (readInt_iff hlooks.dashes).2 hn]
      exact .ok ((if_neg hne).trans hn)
    · have hother : ¬allDigits ((trim s).toList.dropWhile (· == '-')) = true := hlooks
      rw [toWhole?, if_neg hother]
      by_cases hempty : s = ""
      · rw [if_pos (String.isEmpty_iff.2 hempty)]
        exact .ok (if_pos hempty)
      · rw [if_neg (mt String.isEmpty_iff.1 hempty)]
        refine .error ⟨⟨_, rfl⟩, (if_neg hempty).trans ?_⟩
        exact Option.eq_none_iff_forall_not_mem.2 fun n hn => hlooks (looksWhole_of_spelled hn)
  | _ => exact .error ⟨⟨_, rfl⟩, rfl⟩

theorem toWhole_rejected (h : ¬v.IsMisread) (name : String) (default_ : Int) (code : ErrorCode) :
    Outcome.Yields (RejectedBy code) (fun _ => True) (v.toWhole name default_ code) :=
  ((toWhole_read h name default_ code).mono fun _ _ => trivial).weaken fun _ he => he.1

/-- A number that is misread stands for none and fails as a numeral. -/
theorem toWhole_of_isMisread (h : v.IsMisread) (name : String) (default_ : Int)
    (code : ErrorCode) : v.whole? default_ = none ∧
      ∃ f, v.toWhole name default_ code = .error (.unusable (.numeral f)) ∧
        ∀ s, v = .text s → (trim s).toList.countP isDigitChar ≤ maxDigits →
          f = .notWhole (trim s) := by
  cases v with
  | text s =>
    obtain ⟨hlooks, hnone⟩ := h
    obtain ⟨hne, hwhole⟩ := toWhole?_text hlooks name code
    obtain ⟨f, hread, hf⟩ := readInt_of_unspelled hlooks.dashes hnone
    refine ⟨(if_neg hne).trans hnone, f, ?_, ?_⟩
    · rw [toWhole, hwhole, toInt, hread]
      rfl
    · rintro s ⟨⟩ hfew
      exact hf hfew
  | _ => exact h.elim

end Value

end Crosstab
