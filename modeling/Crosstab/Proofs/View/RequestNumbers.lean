import Crosstab.Paging
import Crosstab.Proofs.Value.Wholes
import Crosstab.View.Drilldown

/-!
# Malformed numbers of requests

The numbers of a page, of a choice of keys and of a layout are read in one way, the width of a time
bucket in another. Either way a number is read or rejected, with two exceptions: a text that looks
like a whole number and spells none, and a bucket of infinite width.
-/

namespace Crosstab

open Number Text

variable {α : Type}

theorem reject_by (code : ErrorCode) (detail : String) (P : α → Prop) :
    Outcome.Yields (RejectedBy code) P (reject code detail) :=
  .error ⟨detail, rfl⟩

/-! ## Buckets -/

namespace Sql

/-- The width of a bucket is a positive number. -/
def IsWidth (width? : Option Int) : Prop :=
  ∀ w ∈ width?, 1 ≤ w

/-- The failure is about the content of the value. -/
def IsContentFault (e : Failure) : Prop :=
  e.isValueFault = true

theorem namedBuckets_isWidth : ∀ named ∈ namedBuckets, IsWidth named.2 := by
  simp [namedBuckets, IsWidth]

/-- A bucket has a width or is no bucket, if it is not infinitely wide. -/
theorem bucketWidth_yields {bucket : Value} (h : ∀ negative, bucket ≠ .real (.infinite negative)) :
    Outcome.Yields IsContentFault IsWidth (bucketWidth bucket) := by
  have hpositive : ∀ width : Int, Outcome.Yields IsContentFault IsWidth
      (if width ≤ 0 then .error (.unusable (.timeBucket bucket.shown)) else .ok (some width)) := by
    intro width
    split
    · exact .error rfl
    · next hwidth =>
      refine .ok ?_
      rintro w ⟨⟩
      omega
  have hnone : IsWidth none := nofun
  unfold bucketWidth
  dsimp only
  split
  · exact .ok hnone
  · exact .error rfl
  · exact hpositive _
  · next x =>
    cases x with
    | finite s u => exact hpositive _
    | nan => exact .error rfl
    | infinite s => exact absurd rfl (h s)
  · split
    · exact .ok hnone
    · split
      · next width hwidth =>
        obtain ⟨before, behind, hnamed, -⟩ := List.lookup_eq_some_iff.1 hwidth
        have hmem : (_, width) ∈ namedBuckets := hnamed ▸ List.mem_append_right _ List.mem_cons_self
        exact .ok (namedBuckets_isWidth _ hmem)
      · split
        · exact .error rfl
        · rw [Value.toInt]
          cases readInt _ with
          | ok n => exact hpositive n
          | error f => exact .error rfl

end Sql

namespace View

open Sql

/-- A bucket is taken with its width, or rejected, if it is not infinitely wide. -/
theorem checkBucket_yields {bucket : Value} (h : ∀ negative, bucket ≠ .real (.infinite negative)) :
    Outcome.Yields (RejectedBy .invalidValue)
      (fun _ => ∃ width?, bucketWidth bucket = .ok width? ∧ IsWidth width?)
      (checkBucket bucket) := by
  have hwidth := bucketWidth_yields h
  unfold checkBucket
  cases hb : bucketWidth bucket with
  | ok width? => exact .ok ⟨width?, rfl, hwidth.of_ok hb⟩
  | error f =>
    have hcontent : f.isValueFault = true := hwidth.of_error hb
    dsimp only
    rw [if_pos hcontent]
    exact reject_by _ _ _

theorem checkBucket_infinite (negative : Bool) :
    checkBucket (.real (.infinite negative)) = mismatch .overflow := rfl

end View

/-! ## Pages -/

namespace Page

variable {offset limit : Value} {defaultLimit maxLimit : Int}

/-- The rows that are passed over are none or more; at least one row is wanted and no more than the
settings allow. -/
structure IsWithin (maxLimit : Int) (p : Page) : Prop where
  offset : 0 ≤ p.offset
  limit : 1 ≤ p.limit
  limit_le : p.limit ≤ maxLimit

/-- A page is read or rejected, if neither of its numbers is misread. -/
theorem ofRequest_yields (hmax : 0 < maxLimit) (hoffset : ¬offset.IsMisread)
    (hlimit : ¬limit.IsMisread) : Outcome.Yields (RejectedBy .invalidPagination)
      (IsWithin maxLimit) (ofRequest offset limit defaultLimit maxLimit) := by
  unfold ofRequest
  refine (Value.toWhole_rejected hoffset _ _ _).bind fun o _ => ?_
  refine (Value.toWhole_rejected hlimit _ _ _).bind fun l _ => ?_
  dsimp only
  split
  · exact reject_by _ _ _
  · split
    · exact reject_by _ _ _
    · refine .ok ⟨?_, ?_, ?_⟩
      · show 0 ≤ o
        omega
      · show 1 ≤ min l maxLimit
        omega
      · exact min_le_right l maxLimit

/-- An offset that is misread makes the page fail as a numeral, and a limit after an offset that is
read. -/
theorem ofRequest_of_isMisread (h : offset.IsMisread ∨
      (∃ n, offset.toWhole "offset" 0 .invalidPagination = .ok n) ∧ limit.IsMisread) :
    ∃ f, ofRequest offset limit defaultLimit maxLimit = .error (.unusable (.numeral f)) := by
  unfold ofRequest
  rcases h with hoffset | ⟨⟨n, hn⟩, hlimit⟩
  · obtain ⟨-, f, hf, -⟩ := Value.toWhole_of_isMisread hoffset "offset" 0 .invalidPagination
    rw [hf]
    exact ⟨f, rfl⟩
  · obtain ⟨-, f, hf, -⟩ :=
      Value.toWhole_of_isMisread hlimit "limit" defaultLimit .invalidPagination
    rw [hn, hf]
    exact ⟨f, rfl⟩

end Page

/-! ## Numbers of requests -/

/-- A number of a request is read as what it stands for or rejected with the code of its place, and
so are a bucket, of which the width is positive, and a page, which lies within its bounds. There are
two exceptions: a text that is misread fails as a numeral, also in a page, and a bucket of infinite
width as an overflow. -/
theorem numbers_are_read_or_rejected {maxLimit : Int} (hmax : 0 < maxLimit) (defaultLimit : Int)
    (v offset limit : Value) :
    (∀ name default_ code,
      (¬v.IsMisread → Outcome.Yields (fun e => RejectedBy code e ∧ v.whole? default_ = none)
        (fun n => v.whole? default_ = some n) (v.toWhole name default_ code)) ∧
      (v.IsMisread → ∃ f, v.toWhole name default_ code = .error (.unusable (.numeral f)))) ∧
    (((∀ negative, v ≠ .real (.infinite negative)) → Outcome.Yields (RejectedBy .invalidValue)
        (fun _ => ∃ width?, Sql.bucketWidth v = .ok width? ∧ Sql.IsWidth width?)
        (View.checkBucket v)) ∧
      ∀ negative, v = .real (.infinite negative) → View.checkBucket v = mismatch .overflow) ∧
    (¬offset.IsMisread → ¬limit.IsMisread → Outcome.Yields (RejectedBy .invalidPagination)
        (Page.IsWithin maxLimit) (Page.ofRequest offset limit defaultLimit maxLimit)) ∧
    (offset.IsMisread ∨
        (∃ n, offset.toWhole "offset" 0 .invalidPagination = .ok n) ∧ limit.IsMisread →
      ∃ f, Page.ofRequest offset limit defaultLimit maxLimit =
        .error (.unusable (.numeral f))) := by
  refine ⟨fun name default_ code => ⟨fun h => ?_, fun h => ?_⟩, ⟨?_, ?_⟩, ?_, ?_⟩
  · exact Value.toWhole_read h name default_ code
  · obtain ⟨-, f, hf, -⟩ := Value.toWhole_of_isMisread h name default_ code
    exact ⟨f, hf⟩
  · exact View.checkBucket_yields
  · rintro negative rfl
    exact View.checkBucket_infinite negative
  · exact Page.ofRequest_yields hmax
  · exact Page.ofRequest_of_isMisread

/-- Twelve, written with digits of full width between blanks, is read as an offset; a limit above
the largest is cut down to it. -/
theorem wide_digits_are_read :
    (0 : Int) < 1000 ∧
    (Value.text " １２ ").toWhole "offset" 0 .invalidPagination = .ok 12 ∧
    Page.ofRequest (.text " １２ ") (.int 5000) 100 1000 = .ok ⟨12, 1000⟩ ∧
    Page.IsWithin 1000 ⟨12, 1000⟩ := by
  have hmax : (0 : Int) < 1000 := by decide
  have hspelled : spelled? (trim " １２ ") = some 12 := by decide +kernel
  have hoffset : ¬(Value.text " １２ ").IsMisread := by
    rintro ⟨-, hnone⟩
    rw [hspelled] at hnone
    cases hnone
  have hpage : Page.ofRequest (.text " １２ ") (.int 5000) 100 1000 = .ok ⟨12, 1000⟩ := by
    decide +kernel
  obtain ⟨hnumber, -, hwithin, -⟩ :=
    numbers_are_read_or_rejected hmax 100 (.text " １２ ") (.text " １２ ") (.int 5000)
  have hread := (hnumber "offset" 0 .invalidPagination).1 hoffset
  refine ⟨hmax, ?_, hpage, (hwithin hoffset id).of_ok hpage⟩
  cases hn : (Value.text " １２ ").toWhole "offset" 0 .invalidPagination with
  | ok n =>
    have hwhole : some (12 : Int) = some n := hspelled.symm.trans (hread.of_ok hn)
    rw [Option.some.inj hwhole]
  | error e =>
    have hwhole : some (12 : Int) = none := hspelled.symm.trans (hread.of_error hn).2
    cases hwhole

/-- A superscript two and a five with two minuses are no numbers, and not rejected as such; nor is
a bucket that is infinitely wide. -/
theorem superscripts_are_not_rejected :
    (Value.text "²").toWhole "offset" 0 .invalidPagination =
      .error (.unusable (.numeral (.notWhole "²"))) ∧
    Page.ofRequest (.int 0) (.text "--5") 100 1000 =
      .error (.unusable (.numeral (.notWhole "--5"))) ∧
    View.checkBucket (.real (.infinite false)) = .error (.mismatch .overflow) := by
  refine ⟨?_, ?_, rfl⟩
  · decide +kernel
  · decide +kernel

end Crosstab
