import Mathlib.Algebra.Field.Rat
import Mathlib.Tactic.NormNum
import Crosstab.Proofs.Number.Whole
import Crosstab.Value.Order

/-!
# Equality of keys

Two keys are equal if they have the same identity, where numbers of all kinds are identified by the
number that they are. Equality of keys is hence symmetric and transitive, and each key equals itself
but the one that is not a number.
-/

namespace Crosstab

open Number Calendar

namespace Exact

/-- The number, which may be infinite. -/
def extended : Exact → WithBot (WithTop ℚ)
  | .below => ⊥
  | .ratio num den => ((num / den : ℚ) : WithTop ℚ)
  | .above => (⊤ : WithTop ℚ)

/-- A quotient has a positive denominator. -/
def IsProper : Exact → Prop
  | .ratio _ den => 0 < den
  | _ => True

/-- Exact numbers are equal if they are one number. -/
theorem eq_iff {x y : Exact} (hx : x.IsProper) (hy : y.IsProper) :
    x.eq y = true ↔ x.extended = y.extended := by
  cases x with
  | below => cases y <;> simp [eq, extended]
  | above => cases y <;> simp [eq, extended]
  | ratio a b =>
    cases y with
    | ratio c d =>
      have hb : (b : ℚ) ≠ 0 := Nat.cast_ne_zero.2 (Nat.ne_of_gt hx)
      have hd : (d : ℚ) ≠ 0 := Nat.cast_ne_zero.2 (Nat.ne_of_gt hy)
      rw [eq, beq_iff_eq, extended, extended, WithBot.coe_inj, WithTop.coe_inj,
        div_eq_div_iff hb hd]
      norm_cast
    | _ => simp [eq, extended]

end Exact

/-- What a key has in common with the keys that equal it. -/
inductive Identity where
  | null
  | text (s : String)
  | date (d : Date)
  | moment (zoned : Bool) (micros : Int)
  | number (x : WithBot (WithTop ℚ))

namespace Value

theorem isProper_of_measure? {v : Value} {x : Exact} (h : v.measure? = some x) : x.IsProper := by
  cases v with
  | bool b =>
    obtain rfl := Option.some.inj h
    exact Nat.one_pos
  | int n =>
    obtain rfl := Option.some.inj h
    exact Nat.one_pos
  | real r =>
    cases r with
    | nan => cases h
    | infinite s =>
      obtain rfl := Option.some.inj h
      cases s <;> trivial
    | finite s u =>
      obtain rfl := Option.some.inj h
      exact Binary64.one_pos
  | decimal d =>
    obtain rfl := Option.some.inj h
    unfold Exact.ofDecimal
    split
    · exact Nat.one_pos
    · exact tenTo_pos _
  | _ => cases h

/-- The identity of a key; none for what is not a number. -/
def identity? : Value → Option Identity
  | .null => some .null
  | .text s => some (.text s)
  | .date d => some (.date d)
  | .moment m => some (.moment m.offset?.isSome m.epochMicros)
  | v => v.measure?.map fun x => .number x.extended

/-- A number equals what has an equal measure. -/
theorem equals_of_isNumber {v : Value} (hv : v.isNumber = true) (w : Value) :
    v.equals w = true ↔ ∃ x y, v.measure? = some x ∧ w.measure? = some y ∧ x.eq y = true := by
  cases v with
  | bool _ | int _ | real _ | decimal _ =>
    rw [equals]
    · split
      · next x y hx hy => simp [hx, hy]
      · next hnone => simpa using fun x hx y hy => absurd hy (hnone x y hx)
    all_goals exact nofun
  | _ => cases hv

theorem identity?_of_isNumber {v : Value} (hv : v.isNumber = true) :
    v.identity? = v.measure?.map fun x => .number x.extended := by
  cases v with
  | bool _ | int _ | real _ | decimal _ => rfl
  | _ => cases hv

/-- What has a number for its identity has a measure. -/
theorem identity?_eq_number {v : Value} {q : WithBot (WithTop ℚ)} :
    v.identity? = some (.number q) ↔ ∃ x, v.measure? = some x ∧ x.extended = q := by
  cases v <;> simp [identity?, measure?]

/-- Keys are equal if they have the same identity. -/
theorem equals_iff {v w : Value} (hv : v.isKey = true) :
    v.equals w = true ↔ v.identity? ≠ none ∧ v.identity? = w.identity? := by
  cases hnumber : v.isNumber with
  | true =>
    rw [equals_of_isNumber hnumber, identity?_of_isNumber hnumber]
    constructor
    · rintro ⟨x, y, hx, hy, hequal⟩
      rw [Exact.eq_iff (isProper_of_measure? hx) (isProper_of_measure? hy)] at hequal
      rw [hx, identity?_eq_number.2 ⟨y, hy, rfl⟩, ← hequal]
      exact ⟨nofun, rfl⟩
    · rintro ⟨hsome, hsame⟩
      obtain ⟨x, hx⟩ := Option.ne_none_iff_exists'.1 fun h => hsome (Option.map_eq_none_iff.2 h)
      rw [hx] at hsame
      obtain ⟨y, hy, hequal⟩ := identity?_eq_number.1 hsame.symm
      refine ⟨x, y, hx, hy, ?_⟩
      exact (Exact.eq_iff (isProper_of_measure? hx) (isProper_of_measure? hy)).2 hequal.symm
  | false =>
    cases v with
    | null => cases w <;> simp [equals, identity?, measure?]
    | text s => cases w <;> simp [equals, identity?, measure?]
    | date d => cases w <;> simp [equals, identity?, measure?]
    | moment m => cases w <;> simp [equals, identity?, measure?, equalMoments]
    | list _ | record _ => cases hv
    | _ => cases hnumber

theorem equals_comm {v w : Value} (hv : v.isKey = true) (hw : w.isKey = true) :
    v.equals w = w.equals v := by
  rw [Bool.eq_iff_iff, equals_iff hv, equals_iff hw]
  constructor <;> rintro ⟨hsome, hsame⟩ <;> exact ⟨hsame ▸ hsome, hsame.symm⟩

theorem equals_trans {u v w : Value} (hu : u.isKey = true) (hv : v.isKey = true)
    (huv : u.equals v = true) (hvw : v.equals w = true) : u.equals w = true := by
  obtain ⟨hsome, hsame⟩ := (equals_iff hu).1 huv
  exact (equals_iff hu).2 ⟨hsome, hsame.trans ((equals_iff hv).1 hvw).2⟩

/-- The value can be a key and equals itself. -/
def IsProperKey (v : Value) : Prop :=
  v.isKey = true ∧ v.equals v = true

/-- A text equals itself and nothing else. -/
theorem equals_text (s : String) (v : Value) : (text s).equals v = true ↔ text s = v := by
  cases v with
  | text t => simp [equals]
  | _ => simp [equals, measure?]

end Value

end Crosstab
