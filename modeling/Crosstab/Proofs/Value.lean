import Crosstab.Proofs.Numeral
import Crosstab.Value.Convert
import Mathlib.Data.List.Induction

/-!
# The plain form of values

No value but the empty text has an empty plain form, so where a filter asks whether the plain form
is empty it asks for that text.
-/

namespace Crosstab

open Number Calendar

namespace Number

theorem Binary64.withSign_ne_nil (negative : Bool) {cs : List Char} (h : cs ≠ []) :
    Binary64.withSign negative cs ≠ [] := by
  cases negative with
  | false => exact h
  | true => simp [Binary64.withSign]

theorem Binary64.toList_text_ne_nil (x : Binary64) : x.text.toList ≠ [] := by
  cases x with
  | nan => decide
  | infinite s => cases s <;> decide
  | finite s u =>
    obtain ⟨c, cs, hchars, -⟩ := (shortest u).head_text
    rw [Binary64.text, String.toList_ofList, hchars]
    exact Binary64.withSign_ne_nil s (List.cons_ne_nil c cs)

theorem toList_intText_ne_nil (n : Int) : (intText n).toList ≠ [] := by
  obtain ⟨d, ds, -, hchars | hchars⟩ := intText_cases n
  · rw [hchars]
    exact List.cons_ne_nil d ds
  · rw [hchars]
    exact List.cons_ne_nil '-' (d :: ds)

theorem Decimal.toList_text_ne_nil (d : Decimal) : d.text.toList ≠ [] := by
  have hdigits : d.scaled.digits ≠ [] := Nat.toDigits_ne_nil
  unfold Decimal.text
  rw [String.toList_ofList]
  refine Binary64.withSign_ne_nil _ ?_
  simp only
  split
  · split
    · exact hdigits
    · split
      · simp
      · simp
  · split
    · split
      · simp
      · exact hdigits
    · simp

end Number

namespace Value

/-- Only the empty text has an empty plain form. -/
theorem display_eq_empty_iff (v : Value) : v.display = "" ↔ v = .text "" := by
  have hne : ∀ {s : String}, s.toList ≠ [] → s = "" → False := by
    rintro s hs rfl
    exact hs rfl
  constructor
  · intro h
    cases v with
    | text s => exact congrArg Value.text h
    | null => exact absurd h (by decide)
    | bool b => cases b <;> exact absurd h (by decide)
    | int n => exact (hne (toList_intText_ne_nil n) h).elim
    | real x => exact (hne x.toList_text_ne_nil h).elim
    | list items =>
      refine (hne ?_ h).elim
      simp [display, shown]
    | record members =>
      refine (hne ?_ h).elim
      simp [display, shown]
    | decimal d => exact (hne d.toList_text_ne_nil h).elim
    | date d =>
      refine (hne ?_ h).elim
      simp [display, Date.text]
    | moment m =>
      refine (hne ?_ h).elim
      simp [display, Moment.text, Moment.textWith, Date.text]
  · rintro rfl
    rfl

theorem toReal?_of_ne_null {v : Value} (h : v ≠ .null) : v.toReal? = v.toReal.map some := by
  cases v with
  | null => exact absurd rfl h
  | _ => rfl

/-- A value that is a number is one that may be missing. -/
theorem toReal?_of_toReal {v : Value} {x : Binary64} (h : v.toReal = .ok x) :
    v.toReal? = .ok (some x) := by
  have hnull : v ≠ .null := by
    rintro rfl
    cases h
  rw [toReal?_of_ne_null hnull, h]
  rfl

/-- Only null is read as a missing number. -/
theorem toReal?_eq_none_iff {v : Value} : v.toReal? = .ok none ↔ v = .null := by
  refine ⟨fun h => ?_, fun h => h ▸ rfl⟩
  by_contra hnull
  rw [toReal?_of_ne_null hnull] at h
  cases hreal : v.toReal with
  | ok x => simp [hreal, Except.map] at h
  | error e => simp [hreal, Except.map] at h

end Value

/-! ## Named values -/

variable {α : Type}

/-- A new name goes to the end. -/
theorem setNamed_of_notMem {name : String} (v : α) {pairs : List (String × α)}
    (h : name ∉ pairs.map (·.1)) : setNamed name v pairs = pairs ++ [(name, v)] := by
  induction pairs with
  | nil => rfl
  | cons p pairs ih =>
    rw [List.map_cons, List.mem_cons, not_or] at h
    rw [setNamed, beq_eq_false_iff_ne.2 (Ne.symm h.1), if_neg Bool.false_ne_true, ih h.2]
    rfl

/-- The value that is set last counts. -/
theorem setNamed_setNamed (name : String) (u v : α) (pairs : List (String × α)) :
    setNamed name v (setNamed name u pairs) = setNamed name v pairs := by
  induction pairs with
  | nil => simp [setNamed]
  | cons p pairs ih =>
    by_cases hp : (p.1 == name) = true
    · simp [setNamed, hp]
    · simp [setNamed, hp, ih]

theorem valueOf?_setNamed (name : String) (v : α) (pairs : List (String × α)) :
    valueOf? name (setNamed name v pairs) = some v := by
  induction pairs with
  | nil => simp [setNamed, valueOf?]
  | cons p pairs ih =>
    by_cases hp : (p.1 == name) = true
    · have hname : p.1 = name := beq_iff_eq.1 hp
      simp [setNamed, valueOf?, hname]
    · have hne : (name == p.1) = false := beq_eq_false_iff_ne.2 fun h => hp (beq_iff_eq.2 h.symm)
      rw [setNamed, if_neg hp, valueOf?, List.lookup_cons, hne]
      exact ih

theorem valueOf?_setNamed_ne {name other : String} (h : other ≠ name) (v : α)
    (pairs : List (String × α)) :
    valueOf? other (setNamed name v pairs) = valueOf? other pairs := by
  have hother : (other == name) = false := beq_eq_false_iff_ne.2 h
  induction pairs with
  | nil => rw [setNamed, valueOf?, valueOf?, List.lookup_cons, hother]
  | cons p pairs ih =>
    by_cases hp : (p.1 == name) = true
    · obtain rfl : p.1 = name := beq_iff_eq.1 hp
      rw [setNamed, if_pos hp, valueOf?, valueOf?, List.lookup_cons, List.lookup_cons, hother]
    · rw [setNamed, if_neg hp, valueOf?, valueOf?, List.lookup_cons, List.lookup_cons]
      cases other == p.1 with
      | true => rfl
      | false => exact ih

theorem valueOf?_filter_ne {name other : String} (h : other ≠ name) (pairs : List (String × α)) :
    valueOf? other (pairs.filter (·.1 != name)) = valueOf? other pairs := by
  have hother : (other == name) = false := beq_eq_false_iff_ne.2 h
  induction pairs with
  | nil => rfl
  | cons p pairs ih =>
    by_cases hp : p.1 = name
    · have hdropped : (p.1 != name) = false := by simpa using hp
      rw [List.filter_cons, hdropped, if_neg Bool.false_ne_true, ih, valueOf?, valueOf?,
        List.lookup_cons, hp, hother]
    · have hkept : (p.1 != name) = true := by simpa using hp
      rw [List.filter_cons, hkept, if_pos rfl, valueOf?, valueOf?, List.lookup_cons,
        List.lookup_cons]
      cases other == p.1 with
      | true => rfl
      | false => exact ih

/-- The other values stay as they are. -/
theorem filter_setNamed (name : String) (v : α) (pairs : List (String × α)) :
    (setNamed name v pairs).filter (·.1 != name) = pairs.filter (·.1 != name) := by
  induction pairs with
  | nil => simp [setNamed]
  | cons p pairs ih =>
    by_cases hp : (p.1 == name) = true
    · have hname : p.1 = name := beq_iff_eq.1 hp
      simp [setNamed, hname]
    · rw [setNamed, if_neg hp, List.filter_cons, List.filter_cons, ih]

/-- Values of different names are kept as they are. -/
theorem namedValues_of_nodup {pairs : List (String × α)} (h : (pairs.map (·.1)).Nodup) :
    namedValues pairs = pairs := by
  suffices hfrom : ∀ acc : List (String × α), ((acc ++ pairs).map (·.1)).Nodup →
      pairs.foldl (fun acc p => setNamed p.1 p.2 acc) acc = acc ++ pairs from hfrom [] h
  clear h
  induction pairs with
  | nil => exact fun acc _ => (List.append_nil acc).symm
  | cons p pairs ih =>
    intro acc hacc
    have hnew : p.1 ∉ acc.map (·.1) := by
      rw [List.map_append, List.map_cons, List.nodup_append] at hacc
      exact fun hmem => hacc.2.2 _ hmem _ List.mem_cons_self rfl
    rw [List.append_cons] at hacc
    rw [List.foldl_cons, setNamed_of_notMem p.2 hnew, ih _ hacc, List.append_assoc]
    rfl

/-- A value that is there already is not set again. -/
theorem setNamed_of_mem {name : String} {v : α} {pairs : List (String × α)}
    (h : (name, v) ∈ pairs) (hnodup : (pairs.map (·.1)).Nodup) :
    setNamed name v pairs = pairs := by
  induction pairs with
  | nil => exact nomatch h
  | cons p pairs ih =>
    rw [List.map_cons, List.nodup_cons] at hnodup
    rcases List.mem_cons.1 h with rfl | hmem
    · rw [setNamed, if_pos (beq_self_eq_true name)]
    · have hne : p.1 ≠ name := fun heq => hnodup.1 (heq ▸ List.mem_map.2 ⟨_, hmem, rfl⟩)
      rw [setNamed, if_neg (by simpa using hne), ih hmem hnodup.2]

/-- Pairs that give every name one value are kept, each of them once. -/
theorem namedValues_of_agree {pairs : List (String × α)}
    (h : ∀ p ∈ pairs, ∀ q ∈ pairs, p.1 = q.1 → p = q) :
    ((namedValues pairs).map (·.1)).Nodup ∧ ∀ p, p ∈ namedValues pairs ↔ p ∈ pairs := by
  induction pairs using List.reverseRecOn with
  | nil => exact ⟨List.nodup_nil, fun p => Iff.rfl⟩
  | append_singleton pairs q ih =>
    obtain ⟨hbefore, hlast⟩ := List.forall_mem_append.1 h
    have hq := List.forall_mem_singleton.1 hlast
    obtain ⟨hnodup, hmem⟩ := ih fun p hp r hr => hbefore p hp r (List.mem_append_left _ hr)
    have hconcat : namedValues (pairs ++ [q]) = setNamed q.1 q.2 (namedValues pairs) :=
      List.foldl_append
    rw [hconcat]
    by_cases hseen : q.1 ∈ (namedValues pairs).map (·.1)
    · obtain ⟨r, hr, hname⟩ := List.mem_map.1 hseen
      obtain rfl : q = r := hq r (List.mem_append_left _ ((hmem r).1 hr)) hname.symm
      rw [setNamed_of_mem hr hnodup]
      refine ⟨hnodup, fun p => ?_⟩
      rw [hmem, List.mem_append, List.mem_singleton]
      exact ⟨.inl, fun hp => hp.elim id fun heq => heq ▸ (hmem q).1 hr⟩
    · rw [setNamed_of_notMem q.2 hseen]
      refine ⟨?_, fun p => ?_⟩
      · rw [List.map_append, List.map_singleton, List.nodup_append]
        refine ⟨hnodup, List.pairwise_singleton _ _, ?_⟩
        rintro name hname _ hlast rfl
        exact hseen (List.mem_singleton.1 hlast ▸ hname)
      · rw [List.mem_append, List.mem_append, hmem]

end Crosstab
