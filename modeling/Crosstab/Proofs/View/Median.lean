import Mathlib.Algebra.Order.Field.Rat
import Mathlib.Data.List.Forall2
import Mathlib.Data.List.Induction
import Mathlib.Data.List.Sort
import Mathlib.Order.Bounds.Basic
import Mathlib.Tactic.Linarith
import Crosstab.Proofs.Value.Integers
import Crosstab.View.Median

/-!
# Medians

The median of numbers is their midpoint once they are in order: the one in the middle, or half of
the sum of the two that are. Numbers have one order, so it does not matter in which they come, and
since each number counts as often as it occurs, half of them at least are no greater than the median
and half of them at least are no less. Of whole numbers below 2⁵² it is exact, because the sum of
two of them and half of that sum are binary numbers.
-/

namespace Crosstab.View

open Number

/-! ## The middle of a list -/

/-- In the middle of a list stand one element or two, with as many in front of them as behind. -/
theorem exists_middle {α : Type} {xs : List α} (h : xs ≠ []) :
    (∃ front m back, xs = front ++ m :: back ∧ front.length = back.length) ∨
      ∃ front m n back, xs = front ++ m :: n :: back ∧ front.length = back.length := by
  induction xs using List.bidirectionalRec with
  | nil => exact absurd rfl h
  | singleton x => exact .inl ⟨[], x, [], rfl, rfl⟩
  | cons_append x xs y ih =>
    by_cases hxs : xs = []
    · subst hxs
      exact .inr ⟨[], x, y, [], rfl, rfl⟩
    · rcases ih hxs with ⟨front, m, back, rfl, hlength⟩ | ⟨front, m, n, back, rfl, hlength⟩
      · exact .inl ⟨x :: front, m, back ++ [y], by simp, by simp [hlength]⟩
      · exact .inr ⟨x :: front, m, n, back ++ [y], by simp, by simp [hlength]⟩

section Middle

variable {vs front back : List Value} {v w : Value}

theorem ne_nil_of_sorted (hsorted : Value.sorted vs = .ok (front ++ v :: back)) : vs ≠ [] := by
  rintro rfl
  simp [Value.sorted, Value.comparable, sortedBy] at hsorted

/-- The median is the value in the middle of the sorted list. -/
theorem median_of_one (hsorted : Value.sorted vs = .ok (front ++ v :: back))
    (hlength : front.length = back.length) : median vs = some <$> v.toReal := by
  have hne := ne_nil_of_sorted hsorted
  have hcount : (front ++ v :: back).length = 2 * front.length + 1 := by
    rw [List.length_append, List.length_cons, hlength]
    omega
  have hodd : (2 * front.length + 1) % 2 = 1 := by omega
  have hhalf : (2 * front.length + 1) / 2 = front.length := by omega
  have hmiddle : (front ++ v :: back)[front.length]? = some v := by simp
  unfold median
  rw [if_neg (by simpa using hne), hsorted]
  simp only [bind, Except.bind, pure, Except.pure, hcount, hodd, hhalf, hmiddle, beq_self_eq_true,
    if_true, Option.getD_some]
  cases v.toReal <;> rfl

/-- The median is half of the sum of the two values in the middle of the sorted list. -/
theorem median_of_two (hsorted : Value.sorted vs = .ok (front ++ v :: w :: back))
    (hlength : front.length = back.length) :
    median vs = do
      let value ← (← v.plus w).dividedBy (.int 2)
      return some (← value.toReal) := by
  have hne := ne_nil_of_sorted hsorted
  have hcount : (front ++ v :: w :: back).length = 2 * (front.length + 1) := by
    rw [List.length_append, List.length_cons, List.length_cons, hlength]
    omega
  have heven : (2 * (front.length + 1) % 2 == 1) = false := by
    rw [Nat.mul_mod_right]
    rfl
  have hhalf : 2 * (front.length + 1) / 2 = front.length + 1 := by omega
  have hleft : (front ++ v :: w :: back)[front.length]? = some v := by simp
  have hright : (front ++ v :: w :: back)[front.length + 1]? = some w := by simp
  unfold median
  rw [if_neg (by simpa using hne), hsorted]
  simp only [bind, Except.bind, pure, Except.pure, hcount, heven, hhalf, Nat.add_sub_cancel, hleft,
    hright, Bool.false_eq_true, if_false, Option.getD_some]

end Middle

/-! ## Finite numbers -/

/-- The value is a binary number. -/
def IsReal (v : Value) : Prop :=
  ∃ x, v = .real x

theorem less?_reals {v w : Value} (hv : IsReal v) (hw : IsReal w) :
    (Value.less? v w).isSome = true := by
  obtain ⟨x, rfl⟩ := hv
  obtain ⟨y, rfl⟩ := hw
  rw [Value.less?]
  · simp only [Value.isNumber, Bool.and_self, if_true]
    split <;> rfl
  all_goals
    intros
    contradiction

/-- Half of the sum of two binary numbers is one. -/
theorem middle_of_reals {v w : Value} (hv : IsReal v) (hw : IsReal w) :
    ∃ sum x, v.plus w = .ok sum ∧ sum.dividedBy (.int 2) = .ok (.real x) := by
  obtain ⟨x, rfl⟩ := hv
  obtain ⟨y, rfl⟩ := hw
  exact ⟨_, _, Value.plus_real_real x y,
    Value.dividedBy_real_int _ Value.toReal_two Value.isZero_two⟩

/-- The value is a finite binary number. -/
def IsFinite (v : Value) : Prop :=
  ∃ s u, v = .real (.finite s u)

theorem IsFinite.isReal {v : Value} (h : IsFinite v) : IsReal v := by
  obtain ⟨s, u, rfl⟩ := h
  exact ⟨_, rfl⟩

theorem comparable_of_less? {vs : List Value}
    (h : ∀ v ∈ vs, ∀ w ∈ vs, (Value.less? v w).isSome = true) : Value.comparable vs = true := by
  unfold Value.comparable
  split
  · rfl
  · rfl
  · next first rest _ =>
    exact List.all_eq_true.2 fun w hw => h w (List.mem_cons_of_mem _ hw) first List.mem_cons_self

theorem sorted_of_finite {vs : List Value} (h : ∀ v ∈ vs, IsFinite v) :
    ∃ sorted, Value.sorted vs = .ok sorted ∧ sorted.Perm vs := by
  have hcomparable : Value.comparable vs = true :=
    comparable_of_less? fun v hv w hw => less?_reals (h v hv).isReal (h w hw).isReal
  have hordered : vs.all Value.isOrdered = true := List.all_eq_true.2 fun v hv => by
    obtain ⟨s, u, rfl⟩ := h v hv
    rfl
  refine ⟨_, if_pos hcomparable, ?_⟩
  rw [sortedBy, if_pos hordered]
  exact vs.mergeSort_perm _

/-- Finite numbers have a median, unless there are none. -/
theorem median_of_finite {vs : List Value} (h : ∀ v ∈ vs, IsFinite v) :
    ∃ x?, median vs = .ok x? := by
  by_cases hnone : vs = []
  · subst hnone
    exact ⟨none, rfl⟩
  obtain ⟨sorted, hsorted, hperm⟩ := sorted_of_finite h
  have hreal : ∀ v ∈ sorted, IsReal v := fun v hv => (h v (hperm.mem_iff.1 hv)).isReal
  have hne : sorted ≠ [] := fun hnil => hnone (List.perm_nil.1 (hnil ▸ hperm.symm))
  rcases exists_middle hne with ⟨front, v, back, rfl, hlength⟩ | ⟨front, v, w, back, rfl, hlength⟩
  · obtain ⟨x, rfl⟩ := hreal v (by simp)
    exact ⟨some x, median_of_one hsorted hlength⟩
  · obtain ⟨sum, x, hsum, hhalf⟩ := middle_of_reals (hreal v (by simp)) (hreal w (by simp))
    refine ⟨some x, ?_⟩
    rw [median_of_two hsorted hlength, hsum]
    show (do
      let value ← sum.dividedBy (.int 2)
      return some (← value.toReal)) = _
    rw [hhalf]
    rfl

/-! ## Midpoints -/

/-- The midpoint of numbers in a row: the one in the middle, or half of the sum of the two. -/
inductive Midpoint : List Int → ℚ → Prop where
  | one {front back : List Int} (m : Int) (h : front.length = back.length) :
      Midpoint (front ++ m :: back) m
  | two {front back : List Int} (m n : Int) (h : front.length = back.length) :
      Midpoint (front ++ m :: n :: back) ((m + n) / 2)

/-- The number is the median of whole numbers, where each counts as often as it occurs. -/
structure IsMedian (ns : List Int) (q : ℚ) : Prop where
  /-- It is the midpoint of the numbers in order. -/
  midpoint : ∃ sorted, sorted.Perm ns ∧ sorted.Pairwise (· ≤ ·) ∧ Midpoint sorted q
  least : ∃ low, IsLeast {n | n ∈ ns} low ∧ (low : ℚ) ≤ q
  greatest : ∃ high, IsGreatest {n | n ∈ ns} high ∧ q ≤ high
  /-- Half of the numbers at least are no greater. -/
  below : ns.length ≤ 2 * ns.countP fun n : Int => (n : ℚ) ≤ q
  /-- Half of the numbers at least are no less. -/
  above : ns.length ≤ 2 * ns.countP fun n : Int => q ≤ (n : ℚ)

section Midpoint

variable {ns sorted : List Int} {q : ℚ}

theorem Midpoint.length_pos (h : Midpoint sorted q) : 0 < sorted.length := by
  cases h <;> simp

/-- Numbers in order are no greater up to one of them, and no less from it on. -/
theorem around_of_sorted {front back : List Int} {m : Int}
    (h : (front ++ m :: back).Pairwise (· ≤ ·)) :
    (∀ k ∈ front ++ [m], k ≤ m) ∧ ∀ k ∈ m :: back, m ≤ k := by
  obtain ⟨-, hback, hfront⟩ := List.pairwise_append.1 h
  constructor
  · intro k hk
    rcases List.mem_append.1 hk with hk | hk
    · exact hfront k hk m List.mem_cons_self
    · exact Int.le_of_eq (List.mem_singleton.1 hk)
  · intro k hk
    rcases List.mem_cons.1 hk with rfl | hk
    · exact Int.le_refl _
    · exact List.rel_of_pairwise_cons hback hk

/-- The midpoint parts numbers in order: half of them at least are no greater, half no less. -/
theorem Midpoint.parts (h : Midpoint sorted q) (hsorted : sorted.Pairwise (· ≤ ·)) :
    ∃ lower upper : List Int, lower.Sublist sorted ∧ upper.Sublist sorted ∧
      sorted.length ≤ 2 * lower.length ∧ sorted.length ≤ 2 * upper.length ∧
      (∀ n ∈ lower, (n : ℚ) ≤ q) ∧ ∀ n ∈ upper, q ≤ (n : ℚ) := by
  cases h with
  | @one front back m hlength =>
    obtain ⟨hle, hge⟩ := around_of_sorted hsorted
    have hfront : (front ++ [m]).Sublist (front ++ m :: back) :=
      (List.singleton_sublist.2 List.mem_cons_self).append_left front
    refine ⟨front ++ [m], m :: back, hfront, List.sublist_append_right _ _, ?_, ?_, ?_, ?_⟩
    · simp only [List.length_append, List.length_cons, List.length_nil]
      omega
    · simp only [List.length_append, List.length_cons]
      omega
    · exact fun k hk => Int.cast_le.2 (hle k hk)
    · exact fun k hk => Int.cast_le.2 (hge k hk)
  | @two front back m n hlength =>
    have hsplit : front ++ m :: n :: back = front ++ [m] ++ n :: back := List.append_cons _ _ _
    rw [hsplit] at hsorted ⊢
    obtain ⟨-, hge⟩ := around_of_sorted hsorted
    obtain ⟨hle, hmiddle⟩ := around_of_sorted (hsplit ▸ hsorted)
    have hmn : (m : ℚ) ≤ n := Int.cast_le.2 (hmiddle n (by simp))
    refine ⟨front ++ [m], n :: back, List.sublist_append_left _ _, List.sublist_append_right _ _,
      ?_, ?_, ?_, ?_⟩
    · simp only [List.length_append, List.length_cons, List.length_nil]
      omega
    · simp only [List.length_append, List.length_cons, List.length_nil]
      omega
    · intro k hk
      have hkm : (k : ℚ) ≤ m := Int.cast_le.2 (hle k hk)
      linarith
    · intro k hk
      have hnk : (n : ℚ) ≤ k := Int.cast_le.2 (hge k hk)
      linarith

theorem length_le_countP {part : List Int} {p : Int → Bool} (hpart : part.Sublist ns)
    (h : ∀ n ∈ part, p n = true) : part.length ≤ ns.countP p := by
  rw [← List.countP_eq_length.2 h]
  exact hpart.countP_le

/-- The midpoint of numbers in order is the median of them in any order. -/
theorem Midpoint.isMedian (h : Midpoint sorted q) (hsorted : sorted.Pairwise (· ≤ ·))
    (hperm : sorted.Perm ns) : IsMedian ns q := by
  obtain ⟨lower, upper, hlower, hupper, hbelow, habove, hle, hge⟩ := h.parts hsorted
  have hpos := h.length_pos
  obtain ⟨a, ha⟩ := List.exists_mem_of_length_pos (by omega : 0 < lower.length)
  obtain ⟨b, hb⟩ := List.exists_mem_of_length_pos (by omega : 0 < upper.length)
  have haMem : a ∈ ns := hperm.mem_iff.1 (hlower.subset ha)
  have hbMem : b ∈ ns := hperm.mem_iff.1 (hupper.subset hb)
  refine ⟨⟨sorted, hperm, hsorted, h⟩, ?_, ?_, ?_, ?_⟩
  · obtain ⟨low, hlow⟩ := Option.isSome_iff_exists.1 (List.isSome_min?_of_mem haMem)
    have hleast : IsLeast {n | n ∈ ns} low := List.min?_eq_some_iff.1 hlow
    exact ⟨low, hleast, (Int.cast_le.2 (hleast.2 haMem)).trans (hle a ha)⟩
  · obtain ⟨high, hhigh⟩ := Option.isSome_iff_exists.1 (List.isSome_max?_of_mem hbMem)
    have hgreatest : IsGreatest {n | n ∈ ns} high := List.max?_eq_some_iff.1 hhigh
    exact ⟨high, hgreatest, (hge b hb).trans (Int.cast_le.2 (hgreatest.2 hbMem))⟩
  · have hcount := length_le_countP hlower fun n hn => decide_eq_true (hle n hn)
    rw [← hperm.length_eq, ← hperm.countP_eq]
    omega
  · have hcount := length_le_countP hupper fun n hn => decide_eq_true (hge n hn)
    rw [← hperm.length_eq, ← hperm.countP_eq]
    omega

theorem Midpoint.unique {other : List Int} {p : ℚ} (hp : Midpoint sorted p)
    (hq : Midpoint other q) (h : sorted = other) : p = q := by
  have hlength := congrArg List.length h
  cases hp with
  | one m hm =>
    cases hq with
    | one n hn =>
      simp only [List.length_append, List.length_cons] at hlength
      obtain ⟨-, htail⟩ := List.append_inj h (by omega)
      rw [(List.cons.inj htail).1]
    | two n n' hn =>
      simp only [List.length_append, List.length_cons] at hlength
      omega
  | two m m' hm =>
    cases hq with
    | one n hn =>
      simp only [List.length_append, List.length_cons] at hlength
      omega
    | two n n' hn =>
      simp only [List.length_append, List.length_cons] at hlength
      obtain ⟨-, htail⟩ := List.append_inj h (by omega)
      obtain ⟨rfl, hrest⟩ := List.cons.inj htail
      rw [(List.cons.inj hrest).1]

/-- Numbers have one median. -/
theorem IsMedian.unique {p : ℚ} (hp : IsMedian ns p) (hq : IsMedian ns q) : p = q := by
  obtain ⟨as, has, hasSorted, hasMidpoint⟩ := hp.midpoint
  obtain ⟨bs, hbs, hbsSorted, hbsMidpoint⟩ := hq.midpoint
  exact hasMidpoint.unique hbsMidpoint
    ((has.trans hbs.symm).eq_of_pairwise' hasSorted hbsSorted)

end Midpoint

/-! ## Medians of whole numbers -/

section Integers

variable {vs : List Value} {ms sorted : List Int}

/-- Values that are whole numbers are sorted as their numbers are. -/
theorem sorted_integers (hvs : List.Forall₂ Value.IsInteger vs ms) (hperm : sorted.Perm ms)
    (hsorted : sorted.Pairwise (· ≤ ·)) :
    ∃ ps : List (Value × Int), Value.sorted vs = .ok (ps.map Prod.fst) ∧
      ps.map Prod.snd = sorted ∧ ∀ p ∈ ps, Value.IsInteger p.1 p.2 := by
  obtain ⟨hlength, hpairs⟩ := List.forall₂_iff_zip.1 hvs
  set ps := vs.zip ms with hps
  have hfst : ps.map Prod.fst = vs := List.map_fst_zip (Nat.le_of_eq hlength)
  have hsnd : ps.map Prod.snd = ms := List.map_snd_zip (Nat.le_of_eq hlength.symm)
  have hinteger : ∀ p ∈ ps, Value.IsInteger p.1 p.2 := fun p hp => hpairs hp
  let le : Value × Int → Value × Int → Bool := fun p r => p.2 ≤ r.2
  refine ⟨ps.mergeSort le, ?_, ?_, fun p hp => hinteger p ((ps.mergeSort_perm le).mem_iff.1 hp)⟩
  · have hcomparable : Value.comparable vs = true := by
      refine comparable_of_less? fun v hv w hw => ?_
      rw [← hfst] at hv hw
      obtain ⟨p, hp, rfl⟩ := List.mem_map.1 hv
      obtain ⟨r, hr, rfl⟩ := List.mem_map.1 hw
      rw [(hinteger p hp).less? (hinteger r hr)]
      rfl
    have hordered : vs.all Value.isOrdered = true := List.all_eq_true.2 fun v hv => by
      rw [← hfst] at hv
      obtain ⟨p, hp, rfl⟩ := List.mem_map.1 hv
      exact (hinteger p hp).isOrdered
    rw [Value.sorted, if_pos hcomparable, sortedBy, if_pos hordered, ← hfst]
    refine congrArg Except.ok (List.map_mergeSort fun p hp r hr => ?_).symm
    rw [(hinteger r hr).less? (hinteger p hp), Option.getD_some, ← decide_not, decide_eq_decide]
    exact Int.not_lt.symm
  · have hmap : (ps.mergeSort le).map Prod.snd = ms.mergeSort (· ≤ ·) := by
      rw [← hsnd]
      exact List.map_mergeSort fun p _ r _ => rfl
    rw [hmap]
    exact ((ms.mergeSort_perm _).trans hperm.symm).eq_of_pairwise'
      (List.pairwise_mergeSort' (· ≤ ·) ms) hsorted

/-- The median of whole numbers with one in the middle is this one. -/
theorem median_integers_of_one {front back : List Int} {m : Int}
    (hvs : List.Forall₂ Value.IsInteger vs ms) (hperm : (front ++ m :: back).Perm ms)
    (hsorted : (front ++ m :: back).Pairwise (· ≤ ·)) (hlength : front.length = back.length)
    (hm : m.natAbs ≤ twoTo 53) : median vs = .ok (some (.ofWhole m)) := by
  obtain ⟨ps, hps, hsnd, hinteger⟩ := sorted_integers hvs hperm hsorted
  obtain ⟨psFront, psRest, rfl, rfl, hrest⟩ := List.map_eq_append_iff.1 hsnd
  obtain ⟨p, psBack, rfl, rfl, rfl⟩ := List.map_eq_cons_iff.1 hrest
  rw [List.map_append, List.map_cons] at hps
  rw [median_of_one hps (by simpa using hlength),
    (hinteger p (by simp)).toReal hm]
  rfl

/-- The median of whole numbers with two in the middle is half of the sum of these. -/
theorem median_integers_of_two {front back : List Int} {m n : Int}
    (hvs : List.Forall₂ Value.IsInteger vs ms) (hperm : (front ++ m :: n :: back).Perm ms)
    (hsorted : (front ++ m :: n :: back).Pairwise (· ≤ ·)) (hlength : front.length = back.length)
    (hm : m.natAbs < twoTo 52) (hn : n.natAbs < twoTo 52) :
    median vs = .ok (some (.halfOf (m + n))) := by
  obtain ⟨ps, hps, hsnd, hinteger⟩ := sorted_integers hvs hperm hsorted
  obtain ⟨psFront, psRest, rfl, rfl, hrest⟩ := List.map_eq_append_iff.1 hsnd
  obtain ⟨p, psTail, rfl, rfl, htail⟩ := List.map_eq_cons_iff.1 hrest
  obtain ⟨r, psBack, rfl, rfl, rfl⟩ := List.map_eq_cons_iff.1 htail
  rw [List.map_append, List.map_cons, List.map_cons] at hps
  have htwice : twoTo 53 = twoTo 52 * 2 := twoTo_succ 52
  have hsmall : (p.2 + r.2).natAbs ≤ twoTo 53 := by omega
  obtain ⟨sum, hsum, hsumInteger⟩ := (hinteger p (by simp)).plus (hinteger r (by simp))
    (by omega) (by omega) hsmall
  rw [median_of_two hps (by simpa using hlength), hsum]
  show (do
    let value ← sum.dividedBy (.int 2)
    return some (← value.toReal)) = _
  rw [hsumInteger.halved hsmall]
  rfl

/-- The median of whole numbers is the midpoint of these in order, exactly. -/
theorem median_integers (hne : sorted ≠ []) (hsorted : sorted.Pairwise (· ≤ ·))
    (hsmall : ∀ n ∈ sorted, n.natAbs < twoTo 52) :
    ∃ (x : Binary64) (q : ℚ), x.toRat? = some q ∧ Midpoint sorted q ∧ ∀ vs ms, sorted.Perm ms →
      List.Forall₂ Value.IsInteger vs ms → median vs = .ok (some x) := by
  rcases exists_middle hne with ⟨front, m, back, rfl, hlength⟩ | ⟨front, m, n, back, rfl, hlength⟩
  · have hm := hsmall m (by simp)
    have htwice : twoTo 53 = twoTo 52 * 2 := twoTo_succ 52
    exact ⟨.ofWhole m, m, Binary64.toRat?_ofWhole m, .one m hlength, fun vs ms hms hvs =>
      median_integers_of_one hvs hms hsorted hlength (by omega)⟩
  · refine ⟨.halfOf (m + n), (m + n) / 2, ?_, .two m n hlength, fun vs ms hms hvs =>
      median_integers_of_two hvs hms hsorted hlength (hsmall m (by simp)) (hsmall n (by simp))⟩
    rw [Binary64.toRat?_halfOf, Int.cast_add]

end Integers

/-- The median of whole numbers below 2⁵² is their midpoint, exactly: the number in the middle when
they are in order, or half of the sum of the two. It is one binary number for all orders of the
numbers, be each given as whole or as binary, lies between the least and the greatest of them, and
half of them at least are no greater and half of them at least no less. -/
theorem whole_numbers_have_exact_median {ns : List Int} (hne : ns ≠ [])
    (hsmall : ∀ n ∈ ns, n.natAbs < twoTo 52) :
    ∃ (x : Binary64) (q : ℚ), x.toRat? = some q ∧ IsMedian ns q ∧ ∀ vs ms, ms.Perm ns →
      List.Forall₂ Value.IsInteger vs ms → median vs = .ok (some x) := by
  have hperm := ns.mergeSort_perm (· ≤ ·)
  have hsorted := List.pairwise_mergeSort' (· ≤ ·) ns
  obtain ⟨x, q, hx, hmidpoint, hmedian⟩ := median_integers
    (fun hnil => hne (List.nil_perm.1 (hnil ▸ hperm))) hsorted
    (fun n hn => hsmall n (hperm.mem_iff.1 hn))
  exact ⟨x, q, hx, hmidpoint.isMedian hsorted hperm, fun vs ms hms =>
    hmedian vs ms (hperm.trans hms.symm)⟩

/-- Whole and binary numbers, some of them equal, with two in the middle. -/
theorem six_numbers_have_exact_median :
    ∃ x : Binary64, x.toRat? = some (13 / 2) ∧
      median [.int 10, .real (.ofWhole 3), .int 4503599627370495, .int 3, .real (.ofWhole (-3)),
        .int 10] = .ok (some x) := by
  obtain ⟨x, q, hx, hmedian, hall⟩ := whole_numbers_have_exact_median
    (by decide : [10, 3, 4503599627370495, 3, -3, 10] ≠ []) (by decide)
  have htwo : Midpoint ([-3, 3] ++ 3 :: 10 :: [10, 4503599627370495])
      (((3 : Int) + (10 : Int)) / 2) := .two 3 10 rfl
  have hhalf : (((3 : Int) : ℚ) + (10 : Int)) / 2 = 13 / 2 := by norm_num
  rw [hhalf] at htwo
  have hq : q = 13 / 2 := hmedian.unique (htwo.isMedian (by decide) (by decide))
  refine ⟨x, hq ▸ hx, hall _ _ (.refl _) ?_⟩
  exact .cons (.whole _) (.cons (.binary _) (.cons (.whole _) (.cons (.whole _)
    (.cons (.binary _) (.cons (.whole _) .nil)))))

end Crosstab.View
