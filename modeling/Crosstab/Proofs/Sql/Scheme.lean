import Crosstab.Proofs.Sql.Clauses

/-!
# Chains of parts

A chain of conditions has a truth value for any truth values of its conditions, whatever these say.
So its conditions are known by number here, and a scheme tells how they are put together. As SQL
reads a chain, it says that the conditions of one of its runs without disjunctions hold. Read from
left to right, each condition is joined with all before it. The two are the same exactly where no
conjunction comes after a disjunction.
-/

namespace Crosstab.Sql

/-! ## Schemes -/

/-- What is said of parts that are known by number. -/
inductive Scheme where
  | part (i : Nat)
  | negation (s : Scheme)
  | both (s t : Scheme)
  | either (s t : Scheme)

namespace Scheme

/-- The formula, given what the parts say. -/
def fill (fs : Nat → Formula) : Scheme → Formula
  | .part i => fs i
  | .negation s => .negation (s.fill fs)
  | .both s t => .both (s.fill fs) (t.fill fs)
  | .either s t => .either (s.fill fs) (t.fill fs)

/-- The truth of the scheme, given that of the parts. -/
def holds (w : Nat → Bool) : Scheme → Bool
  | .part i => w i
  | .negation s => !s.holds w
  | .both s t => s.holds w && t.holds w
  | .either s t => s.holds w || t.holds w

/-- Parts that are looked into have the truth of what they say. -/
theorem holds_fill (fs : Nat → Formula) (v : List Term → Bool) (s : Scheme) :
    (s.fill fs).holds v = s.holds fun i => (fs i).holds v := by
  induction s with
  | part i => rfl
  | negation s ih => rw [fill, Formula.holds, holds, ih]
  | both s t hs ht => rw [fill, Formula.holds, holds, hs, ht]
  | either s t hs ht => rw [fill, Formula.holds, holds, hs, ht]

/-- A scheme and the parts behind it, each with the connective in front of it: conjunction binds
before disjunction. -/
def byPrecedence : Scheme → List (Logic × Nat) → Scheme
  | s, [] => s
  | s, (.and, i) :: rest => byPrecedence (.both s (.part i)) rest
  | s, (.or, i) :: rest => .either s (byPrecedence (.part i) rest)

theorem fill_byPrecedence (fs : Nat → Formula) (s : Scheme) (rest : List (Logic × Nat)) :
    (byPrecedence s rest).fill fs =
      Links.byPrecedence (s.fill fs) (rest.map fun p => (p.1, fs p.2)) := by
  induction rest generalizing s with
  | nil => rfl
  | cons p rest ih =>
    obtain ⟨logic, i⟩ := p
    cases logic with
    | and => exact ih _
    | or => exact congrArg (Formula.either (s.fill fs)) (ih (.part i))

end Scheme

/-! ## Runs -/

/-- The runs of parts that have no disjunction between them, the first of which has begun. -/
def runsFrom (run : List Nat) : List (Logic × Nat) → List (List Nat)
  | [] => [run]
  | (.and, i) :: rest => runsFrom (run ++ [i]) rest
  | (.or, i) :: rest => run :: runsFrom [i] rest

/-- Whether all parts of some run hold; none of no parts. The connective in front of the first part
counts for nothing. -/
def someRun (w : Nat → Bool) : List (Logic × Nat) → Option Bool
  | [] => none
  | (_, i) :: rest => some ((runsFrom [i] rest).any (·.all w))

/-- As SQL reads a chain, it says that some run of it holds. -/
theorem Scheme.holds_byPrecedence (w : Nat → Bool) {s : Scheme} {run : List Nat}
    (h : s.holds w = run.all w) (rest : List (Logic × Nat)) :
    (s.byPrecedence rest).holds w = (runsFrom run rest).any (·.all w) := by
  induction rest generalizing s run with
  | nil => simpa [byPrecedence, runsFrom] using h
  | cons p rest ih =>
    obtain ⟨logic, i⟩ := p
    have hpart : (Scheme.part i).holds w = [i].all w := by simp [holds]
    cases logic with
    | and => exact ih (by simp [holds, h])
    | or => rw [byPrecedence, holds, h, ih hpart, runsFrom, List.any_cons]

theorem Scheme.holds_byPrecedence_part (w : Nat → Bool) (i : Nat) (rest : List (Logic × Nat)) :
    ((Scheme.part i).byPrecedence rest).holds w = (runsFrom [i] rest).any (·.all w) :=
  Scheme.holds_byPrecedence w (by simp [holds]) rest

/-! ## From left to right -/

/-- The truth of two conditions with the connective between them. -/
def Logic.join : Logic → Bool → Bool → Bool
  | .and, a, b => a && b
  | .or, a, b => a || b

/-- A truth value joined with those of parts, one after the other. -/
def joined (w : Nat → Bool) (b : Bool) (rest : List (Logic × Nat)) : Bool :=
  rest.foldl (fun b p => p.1.join b (w p.2)) b

/-- The truth of parts each of which is joined with all before it by the connective in front of it;
none of no parts. The connective in front of the first part counts for nothing. -/
def fromLeft (w : Nat → Bool) : List (Logic × Nat) → Option Bool
  | [] => none
  | (_, i) :: rest => some (joined w (w i) rest)

/-- No conjunction comes after a disjunction. -/
def IsOrdered (rest : List (Logic × Nat)) : Prop :=
  rest.Pairwise fun p q => p.1 = .or → q.1 = .or

theorem joined_append (w : Nat → Bool) (b : Bool) (front : List (Logic × Nat)) (p : Logic × Nat)
    (back : List (Logic × Nat)) :
    joined w b (front ++ p :: back) = joined w (p.1.join (joined w b front) (w p.2)) back :=
  List.foldl_append

/-- A disjunction at the left of disjunctions may be made last. -/
theorem joined_or (w : Nat → Bool) (a b : Bool) {rest : List (Logic × Nat)}
    (h : ∀ p ∈ rest, p.1 = .or) : joined w (a || b) rest = (a || joined w b rest) := by
  induction rest generalizing b with
  | nil => rfl
  | cons p rest ih =>
    obtain ⟨logic, i⟩ := p
    obtain ⟨rfl, hrest⟩ := List.forall_mem_cons.1 h
    show joined w (a || b || w i) rest = (a || joined w (b || w i) rest)
    rw [Bool.or_assoc, ih _ hrest]

/-- Where no conjunction comes after a disjunction, precedence changes nothing. -/
theorem Scheme.holds_of_isOrdered (w : Nat → Bool) (s : Scheme) {rest : List (Logic × Nat)}
    (h : IsOrdered rest) : (s.byPrecedence rest).holds w = joined w (s.holds w) rest := by
  induction rest generalizing s with
  | nil => rfl
  | cons p rest ih =>
    obtain ⟨logic, i⟩ := p
    obtain ⟨hlater, hrest⟩ := List.pairwise_cons.1 h
    cases logic with
    | and => exact ih _ hrest
    | or =>
      have hor : ∀ q ∈ rest, q.1 = .or := fun q hq => hlater q hq rfl
      show (s.holds w || ((Scheme.part i).byPrecedence rest).holds w) =
        joined w (s.holds w || w i) rest
      rw [ih _ hrest, joined_or w _ _ hor]
      rfl

/-- A chain of one connective only is the same from left to right. -/
theorem isOrdered_of_forall {rest : List (Logic × Nat)} {logic : Logic}
    (h : ∀ p ∈ rest, p.1 = logic) : IsOrdered rest :=
  List.pairwise_iff_forall_sublist.2 fun {p q} hsub hor => by
    rw [h q (hsub.subset (by simp)), ← h p (hsub.subset (by simp)), hor]

/-! ### Where precedence matters -/

/-- If the parts before a disjunction hold, so does the chain as SQL reads it. -/
theorem Scheme.holds_before_or (w : Nat → Bool) {s : Scheme} (hs : s.holds w = true)
    {front : List (Logic × Nat)} (hfront : ∀ p ∈ front, w p.2 = true) (i : Nat)
    (rest : List (Logic × Nat)) :
    (s.byPrecedence (front ++ (.or, i) :: rest)).holds w = true := by
  induction front generalizing s with
  | nil => simp [byPrecedence, holds, hs]
  | cons p front ih =>
    obtain ⟨logic, j⟩ := p
    obtain ⟨hj, hrest⟩ := List.forall_mem_cons.1 hfront
    cases logic with
    | and => exact ih (by simp [holds, hs, hj]) hrest
    | or => simp [byPrecedence, holds, hs]

theorem joined_false (w : Nat → Bool) {rest : List (Logic × Nat)}
    (h : ∀ p ∈ rest, w p.2 = false) : joined w false rest = false := by
  induction rest with
  | nil => rfl
  | cons p rest ih =>
    obtain ⟨logic, i⟩ := p
    obtain ⟨hi, hrest⟩ := List.forall_mem_cons.1 h
    have hjoin : logic.join false (w i) = false := by cases logic <;> simp [Logic.join, hi]
    show joined w (logic.join false (w i)) rest = false
    rw [hjoin, ih hrest]

/-- Parts of which a conjunction comes after a disjunction have such two next to each other. -/
theorem exists_or_and {rest : List (Logic × Nat)} (h : ¬IsOrdered rest) :
    ∃ front i j back, rest = front ++ (.or, i) :: (.and, j) :: back := by
  induction rest with
  | nil => exact absurd List.Pairwise.nil h
  | cons p rest ih =>
    by_cases hrest : IsOrdered rest
    · obtain ⟨logic, i⟩ := p
      have hlater : ¬∀ q ∈ rest, logic = .or → q.1 = .or := fun hall =>
        h (List.pairwise_cons.2 ⟨hall, hrest⟩)
      obtain rfl : logic = .or := by
        cases logic with
        | or => rfl
        | and => exact absurd (fun _ _ => nofun) hlater
      cases rest with
      | nil => exact absurd (fun _ => nofun) hlater
      | cons q rest =>
        obtain ⟨next, j⟩ := q
        cases next with
        | and => exact ⟨[], i, j, rest, rfl⟩
        | or =>
          -- behind a disjunction there are only disjunctions
          refine absurd (fun q hq _ => ?_) hlater
          rcases List.mem_cons.1 hq with rfl | hq
          · rfl
          · exact (List.pairwise_cons.1 hrest).1 q hq rfl
    · obtain ⟨front, i, j, back, rfl⟩ := ih hrest
      exact ⟨p :: front, i, j, back, rfl⟩

/-- Where a conjunction comes after a disjunction, some truth values of the parts make the chain
hold as SQL reads it, and not from left to right. -/
theorem exists_precedence {i : Nat} {rest : List (Logic × Nat)}
    (hnodup : (i :: rest.map (·.2)).Nodup) (h : ¬IsOrdered rest) :
    ∃ w : Nat → Bool, ((Scheme.part i).byPrecedence rest).holds w = true ∧
      joined w (w i) rest = false := by
  obtain ⟨front, j, k, back, rfl⟩ := exists_or_and h
  -- the parts up to the disjunction hold, the others do not
  let isTrue : List Nat := i :: (front.map (·.2) ++ [j])
  have hsplit : i :: (front ++ (Logic.or, j) :: (Logic.and, k) :: back).map (·.2) =
      isTrue ++ k :: back.map (·.2) := by simp [isTrue]
  rw [hsplit] at hnodup
  have hother : ∀ n ∈ k :: back.map (·.2), n ∉ isTrue := fun n hn hmem =>
    (List.nodup_append.1 hnodup).2.2 n hmem n hn rfl
  let w : Nat → Bool := fun n => decide (n ∈ isTrue)
  have hw : ∀ n ∈ isTrue, w n = true := fun n hn => decide_eq_true hn
  have hnot : ∀ n ∈ k :: back.map (·.2), w n = false := fun n hn => decide_eq_false (hother n hn)
  refine ⟨w, ?_, ?_⟩
  · have hi : (Scheme.part i).holds w = true := hw i List.mem_cons_self
    refine Scheme.holds_before_or w hi (fun p hp => hw p.2 ?_) j _
    exact List.mem_cons_of_mem _ (List.mem_append_left _ (List.mem_map_of_mem hp))
  · have hk : w k = false := hnot k List.mem_cons_self
    have hback : ∀ p ∈ back, w p.2 = false := fun p hp =>
      hnot p.2 (List.mem_cons_of_mem _ (List.mem_map_of_mem hp))
    rw [List.append_cons, joined_append, hk, Logic.join, Bool.and_false, joined_false w hback]

/-- Precedence changes nothing about a chain, whatever is true of its parts, exactly if no
conjunction comes after a disjunction in it. -/
theorem someRun_eq_fromLeft_iff {present : List (Logic × Nat)}
    (hnodup : (present.map (·.2)).Nodup) :
    (∀ w, someRun w present = fromLeft w present) ↔ IsOrdered present.tail := by
  cases present with
  | nil => exact ⟨fun _ => .nil, fun _ _ => rfl⟩
  | cons first rest =>
    obtain ⟨logic, i⟩ := first
    constructor
    · intro h
      by_contra hnot
      obtain ⟨w, hprecedence, hleft⟩ := exists_precedence hnodup hnot
      have hsame := Option.some.inj (h w)
      rw [← Scheme.holds_byPrecedence_part, hprecedence, hleft] at hsame
      cases hsame
    · intro h w
      have hordered := Scheme.holds_of_isOrdered w (.part i) h
      rw [someRun, ← Scheme.holds_byPrecedence_part]
      exact congrArg some hordered

/-! ## Predicates and fragments -/

/-- The predicate says what the scheme does and then the parts behind it, given what these say. -/
def Predicate.Forms (fs : Nat → Formula) (p : Predicate) (s : Scheme) (rest : List (Logic × Nat)) :
    Prop :=
  Says p.sql p.args ⟨s.fill fs, rest.map fun q => (q.1, fs q.2)⟩

namespace Predicate.Forms

variable {fs : Nat → Formula} {p q : Predicate} {s : Scheme} {rest : List (Logic × Nat)}

theorem link (hp : p.Forms fs s rest) (logic : Logic) {i : Nat} (hq : q.Forms fs (.part i) []) :
    (Predicate.link p logic q).Forms fs s (rest ++ [(logic, i)]) := by
  have hboth := Says.link hp logic hq
  rw [Forms, List.map_append]
  exact hboth

theorem group (hp : p.Forms fs s rest) :
    (Predicate.group p).Forms fs (s.byPrecedence rest) [] := by
  have hgroup := Says.group hp
  rw [Forms, Scheme.fill_byPrecedence]
  exact hgroup

theorem negation (hp : p.Forms fs s []) : (Predicate.negation p).Forms fs (.negation s) [] :=
  Says.not hp

end Predicate.Forms

/-- Those of numbered parts that are not blank, each with the connective in front of it. -/
def attached (joint : Nat → Logic) (parts : List (Fragment × Nat)) : List (Logic × Nat) :=
  (parts.filter (!·.1.isBlank)).map fun part => (joint part.2, part.2)

theorem nodup_attached (joint : Nat → Logic) (parts : List Fragment) :
    ((attached joint parts.zipIdx).map (·.2)).Nodup := by
  have hnumbers : ((parts.zipIdx).map (·.2)).Nodup := by
    rw [List.zipIdx_map_snd]
    exact List.nodup_range'
  rw [attached, List.map_map]
  exact hnumbers.sublist (List.filter_sublist.map Prod.snd)

/-- The fragment, as SQL reads it, is put together from the parts: whatever is true of what these
say, it has the truth that the value tells. It says nothing where there is no value. -/
def Fragment.IsMadeOf (f : Fragment) (parts : List Fragment)
    (value : (Nat → Bool) → Option Bool) : Prop :=
  ∃ (fs : Nat → Formula) (s? : Option Scheme),
    (∀ i g, parts[i]? = some g → g.isBlank = false → g.formula? = some (fs i)) ∧
    f.formula? = s?.map (·.fill fs) ∧ ∀ w, s?.map (·.holds w) = value w

/-- In particular, it has that truth whatever is true of the clauses. -/
theorem Fragment.IsMadeOf.holds {f : Fragment} {parts : List Fragment}
    {value : (Nat → Bool) → Option Bool} (h : f.IsMadeOf parts value) (v : List Term → Bool) :
    ∃ fs : Nat → Formula,
      (∀ i g, parts[i]? = some g → g.isBlank = false → g.formula? = some (fs i)) ∧
      f.formula?.map (·.holds v) = value fun i => (fs i).holds v := by
  obtain ⟨fs, s?, hparts, hformula, htruth⟩ := h
  refine ⟨fs, hparts, ?_⟩
  rw [← htruth, hformula, Option.map_map]
  exact congrArg (s?.map ·) (funext fun s => s.holds_fill fs v)

end Crosstab.Sql
