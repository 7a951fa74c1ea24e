import Crosstab.Proofs.Sql.Terms
import Crosstab.Sql.Predicate

/-!
# Conditions as SQL reads them

The terms of a condition are read by precedence: what stands between parentheses first, then
negation, then conjunction, then disjunction. The `AND` of a `BETWEEN` belongs to it, and a `NOT`
that is not at the start of a part belongs to the comparison that it stands in. What is left are the
clauses, whose truth is open.

A reading is a chain of parts with connectives between them; the chain of a condition that is put
together from others is put together from theirs.
-/

namespace Crosstab.Sql

/-! ## Formulas -/

/-- What a condition says of its clauses. -/
inductive Formula where
  | clause (ts : List Term)
  | negation (f : Formula)
  | both (f g : Formula)
  | either (f g : Formula)

namespace Formula

/-- The truth of the formula, given that of its clauses. -/
def holds (v : List Term → Bool) : Formula → Bool
  | .clause ts => v ts
  | .negation f => !f.holds v
  | .both f g => f.holds v && g.holds v
  | .either f g => f.holds v || g.holds v

/-- The formulas that the formula is the conjunction of. -/
def conjuncts : Formula → List Formula
  | .both f g => f.conjuncts ++ g.conjuncts
  | f => [f]

theorem holds_eq_all_conjuncts (v : List Term → Bool) (f : Formula) :
    f.holds v = f.conjuncts.all (·.holds v) := by
  induction f with
  | both f g hf hg => rw [holds, conjuncts, List.all_append, hf, hg]
  | clause ts => simp [conjuncts]
  | negation f _ => simp [conjuncts]
  | either f g _ _ => simp [conjuncts]

end Formula

/-- Formulas with connectives between them. -/
structure Links where
  first : Formula
  rest : List (Logic × Formula)

namespace Links

/-- The formula of a chain: conjunction binds before disjunction. -/
def byPrecedence : Formula → List (Logic × Formula) → Formula
  | f, [] => f
  | f, (.and, g) :: rest => byPrecedence (.both f g) rest
  | f, (.or, g) :: rest => .either f (byPrecedence g rest)

/-- What the chain says. -/
def formula (c : Links) : Formula :=
  byPrecedence c.first c.rest

/-- Two chains with a connective between them. -/
def append (c : Links) (logic : Logic) (d : Links) : Links :=
  ⟨c.first, c.rest ++ (logic, d.first) :: d.rest⟩

/-- All connectives of the chain are conjunctions. -/
def Conjunctive (c : Links) : Prop :=
  ∀ p ∈ c.rest, p.1 = .and

theorem conjuncts_byPrecedence (f : Formula) {rest : List (Logic × Formula)}
    (h : ∀ p ∈ rest, p.1 = .and) :
    (byPrecedence f rest).conjuncts = f.conjuncts ++ rest.flatMap (·.2.conjuncts) := by
  induction rest generalizing f with
  | nil => exact (List.append_nil _).symm
  | cons p rest ih =>
    obtain ⟨logic, g⟩ := p
    obtain ⟨rfl, hrest⟩ := List.forall_mem_cons.1 h
    rw [byPrecedence, ih _ hrest, Formula.conjuncts, List.flatMap_cons, List.append_assoc]

theorem Conjunctive.append {c d : Links} (hc : c.Conjunctive) (hd : d.Conjunctive) :
    (c.append .and d).Conjunctive := by
  intro p hp
  rcases List.mem_append.1 hp with hp | hp
  · exact hc p hp
  · rcases List.mem_cons.1 hp with rfl | hp
    · rfl
    · exact hd p hp

/-- Nothing crosses a conjunction between two chains without disjunctions. -/
theorem conjuncts_append {c d : Links} (hc : c.Conjunctive) (hd : d.Conjunctive) :
    (c.append .and d).formula.conjuncts = c.formula.conjuncts ++ d.formula.conjuncts := by
  rw [formula, conjuncts_byPrecedence _ (hc.append hd), formula, conjuncts_byPrecedence _ hc,
    formula, conjuncts_byPrecedence _ hd]
  simp [append]

end Links

/-! ## Words -/

/-- The symbol in upper case. -/
def Symbol.upper : Symbol → Symbol
  | .char c => .char c.toUpper
  | .value v => .value v

namespace Term

/-- The term is the given word, in any case. -/
def spells (keyword : String) : Term → Bool
  | .word w => w.map Symbol.upper == symbols keyword
  | .group _ => false

/-- The connective that the term is, given whether a `BETWEEN` is without its `AND`. -/
def connective? (pending : Bool) (t : Term) : Option Logic :=
  if t.spells "OR" then some .or
  else if t.spells "AND" && !pending then some .and
  else none

/-- Whether a `BETWEEN` is without its `AND` behind the term. -/
def pendingAfter (pending : Bool) (t : Term) : Bool :=
  if t.spells "BETWEEN" then true
  else if t.spells "AND" || t.spells "OR" then false
  else pending

/-- The term decides where a part of a condition ends. -/
def isJoint (t : Term) : Bool :=
  t.spells "AND" || t.spells "OR" || t.spells "BETWEEN"

end Term

/-! ## Reading conditions -/

/-- A term, and what it says if it is a condition between parentheses. -/
abbrev Item := Term × Option Formula

/-- The parts of a condition between its connectives. -/
def cut : Bool → List Item → List Item × List (Logic × List Item)
  | _, [] => ([], [])
  | pending, i :: is =>
    let (part, rest) := cut (i.1.pendingAfter pending) is
    match i.1.connective? pending with
    | some logic => ([], (logic, part) :: rest)
    | none => (i :: part, rest)

/-- What a part of a condition says. -/
def readPart : List Item → Option Formula
  | [] => none
  | i :: is =>
    if i.1.spells "NOT" then (readPart is).map .negation
    else
      match i, is with
      | (.group _, inside?), [] => inside?
      | (t, _), is => some (.clause (t :: is.map (·.1)))

/-- The chain of a condition. -/
def readLinks (is : List Item) : Option Links := do
  let (part, rest) := cut false is
  return ⟨← readPart part, ← rest.mapM fun p => do return (p.1, ← readPart p.2)⟩

mutual

/-- What a term says that is a condition between parentheses. -/
def Term.inside? : Term → Option Formula
  | .word _ => none
  | .group ts => (readLinks (itemsOf ts)).map (·.formula)

/-- The terms with what they say. -/
def itemsOf : List Term → List Item
  | [] => []
  | t :: ts => (t, t.inside?) :: itemsOf ts

end

/-- What a condition says, given by its terms. -/
def formulaOf? (ts : List Term) : Option Formula :=
  (readLinks (itemsOf ts)).map (·.formula)

/-! ## Rules -/

/-- Whether a `BETWEEN` is without its `AND` behind the terms. -/
def pendingFrom (pending : Bool) (ts : List Term) : Bool :=
  ts.foldl Term.pendingAfter pending

/-- The terms read as the chain, and no `BETWEEN` is left without its `AND`. -/
structure Parses (ts : List Term) (c : Links) : Prop where
  links : readLinks (itemsOf ts) = some c
  settled : pendingFrom false ts = false

theorem itemsOf_append (xs ys : List Term) : itemsOf (xs ++ ys) = itemsOf xs ++ itemsOf ys := by
  induction xs with
  | nil => rw [itemsOf, List.nil_append, List.nil_append]
  | cons x xs ih => rw [List.cons_append, itemsOf, itemsOf, ih, List.cons_append]

theorem map_fst_itemsOf (ts : List Term) : (itemsOf ts).map (·.1) = ts := by
  induction ts with
  | nil => rw [itemsOf, List.map_nil]
  | cons t ts ih => rw [itemsOf, List.map_cons, ih]

theorem Parses.formulaOf? {ts : List Term} {c : Links} (h : Parses ts c) :
    formulaOf? ts = some c.formula := by
  rw [Crosstab.Sql.formulaOf?, h.links]
  rfl

/-- A connective cuts a condition in two, unless a `BETWEEN` in front waits for it. -/
theorem cut_append {xs ys : List Term} {t : Term} {logic : Logic} {pending : Bool}
    (h : t.connective? (pendingFrom pending xs) = some logic) :
    cut pending (itemsOf (xs ++ t :: ys)) =
      ((cut pending (itemsOf xs)).1, (cut pending (itemsOf xs)).2 ++
        (logic, (cut (t.pendingAfter (pendingFrom pending xs)) (itemsOf ys)).1) ::
          (cut (t.pendingAfter (pendingFrom pending xs)) (itemsOf ys)).2) := by
  induction xs generalizing pending with
  | nil =>
    have hnow : t.connective? pending = some logic := h
    simp [itemsOf, cut, hnow, pendingFrom]
  | cons x xs ih =>
    have hrest : cut (x.pendingAfter pending) (itemsOf (xs ++ t :: ys)) = _ := ih h
    have hpending : pendingFrom pending (x :: xs) = pendingFrom (x.pendingAfter pending) xs := rfl
    rw [hpending, List.cons_append, itemsOf, itemsOf, cut, cut, hrest]
    cases x.connective? pending <;> rfl

/-- Terms that are no joints stay in their part. -/
theorem cut_of_not_joint {xs : List Term} (h : ∀ t ∈ xs, t.isJoint = false) (pending : Bool)
    (ys : List Term) :
    cut pending (itemsOf (xs ++ ys)) =
        (itemsOf xs ++ (cut pending (itemsOf ys)).1, (cut pending (itemsOf ys)).2) ∧
      pendingFrom pending (xs ++ ys) = pendingFrom pending ys := by
  induction xs with
  | nil => exact ⟨by rw [List.nil_append, itemsOf, List.nil_append], rfl⟩
  | cons x xs ih =>
    obtain ⟨hx, hxs⟩ := List.forall_mem_cons.1 h
    obtain ⟨hcut, hpending⟩ := ih hxs
    simp only [Term.isJoint, Bool.or_eq_false_iff] at hx
    obtain ⟨⟨hand, hor⟩, hbetween⟩ := hx
    have hconnective : x.connective? pending = none := by simp [Term.connective?, hand, hor]
    have hafter : x.pendingAfter pending = pending := by
      simp [Term.pendingAfter, hand, hor, hbetween]
    constructor
    · rw [List.cons_append, itemsOf, cut, hafter, hcut, itemsOf, List.cons_append]
      simp only [hconnective]
    · rw [List.cons_append, pendingFrom, List.foldl_cons, hafter]
      exact hpending

/-- The connective of a link. -/
def Term.ofLogic (logic : Logic) : Term :=
  .ofWord logic.sql

/-- Two conditions with a connective between them read as their chains with it between them. -/
theorem Parses.append {xs ys : List Term} {c d : Links} (hx : Parses xs c) (logic : Logic)
    (hy : Parses ys d) : Parses (xs ++ Term.ofLogic logic :: ys) (c.append logic d) := by
  obtain ⟨hc, hpx⟩ := hx
  obtain ⟨hd, hpy⟩ := hy
  have hconnective : (Term.ofLogic logic).connective? (pendingFrom false xs) = some logic := by
    rw [hpx]
    cases logic <;> rfl
  have hafter : (Term.ofLogic logic).pendingAfter (pendingFrom false xs) = false := by
    rw [hpx]
    cases logic <;> rfl
  constructor
  · have hcut := @cut_append xs ys (Term.ofLogic logic) logic false hconnective
    rw [hafter] at hcut
    simp only [readLinks, Option.bind_eq_bind, Option.bind_eq_some_iff, Option.pure_def,
      Option.some.injEq] at hc hd ⊢
    obtain ⟨f, hf, fs, hfs, rfl⟩ := hc
    obtain ⟨g, hg, gs, hgs, rfl⟩ := hd
    rw [hcut]
    refine ⟨f, hf, fs ++ (logic, g) :: gs, ?_, rfl⟩
    simp [List.mapM_append, List.mapM_cons, hfs, hg, hgs]
  · have hsplit : pendingFrom false (xs ++ Term.ofLogic logic :: ys) =
        pendingFrom ((Term.ofLogic logic).pendingAfter (pendingFrom false xs)) ys := by
      simp [pendingFrom]
    rw [hsplit, hafter]
    exact hpy

/-- A `NOT` in front negates the first part of the chain. -/
theorem Parses.not {ts : List Term} {c : Links} (h : Parses ts c) :
    Parses (.ofWord "NOT" :: ts) ⟨.negation c.first, c.rest⟩ := by
  obtain ⟨hc, hp⟩ := h
  have hnot : (Term.ofWord "NOT").spells "NOT" = true := by decide
  have hconnective : (Term.ofWord "NOT").connective? false = none := by decide
  have hafter : (Term.ofWord "NOT").pendingAfter false = false := by decide
  constructor
  · simp only [readLinks, Option.bind_eq_bind, Option.bind_eq_some_iff, Option.pure_def,
      Option.some.injEq] at hc ⊢
    obtain ⟨f, hf, fs, hfs, rfl⟩ := hc
    rw [itemsOf, cut]
    simp only [hafter, hconnective]
    exact ⟨.negation f, by simp [readPart, hnot, hf], fs, hfs, rfl⟩
  · rw [pendingFrom, List.foldl_cons, hafter]
    exact hp

/-- What stands between parentheses is one part, whatever it is made of. -/
theorem Parses.group {ts : List Term} {c : Links} (h : Parses ts c) :
    Parses [.group ts] ⟨c.formula, []⟩ := by
  have hinside : (Term.group ts).inside? = some c.formula := by
    rw [Term.inside?, h.links]
    rfl
  constructor
  · simp [itemsOf, readLinks, cut, Term.connective?, Term.spells, readPart, hinside]
  · simp [pendingFrom, Term.pendingAfter, Term.spells]

/-- Terms that hold together and start with a word are one clause. -/
theorem parses_clause {w : List Symbol} {ts : List Term} (hnot : (Term.word w).spells "NOT" = false)
    (hcut : cut false (itemsOf (.word w :: ts)) = (itemsOf (.word w :: ts), []))
    (hpending : pendingFrom false (.word w :: ts) = false) :
    Parses (.word w :: ts) ⟨.clause (.word w :: ts), []⟩ := by
  refine ⟨?_, hpending⟩
  rw [readLinks, hcut]
  simp only [itemsOf, readPart, hnot, map_fst_itemsOf]
  rfl

/-- A comparison without joints is one clause. -/
theorem Parses.clause {w : List Symbol} {ts : List Term}
    (hnot : (Term.word w).spells "NOT" = false)
    (h : ∀ t ∈ Term.word w :: ts, t.isJoint = false) :
    Parses (.word w :: ts) ⟨.clause (.word w :: ts), []⟩ := by
  obtain ⟨hcut, hpending⟩ := cut_of_not_joint h false []
  rw [List.append_nil] at hcut hpending
  refine parses_clause hnot ?_ hpending
  rw [hcut]
  simp [itemsOf, cut]

/-- A `BETWEEN` with its `AND` is one clause. -/
theorem Parses.between {w : List Symbol} {xs low high : List Term}
    (hnot : (Term.word w).spells "NOT" = false)
    (hx : ∀ t ∈ Term.word w :: xs, t.isJoint = false) (hlow : ∀ t ∈ low, t.isJoint = false)
    (hhigh : ∀ t ∈ high, t.isJoint = false) :
    Parses (.word w :: (xs ++ .ofWord "BETWEEN" :: (low ++ .ofWord "AND" :: high)))
      ⟨.clause (.word w :: (xs ++ .ofWord "BETWEEN" :: (low ++ .ofWord "AND" :: high))), []⟩ := by
  have hbetween : (Term.ofWord "BETWEEN").connective? false = none ∧
      (Term.ofWord "BETWEEN").pendingAfter false = true := by decide
  have hand : (Term.ofWord "AND").connective? true = none ∧
      (Term.ofWord "AND").pendingAfter true = false := by decide
  obtain ⟨hcut1, hpending1⟩ := cut_of_not_joint hx false
    (.ofWord "BETWEEN" :: (low ++ .ofWord "AND" :: high))
  obtain ⟨hcut2, hpending2⟩ := cut_of_not_joint hlow true (.ofWord "AND" :: high)
  obtain ⟨hcut3, hpending3⟩ := cut_of_not_joint hhigh false []
  rw [List.append_nil] at hcut3 hpending3
  rw [List.cons_append] at hcut1 hpending1
  refine parses_clause hnot ?_ ?_
  · have hlast : cut false (itemsOf high) = (itemsOf high, []) := by
      rw [hcut3]
      simp [itemsOf, cut]
    have hmiddle : cut true (itemsOf (low ++ .ofWord "AND" :: high)) =
        (itemsOf (low ++ .ofWord "AND" :: high), []) := by
      rw [hcut2, itemsOf_append, itemsOf, cut]
      simp only [hand, hlast]
    have hfirst : cut false (itemsOf (.ofWord "BETWEEN" :: (low ++ .ofWord "AND" :: high))) =
        (itemsOf (.ofWord "BETWEEN" :: (low ++ .ofWord "AND" :: high)), []) := by
      rw [itemsOf, cut]
      simp only [hbetween, hmiddle]
    rw [hcut1, hfirst, ← itemsOf_append, List.cons_append]
  · rw [hpending1, pendingFrom, List.foldl_cons, hbetween.2]
    refine hpending2.trans ?_
    rw [pendingFrom, List.foldl_cons, hand.2]
    exact hpending3

end Crosstab.Sql
