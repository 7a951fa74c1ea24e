import Crosstab.Proofs.Sql.Scan
import Crosstab.Sql.Select

/-!
# Fragments keep their arguments

Fragments with balanced texts are put together without ever miscounting placeholders, and every
placeholder of the result stands for the argument it had in the fragment it comes from. This is said
of the symbols: what a composition reads as is composed of what its parts read as.
-/

namespace Crosstab.Sql

open Text

/-! ## Composition of symbols -/

/-- The symbol is a blank character. -/
def Symbol.isBlank : Symbol → Bool
  | .char c => isBlankChar c
  | .value _ => false

/-- The symbols are all blank. -/
def allBlank (r : List Symbol) : Bool :=
  r.all (·.isBlank)

/-- Both readings joined by `AND`; a blank one gives way to the other. -/
def andFilled (left right : List Symbol) : List Symbol :=
  if allBlank left then right
  else if allBlank right then left
  else left ++ symbols " AND " ++ right

/-- The readings that are not blank, with the separator between them. -/
def joinFilled (separator : List Symbol) (rs : List (List Symbol)) : List Symbol :=
  separator.intercalate (rs.filter (!allBlank ·))

/-- The reading in parentheses; a blank one stays blank. -/
def wrapFilled (r : List Symbol) : List Symbol :=
  if allBlank r then [] else symbols "(" ++ r ++ symbols ")"

theorem isBlank_append (a b : String) : isBlank (a ++ b) = (isBlank a && isBlank b) := by
  simp [isBlank]

theorem isBlank_behind {b : String} (h : isBlank b = false) (a : String) :
    isBlank (a ++ b) = false := by
  rw [isBlank_append, h, Bool.and_false]

/-- A blank character is neither a quote nor a placeholder. -/
theorem plain_of_isBlankChar {c : Char} (h : isBlankChar c = true) :
    c ≠ '\'' ∧ c ≠ '"' ∧ c ≠ '?' := by
  refine ⟨?_, ?_, ?_⟩ <;> rintro rfl <;> exact absurd h (by decide)

theorem allBlank_fillFrom (q : Option Char) (cs : List Char) (vs : List Value) :
    allBlank (fillFrom q cs vs) = cs.all isBlankChar := by
  induction cs generalizing q vs with
  | nil => rfl
  | cons c cs ih =>
    cases vs with
    | nil => simpa [fillFrom, allBlank, Symbol.isBlank] using congrArg (isBlankChar c && ·) (ih _ _)
    | cons v vs =>
      cases hp : isPlaceholder q c with
      | true =>
        have hc : c = '?' := by simpa [isPlaceholder] using (Bool.and_eq_true_iff.1 hp).2
        have hb : isBlankChar c = false := by rw [hc]; decide
        simp [fillFrom, hp, allBlank, Symbol.isBlank, hb]
      | false =>
        simpa [fillFrom, hp, allBlank, Symbol.isBlank] using
          congrArg (isBlankChar c && ·) (ih (quoteAfter q c) (v :: vs))

/-- A fragment is blank exactly if it reads blank. -/
@[simp]
theorem allBlank_filled (f : Fragment) : allBlank f.filled = f.isBlank :=
  allBlank_fillFrom _ _ _

theorem Fragment.ext {f g : Fragment} (hs : f.sql = g.sql) (ha : f.args = g.args) : f = g := by
  cases f
  cases g
  cases hs
  cases ha
  rfl

/-- A fragment has the text and the arguments that it was made from. -/
theorem Fragment.of_inversion {sql : String} {args : List Value} {f : Fragment}
    (h : Fragment.of sql args = .ok f) : f.sql = sql ∧ f.args = args := by
  unfold Fragment.of at h
  split at h
  · obtain rfl := Except.ok.inj h
    exact ⟨rfl, rfl⟩
  · cases h

/-! ## Fragments -/

theorem fills_empty : Fills "" [] [] :=
  ⟨rfl, rfl, rfl⟩

theorem and_carries {a b : Fragment} (ha : Balanced a.sql) (hb : Balanced b.sql) :
    Carries (a.and b) (andFilled a.filled b.filled) := by
  rw [Fragment.and, andFilled, allBlank_filled, allBlank_filled]
  cases a.isBlank with
  | true => exact ⟨b, rfl, hb, rfl⟩
  | false =>
    cases b.isBlank with
    | true => exact ⟨a, rfl, ha, rfl⟩
    | false =>
      have hand : Inert " AND " := by decide
      exact (((Fills.fragment ha).before hand).append (Fills.fragment hb)).carries

/-- Fragments with an inert separator between them. -/
theorem fills_intercalate {sep : String} (hsep : Inert sep) {fs : List Fragment}
    (hfs : ∀ f ∈ fs, Balanced f.sql) :
    Fills (sep.intercalate (fs.map (·.sql))) (fs.flatMap (·.args))
      ((symbols sep).intercalate (fs.map (·.filled))) := by
  induction fs with
  | nil => exact fills_empty
  | cons f fs ih =>
    obtain ⟨hf, hrest⟩ := List.forall_mem_cons.1 hfs
    cases fs with
    | nil => simpa using Fills.fragment hf
    | cons g gs =>
      have htail := ih hrest
      simp only [List.map_cons, String.intercalate_cons_cons, List.intercalate_cons_cons,
        List.flatMap_cons] at htail ⊢
      exact ((Fills.fragment hf).before hsep).append htail

theorem join_carries {sep : String} (hsep : Inert sep) {fs : List Fragment}
    (hfs : ∀ f ∈ fs, Balanced f.sql) :
    Carries (Fragment.join sep fs) (joinFilled (symbols sep) (fs.map (·.filled))) := by
  have hparts : ∀ f ∈ fs.filter (!·.isBlank), Balanced f.sql := fun f hf =>
    hfs f (List.mem_filter.1 hf).1
  have hreading : (fs.map (·.filled)).filter (!allBlank ·) =
      (fs.filter (!·.isBlank)).map (·.filled) := by
    simp [List.filter_map, Function.comp_def]
  rw [Fragment.join, joinFilled, hreading]
  cases hp : fs.filter (!·.isBlank) with
  | nil => exact ⟨.empty, rfl, rfl, rfl⟩
  | cons f rest => exact (fills_intercalate hsep (hp ▸ hparts)).carries

theorem wrap_carries {f : Fragment} (hf : Balanced f.sql) :
    Carries f.wrap (wrapFilled f.filled) := by
  rw [Fragment.wrap, wrapFilled, allBlank_filled]
  cases f.isBlank with
  | true => exact ⟨.empty, rfl, rfl, rfl⟩
  | false =>
    have hopen : Inert "(" := by decide
    have hclose : Inert ")" := by decide
    exact ((Fills.after hopen (Fills.fragment hf)).before hclose).carries

theorem sequence_carries {fs : List Fragment} (hfs : ∀ f ∈ fs, Balanced f.sql) :
    Carries (Fragment.sequence fs) (joinFilled (symbols " ") (fs.map (·.filled))) :=
  join_carries (by decide) hfs

/-! ## Laws of conjunction -/

theorem and_of_isBlank_left {a : Fragment} (b : Fragment) (ha : a.isBlank = true) :
    a.and b = .ok b := by
  rw [Fragment.and, ha]
  rfl

theorem and_of_isBlank_right {a b : Fragment} (ha : a.isBlank = false) (hb : b.isBlank = true) :
    a.and b = .ok a := by
  rw [Fragment.and, ha, hb]
  rfl

/-- Two fragments that are not blank stand on both sides of the word. -/
theorem and_of_not_isBlank {a b : Fragment} (ha : a.isBlank = false) (hb : b.isBlank = false)
    (hq : Balanced a.sql) :
    ∃ h, a.and b = .ok ⟨a.sql ++ " AND " ++ b.sql, a.args ++ b.args, h⟩ := by
  have hand : Inert " AND " := by decide
  have harity : countPlaceholders (a.sql ++ " AND " ++ b.sql) = (a.args ++ b.args).length := by
    rw [countPlaceholders_append (hq.append hand.1), countPlaceholders_append hq, hand.2, a.arity,
      b.arity, List.length_append, Nat.add_zero]
  refine ⟨harity, ?_⟩
  rw [Fragment.and, ha, hb]
  exact Fragment.of_eq_ok harity

/-- A text with the word in it is not blank. -/
theorem isBlank_and_sql (a b : String) : isBlank (a ++ " AND " ++ b) = false := by
  have hand : isBlank " AND " = false := by decide
  rw [isBlank_append, isBlank_behind hand, Bool.false_and]

/-- Conjunction is associative. -/
theorem and_assoc_of_balanced {a b c : Fragment} (ha : Balanced a.sql) (hb : Balanced b.sql) :
    (do (← a.and b).and c) = (do a.and (← b.and c)) := by
  show (a.and b >>= fun x => x.and c) = (b.and c >>= fun y => a.and y)
  cases ha0 : a.isBlank with
  | true =>
    rw [and_of_isBlank_left b ha0]
    cases hbc : b.and c with
    | error f => exact hbc
    | ok y => exact hbc.trans (and_of_isBlank_left y ha0).symm
  | false =>
    cases hb0 : b.isBlank with
    | true =>
      rw [and_of_isBlank_right ha0 hb0, and_of_isBlank_left c hb0]
      rfl
    | false =>
      obtain ⟨hab, eab⟩ := and_of_not_isBlank ha0 hb0 ha
      rw [eab]
      have hab0 : Fragment.isBlank ⟨a.sql ++ " AND " ++ b.sql, a.args ++ b.args, hab⟩ = false :=
        isBlank_and_sql _ _
      cases hc0 : c.isBlank with
      | true =>
        rw [and_of_isBlank_right hb0 hc0]
        exact (and_of_isBlank_right hab0 hc0).trans eab.symm
      | false =>
        obtain ⟨hbc, ebc⟩ := and_of_not_isBlank hb0 hc0 hb
        rw [ebc]
        have hbc0 : Fragment.isBlank ⟨b.sql ++ " AND " ++ c.sql, b.args ++ c.args, hbc⟩ = false :=
          isBlank_and_sql _ _
        have hand : Balanced " AND " := by decide
        obtain ⟨h1, e1⟩ := and_of_not_isBlank hab0 hc0 ((ha.append hand).append hb)
        obtain ⟨h2, e2⟩ := and_of_not_isBlank ha0 hbc0 ha
        refine e1.trans (Eq.trans ?_ e2.symm)
        refine congrArg Except.ok (Fragment.ext ?_ (List.append_assoc _ _ _))
        simp only [String.append_assoc]

/-- A blank fragment changes nothing in a conjunction, except that another blank one may give way
to it. -/
theorem and_of_isBlank {e a : Fragment} (he : e.isBlank = true) :
    e.and a = .ok a ∧ (a.and e = .ok a ∨ a.isBlank = true ∧ a.and e = .ok e) := by
  refine ⟨and_of_isBlank_left a he, ?_⟩
  cases ha : a.isBlank with
  | true => exact .inr ⟨rfl, and_of_isBlank_left e ha⟩
  | false => exact .inl (and_of_isBlank_right ha he)

/-- A blank fragment is not seen by a join. -/
theorem join_of_isBlank {e : Fragment} (he : e.isBlank = true) (sep : String)
    (fs gs : List Fragment) : Fragment.join sep (fs ++ e :: gs) = Fragment.join sep (fs ++ gs) := by
  simp [Fragment.join, List.filter_append, he]

/-! ## Conjunctions of many parts -/

/-- The parts that are not blank. -/
def written (parts : List Fragment) : List Fragment :=
  parts.filter (!·.isBlank)

/-- The fragment is made of the parts in their order, with the word between them: the text of each
stands in it, and the arguments of each stand together. -/
structure IsConjunction (f : Fragment) (parts : List Fragment) : Prop where
  sql : f.sql = " AND ".intercalate ((written parts).map (·.sql))
  args : f.args = (written parts).flatMap (·.args)

/-- Two fragments of the same parts are the same. -/
theorem IsConjunction.unique {f g : Fragment} {parts : List Fragment}
    (hf : IsConjunction f parts) (hg : IsConjunction g parts) : f = g :=
  Fragment.ext (hf.sql.trans hg.sql.symm) (hf.args.trans hg.args.symm)

/-- A join is one text of the parts, also if there are none. -/
theorem join_eq_of (sep : String) (parts : List Fragment) : Fragment.join sep parts =
    Fragment.of (sep.intercalate ((written parts).map (·.sql)))
      ((written parts).flatMap (·.args)) := by
  unfold Fragment.join
  split
  · next hnone =>
    rw [written, hnone, List.map_nil, List.flatMap_nil, String.intercalate_nil]
    exact (Fragment.of_eq_ok rfl).symm
  · rfl

theorem isConjunction_of_join {f : Fragment} {parts : List Fragment}
    (h : Fragment.join " AND " parts = .ok f) : IsConjunction f parts := by
  rw [join_eq_of] at h
  obtain ⟨hsql, hargs⟩ := Fragment.of_inversion h
  exact ⟨hsql, hargs⟩

theorem isBlank_intercalate (sep : String) {s : String} (ss : List String)
    (hs : isBlank s = false) : isBlank (sep.intercalate (s :: ss)) = false := by
  cases ss with
  | nil => rwa [String.intercalate_singleton]
  | cons t ss =>
    rw [String.intercalate_cons_cons, isBlank_append, isBlank_append, hs]
    rfl

/-- The first of the texts may itself be made of texts. -/
theorem intercalate_head (sep : String) {inner : List String} (h : inner ≠ [])
    (after : List String) :
    sep.intercalate (sep.intercalate inner :: after) = sep.intercalate (inner ++ after) := by
  induction inner with
  | nil => exact absurd rfl h
  | cons s inner ih =>
    cases inner with
    | nil => rw [String.intercalate_singleton, List.singleton_append]
    | cons t inner =>
      have htail := ih (List.cons_ne_nil t inner)
      cases after with
      | nil => rw [String.intercalate_singleton, List.append_nil]
      | cons u after =>
        simp only [List.cons_append, String.intercalate_cons_cons] at htail ⊢
        rw [← htail]
        simp only [String.append_assoc]

/-- Two lists of texts with the separator between them. -/
theorem intercalate_append (sep : String) {ss ts : List String} (hs : ss ≠ []) (ht : ts ≠ []) :
    sep.intercalate (ss ++ ts) = sep.intercalate ss ++ sep ++ sep.intercalate ts := by
  obtain ⟨t, ts, rfl⟩ := List.exists_cons_of_ne_nil ht
  rw [← intercalate_head sep hs, String.intercalate_cons_cons]

/-- Any of the texts may itself be made of texts. -/
theorem intercalate_nested (sep : String) (before : List String) {inner : List String}
    (h : inner ≠ []) (after : List String) :
    sep.intercalate (before ++ sep.intercalate inner :: after) =
      sep.intercalate (before ++ inner ++ after) := by
  induction before with
  | nil => exact intercalate_head sep h after
  | cons s before ih =>
    cases before with
    | nil =>
      obtain ⟨t, ts, rfl⟩ := List.exists_cons_of_ne_nil h
      simp only [List.nil_append, List.cons_append, String.intercalate_cons_cons] at ih ⊢
      rw [ih]
    | cons t before =>
      simp only [List.cons_append, String.intercalate_cons_cons] at ih ⊢
      rw [ih]

/-- The fragment of parts is blank exactly if no part is written. -/
theorem IsConjunction.isBlank_eq {f : Fragment} {parts : List Fragment}
    (h : IsConjunction f parts) : f.isBlank = (written parts).isEmpty := by
  cases hparts : written parts with
  | nil =>
    rw [Fragment.isBlank, h.sql, hparts]
    rfl
  | cons g gs =>
    have hmem : g ∈ written parts := hparts ▸ List.mem_cons_self
    have hg : g.isBlank = false := by simpa using (List.mem_filter.1 hmem).2
    rw [Fragment.isBlank, h.sql, hparts, List.map_cons]
    exact isBlank_intercalate _ _ hg

/-- In a conjunction, a part may be replaced by the parts that it is made of. -/
theorem join_nested {f : Fragment} {parts : List Fragment} (h : IsConjunction f parts)
    (before after : List Fragment) :
    Fragment.join " AND " (before ++ f :: after) =
      Fragment.join " AND " (before ++ parts ++ after) := by
  have hall : written (before ++ parts ++ after) =
      written before ++ written parts ++ written after := by
    rw [written, List.filter_append, List.filter_append]
    rfl
  rw [join_eq_of, join_eq_of, hall]
  by_cases hnone : written parts = []
  · have hwritten : written (before ++ f :: after) = written before ++ written after := by
      rw [written, List.filter_append, List.filter_cons, h.isBlank_eq, hnone]
      rfl
    rw [hwritten, hnone, List.append_nil]
  · have hwritten : written (before ++ f :: after) = written before ++ f :: written after := by
      rw [written, List.filter_append, List.filter_cons, h.isBlank_eq,
        List.isEmpty_eq_false_iff.2 hnone]
      rfl
    have hinner : (written parts).map (·.sql) ≠ [] := fun hempty =>
      hnone (List.map_eq_nil_iff.1 hempty)
    have htexts := intercalate_nested " AND " ((written before).map (·.sql)) hinner
      ((written after).map (·.sql))
    rw [← h.sql, ← List.map_cons, ← List.map_append, ← List.map_append, ← List.map_append] at htexts
    have hargs : (written before ++ f :: written after).flatMap (·.args) =
        (written before ++ written parts ++ written after).flatMap (·.args) := by
      simp only [List.flatMap_append, List.flatMap_cons, h.args, List.append_assoc]
    rw [hwritten, htexts, hargs]

end Crosstab.Sql
