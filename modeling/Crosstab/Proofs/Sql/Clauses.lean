import Crosstab.Proofs.Sql.Reading
import Crosstab.Proofs.Sql.Statement

/-!
# The condition of a statement

The condition of a statement is what stands between its `WHERE` and its next clause. It is found
among the terms of the statement, outside of all parentheses, and what is found is the condition
that the statement was built with: no column and no condition can bring a clause of its own.
-/

namespace Crosstab.Sql

/-! ## Finding the condition -/

/-- The terms of the condition of a statement, none if it has no condition. -/
def whereSection (ts : List Term) : Option (List Term) :=
  match ts.dropWhile (!·.isOpener) with
  | t :: rest => if t.spells "WHERE" then some (rest.takeWhile (!·.isOpener)) else none
  | [] => none

/-- What a fragment says that is a condition. -/
def Fragment.formula? (f : Fragment) : Option Formula := do
  formulaOf? (← f.terms?)

/-- What the condition of a statement says, which may have none. -/
def Fragment.condition? (f : Fragment) : Option (Option Formula) := do
  match whereSection (← f.terms?) with
  | none => return none
  | some ts => return some (← formulaOf? ts)

/-- The terms are none, or those of clauses that stand behind a condition. -/
def IsTail (ts : List Term) : Prop :=
  ∀ t ∈ ts.head?, t.isOpener = true ∧ t.spells "WHERE" = false

/-- Whatever comes first, the first word that starts a clause decides. -/
theorem dropWhile_opener {pre : List Term} (hpre : ∀ t ∈ pre, t.isOpener = false)
    (ts : List Term) :
    (pre ++ ts).dropWhile (!·.isOpener) = ts.dropWhile (!·.isOpener) :=
  List.dropWhile_append_of_pos fun t ht => by simp [hpre t ht]

theorem whereSection_of_tail {pre tail : List Term} (hpre : ∀ t ∈ pre, t.isOpener = false)
    (htail : IsTail tail) : whereSection (pre ++ tail) = none := by
  rw [whereSection, dropWhile_opener hpre]
  cases tail with
  | nil => rfl
  | cons t rest =>
    obtain ⟨hopener, hwhere⟩ := htail t rfl
    simp [hopener, hwhere]

theorem whereSection_of_condition {pre ts tail : List Term}
    (hpre : ∀ t ∈ pre, t.isOpener = false) (hts : ∀ t ∈ ts, t.isOpener = false)
    (htail : IsTail tail) : whereSection (pre ++ (.ofWord "WHERE" :: ts ++ tail)) = some ts := by
  have hword : (Term.ofWord "WHERE").isOpener = true := by decide
  have hwhere : (Term.ofWord "WHERE").spells "WHERE" = true := by decide
  have htake : tail.takeWhile (!·.isOpener) = [] := by
    cases tail with
    | nil => rfl
    | cons t rest => simp [(htail t rfl).1]
  have hkeep : ∀ t ∈ ts, (!t.isOpener) = true := fun t ht => by simp [hts t ht]
  rw [whereSection, dropWhile_opener hpre]
  simp only [List.cons_append, List.dropWhile_cons, hword, Bool.not_true]
  simp [hwhere, List.takeWhile_append_of_pos hkeep, htake]

/-! ## Fragments -/

/-- The fragment of a predicate says what the predicate says. -/
theorem Predicate.formula_of_meaning {p : Predicate} {f : Fragment} {c : Links}
    (hf : p.fragment = .ok f) (hc : Says p.sql p.args c) :
    f.sql = p.sql ∧ f.args = p.args ∧ f.formula? = some c.formula := by
  obtain ⟨ts, htells, hparses, -⟩ := hc
  obtain ⟨g, hg, hsql, hargs, -, hterms⟩ := htells.fragment
  obtain rfl : f = g := Except.ok.inj (hf.symm.trans hg)
  refine ⟨hsql, hargs, ?_⟩
  rw [Fragment.formula?, hterms]
  exact hparses.formulaOf?

/-! ## Texts in front of a condition -/

/-- The text has no arguments, and reads as terms of which none starts a clause. -/
def IsQuiet (s : String) : Prop :=
  ∃ ts, Tells s [] ts ∧ ∀ t ∈ ts, t.isOpener = false

theorem IsPlain.isQuiet {s : String} (h : IsPlain s) : IsQuiet s :=
  ⟨[.ofWord s], .word h.1,
    List.forall_mem_singleton.2 (not_joint_of_not_keyword h.2).2.2⟩

theorem IsQuiet.space {a b : String} (ha : IsQuiet a) (hb : IsQuiet b) :
    IsQuiet (a ++ " " ++ b) := by
  obtain ⟨ts, htells, hts⟩ := ha
  obtain ⟨us, hutells, hus⟩ := hb
  exact ⟨ts ++ us, htells.space hutells, List.forall_mem_append.2 ⟨hts, hus⟩⟩

theorem IsQuiet.comma {a b : String} (ha : IsQuiet a) (hb : IsQuiet b) :
    IsQuiet (a ++ ", " ++ b) := by
  obtain ⟨ts, htells, hts⟩ := ha
  obtain ⟨us, hutells, hus⟩ := hb
  exact ⟨_, htells.comma hutells,
    List.forall_mem_append.2 ⟨hts, List.forall_mem_cons.2 ⟨rfl, hus⟩⟩⟩

theorem IsQuiet.items {xs : List String} (h : ∀ x ∈ xs, IsQuiet x) :
    IsQuiet (", ".intercalate xs) := by
  induction xs with
  | nil => exact ⟨[], .nil, nofun⟩
  | cons x xs ih =>
    obtain ⟨hx, hrest⟩ := List.forall_mem_cons.1 h
    cases xs with
    | nil => rwa [String.intercalate_singleton]
    | cons y ys =>
      rw [String.intercalate_cons_cons]
      exact hx.comma (ih hrest)

/-- A text without arguments reads as its terms. -/
theorem Tells.reads {s : String} {ts : List Term} (h : Tells s [] ts) : Reads (symbols s) ts := by
  obtain ⟨r, hr, hreads⟩ := h
  have hr' : symbols s = r := (fillFrom_nil none s.toList).symm.trans hr.filled
  rwa [hr']

theorem Tells.inert {s : String} {ts : List Term} (h : Tells s [] ts) : Inert s := by
  obtain ⟨r, hr, -⟩ := h
  exact ⟨hr.balanced, hr.arity⟩

theorem IsQuiet.inert {s : String} (h : IsQuiet s) : Inert s := by
  obtain ⟨ts, htells, -⟩ := h
  exact htells.inert

/-! ## Clauses -/

/-- The clauses are not blank and read as the terms. -/
def ReadsAll (rs : List (List Symbol)) (tss : List (List Term)) : Prop :=
  List.Forall₂ (fun r ts => allBlank r = false ∧ Reads r ts) rs tss

theorem ReadsAll.not_blank {rs : List (List Symbol)} {tss : List (List Term)}
    (h : ReadsAll rs tss) : ∀ r ∈ rs, allBlank r = false := by
  induction h with
  | nil => exact nofun
  | cons hr _ ih => exact List.forall_mem_cons.2 ⟨hr.1, ih⟩

/-- Lines read as the terms of all of them. -/
theorem ReadsAll.join {rs : List (List Symbol)} {tss : List (List Term)} (h : ReadsAll rs tss) :
    Reads (joinFilled (symbols "\n") rs) tss.flatten := by
  have hkeep : ∀ r ∈ rs, (!allBlank r) = true := fun r hr => by simp [h.not_blank r hr]
  rw [joinFilled, List.filter_eq_self.2 hkeep]
  clear hkeep
  induction h with
  | nil => exact Reads.nil
  | cons hr hrest ih =>
    cases hrest with
    | nil => simpa using hr.2
    | cons _ _ =>
      rw [List.intercalate_cons_cons, List.flatten_cons, List.append_assoc]
      exact hr.2.gap (by decide) ih

theorem ReadsAll.append {rs qs : List (List Symbol)} {tss uss : List (List Term)}
    (hr : ReadsAll rs tss) (hq : ReadsAll qs uss) : ReadsAll (rs ++ qs) (tss ++ uss) :=
  List.rel_append hr hq

theorem allBlank_append (r s : List Symbol) : allBlank (r ++ s) = (allBlank r && allBlank s) :=
  List.all_append

namespace Select

/-- A keyword and its terms read as the keyword and what the terms read as. -/
theorem listed_reads {keyword : String} {ks : List Term} (hk : Tells keyword [] ks)
    (hblank : allBlank (symbols keyword) = false) {terms : List String}
    (hterms : ∀ t ∈ terms, IsQuiet t) :
    ∃ tss, ReadsAll (listedFilled keyword terms) tss ∧
      (terms = [] ∧ tss = [] ∨
        ∃ ts, tss = [ks ++ ts] ∧ ∀ t ∈ ts, t.isOpener = false) := by
  rw [listedFilled]
  cases terms with
  | nil => exact ⟨[], .nil, .inl ⟨rfl, rfl⟩⟩
  | cons x xs =>
    obtain ⟨ts, htells, hts⟩ := IsQuiet.items hterms
    refine ⟨[ks ++ ts], .cons ⟨?_, (hk.space htells).reads⟩ .nil, .inr ⟨ts, rfl, hts⟩⟩
    rw [symbols_append, symbols_append, allBlank_append, allBlank_append, hblank]
    rfl

theorem isWordFrom_digits {cs : List Char} (h : ∀ c ∈ cs, c.isDigit = true) :
    isWordFrom none (cs.map .char) = true := by
  induction cs with
  | nil => rfl
  | cons c cs ih =>
    obtain ⟨hc, hrest⟩ := List.forall_mem_cons.1 h
    have hne : ∀ d, d.isDigit = false → c ≠ d := by
      rintro d hd rfl
      exact absurd hc (by simp [hd])
    have hspace : c.isWhitespace = false := by
      simp [Char.isWhitespace, hne ' ' (by decide), hne '\t' (by decide), hne '\r' (by decide),
        hne '\n' (by decide)]
    have hquote : quoteAfter none c = none := by
      simp [quoteAfter, hne '\'' (by decide), hne '"' (by decide)]
    rw [List.map_cons, isWordFrom, hquote, ih hrest]
    simp [hspace, hne '(' (by decide), hne ')' (by decide), hne ',' (by decide)]

theorem isWord_repr (k : Nat) : IsWord (Nat.repr k) :=
  ⟨inert_intText (.ofNat k), Nat.repr_ne_empty, isWordFrom_digits fun _ => isDigit_of_mem_repr⟩

/-- A number is one word. -/
theorem isWord_intText (n : Int) : IsWord (Number.intText n) := by
  cases n with
  | ofNat k => exact isWord_repr k
  | negSucc k =>
    have hsign : IsWord "-" := by decide
    exact hsign.append (isWord_repr (k + 1))

/-- The texts of a statement start no clause of their own. -/
structure Quiet (s : Select) : Prop where
  columns : ∀ c ∈ s.columns, IsQuiet c
  table : ∀ t ∈ s.table?, IsQuiet t
  groups : ∀ g ∈ s.groups, IsQuiet g
  orders : ∀ o ∈ s.orders, IsQuiet o

theorem Quiet.sound {s : Select} (h : s.Quiet) (hcondition : Balanced s.condition.sql) :
    s.Sound where
  columns := fun c hc => (h.columns c hc).inert
  table := fun t ht => (h.table t ht).inert
  condition := hcondition
  groups := fun g hg => (h.groups g hg).inert
  orders := fun o ho => (h.orders o ho).inert

theorem isQuiet_keyword (distinct : Bool) :
    IsQuiet (if distinct then "SELECT DISTINCT" else "SELECT") := by
  have hselect : IsQuiet "SELECT" := IsPlain.isQuiet (by decide)
  cases distinct with
  | false => exact hselect
  | true =>
    have hdistinct : IsQuiet "DISTINCT" := IsPlain.isQuiet (by decide)
    have hsql : "SELECT" ++ " " ++ "DISTINCT" = "SELECT DISTINCT" := by decide
    have hboth := hselect.space hdistinct
    rwa [hsql] at hboth

/-- A clause whose keyword starts no condition and no clause behind it. -/
theorem listed_quiet {keyword : String} {terms : List String} (hk : IsQuiet keyword)
    (hblank : allBlank (symbols keyword) = false) (hterms : ∀ t ∈ terms, IsQuiet t) :
    ∃ tss, ReadsAll (listedFilled keyword terms) tss ∧ ∀ t ∈ tss.flatten, t.isOpener = false := by
  obtain ⟨ks, htells, hks⟩ := hk
  obtain ⟨tss, hreads, ⟨-, rfl⟩ | ⟨ts, rfl, hts⟩⟩ := listed_reads htells hblank hterms
  · exact ⟨[], hreads, nofun⟩
  · refine ⟨[ks ++ ts], hreads, ?_⟩
    simpa using fun t ht => ht.elim (hks t) (hts t)

/-- The clauses in front of a condition. -/
theorem head_reads {s : Select} (hs : s.Quiet) {table : String} (ht : IsQuiet table) :
    ∃ tss, ReadsAll (listedFilled (if s.distinct then "SELECT DISTINCT" else "SELECT")
        (if s.columns.isEmpty then ["*"] else s.columns) ++ listedFilled "FROM" [table]) tss ∧
      ∀ t ∈ tss.flatten, t.isOpener = false := by
  have hkeyword :
      allBlank (symbols (if s.distinct then "SELECT DISTINCT" else "SELECT")) = false := by
    cases s.distinct <;> decide
  have hcolumns : ∀ c ∈ (if s.columns.isEmpty then ["*"] else s.columns), IsQuiet c := by
    cases s.columns.isEmpty with
    | true => exact List.forall_mem_singleton.2 (IsPlain.isQuiet (by decide))
    | false => exact hs.columns
  have hfrom : IsQuiet "FROM" := IsPlain.isQuiet (by decide)
  obtain ⟨tss, htss, hhead⟩ := listed_quiet (isQuiet_keyword s.distinct) hkeyword hcolumns
  obtain ⟨uss, huss, hsource⟩ := listed_quiet hfrom (by decide) (List.forall_mem_singleton.2 ht)
  refine ⟨tss ++ uss, htss.append huss, ?_⟩
  rw [List.flatten_append]
  exact List.forall_mem_append.2 ⟨hhead, hsource⟩

theorem isTail_append {ts us : List Term} (ht : IsTail ts) (hu : IsTail us) :
    IsTail (ts ++ us) := by
  cases ts with
  | nil => exact hu
  | cons t ts => exact ht

/-- A clause that may stand behind a condition. -/
theorem listed_tail {keyword : String} {k : Term} {ks : List Term} {terms : List String}
    (hk : Tells keyword [] (k :: ks)) (hblank : allBlank (symbols keyword) = false)
    (hopener : k.isOpener = true ∧ k.spells "WHERE" = false) (hterms : ∀ t ∈ terms, IsQuiet t) :
    ∃ tss, ReadsAll (listedFilled keyword terms) tss ∧ IsTail tss.flatten := by
  obtain ⟨tss, hreads, ⟨-, rfl⟩ | ⟨ts, rfl, hts⟩⟩ := listed_reads hk hblank hterms
  · exact ⟨[], hreads, nofun⟩
  · refine ⟨[k :: ks ++ ts], hreads, ?_⟩
    rintro _ ⟨⟩
    exact hopener

theorem counted_tail {keyword : String} (n? : Option Int) (hk : IsWord keyword)
    (hblank : allBlank (symbols keyword) = false)
    (hopener : (Term.ofWord keyword).isOpener = true ∧
      (Term.ofWord keyword).spells "WHERE" = false) :
    ∃ tss, ReadsAll (countedFilled keyword n?) tss ∧ IsTail tss.flatten := by
  cases n? with
  | none => exact ⟨[], .nil, nofun⟩
  | some n =>
    have hreads := ((Tells.word hk).space (Tells.word (isWord_intText n))).reads
    refine ⟨_, .cons ⟨?_, hreads⟩ .nil, ?_⟩
    · show allBlank (symbols (keyword ++ " " ++ Number.intText n)) = false
      rw [symbols_append, symbols_append, allBlank_append, allBlank_append, hblank]
      rfl
    · rintro _ ⟨⟩
      exact hopener

/-- The clauses behind a condition. -/
theorem tail_reads {s : Select} (hs : s.Quiet) :
    ∃ tss, ReadsAll (listedFilled "GROUP BY" s.groups ++ listedFilled "ORDER BY" s.orders ++
        countedFilled "LIMIT" s.limit? ++ countedFilled "OFFSET" s.offset?) tss ∧
      IsTail tss.flatten := by
  have hby : IsWord "BY" := by decide
  have hlimit : IsWord "LIMIT" := by decide
  have hoffset : IsWord "OFFSET" := by decide
  have hgroup : Tells "GROUP BY" [] [.ofWord "GROUP", .ofWord "BY"] := by
    have hsql : "GROUP" ++ " " ++ "BY" = "GROUP BY" := by decide
    have hboth := (Tells.word (by decide : IsWord "GROUP")).space (Tells.word hby)
    rwa [hsql] at hboth
  have horder : Tells "ORDER BY" [] [.ofWord "ORDER", .ofWord "BY"] := by
    have hsql : "ORDER" ++ " " ++ "BY" = "ORDER BY" := by decide
    have hboth := (Tells.word (by decide : IsWord "ORDER")).space (Tells.word hby)
    rwa [hsql] at hboth
  obtain ⟨gss, hg, hgtail⟩ := listed_tail hgroup (by decide) (by decide) hs.groups
  obtain ⟨oss, ho, hotail⟩ := listed_tail horder (by decide) (by decide) hs.orders
  obtain ⟨lss, hl, hltail⟩ := counted_tail s.limit? hlimit (by decide) (by decide)
  obtain ⟨fss, hf, hftail⟩ := counted_tail s.offset? hoffset (by decide) (by decide)
  refine ⟨gss ++ oss ++ lss ++ fss, ((hg.append ho).append hl).append hf, ?_⟩
  simp only [List.flatten_append]
  exact isTail_append (isTail_append (isTail_append hgtail hotail) hltail) hftail

/-- A statement reads as what stands in front of its condition, the condition and the tail. -/
theorem build_reads {s : Select} (hs : s.Quiet) (hcondition : Balanced s.condition.sql)
    {css : List (List Term)} (hread : ReadsAll (filteredFilled s.condition.filled) css)
    {q : Fragment} (h : s.build = .ok q) :
    ∃ pre tail, (∀ t ∈ pre, t.isOpener = false) ∧ IsTail tail ∧
      q.terms? = some (pre ++ (css.flatten ++ tail)) := by
  obtain ⟨-, table, htable, hfilled⟩ := (build_yields (hs.sound hcondition)).of_ok h
  obtain ⟨pss, hpre, hquiet⟩ := head_reads hs (hs.table table htable)
  obtain ⟨tss, hpost, htail⟩ := tail_reads hs
  have hall := ((hpre.append hread).append hpost).join
  simp only [List.flatten_append, List.append_assoc] at hall
  refine ⟨pss.flatten, tss.flatten, hquiet, htail, ?_⟩
  rw [Fragment.terms?, hfilled, filled]
  simp only [List.append_assoc]
  exact hall.termsOf?

theorem balanced_of_isBlank {f : Fragment} (h : f.isBlank = true) : Balanced f.sql :=
  (scan_plain fun c hc => plain_of_isBlankChar (List.all_eq_true.1 h c hc)).1

/-- A statement without a condition has none. -/
theorem condition_of_isBlank {s : Select} (hs : s.Quiet) (hblank : s.condition.isBlank = true)
    {q : Fragment} (h : s.build = .ok q) : q.condition? = some none := by
  have hread : ReadsAll (filteredFilled s.condition.filled) [] := by
    rw [filteredFilled, allBlank_filled, hblank]
    exact .nil
  obtain ⟨pre, tail, hpre, htail, hterms⟩ := build_reads hs (balanced_of_isBlank hblank) hread h
  rw [Fragment.condition?, hterms]
  show (match whereSection (pre ++ tail) with
    | none => some none
    | some ts => do return some (← formulaOf? ts)) = some none
  rw [whereSection_of_tail hpre htail]

/-- A statement has the condition that it was built with. -/
theorem condition_of_meaning {s : Select} (hs : s.Quiet) (hblank : s.condition.isBlank = false)
    {c : Links} (htold : Says s.condition.sql s.condition.args c) {q : Fragment}
    (h : s.build = .ok q) : q.condition? = some (some c.formula) := by
  obtain ⟨ts, ⟨r, hr, hreads⟩, hparses, hopener⟩ := htold
  have hwhere : IsWord "WHERE" := by decide
  have hread : ReadsAll (filteredFilled s.condition.filled) [.ofWord "WHERE" :: ts] := by
    rw [filteredFilled, allBlank_filled, hblank]
    refine .cons ⟨?_, ?_⟩ .nil
    · rw [allBlank_append, allBlank_append, show allBlank (symbols "WHERE") = false by decide]
      rfl
    · rw [List.append_assoc, show s.condition.filled = r from hr.filled]
      exact (Tells.word hwhere).reads.gap (by decide) hreads
  obtain ⟨pre, tail, hpre, htail, hterms⟩ := build_reads hs hr.balanced hread h
  rw [List.flatten_singleton] at hterms
  rw [Fragment.condition?, hterms]
  show (match whereSection (pre ++ (.ofWord "WHERE" :: ts ++ tail)) with
    | none => some none
    | some ts => do return some (← formulaOf? ts)) = some (some c.formula)
  rw [whereSection_of_condition hpre hopener htail]
  simp [hparses.formulaOf?]

end Select

end Crosstab.Sql
