import Crosstab.Proofs.Sql.Built

/-!
# Pages of statements

A statement in an order of which a page is asked for reads as the lines before the order and those
behind them. All of these are told by the reading: the order, the number of rows on the page and the
number of rows before it.
-/

namespace Crosstab.Sql

namespace Select

/-- The readings of the clauses before the order. -/
def headLines (s : Select) (table : String) : List (List Symbol) :=
  listedFilled (if s.distinct then "SELECT DISTINCT" else "SELECT")
      (if s.columns.isEmpty then ["*"] else s.columns) ++
    listedFilled "FROM" [table] ++ filteredFilled s.condition.filled ++
    listedFilled "GROUP BY" s.groups

/-- The readings of a statement in an order, of which a page is asked for. -/
def pagedLines (head : List (List Symbol)) (order : String) (limit? offset? : Option Int) :
    List (List Symbol) :=
  head ++ [clause "ORDER BY" order] ++ countedFilled "LIMIT" limit? ++
    countedFilled "OFFSET" offset?

theorem headLines_ne_nil (s : Select) (table : String) : s.headLines table ≠ [] := by
  have hfrom : clause "FROM" table ∈ s.headLines table := by
    rw [headLines, listedFilled_singleton]
    simp
  exact List.ne_nil_of_mem hfrom

theorem clauseLines_of_order {s : Select} {order : String} (h : s.orders = [order])
    (table : String) :
    s.clauseLines table = pagedLines (s.headLines table) order s.limit? s.offset? := by
  rw [clauseLines, pagedLines, headLines, h, listedFilled_singleton "ORDER BY"]

/-! ## What the reading of a page tells -/

/-- The last line, which is not the first, is not the keyword with a number. -/
def EndsOther (keyword : String) (rs : List (List Symbol)) : Prop :=
  ∃ front last, front ≠ [] ∧ rs = front ++ [last] ∧ OnLine last ∧
    ∀ n, last ≠ clause keyword (Number.intText n)

theorem onLine_clause {keyword text : String} (hkeyword : '\n' ∉ keyword.toList)
    (htext : '\n' ∉ text.toList) : OnLine (clause keyword text) := by
  refine onLine_symbols ?_
  simp only [String.toList_append, List.mem_append, not_or]
  exact ⟨⟨hkeyword, by decide⟩, htext⟩

theorem clause_inj {keyword a b : String} (h : clause keyword a = clause keyword b) : a = b := by
  rw [clause, clause, symbols_append, symbols_append _ b] at h
  exact symbols_inj (List.append_cancel_left h)

/-- Clauses of keywords that differ in their first or their second character differ. -/
theorem clause_ne {k l : String} (h : k.toList.take 2 ≠ l.toList.take 2)
    (hk : 2 ≤ k.toList.length) (hl : 2 ≤ l.toList.length) (a b : String) :
    clause k a ≠ clause l b := by
  intro heq
  have hchars := congrArg String.toList (symbols_inj heq)
  have htake := congrArg (List.take 2) hchars
  simp only [String.toList_append, List.append_assoc] at htake
  rw [List.take_append_of_le_length hk, List.take_append_of_le_length hl] at htake
  exact h htake

/-- The number behind a keyword is told where the lines before end in something else. -/
theorem counted_inj {keyword : String} (hkeyword : '\n' ∉ keyword.toList)
    {ps qs : List (List Symbol)} (hps : EndsOther keyword ps) (hqs : EndsOther keyword qs)
    {m? n? : Option Int}
    (h : lines (ps ++ countedFilled keyword m?) = lines (qs ++ countedFilled keyword n?)) :
    lines ps = lines qs ∧ m? = n? := by
  have hline : ∀ n, OnLine (clause keyword (Number.intText n)) := fun n =>
    onLine_clause hkeyword (newline_not_mem_intText n)
  -- a number behind one of them only would be the last line of the other
  have hother : ∀ {rs ts : List (List Symbol)}, EndsOther keyword rs → EndsOther keyword ts →
      ∀ n, lines rs ≠ lines (ts ++ [clause keyword (Number.intText n)]) := by
    rintro _ ts ⟨front, last, hfront, rfl, honline, hlast⟩ ⟨front', last', hfront', rfl, -, -⟩ n heq
    have hts : front' ++ [last'] ≠ [] := List.append_ne_nil_of_right_ne_nil _ (by simp)
    exact hlast n (lines_concat_inj hfront hts honline (hline n) heq).2
  cases m? with
  | none =>
    cases n? with
    | none => exact ⟨by simpa [countedFilled] using h, rfl⟩
    | some n =>
      rw [countedFilled_some] at h
      exact absurd (by simpa [countedFilled] using h) (hother hps hqs n)
  | some m =>
    cases n? with
    | none =>
      rw [countedFilled_some] at h
      exact absurd (by simpa [countedFilled] using h.symm) (hother hqs hps m)
    | some n =>
      obtain ⟨front, last, -, hp, -, -⟩ := hps
      obtain ⟨front', last', -, hq, -, -⟩ := hqs
      have hpne : ps ≠ [] := hp ▸ List.append_ne_nil_of_right_ne_nil _ (by simp)
      have hqne : qs ≠ [] := hq ▸ List.append_ne_nil_of_right_ne_nil _ (by simp)
      obtain ⟨hlines, hclause⟩ := lines_concat_inj hpne hqne (hline m) (hline n) h
      exact ⟨hlines, by rw [Number.intText_inj (clause_inj hclause)]⟩

/-- The reading of a page tells its order and its numbers, and what stands before the order. -/
theorem pagedLines_inj {head head' : List (List Symbol)} (hhead : head ≠ []) (hhead' : head' ≠ [])
    {order order' : String} (horder : '\n' ∉ order.toList) (horder' : '\n' ∉ order'.toList)
    {limit? limit'? offset? offset'? : Option Int}
    (h : lines (pagedLines head order limit? offset?) =
      lines (pagedLines head' order' limit'? offset'?)) :
    lines head = lines head' ∧ order = order' ∧ limit? = limit'? ∧ offset? = offset'? := by
  have horders : ∀ {keyword : String}, "ORDER BY".toList.take 2 ≠ keyword.toList.take 2 →
      2 ≤ keyword.toList.length → ∀ {head : List (List Symbol)} {order : String}, head ≠ [] →
      '\n' ∉ order.toList → EndsOther keyword (head ++ [clause "ORDER BY" order]) := by
    intro keyword hne hlength head order hhead horder
    exact ⟨head, _, hhead, rfl, onLine_clause (by decide) horder,
      fun n => clause_ne hne (by decide) hlength _ _⟩
  have hlimits : ∀ {head : List (List Symbol)} {order : String}, head ≠ [] →
      '\n' ∉ order.toList → ∀ limit? : Option Int,
      EndsOther "OFFSET" (head ++ [clause "ORDER BY" order] ++ countedFilled "LIMIT" limit?) := by
    intro head order hhead horder limit?
    cases limit? with
    | none =>
      rw [show countedFilled "LIMIT" none = [] from rfl, List.append_nil]
      exact horders (by decide) (by decide) hhead horder
    | some n =>
      exact ⟨_, _, List.append_ne_nil_of_left_ne_nil hhead _, rfl,
        onLine_clause (by decide) (newline_not_mem_intText n),
        fun m => clause_ne (by decide) (by decide) (by decide) _ _⟩
  obtain ⟨hlimit, hoffset⟩ := counted_inj (by decide) (hlimits hhead horder limit?)
    (hlimits hhead' horder' limit'?) h
  obtain ⟨hordered, hlimitEq⟩ := counted_inj (by decide)
    (horders (by decide) (by decide) hhead horder) (horders (by decide) (by decide) hhead' horder')
    hlimit
  obtain ⟨hheads, hclause⟩ := lines_concat_inj hhead hhead' (onLine_clause (by decide) horder)
    (onLine_clause (by decide) horder') hordered
  exact ⟨hheads, clause_inj hclause, hlimitEq, hoffset⟩

/-- No line of the given keyword ends a page. -/
theorem clause_ne_paged {keyword : String} (h : ∀ k ∈ ["ORDER BY", "LIMIT", "OFFSET"],
    keyword.toList.take 2 ≠ k.toList.take 2) (hlength : 2 ≤ keyword.toList.length) (text : String) :
    ∀ k ∈ ["ORDER BY", "LIMIT", "OFFSET"], ∀ t, clause keyword text ≠ clause k t := by
  intro k hk t
  have hlong : 2 ≤ k.toList.length := by
    revert k
    decide
  exact clause_ne (h k hk) hlength hlong text t

/-- A statement with another last line is no page. -/
theorem lines_ne_pagedLines {rs : List (List Symbol)} (hrs : rs ≠ []) {r : List Symbol}
    (hr : OnLine r) (hother : ∀ keyword ∈ ["ORDER BY", "LIMIT", "OFFSET"], ∀ text,
      r ≠ clause keyword text) {head : List (List Symbol)} (hhead : head ≠ []) {order : String}
    (horder : '\n' ∉ order.toList) (limit? offset? : Option Int) :
    lines (rs ++ [r]) ≠ lines (pagedLines head order limit? offset?) := by
  have hlast : ∃ front keyword text, front ≠ [] ∧ keyword ∈ ["ORDER BY", "LIMIT", "OFFSET"] ∧
      OnLine (clause keyword text) ∧
      pagedLines head order limit? offset? = front ++ [clause keyword text] := by
    have hordered : head ++ [clause "ORDER BY" order] ≠ [] :=
      List.append_ne_nil_of_left_ne_nil hhead _
    cases offset? with
    | some o =>
      exact ⟨_, "OFFSET", Number.intText o, List.append_ne_nil_of_left_ne_nil hordered _, by decide,
        onLine_clause (by decide) (newline_not_mem_intText o), rfl⟩
    | none =>
      cases limit? with
      | some n =>
        exact ⟨_, "LIMIT", Number.intText n, hordered, by decide,
          onLine_clause (by decide) (newline_not_mem_intText n), List.append_nil _⟩
      | none =>
        refine ⟨_, "ORDER BY", order, hhead, by decide, onLine_clause (by decide) horder, ?_⟩
        exact (List.append_nil _).trans (List.append_nil _)
  obtain ⟨front, keyword, text, hfront, hkeyword, honline, heq⟩ := hlast
  rw [heq]
  exact fun h => hother keyword hkeyword text (lines_concat_inj hrs hfront hr honline h).2

end Select

end Crosstab.Sql
