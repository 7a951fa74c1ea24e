import Crosstab.Proofs.Numeral
import Crosstab.Proofs.Sql.Subqueries

/-!
# Statements that come together

A sound statement with a table and numbers of a fair length comes together, and so does one with a
subquery. What it reads as tells it from all other statements: its text and its arguments are both
known from its symbols.
-/

namespace Crosstab.Sql

open Text

/-! ## Fragments by their symbols -/

/-- The character that stands in the text for a symbol. -/
def Symbol.place : Symbol → Char
  | .char c => c
  | .value _ => '?'

/-- The value of a symbol that is one. -/
def Symbol.value? : Symbol → Option Value
  | .char _ => none
  | .value v => some v

theorem map_place_fillFrom (q : Option Char) (cs : List Char) (vs : List Value) :
    (fillFrom q cs vs).map Symbol.place = cs := by
  induction cs generalizing q vs with
  | nil => rfl
  | cons c cs ih =>
    cases vs with
    | nil => rw [fillFrom, List.map_cons, ih, Symbol.place]
    | cons v vs =>
      rw [fillFrom]
      split
      · next hp =>
        have hc : '?' = c := (eq_of_beq (Bool.and_eq_true_iff.1 hp).2).symm
        rw [List.map_cons, ih, Symbol.place, hc]
      · rw [List.map_cons, ih, Symbol.place]

theorem filterMap_value_fillFrom {q : Option Char} {cs : List Char} {vs : List Value}
    (h : countFrom q cs = vs.length) : (fillFrom q cs vs).filterMap Symbol.value? = vs := by
  induction cs generalizing q vs with
  | nil =>
    rw [countFrom_nil] at h
    rw [List.length_eq_zero_iff.1 h.symm]
    rfl
  | cons c cs ih =>
    rw [countFrom_cons] at h
    cases vs with
    | nil =>
      have hrest : countFrom (quoteAfter q c) cs = 0 := by
        rw [List.length_nil] at h
        omega
      rw [fillFrom, List.filterMap_cons_none rfl, ih hrest]
    | cons v vs =>
      rw [fillFrom]
      split
      · next hp =>
        have hrest : countFrom (quoteAfter q c) cs = vs.length := by
          rw [hp, Bool.toNat_true, List.length_cons] at h
          omega
        have hvalue : (Symbol.value v).value? = some v := rfl
        rw [List.filterMap_cons_some hvalue, ih hrest]
      · next hp =>
        have hrest : countFrom (quoteAfter q c) cs = (v :: vs).length := by
          rw [Bool.eq_false_iff.2 hp, Bool.toNat_false, Nat.zero_add] at h
          exact h
        rw [List.filterMap_cons_none rfl, ih hrest]

/-- Fragments that read the same are the same. -/
theorem Fragment.eq_of_filled {f g : Fragment} (h : f.filled = g.filled) : f = g := by
  have hsql : f.sql.toList = g.sql.toList := by
    rw [← map_place_fillFrom none f.sql.toList f.args,
      ← map_place_fillFrom none g.sql.toList g.args]
    exact congrArg _ h
  have hargs : f.args = g.args := by
    rw [← filterMap_value_fillFrom f.arity, ← filterMap_value_fillFrom g.arity]
    exact congrArg _ h
  exact Fragment.ext (String.toList_inj.1 hsql) hargs

theorem symbols_inj {a b : String} (h : symbols a = symbols b) : a = b :=
  String.toList_inj.1 (List.map_injective_iff.2 (fun _ _ => Symbol.char.inj) h)

/-! ## Built statements -/

/-- Readings on lines of their own. -/
def lines (rs : List (List Symbol)) : List Symbol :=
  (symbols "\n").intercalate rs

/-- The reading of a keyword and a text behind it. -/
def clause (keyword text : String) : List Symbol :=
  symbols (keyword ++ " " ++ text)

/-- The reading stays on its line. -/
def OnLine (r : List Symbol) : Prop :=
  .char '\n' ∉ r

theorem onLine_symbols {s : String} (h : '\n' ∉ s.toList) : OnLine (symbols s) := by
  simpa [OnLine, symbols] using h

theorem newline_not_mem_intText (n : Int) : '\n' ∉ (Number.intText n).toList := by
  have hdigits : ∀ k, '\n' ∉ Nat.toDigits 10 k := fun k hmem =>
    absurd (Number.allDigits_toDigits k _ hmem) (by decide)
  rw [Number.toList_intText]
  cases n with
  | ofNat n => exact hdigits n
  | negSucc n =>
    refine fun hmem => (List.mem_cons.1 hmem).elim (fun h => ?_) (hdigits (n + 1))
    exact absurd h (by decide)

/-- Every line but the first starts on a new one. -/
theorem lines_cons (r : List Symbol) (rs : List (List Symbol)) :
    lines (r :: rs) = r ++ rs.flatMap (.char '\n' :: ·) := by
  induction rs generalizing r with
  | nil => simp [lines]
  | cons a as ih =>
    rw [lines, List.intercalate_cons_cons, ← lines, ih a, List.flatMap_cons]
    simp [symbols]

theorem lines_concat {rs : List (List Symbol)} (h : rs ≠ []) (r : List Symbol) :
    lines (rs ++ [r]) = lines rs ++ .char '\n' :: r := by
  obtain ⟨a, as, rfl⟩ := List.exists_cons_of_ne_nil h
  rw [List.cons_append, lines_cons, lines_cons, List.flatMap_append, List.flatMap_singleton,
    List.append_assoc]

/-- A line between others that are known is told by the whole. -/
theorem lines_between_inj {ps rs : List (List Symbol)} (hp : ps ≠ []) {r t : List Symbol}
    (h : lines (ps ++ r :: rs) = lines (ps ++ t :: rs)) : r = t := by
  obtain ⟨p, ps, rfl⟩ := List.exists_cons_of_ne_nil hp
  simp only [List.cons_append, lines_cons, List.flatMap_append, List.flatMap_cons,
    List.append_cancel_left_eq, List.append_cancel_right_eq, List.cons.injEq, true_and] at h
  exact h

/-- The last line is told by the whole. -/
theorem lines_concat_inj {ps qs : List (List Symbol)} (hp : ps ≠ []) (hq : qs ≠ [])
    {r t : List Symbol} (hr : OnLine r) (ht : OnLine t)
    (h : lines (ps ++ [r]) = lines (qs ++ [t])) : lines ps = lines qs ∧ r = t := by
  rw [lines_concat hp, lines_concat hq] at h
  rcases List.append_eq_append_iff.1 h with ⟨as, hqs, hrest⟩ | ⟨as, hps, hrest⟩
  · cases as with
    | nil => exact ⟨by rw [hqs, List.append_nil], (List.cons.inj hrest).2⟩
    | cons a as =>
      have hmem : .char '\n' ∈ r := by
        rw [(List.cons.inj hrest).2]
        exact List.mem_append_right as List.mem_cons_self
      exact absurd hmem hr
  · cases as with
    | nil => exact ⟨by rw [hps, List.append_nil], (List.cons.inj hrest).2.symm⟩
    | cons a as =>
      have hmem : .char '\n' ∈ t := by
        rw [(List.cons.inj hrest).2]
        exact List.mem_append_right as List.mem_cons_self
      exact absurd hmem ht

namespace Select

theorem listedFilled_singleton (keyword term : String) :
    listedFilled keyword [term] = [clause keyword term] := by
  rw [listedFilled, String.intercalate_singleton]
  rfl

theorem listedFilled_of_ne_nil (keyword : String) {terms : List String} (h : terms ≠ []) :
    listedFilled keyword terms = [clause keyword (", ".intercalate terms)] := by
  rw [listedFilled, List.isEmpty_eq_false_iff.2 h]
  rfl

theorem countedFilled_some (keyword : String) (n : Int) :
    countedFilled keyword (some n) = [clause keyword (Number.intText n)] := rfl

/-- A condition stands behind its keyword. -/
theorem filteredFilled_symbols {text : String} (h : isBlank text = false) (r : List Symbol) :
    filteredFilled (symbols text ++ r) = [clause "WHERE" text ++ r] := by
  have hblank : allBlank (symbols text ++ r) = false := by
    have htext : allBlank (symbols text) = false := by
      simp only [allBlank, symbols, List.all_map]
      exact h
    simp only [allBlank, List.all_append] at htext ⊢
    rw [htext, Bool.false_and]
  rw [filteredFilled, hblank, clause, symbols_append, symbols_append]
  simp

/-- The readings of the clauses of a statement. -/
def clauseLines (s : Select) (table : String) : List (List Symbol) :=
  listedFilled (if s.distinct then "SELECT DISTINCT" else "SELECT")
      (if s.columns.isEmpty then ["*"] else s.columns) ++
    listedFilled "FROM" [table] ++ filteredFilled s.condition.filled ++
    listedFilled "GROUP BY" s.groups ++ listedFilled "ORDER BY" s.orders ++
    countedFilled "LIMIT" s.limit? ++ countedFilled "OFFSET" s.offset?

theorem allBlank_keyword {keyword : String} (h : allBlank (symbols keyword) = false)
    (r : List Symbol) : allBlank (symbols keyword ++ r) = false := by
  simp only [allBlank, List.all_append] at h ⊢
  rw [h, Bool.false_and]

theorem listedFilled_not_blank {keyword : String} (h : allBlank (symbols keyword) = false)
    (terms : List String) : ∀ r ∈ listedFilled keyword terms, allBlank r = false := by
  unfold listedFilled
  cases terms.isEmpty with
  | true => exact nofun
  | false =>
    refine List.forall_mem_singleton.2 ?_
    rw [String.append_assoc, symbols_append]
    exact allBlank_keyword h _

theorem countedFilled_not_blank {keyword : String} (h : allBlank (symbols keyword) = false)
    (n? : Option Int) : ∀ r ∈ countedFilled keyword n?, allBlank r = false := by
  cases n? with
  | none => exact nofun
  | some n =>
    refine List.forall_mem_singleton.2 ?_
    show allBlank (symbols (keyword ++ " " ++ Number.intText n)) = false
    rw [String.append_assoc, symbols_append]
    exact allBlank_keyword h _

theorem filteredFilled_not_blank (r : List Symbol) :
    ∀ c ∈ filteredFilled r, allBlank c = false := by
  unfold filteredFilled
  cases allBlank r with
  | true => exact nofun
  | false =>
    refine List.forall_mem_singleton.2 ?_
    rw [List.append_assoc]
    exact allBlank_keyword (by decide) _

/-- A statement reads as its clauses on lines of their own; none of them is blank. -/
theorem filled_eq_lines (s : Select) (table : String) :
    s.filled table = lines (s.clauseLines table) := by
  have hselect :
      allBlank (symbols (if s.distinct then "SELECT DISTINCT" else "SELECT")) = false := by
    cases s.distinct <;> decide
  have hlines : ∀ r ∈ s.clauseLines table, allBlank r = false := by
    simp only [clauseLines, List.forall_mem_append]
    exact ⟨⟨⟨⟨⟨⟨listedFilled_not_blank hselect _, listedFilled_not_blank (by decide) _⟩,
      filteredFilled_not_blank _⟩, listedFilled_not_blank (by decide) _⟩,
      listedFilled_not_blank (by decide) _⟩, countedFilled_not_blank (by decide) _⟩,
      countedFilled_not_blank (by decide) _⟩
  have hkeep : (s.clauseLines table).filter (!allBlank ·) = s.clauseLines table :=
    List.filter_eq_self.2 fun r hr => by rw [hlines r hr, Bool.not_false]
  rw [lines, ← hkeep]
  rfl

/-! ### Steps that succeed -/

theorem limitTo_int {n : Int} (h : 1 ≤ n) (s : Select) :
    s.limitTo (.int n) = .ok { s with limit? := some n } := by
  have hn : ¬n < 1 := Int.not_lt.2 h
  simp only [limitTo, Value.toInt, bind, Except.bind, pure, Except.pure, if_neg hn]

theorem startAt_int {n : Int} (h : 0 ≤ n) (s : Select) :
    s.startAt (.int n) = .ok { s with offset? := some n } := by
  have hn : ¬n < 0 := Int.not_lt.2 h
  simp only [startAt, Value.toInt, bind, Except.bind, pure, Except.pure, if_neg hn]

/-! ### Building -/

/-- The numbers of the statement can be written. -/
structure Writable (s : Select) : Prop where
  limit : ∀ n ∈ s.limit?, Number.isWritable n = true
  offset : ∀ n ∈ s.offset?, Number.isWritable n = true

/-- A sound statement with a table comes together. -/
theorem build_of_sound {s : Select} (hs : s.Sound) {table : String} (ht : s.table? = some table)
    (hblank : isBlank table = false) (hwritable : s.Writable) :
    ∃ f, s.build = .ok f ∧ Balanced f.sql ∧ f.filled = lines (s.clauseLines table) := by
  rw [← filled_eq_lines]
  have hyields := build_yields hs
  cases hbuild : s.build with
  | ok f =>
    obtain ⟨hbalanced, t, htable, hfilled⟩ := hyields.of_ok hbuild
    have hsame : t = table := Option.some.inj ((Option.mem_def.1 htable).symm.trans ht)
    exact ⟨f, rfl, hbalanced, hsame ▸ hfilled⟩
  | error e =>
    rcases hyields.of_error hbuild with ⟨-, htable⟩ | ⟨-, n, hn, hwide⟩
    · exact absurd (htable table ht) (Bool.eq_false_iff.1 hblank)
    · have hfits := hn.elim (hwritable.limit n) (hwritable.offset n)
      exact absurd hfits (Bool.eq_false_iff.1 hwide)

theorem writable_of_counted {keyword : String} {n? : Option Int} {fs : List Fragment}
    (h : counted keyword n? = .ok fs) : ∀ n ∈ n?, Number.isWritable n = true := by
  rintro n ⟨⟩
  obtain ⟨text, htext, -⟩ := Outcome.bind_eq_ok.1 h
  rw [Value.wholeText, Number.writeInt] at htext
  by_contra hn
  rw [if_neg hn] at htext
  cases htext

/-- The numbers of a statement that came together can be written. -/
theorem writable_of_build {s : Select} {f : Fragment} (h : s.build = .ok f) : s.Writable := by
  unfold build at h
  split at h
  · split at h
    · cases h
    · obtain ⟨fs, hclauses, -⟩ := Outcome.bind_eq_ok.1 h
      obtain ⟨_, -, hclauses⟩ := Outcome.bind_eq_ok.1 hclauses
      obtain ⟨_, -, hclauses⟩ := Outcome.bind_eq_ok.1 hclauses
      obtain ⟨_, -, hclauses⟩ := Outcome.bind_eq_ok.1 hclauses
      obtain ⟨_, -, hclauses⟩ := Outcome.bind_eq_ok.1 hclauses
      obtain ⟨_, -, hclauses⟩ := Outcome.bind_eq_ok.1 hclauses
      obtain ⟨_, hlimit, hclauses⟩ := Outcome.bind_eq_ok.1 hclauses
      obtain ⟨_, hoffset, -⟩ := Outcome.bind_eq_ok.1 hclauses
      exact ⟨writable_of_counted hlimit, writable_of_counted hoffset⟩
  · cases h

/-! ### Arguments -/

theorem filterMap_value_symbols (s : String) : (symbols s).filterMap Symbol.value? = [] := by
  rw [List.filterMap_eq_nil_iff]
  intro x hx
  obtain ⟨c, -, rfl⟩ := List.mem_map.1 hx
  rfl

/-- Readings on lines of their own have the arguments of each. -/
theorem args_of_lines {f : Fragment} {rs : List (List Symbol)} (h : f.filled = lines rs) :
    f.args = rs.flatMap (·.filterMap Symbol.value?) := by
  have hlines : (lines rs).filterMap Symbol.value? = rs.flatMap (·.filterMap Symbol.value?) := by
    clear h
    induction rs with
    | nil => rfl
    | cons r rs ih =>
      cases rs with
      | nil => simp [lines]
      | cons t ts =>
        rw [lines] at ih
        rw [lines, List.intercalate_cons_cons, List.filterMap_append, List.filterMap_append, ih,
          filterMap_value_symbols, List.append_nil]
        exact List.flatMap_cons.symm
  rw [← hlines, ← h]
  exact (filterMap_value_fillFrom f.arity).symm

/-- A condition behind its keyword has its own arguments; a blank one has none. -/
theorem args_of_filtered (f : Fragment) :
    (filteredFilled f.filled).flatMap (·.filterMap Symbol.value?) = f.args := by
  have hargs : f.filled.filterMap Symbol.value? = f.args := filterMap_value_fillFrom f.arity
  unfold filteredFilled
  cases hblank : allBlank f.filled with
  | false => simp [filterMap_value_symbols, hargs]
  | true =>
    have hnone : f.filled.filterMap Symbol.value? = [] := by
      rw [List.filterMap_eq_nil_iff]
      intro x hx
      have hx := List.all_eq_true.1 hblank x hx
      cases x with
      | char c => rfl
      | value v => cases hx
    rw [← hargs, hnone]
    rfl

end Select

namespace With

/-- The symbols of a statement with one subquery. -/
def oneFilled (name : String) (query main : List Symbol) : List Symbol :=
  symbols ("WITH " ++ name ++ " AS (\n") ++ query ++ symbols "\n)\n" ++ main

/-- A statement with one subquery comes together. -/
theorem build_subquery {name : String} (hn : Inert name) {query main : Fragment}
    (hquery : Balanced query.sql) (hmain : Balanced main.sql) :
    ∃ f, ((empty.subquery name query).mainQuery (.ok main)).build = .ok f ∧ Balanced f.sql ∧
      f.filled = oneFilled name query.filled main.filled := by
  have hsound : ((empty.subquery name query).mainQuery (.ok main)).Sound :=
    List.forall_mem_singleton.2 ⟨hn, hquery⟩
  have hyields := build_yields (E := fun _ => False) (P := (· = main)) hsound rfl
    (.ok ⟨hmain, rfl⟩)
  cases hbuild : ((empty.subquery name query).mainQuery (.ok main)).build with
  | error e => exact (hyields.of_error hbuild).elim
  | ok f =>
    obtain ⟨hbalanced, f', hf', hfilled⟩ := hyields.of_ok hbuild
    rw [hf'] at hfilled
    refine ⟨f, rfl, hbalanced, ?_⟩
    have hblank : allBlank (definitionFilled name query.filled) = false := by
      have hopen : allBlank (symbols (" AS (\n")) = false := by decide
      simp only [definitionFilled, symbols_append, allBlank, List.all_append] at hopen ⊢
      rw [hopen]
      simp
    rw [hfilled]
    have hreadings : ((empty.subquery name query).mainQuery (.ok main)).readings =
        [(name, query.filled)] := rfl
    have hjoin : joinFilled (symbols ",\n") [definitionFilled name query.filled] =
        definitionFilled name query.filled := by
      simp only [joinFilled, List.filter_cons, hblank, Bool.not_false, if_true, List.filter_nil,
        List.intercalate_singleton]
    have hline : symbols "\n)\n" = symbols "\n)" ++ symbols "\n" := by decide
    rw [hreadings, filled, List.map_singleton, hjoin, oneFilled, definitionFilled, hline]
    simp

end With

end Crosstab.Sql
