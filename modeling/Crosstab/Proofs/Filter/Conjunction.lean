import Crosstab.Grid.RowQuery
import Crosstab.Proofs.Filter.Conditions
import Crosstab.Proofs.Sql.Built
import Crosstab.Proofs.Sql.Clauses

/-!
# Filters cannot weaken each other

The condition of a row query, read as SQL reads it, is the conjunction of the time window, of each
entry of the filter and of the base specification, each read on its own. No connective of one part
reaches into another: the conjuncts of the whole are those of the parts, in their order.
-/

namespace Crosstab.Filter.Scope

open Sql Text

variable {scope : Scope}

/-! ## Conditions and their conjuncts -/

/-- What the condition says is the conjunction of the formulas; an absent one says nothing. -/
def Amounts (p? : Option Predicate) (fs : List Formula) : Prop :=
  match p? with
  | none => fs = []
  | some p => ∃ c, Says p.sql p.args c ∧ c.Conjunctive ∧ c.formula.conjuncts = fs

theorem Amounts.both {p? q? : Option Predicate} {fs gs : List Formula} (hp : Amounts p? fs)
    (hq : Amounts q? gs) : Amounts (Predicate.both? p? q?) (fs ++ gs) := by
  cases p? with
  | none =>
    obtain rfl : fs = [] := hp
    exact hq
  | some p =>
    cases q? with
    | none =>
      obtain rfl : gs = [] := hq
      rw [List.append_nil]
      exact hp
    | some q =>
      obtain ⟨c, hc, hcand, rfl⟩ := hp
      obtain ⟨d, hd, hdand, rfl⟩ := hq
      exact ⟨c.append .and d, hc.link .and hd, hcand.append hdand,
        Links.conjuncts_append hcand hdand⟩

theorem Amounts.all {ps : List (Option Predicate)} {fss : List (List Formula)}
    (h : List.Forall₂ Amounts ps fss) : Amounts (Predicate.all? ps) fss.flatten :=
  forall₂_all? rfl Amounts.both h

/-- Conditions become the fragments, and those that are not blank read as the formulas. -/
structure Told (ps : List (Option Predicate)) (frags : List Fragment) (fs : List Formula) :
    Prop where
  fragments : ps.mapM Predicate.fragment? = .ok frags
  formulas : (frags.filter (!·.isBlank)).mapM Fragment.formula? = some fs

theorem Told.append {ps qs : List (Option Predicate)} {frags gfrags : List Fragment}
    {fs gs : List Formula} (hp : Told ps frags fs) (hq : Told qs gfrags gs) :
    Told (ps ++ qs) (frags ++ gfrags) (fs ++ gs) where
  fragments := by
    rw [List.mapM_append, hp.fragments, hq.fragments]
    rfl
  formulas := by
    rw [List.filter_append, List.mapM_append, hp.formulas, hq.formulas]
    rfl

/-- The fragment of a predicate is not blank. -/
theorem isBlank_of_sql {p : Predicate} {f : Fragment} (h : f.sql = p.sql) : f.isBlank = false := by
  rw [Fragment.isBlank, h]
  exact p.isBlank_sql

/-- A conjunction says what its fragment reads as. -/
theorem told_of_conjunctive {p? : Option Predicate} (h : Conjunctive p?) :
    ∃ f fs, Told [p?] [f] fs ∧ Amounts p? (fs.flatMap (·.conjuncts)) := by
  cases p? with
  | none => exact ⟨.empty, [], ⟨rfl, rfl⟩, rfl⟩
  | some p =>
    obtain ⟨hsound, hconjunctive⟩ := h p rfl
    obtain ⟨c, hc, -, hand⟩ := hsound.meaning
    obtain ⟨f, hf, -⟩ := hsound.fragment
    obtain ⟨hsql, -, hformula⟩ := Predicate.formula_of_meaning hf hc
    refine ⟨f, [c.formula], ⟨?_, ?_⟩, c, hc, hand hconjunctive, ?_⟩
    · show (do return [← p.fragment]) = _
      rw [hf]
      rfl
    · simp [isBlank_of_sql hsql, hformula]
    · simp

/-- Conjunctions say together what their fragments read as. -/
theorem told_all_of_conjunctive {ps : List (Option Predicate)} (h : ∀ p? ∈ ps, Conjunctive p?) :
    ∃ frags fs, Told ps frags fs ∧ Amounts (Predicate.all? ps) (fs.flatMap (·.conjuncts)) := by
  have key : ∃ frags fss, Told ps frags fss.flatten ∧
      List.Forall₂ (fun p? fs => Amounts p? (fs.flatMap (·.conjuncts))) ps fss := by
    induction ps with
    | nil => exact ⟨[], [], ⟨rfl, rfl⟩, .nil⟩
    | cons p? ps ih =>
      obtain ⟨hp, hrest⟩ := List.forall_mem_cons.1 h
      obtain ⟨frags, fss, htold, hamounts⟩ := ih hrest
      obtain ⟨f, fs, hone, hamount⟩ := told_of_conjunctive hp
      exact ⟨f :: frags, fs :: fss, hone.append htold, .cons hamount hamounts⟩
  obtain ⟨frags, fss, htold, hamounts⟩ := key
  refine ⟨frags, fss.flatten, htold, ?_⟩
  have hflat : fss.flatten.flatMap (·.conjuncts) = (fss.map (·.flatMap (·.conjuncts))).flatten := by
    simp [List.flatMap_def, List.map_flatten, List.flatten_flatten, Function.comp_def]
  rw [hflat]
  exact Amounts.all (List.forall₂_map_right_iff.2 hamounts)

/-! ## Row queries -/

/-- What the window, each entry of the filter and the base specification of a request become, each
on its own. -/
def restrictions (scope : Scope) (r : RowRequest) : Outcome (List Fragment) := do
  let inWindow ← scope.window r.time
  let ps ← (← readEntries r.filter).mapM scope.entry
  let base ← scope.baseSpec r.baseSpec
  ([inWindow] ++ ps ++ [base]).mapM Predicate.fragment?

/-- The rows' condition is the conjunction of what the restrictions say. -/
theorem rowsWhere_amounts {r : RowRequest} {p? : Option Predicate}
    (h : scope.rowsWhere r.filter r.time r.baseSpec = .ok p?) :
    Conjunctive p? ∧ ∃ frags fs, scope.restrictions r = .ok frags ∧
      (frags.filter (!·.isBlank)).mapM Fragment.formula? = some fs ∧
      Amounts p? (fs.flatMap (·.conjuncts)) := by
  obtain ⟨f?, hf, h⟩ := Outcome.bind_eq_ok.1 h
  obtain ⟨b?, hb, h⟩ := Outcome.bind_eq_ok.1 h
  obtain ⟨w?, hw, hf⟩ := Outcome.bind_eq_ok.1 hf
  obtain ⟨es, hes, hf⟩ := Outcome.bind_eq_ok.1 hf
  obtain ⟨e?, he, hf⟩ := Outcome.bind_eq_ok.1 hf
  rw [entries_null] at he
  obtain ⟨ps, hps, he⟩ := Outcome.bind_eq_ok.1 he
  obtain rfl := Outcome.pure_eq_ok.1 h
  obtain rfl := Outcome.pure_eq_ok.1 hf
  obtain rfl := Outcome.pure_eq_ok.1 he
  have hwindow : Conjunctive w? := (window_yields r.time).of_ok hw
  have hbase : Conjunctive b? :=
    (baseSpec_yields (fun _ _ => trivial) (Outcome.Yields.any _)).of_ok hb
  have hentries : ∀ p? ∈ ps, Conjunctive p? := fun p? hp =>
    ((Outcome.Yields.mapM fun e _ => entry_yields e).of_ok hps p? hp).conjunctive
  refine ⟨(hwindow.both (Conjunctive.all hentries)).both hbase, ?_⟩
  obtain ⟨wf, wfs, hwtold, hwamounts⟩ := told_of_conjunctive hwindow
  obtain ⟨efs, gs, hetold, heamounts⟩ := told_all_of_conjunctive hentries
  obtain ⟨bf, bfs, hbtold, hbamounts⟩ := told_of_conjunctive hbase
  obtain ⟨hfragments, hformulas⟩ := (hwtold.append hetold).append hbtold
  refine ⟨_, _, ?_, hformulas, ?_⟩
  · exact Outcome.bind_eq_ok.2 ⟨w?, hw, Outcome.bind_eq_ok.2 ⟨es, hes, Outcome.bind_eq_ok.2
      ⟨ps, hps, Outcome.bind_eq_ok.2 ⟨b?, hb, hfragments⟩⟩⟩⟩
  · simp only [List.flatMap_append]
    exact (hwamounts.both heamounts).both hbamounts

/-- A selected column is a word with another name for it. -/
theorem selectedColumn_yields (name : Value) :
    Outcome.Yields scope.Refuses IsQuiet (scope.selectedColumn name) := by
  refine (column_yields name).bind fun column hcolumn => ?_
  refine (require_yields name).bind fun own _ => ?_
  refine ((quoteIdentifier_yields own).weaken fun e he => .inl he).bind fun quoted hquoted => .ok ?_
  have has : IsQuiet "AS" := IsPlain.isQuiet (by decide)
  have hsql : column ++ " " ++ "AS" ++ " " ++ quoted = column ++ " AS " ++ quoted := by
    rw [← String.toList_inj]
    simp
  have hboth := (hcolumn.isQuiet.space has).space hquoted.isQuiet
  rwa [hsql] at hboth

theorem selectedColumns_quiet {columns : Value} {cs : List String}
    (h : scope.selectedColumns columns = .ok cs) : ∀ c ∈ cs, IsQuiet c := by
  unfold selectedColumns at h
  split at h
  · obtain ⟨items, -, h⟩ := Outcome.bind_eq_ok.1 h
    exact (Outcome.Yields.mapM fun name _ => selectedColumn_yields name).of_ok h
  · obtain rfl : ["t.*"] = cs := Except.ok.inj h
    exact List.forall_mem_singleton.2 (IsPlain.isQuiet (by decide))

theorem sortTerm_yields (sort default_ : Value) :
    Outcome.Yields scope.Refuses (fun term => IsPlain term.1) (scope.sortTerm sort default_) := by
  unfold sortTerm
  simp only
  split
  · exact .error (.inl ⟨_, _, rfl⟩)
  · split
    · exact .error (.inl ⟨_, _, rfl⟩)
    · exact (column_yields _).bind fun _ hcolumn => .ok hcolumn

/-- A request sorts by the column of the field that it names, or else of the default one, up or
down. -/
theorem sortTerm_inversion {sort default_ : Value} {column direction : String}
    (h : scope.sortTerm sort default_ = .ok (column, direction)) :
    (direction = "ASC" ∨ direction = "DESC") ∧
      scope.schema.column ((sortParts sort).1.orElse
        (default_.orElse (.text scope.schema.layer.defaultTimeField))) = .ok column := by
  unfold sortTerm at h
  simp only at h
  split at h
  · cases h
  · split at h
    · cases h
    · next hword =>
      obtain ⟨text, hcolumn, hpair⟩ := Outcome.bind_eq_ok.1 h
      obtain ⟨rfl, rfl⟩ := Prod.mk.inj (Outcome.pure_eq_ok.1 hpair)
      refine ⟨?_, hcolumn⟩
      simpa [or_iff_not_imp_left] using hword

/-- What a request sorts by is a word and a direction. -/
theorem order_quiet {sort default_ : Value} {column direction : String}
    (h : scope.sortTerm sort default_ = .ok (column, direction)) :
    IsQuiet (column ++ " " ++ direction) := by
  have hcolumn : IsQuiet column := ((sortTerm_yields sort default_).of_ok h).isQuiet
  have hdirection : IsQuiet direction := by
    rcases (sortTerm_inversion h).1 with rfl | rfl
    · exact IsPlain.isQuiet (by decide)
    · exact IsPlain.isQuiet (by decide)
  exact hcolumn.space hdirection

theorem orderBy_of_sortTerm {sort default_ : Value} {column direction : String}
    (h : scope.sortTerm sort default_ = .ok (column, direction)) (s : Select) :
    s.orderBy column (.text direction) =
      .ok { s with orders := s.orders ++ [column ++ " " ++ direction] } := by
  rcases (sortTerm_inversion h).1 with rfl | rfl
  · rfl
  · rfl

/-- The statement of a row query: columns of the rows that meet a condition, in an order, from some
row on. -/
def rowSelect (scope : Scope) (columns : List String) (f : Fragment) (order : String)
    (page : Page) : Select where
  columns
  distinct := false
  table? := some scope.schema.fromClause
  condition := if f.isBlank then .empty else f
  groups := []
  orders := [order]
  limit? := some page.limit
  offset? := some page.offset

theorem rowSelect_quiet {columns : Value} {cs : List String} {order : String}
    (hcolumns : scope.selectedColumns columns = .ok cs) (horder : IsQuiet order) (f : Fragment)
    (page : Page) : (scope.rowSelect cs f order page).Quiet where
  columns := selectedColumns_quiet hcolumns
  table := by
    rintro _ ⟨⟩
    exact scope.schema.isQuiet_fromClause
  groups := nofun
  orders := List.forall_mem_singleton.2 horder

/-- A row query is built with the condition of its rows. -/
theorem rowQuery_inversion {r : RowRequest} {q : Fragment} (h : scope.rowQuery r = .ok q) :
    ∃ (p? : Option Predicate) (f : Fragment) (s : Select),
      scope.rowsWhere r.filter r.time r.baseSpec = .ok p? ∧ Predicate.fragment? p? = .ok f ∧
      s.Quiet ∧ s.condition = (if f.isBlank then .empty else f) ∧ s.build = .ok q := by
  obtain ⟨columns, hcolumns, h⟩ := Outcome.bind_eq_ok.1 h
  obtain ⟨p?, hp, h⟩ := Outcome.bind_eq_ok.1 h
  obtain ⟨f, hf, h⟩ := Outcome.bind_eq_ok.1 h
  obtain ⟨⟨column, direction⟩, hsort, h⟩ := Outcome.bind_eq_ok.1 h
  obtain ⟨page, -, h⟩ := Outcome.bind_eq_ok.1 h
  obtain ⟨ordered, hordered, h⟩ := Outcome.bind_eq_ok.1 h
  obtain ⟨limited, hlimited, h⟩ := Outcome.bind_eq_ok.1 h
  obtain ⟨s, hs, h⟩ := Outcome.bind_eq_ok.1 h
  obtain ⟨n, rfl⟩ := (Select.limitTo_yields _ _).of_ok hlimited
  obtain ⟨m, rfl⟩ := (Select.startAt_yields _ _).of_ok hs
  rw [Select.filter_eq, orderBy_of_sortTerm hsort] at hordered
  obtain rfl := Except.ok.inj hordered
  exact ⟨p?, f, scope.rowSelect columns f _ ⟨m, n⟩, hp, hf,
    rowSelect_quiet hcolumns (order_quiet hsort) f _, rfl, h⟩

section Parts

variable {r : RowRequest} {columns : List String} {p? : Option Predicate}
  {column direction : String} {page : Page}
  (hcolumns : scope.selectedColumns r.columns = .ok columns)
  (hrows : scope.rowsWhere r.filter r.time r.baseSpec = .ok p?)
  (hsort : scope.sortTerm r.sort .null = .ok (column, direction))
  (hpage : Page.ofRequest r.offset r.limit scope.settings.gridDefaultLimit
    scope.settings.gridMaxLimit = .ok page) (hoffset : 0 ≤ page.offset) (hlimit : 1 ≤ page.limit)

include hcolumns hrows hsort hpage hoffset hlimit

/-- A row query puts together what is read of its request. -/
theorem rowQuery_eq {f : Fragment} (hf : Predicate.fragment? p? = .ok f) :
    scope.rowQuery r = (scope.rowSelect columns f (column ++ " " ++ direction) page).build := by
  simp only [rowQuery, hcolumns, hrows, hf, hsort, hpage, orderBy_of_sortTerm hsort,
    Select.limitTo_int hlimit, Select.startAt_int hoffset, Select.filter_eq, bind, Except.bind]
  rfl

/-- A row query comes together if its request can be read and its page can be written. -/
theorem rowQuery_succeeds (hwritable : Number.isWritable page.offset = true)
    (hwritten : Number.isWritable page.limit = true) : ∃ q, scope.rowQuery r = .ok q := by
  obtain ⟨f, hf, hbalanced⟩ := (rowsWhere_amounts hrows).1.fragment
  have hcondition : Balanced (if f.isBlank then Fragment.empty else f).sql := by
    split
    · rfl
    · exact hbalanced
  have hsound := (rowSelect_quiet hcolumns (order_quiet hsort) f page).sound hcondition
  have hnumbers : (scope.rowSelect columns f (column ++ " " ++ direction) page).Writable :=
    ⟨fun _ hn => Option.mem_some_iff.1 hn ▸ hwritten,
      fun _ hn => Option.mem_some_iff.1 hn ▸ hwritable⟩
  obtain ⟨q, hq, -⟩ := Select.build_of_sound hsound rfl scope.schema.fromClause_not_blank hnumbers
  exact ⟨q, (rowQuery_eq hcolumns hrows hsort hpage hoffset hlimit hf).trans hq⟩

end Parts

/-- No filter can weaken another filter or the time window: what the condition of a row query says
is the conjunction of what the window, the entries and the base specification say on their own. -/
theorem rows_meet_every_restriction {r : RowRequest} {q : Fragment}
    (h : scope.rowQuery r = .ok q) :
    ∃ parts fs whole, scope.restrictions r = .ok parts ∧
      (parts.filter (!·.isBlank)).mapM Fragment.formula? = some fs ∧ q.condition? = some whole ∧
      whole.toList.flatMap (·.conjuncts) = fs.flatMap (·.conjuncts) ∧
      ∀ v : List Term → Bool, whole.all (·.holds v) = fs.all (·.holds v) := by
  obtain ⟨p?, f, s, hp, hf, hquiet, hcondition, hbuild⟩ := rowQuery_inversion h
  obtain ⟨hconjunctive, parts, fs, hparts, hfs, hamounts⟩ := rowsWhere_amounts hp
  have hwhole : ∃ whole, q.condition? = some whole ∧
      whole.toList.flatMap (·.conjuncts) = fs.flatMap (·.conjuncts) := by
    cases p? with
    | none =>
      obtain rfl : Fragment.empty = f := Except.ok.inj hf
      have hblank : s.condition.isBlank = true := by
        rw [hcondition]
        rfl
      refine ⟨none, Select.condition_of_isBlank hquiet hblank hbuild, ?_⟩
      exact (show fs.flatMap (·.conjuncts) = [] from hamounts).symm
    | some p =>
      obtain ⟨c, hc, -, hconjuncts⟩ := hamounts
      obtain ⟨hsql, hargs, -⟩ := Predicate.formula_of_meaning hf hc
      have hblank : f.isBlank = false := isBlank_of_sql hsql
      have hsame : s.condition = f := by
        rw [hcondition, hblank]
        rfl
      rw [← hsql, ← hargs, ← hsame] at hc
      refine ⟨some c.formula, Select.condition_of_meaning hquiet (hsame ▸ hblank) hc hbuild, ?_⟩
      simpa using hconjuncts
  obtain ⟨whole, hread, hconjuncts⟩ := hwhole
  refine ⟨parts, fs, whole, hparts, hfs, hread, hconjuncts, fun v => ?_⟩
  have hall : ∀ gs : List Formula,
      gs.all (·.holds v) = (gs.flatMap (·.conjuncts)).all (·.holds v) := by
    intro gs
    rw [List.all_flatMap]
    exact congrArg (gs.all ·) (funext fun g => g.holds_eq_all_conjuncts v)
  have htoList : whole.all (·.holds v) = whole.toList.all (·.holds v) := by
    cases whole with
    | none => rfl
    | some g => simp
  rw [htoList, hall, hconjuncts, ← hall]

/-- A request whose entry and base specification both offer alternatives, in a window. -/
def alternatives : RowRequest where
  columns := .null
  filter := .record [("size", .record [("op", .text "IN"), ("values", .list [.int 80, .null])])]
  time := .record [("field", .text "time"), ("fromEpoch", .int 10)]
  sort := .text "syn"
  offset := .null
  limit := .null
  baseSpec := .record [("conditions", .list [
    .record [("field", .text "size"), ("op", .text "LT"), ("value", .int 5)],
    .record [("field", .text "syn"), ("op", .text "EQ"), ("value", .text "yes"),
      ("not", .bool true), ("join", .text "or")]])]

theorem alternatives_meet_every_restriction :
    ∃ q parts fs whole, packets.rowQuery alternatives = .ok q ∧
      packets.restrictions alternatives = .ok parts ∧
      (parts.filter (!·.isBlank)).mapM Fragment.formula? = some fs ∧ q.condition? = some whole ∧
      whole.toList.flatMap (·.conjuncts) = fs.flatMap (·.conjuncts) ∧
      ∀ v : List Term → Bool, whole.all (·.holds v) = fs.all (·.holds v) := by
  have hok : (packets.rowsWhere alternatives.filter alternatives.time
      alternatives.baseSpec).isOk = true := by decide +kernel
  obtain ⟨p?, hp⟩ := Outcome.isOk_iff.1 hok
  have hsort : packets.sortTerm alternatives.sort .null = .ok ("t.\"syn\"", "DESC") := by
    decide +kernel
  have hpage : Page.ofRequest .null .null packets.settings.gridDefaultLimit
      packets.settings.gridMaxLimit = .ok ⟨0, packets.settings.gridDefaultLimit⟩ := by decide
  obtain ⟨q, hq⟩ := rowQuery_succeeds rfl hp hsort hpage (by decide) (by decide)
    (by decide +kernel) (by decide +kernel)
  obtain ⟨parts, fs, whole, hall⟩ := rows_meet_every_restriction hq
  exact ⟨q, parts, fs, whole, hq, hall⟩

end Crosstab.Filter.Scope
