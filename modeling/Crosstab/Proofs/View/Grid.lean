import Crosstab.Proofs.Filter.Conjunction
import Crosstab.Proofs.Names
import Crosstab.Proofs.Session
import Crosstab.Proofs.Sql.Paged
import Crosstab.Proofs.Value
import Crosstab.Proofs.View.Workspace
import Crosstab.View.Grid

/-!
# The two queries of the grid

A grid request asks for the rows of a page and for the number of rows. Both queries are read off one
plan, so they are about the same rows: they select from one table under one condition. The plan does
not depend on where the page starts.
-/

namespace Crosstab

open Crosstab.Filter Pivot Sql Text

/-! ## Pages -/

namespace Page

/-- A page that a request asks for starts at no negative offset and holds something, no more than
the largest page. -/
theorem ofRequest_eq_ok {offset limit : Value} {default_ most : Int} {page : Page}
    (h : ofRequest offset limit default_ most = .ok page) :
    ∃ o n, offset.toWhole "offset" 0 .invalidPagination = .ok o ∧
      limit.toWhole "limit" default_ .invalidPagination = .ok n ∧ 0 ≤ o ∧ 1 ≤ n ∧
      page = ⟨o, min n most⟩ := by
  obtain ⟨o, ho, h⟩ := Outcome.bind_eq_ok.1 h
  obtain ⟨n, hn, h⟩ := Outcome.bind_eq_ok.1 h
  refine ⟨o, n, ho, hn, ?_⟩
  by_cases hoffset : o < 0
  · rw [if_pos hoffset] at h
    cases h
  · by_cases hlimit : n < 1
    · rw [if_neg hoffset, if_pos hlimit] at h
      cases h
    · rw [if_neg hoffset, if_neg hlimit] at h
      exact ⟨Int.not_lt.1 hoffset, Int.not_lt.1 hlimit, (Outcome.pure_eq_ok.1 h).symm⟩

theorem ofRequest_of_whole {offset limit : Value} {default_ most o n : Int}
    (hoffset : offset.toWhole "offset" 0 .invalidPagination = .ok o)
    (hlimit : limit.toWhole "limit" default_ .invalidPagination = .ok n) (ho : 0 ≤ o)
    (hn : 1 ≤ n) : ofRequest offset limit default_ most = .ok ⟨o, min n most⟩ := by
  rw [ofRequest, hoffset, hlimit]
  simp only [bind, Except.bind, if_neg (Int.not_lt.2 ho), if_neg (Int.not_lt.2 hn)]
  rfl

theorem toWhole_int (name : String) (default_ n : Int) (code : ErrorCode) :
    (Value.int n).toWhole name default_ code = .ok n := rfl

/-- A page that is read keeps its numbers when it is read again. -/
theorem ofRequest_again {o n : Int} (ho : 0 ≤ o) (hn : 1 ≤ n) {most : Int} (hmost : n ≤ most)
    (default_ : Int) : ofRequest (.int o) (.int n) default_ most = .ok ⟨o, n⟩ := by
  rw [ofRequest_of_whole (toWhole_int _ _ o _) (toWhole_int _ _ n _) ho hn, Int.min_eq_left hmost]

end Page

namespace View

/-! ## Plans -/

/-- A column of a grid under its own name. -/
def selectedAs (name : String) : String :=
  Schema.columnText name ++ " AS " ++ ("\"" ++ name ++ "\"")

/-- The query selects the one column for the name of the other: it resolves the name once more. -/
def Selects (schema : Schema) (name column : String) : Prop :=
  schema.resolve? (.text name) = some column ∧ isIdentifier column = true

/-- What a grid request comes to, but for where the page starts. -/
structure GridPlan where
  schema : Schema
  /-- The columns that are told about, in their order. -/
  names : List String
  /-- The columns that the query selects for them; the same ones where names are plain. -/
  selected : List String
  /-- The condition on the rows. -/
  condition : Fragment
  /-- The column by which the rows are ordered. -/
  sortName : String
  direction : String
  /-- How many rows are on a page. -/
  limit : Int

namespace GridPlan

/-- What both queries are about: the table and the condition. -/
def source (g : GridPlan) : List (List Symbol) :=
  clause "FROM" g.schema.fromClause :: Select.filteredFilled g.condition.filled

/-- The order of the rows. -/
def order (g : GridPlan) : String :=
  Schema.columnText g.sortName ++ " " ++ g.direction

/-- The lines of the query for the rows of a page. -/
def pageLines (g : GridPlan) (offset : Int) : List (List Symbol) :=
  Select.pagedLines (clause "SELECT" (", ".intercalate (g.selected.map selectedAs)) :: g.source)
    g.order (some g.limit) (some offset)

/-- The lines of the query for the number of rows. -/
def countLines (g : GridPlan) : List (List Symbol) :=
  clause "SELECT" "COUNT(*) AS total" :: g.source

/-- What is told about the columns. -/
def columns (g : GridPlan) : List FieldMeta :=
  g.names.filterMap fun n => g.schema.fieldMeta.find? (·.name == n)

/-- The page that the rows and their number make up. -/
def page (g : GridPlan) (offset : Int) (rows counted : Rows) : Outcome GridPage := do
  let total ← (← counted.scalar).toCount
  return ⟨g.columns, rows.records, total, ⟨offset, g.limit⟩⟩

end GridPlan

/-- The columns that a request names, all of the schema if it names none. -/
def wantedColumns (schema : Schema) (members : List (String × Value)) : Outcome (List Value) :=
  let columns := memberOf members "columns"
  if columns.truthy then columns.elements else .ok (schema.columns.map fun c => .text c.1)

/-- The names of the columns that a request selects. -/
def gridNames (schema : Schema) (members : List (String × Value)) : Outcome (List String) := do
  (← wantedColumns schema members).mapM schema.require

/-- The filter of a request, under its older name if it has no other. -/
def filterOf (members : List (String × Value)) : Value :=
  (valueOf? "filterModel" members).getD (memberOf members "filters")

/-- The condition on the rows of a request. -/
def gridCondition (scope : Scope) (request : Value) : Outcome Fragment := do
  Predicate.fragment?
    (← scope.rowsWhere (← gridFilter request) (← request.get "time") (← request.get "baseSpec"))

/-- The request comes to the plan, with a page that starts at the offset. -/
structure GridPlan.Of (w : Workspace) (members : List (String × Value)) (offset : Int)
    (g : GridPlan) : Prop where
  schema : w.schema (memberOf members "layer") = .ok g.schema
  names : gridNames g.schema members = .ok g.names
  selected : List.Forall₂ (Selects g.schema) g.names g.selected
  condition : gridCondition ⟨g.schema, w.settings⟩ (.record members) = .ok g.condition
  sort : Scope.sortTerm ⟨g.schema, w.settings⟩ (memberOf members "sort") .null =
    .ok (Schema.columnText g.sortName, g.direction)
  page : Page.ofRequest (memberOf members "offset") (memberOf members "limit")
    w.settings.gridDefaultLimit w.settings.gridMaxLimit = .ok ⟨offset, g.limit⟩
  offset_nonneg : 0 ≤ offset
  limit_pos : 1 ≤ g.limit
  limit_most : g.limit ≤ w.settings.gridMaxLimit
  limit_fits : Number.isWritable g.limit = true

/-- What the rows of the plan's page are asked by. -/
def rowRequest (members : List (String × Value)) (names : List String) (page : Page) :
    Scope.RowRequest where
  columns := .list (names.map .text)
  filter := filterOf members
  time := memberOf members "time"
  sort := memberOf members "sort"
  offset := .int page.offset
  limit := .int page.limit
  baseSpec := memberOf members "baseSpec"

theorem gridFilter_record (members : List (String × Value)) :
    gridFilter (.record members) = .ok (filterOf members) := rfl

theorem gridCondition_record (scope : Scope) (members : List (String × Value)) :
    gridCondition scope (.record members) = (do
      Predicate.fragment? (← scope.rowsWhere (filterOf members) (memberOf members "time")
        (memberOf members "baseSpec"))) := rfl

theorem gridScope_record (w : Workspace) (members : List (String × Value)) :
    gridScope w (.record members) =
      (do return ⟨← w.schema (memberOf members "layer"), w.settings⟩) := rfl

/-- A request reads its columns and its page, and hands the rest on. -/
theorem gridRows_record (scope : Scope) (members : List (String × Value)) :
    gridRows scope (.record members) = (do
      let names ← gridNames scope.schema members
      let page ← Page.ofRequest (memberOf members "offset") (memberOf members "limit")
        scope.settings.gridDefaultLimit scope.settings.gridMaxLimit
      return (names, page, rowRequest members names page)) := by
  have hget : ∀ key, Value.get key (.record members) = .ok (memberOf members key) := fun _ => rfl
  unfold gridRows gridNames wantedColumns
  simp only [gridFilter_record, hget, bind, Except.bind, pure, Except.pure]
  split
  · cases (memberOf members "columns").elements with
    | error e => rfl
    | ok items => rfl
  · rfl

/-! ## The columns and the order -/

theorem elements_ne_nil {v : Value} (h : v.truthy = true) {items : List Value}
    (hitems : v.elements = .ok items) : items ≠ [] := by
  cases v with
  | list vs =>
    obtain rfl := Except.ok.inj hitems
    rintro rfl
    cases h
  | record members =>
    obtain rfl := Except.ok.inj hitems
    rw [ne_eq, List.map_eq_nil_iff]
    rintro rfl
    cases h
  | text s =>
    obtain rfl := Except.ok.inj hitems
    rw [ne_eq, List.map_eq_nil_iff, String.toList_eq_nil_iff]
    rintro rfl
    cases h
  | _ => cases hitems

/-- Rows are ordered by a column of the schema, up or down. -/
theorem sortTerm_eq_ok {scope : Scope} {sort default_ : Value} {column direction : String}
    (h : scope.sortTerm sort default_ = .ok (column, direction)) :
    (direction = "ASC" ∨ direction = "DESC") ∧
      ∃ field, scope.schema.column field = .ok column := by
  obtain ⟨hdirection, hcolumn⟩ := Scope.sortTerm_inversion h
  exact ⟨hdirection, _, hcolumn⟩

/-- Something is shown where there is a column to order by. -/
theorem gridNames_ne_nil {schema : Schema} {members : List (String × Value)} {names : List String}
    (hnames : gridNames schema members = .ok names) {field : Value} {text : String}
    (hcolumn : schema.column field = .ok text) : names ≠ [] := by
  obtain ⟨column, hresolve, -⟩ := Schema.column_eq_ok.1 hcolumn
  obtain ⟨-, -, p, hp, -⟩ := Schema.agrees_of_resolve hresolve
  obtain ⟨wanted, hwanted, hnames⟩ := Outcome.bind_eq_ok.1 hnames
  have hne : wanted ≠ [] := by
    unfold wantedColumns at hwanted
    simp only at hwanted
    split at hwanted
    · next htruthy => exact elements_ne_nil htruthy hwanted
    · obtain rfl := Except.ok.inj hwanted
      rw [ne_eq, List.map_eq_nil_iff]
      exact List.ne_nil_of_mem hp
  have hlength := (Outcome.forall₂_of_mapM hnames).length_eq
  rw [← List.length_pos_iff] at hne ⊢
  omega

theorem selectedColumn_eq_ok {scope : Scope} {name text : String} :
    scope.selectedColumn (.text name) = .ok text ↔
      ∃ column, Selects scope.schema name column ∧ text = selectedAs column := by
  constructor
  · intro h
    obtain ⟨_, hcolumn, h⟩ := Outcome.bind_eq_ok.1 h
    obtain ⟨column, hresolve, hidentifier, rfl⟩ := Schema.column_eq_ok.1 hcolumn
    obtain ⟨_, hrequire, h⟩ := Outcome.bind_eq_ok.1 h
    obtain rfl := Except.ok.inj ((Schema.require_eq_ok.2 hresolve).symm.trans hrequire)
    obtain ⟨_, hquoted, h⟩ := Outcome.bind_eq_ok.1 h
    obtain ⟨-, rfl⟩ := quoteIdentifier_eq_ok.1 hquoted
    exact ⟨column, ⟨hresolve, hidentifier⟩, (Outcome.pure_eq_ok.1 h).symm⟩
  · rintro ⟨column, ⟨hresolve, hidentifier⟩, rfl⟩
    refine Outcome.bind_eq_ok.2 ⟨_, Schema.column_eq_ok.2 ⟨column, hresolve, hidentifier, rfl⟩, ?_⟩
    refine Outcome.bind_eq_ok.2 ⟨column, Schema.require_eq_ok.2 hresolve, ?_⟩
    exact Outcome.bind_eq_ok.2 ⟨_, quoteIdentifier_eq_ok.2 ⟨hidentifier, rfl⟩, rfl⟩

/-- The columns of names that are given come to the text of each. -/
theorem selectedColumns_eq_ok {scope : Scope} {names texts : List String} (hne : names ≠ []) :
    scope.selectedColumns (.list (names.map .text)) = .ok texts ↔
      ∃ selected, List.Forall₂ (Selects scope.schema) names selected ∧
        texts = selected.map selectedAs := by
  have htruthy : (Value.list (names.map .text)).truthy = true := by
    cases names with
    | nil => exact absurd rfl hne
    | cons n ns => rfl
  have hlist : scope.selectedColumns (.list (names.map .text)) =
      (names.map Value.text).mapM scope.selectedColumn := by
    rw [Scope.selectedColumns, if_pos htruthy]
    rfl
  rw [hlist]
  constructor
  · intro h
    have hall := List.forall₂_map_left_iff.1 (Outcome.forall₂_of_mapM h)
    clear h hlist htruthy hne
    induction hall with
    | nil => exact ⟨[], .nil, rfl⟩
    | cons hone _ ih =>
      obtain ⟨column, hselects, rfl⟩ := selectedColumn_eq_ok.1 hone
      obtain ⟨selected, hrest, rfl⟩ := ih
      exact ⟨column :: selected, .cons hselects hrest, rfl⟩
  · rintro ⟨selected, hall, rfl⟩
    refine Outcome.mapM_of_forall₂ (List.forall₂_map_left_iff.2 (List.forall₂_map_right_iff.2 ?_))
    exact hall.imp fun _ column h => selectedColumn_eq_ok.2 ⟨column, h, rfl⟩

/-- The condition on rows is balanced. -/
theorem balanced_of_rowsWhere {scope : Scope} {filter time baseSpec : Value}
    {p? : Option Predicate} {condition : Fragment}
    (hp : scope.rowsWhere filter time baseSpec = .ok p?)
    (hfragment : Predicate.fragment? p? = .ok condition) : Balanced condition.sql := by
  let r : Scope.RowRequest := ⟨.null, filter, time, .null, .null, .null, baseSpec⟩
  obtain ⟨f, hf, hbalanced⟩ := (Scope.rowsWhere_amounts (r := r) hp).1.fragment
  rwa [← Except.ok.inj (hf.symm.trans hfragment)]

namespace GridPlan.Of

variable {w : Workspace} {members : List (String × Value)} {offset : Int} {g : GridPlan}

/-- A request comes to one plan only. -/
theorem unique {offset' : Int} {g' : GridPlan} (h : g.Of w members offset)
    (h' : g'.Of w members offset') : g = g' := by
  obtain ⟨schema, names, selected, condition, sortName, direction, limit⟩ := g
  obtain ⟨schema', names', selected', condition', sortName', direction', limit'⟩ := g'
  obtain rfl : schema = schema' := Except.ok.inj (h.schema.symm.trans h'.schema)
  obtain rfl : names = names' := Except.ok.inj (h.names.symm.trans h'.names)
  obtain rfl : selected = selected' := by
    refine List.right_unique_forall₂' ?_ h.selected h'.selected
    exact fun _ _ _ hm hn => Option.some.inj (hm.1.symm.trans hn.1)
  obtain rfl : condition = condition' := Except.ok.inj (h.condition.symm.trans h'.condition)
  obtain ⟨hcolumn, rfl⟩ := Prod.mk.inj (Except.ok.inj (h.sort.symm.trans h'.sort))
  obtain rfl : sortName = sortName' := Schema.columnText_inj hcolumn
  obtain rfl : limit = limit' := congrArg Page.limit (Except.ok.inj (h.page.symm.trans h'.page))
  rfl

/-- Every name that is told about is one that a name resolves to. -/
theorem resolved (h : g.Of w members offset) :
    ∀ n ∈ g.names, ∃ name, g.schema.resolve? name = some n := by
  obtain ⟨wanted, -, hnames⟩ := Outcome.bind_eq_ok.1 h.names
  refine (Outcome.Yields.mapM (E := fun _ => True) fun name _ => ?_).of_ok hnames
  cases hname : g.schema.require name with
  | error e => exact .error trivial
  | ok n => exact .ok ⟨name, Schema.require_eq_ok.1 hname⟩

theorem names_ne_nil (h : g.Of w members offset) : g.names ≠ [] := by
  obtain ⟨-, field, hcolumn⟩ := sortTerm_eq_ok h.sort
  exact gridNames_ne_nil h.names hcolumn

theorem selected_ne_nil (h : g.Of w members offset) : g.selected ≠ [] := by
  have hne := h.names_ne_nil
  rw [← List.length_pos_iff] at hne ⊢
  rwa [← h.selected.length_eq]

theorem selectedColumns (h : g.Of w members offset) :
    Scope.selectedColumns ⟨g.schema, w.settings⟩ (.list (g.names.map .text)) =
      .ok (g.selected.map selectedAs) :=
  (selectedColumns_eq_ok h.names_ne_nil).2 ⟨g.selected, h.selected, rfl⟩

/-- A plain name selects its own column. -/
theorem selected_eq (h : g.Of w members offset) (hplain : g.schema.HasPlainNames) :
    g.selected = g.names := by
  have hself : List.Forall₂ (Selects g.schema) g.names g.names := by
    refine List.forall₂_same.2 fun n hn => ?_
    obtain ⟨name, hname⟩ := h.resolved n hn
    exact ⟨Schema.resolve?_resolved hplain hname, Schema.isIdentifier_resolved hplain hname⟩
  refine List.right_unique_forall₂' ?_ h.selected hself
  exact fun _ _ _ hm hn => Option.some.inj (hm.1.symm.trans hn.1)

/-- Each column is told about in its place. -/
theorem columns_eq (h : g.Of w members offset) :
    g.columns.map (·.name) = g.names ∧ ∀ c ∈ g.columns, c ∈ g.schema.fieldMeta := by
  have hfound : ∀ n ∈ g.names,
      ∃ c, g.schema.fieldMeta.find? (·.name == n) = some c ∧ c.name = n := by
    intro n hn
    obtain ⟨name, hname⟩ := h.resolved n hn
    obtain ⟨-, -, p, hp, rfl⟩ := Schema.agrees_of_resolve hname
    have hsome : (g.schema.fieldMeta.find? (·.name == p.1)).isSome = true := by
      rw [List.find?_isSome]
      exact ⟨_, List.mem_map.2 ⟨p, hp, rfl⟩, beq_self_eq_true p.1⟩
    obtain ⟨c, hc⟩ := Option.isSome_iff_exists.1 hsome
    have hname := List.find?_some (p := fun m : FieldMeta => m.name == p.1) hc
    exact ⟨c, hc, beq_iff_eq.1 hname⟩
  constructor
  · unfold columns
    generalize g.names = names at hfound
    induction names with
    | nil => rfl
    | cons n ns ih =>
      obtain ⟨⟨c, hc, hname⟩, hrest⟩ := List.forall_mem_cons.1 hfound
      rw [List.filterMap_cons, hc, List.map_cons, hname, ih hrest]
  · intro c hc
    obtain ⟨n, -, hfind⟩ := List.mem_filterMap.1 hc
    exact List.mem_of_find?_eq_some hfind

/-! ## The queries -/

/-- The condition is that on the rows. -/
theorem rows (h : g.Of w members offset) :
    ∃ p?, Scope.rowsWhere ⟨g.schema, w.settings⟩ (filterOf members) (memberOf members "time")
      (memberOf members "baseSpec") = .ok p? ∧ Predicate.fragment? p? = .ok g.condition :=
  Outcome.bind_eq_ok.1 ((gridCondition_record _ _).symm.trans h.condition)

theorem balanced_condition (h : g.Of w members offset) : Balanced g.condition.sql := by
  obtain ⟨p?, hp, hfragment⟩ := h.rows
  exact balanced_of_rowsWhere hp hfragment

/-- The columns of the rows that meet the condition, in some order if any, and a page of them if
any. -/
def select (g : GridPlan) (columns orders : List String) (limit? offset? : Option Int) :
    Select where
  columns
  distinct := false
  table? := some g.schema.fromClause
  condition := if g.condition.isBlank then .empty else g.condition
  groups := []
  orders
  limit?
  offset?

/-- Such a statement comes together. -/
theorem select_builds (h : g.Of w members offset) (columns orders : List String)
    (limit? offset? : Option Int) (hcolumns : ∀ c ∈ columns, Inert c) (hne : columns ≠ [])
    (horders : ∀ o ∈ orders, Inert o) (hlimit : ∀ n ∈ limit?, Number.isWritable n = true)
    (hoffset : ∀ n ∈ offset?, Number.isWritable n = true) :
    ∃ q, (select g columns orders limit? offset?).build = .ok q ∧
      q.filled = lines (clause "SELECT" (", ".intercalate columns) :: g.source ++
        Select.listedFilled "ORDER BY" orders ++ Select.countedFilled "LIMIT" limit? ++
        Select.countedFilled "OFFSET" offset?) := by
  have hcondition : Balanced (if g.condition.isBlank then Fragment.empty else g.condition).sql := by
    split
    · rfl
    · exact h.balanced_condition
  have hsound : (select g columns orders limit? offset?).Sound := by
    refine ⟨hcolumns, ?_, hcondition, nofun, horders⟩
    rintro _ ⟨⟩
    exact g.schema.isQuiet_fromClause.inert
  obtain ⟨q, hq, -, hfilled⟩ := Select.build_of_sound hsound rfl g.schema.fromClause_not_blank
    ⟨hlimit, hoffset⟩
  refine ⟨q, hq, ?_⟩
  have hfiltered : Select.filteredFilled
      (if g.condition.isBlank then Fragment.empty else g.condition).filled =
        Select.filteredFilled g.condition.filled := by
    cases hblank : g.condition.isBlank with
    | false => rfl
    | true =>
      rw [Select.filteredFilled, Select.filteredFilled, allBlank_filled, allBlank_filled, hblank]
      rfl
  have hall : (if columns.isEmpty then ["*"] else columns) = columns := by
    rw [List.isEmpty_eq_false_iff.2 hne]
    rfl
  rw [hfilled]
  show lines (Select.listedFilled "SELECT" (if columns.isEmpty then ["*"] else columns) ++
    Select.listedFilled "FROM" [g.schema.fromClause] ++ Select.filteredFilled
      (if g.condition.isBlank then Fragment.empty else g.condition).filled ++ [] ++
    Select.listedFilled "ORDER BY" orders ++ Select.countedFilled "LIMIT" limit? ++
    Select.countedFilled "OFFSET" offset?) = _
  rw [hall, hfiltered, Select.listedFilled_of_ne_nil _ hne, Select.listedFilled_singleton,
    List.append_nil]
  rfl

/-- The query for the rows of a page comes together. -/
theorem page_builds (h : g.Of w members offset) (hfits : Number.isWritable offset = true) :
    ∃ q, Scope.rowQuery ⟨g.schema, w.settings⟩ (rowRequest members g.names ⟨offset, g.limit⟩) =
      .ok q ∧ q.filled = lines (g.pageLines offset) := by
  obtain ⟨p?, hp, hfragment⟩ := h.rows
  have hcolumns : ∀ c ∈ g.selected.map selectedAs, Inert c := fun c hc =>
    (Scope.selectedColumns_quiet h.selectedColumns c hc).inert
  have hne : g.selected.map selectedAs ≠ [] := by
    rw [ne_eq, List.map_eq_nil_iff]
    exact h.selected_ne_nil
  have horder : Inert g.order := (Scope.order_quiet h.sort).inert
  obtain ⟨q, hq, hfilled⟩ := h.select_builds _ [g.order] (some g.limit)
    (some offset) hcolumns hne (List.forall_mem_singleton.2 horder)
    (fun _ hm => Option.mem_some_iff.1 hm ▸ h.limit_fits)
    (fun _ hm => Option.mem_some_iff.1 hm ▸ hfits)
  refine ⟨q, ?_, ?_⟩
  · have hpage := Page.ofRequest_again h.offset_nonneg h.limit_pos h.limit_most
      w.settings.gridDefaultLimit
    rw [Scope.rowQuery_eq (r := rowRequest members g.names ⟨offset, g.limit⟩) h.selectedColumns hp
      h.sort hpage h.offset_nonneg h.limit_pos hfragment]
    exact hq
  · rw [hfilled, Select.listedFilled_singleton]
    rfl

/-- The query for the number of rows comes together. -/
theorem count_builds (h : g.Of w members offset) (page : Page) :
    ∃ q, gridCount ⟨g.schema, w.settings⟩ (rowRequest members g.names page) = .ok q ∧
      q.filled = lines g.countLines := by
  obtain ⟨p?, hp, hfragment⟩ := h.rows
  obtain ⟨q, hq, hfilled⟩ := h.select_builds ["COUNT(*) AS total"] [] none none
    (List.forall_mem_singleton.2 (by decide)) (List.cons_ne_nil _ _) nofun nofun nofun
  refine ⟨q, ?_, ?_⟩
  · simp only [gridCount, rowRequest, hp, hfragment, bind, Except.bind, Select.filter_eq]
    exact hq
  · rw [hfilled, String.intercalate_singleton]
    simp [GridPlan.countLines, Select.listedFilled, Select.countedFilled]

/-- The request asks for the rows of the page and then for their number, and nothing else. -/
theorem asks (h : g.Of w members offset) (hfits : Number.isWritable offset = true) :
    ∃ pageQuery countQuery, grid w (.record members) =
        (.ask pageQuery fun rows => .ask countQuery fun counted =>
          .ofOutcome (g.page offset rows counted)) ∧
      pageQuery.filled = lines (g.pageLines offset) ∧ countQuery.filled = lines g.countLines := by
  obtain ⟨pageQuery, hpage, hpageFilled⟩ := h.page_builds hfits
  obtain ⟨countQuery, hcount, hcountFilled⟩ := h.count_builds ⟨offset, g.limit⟩
  refine ⟨pageQuery, countQuery, ?_, hpageFilled, hcountFilled⟩
  have hscope : gridScope w (.record members) = .ok ⟨g.schema, w.settings⟩ := by
    rw [gridScope_record, h.schema]
    rfl
  have hrows : gridRows ⟨g.schema, w.settings⟩ (.record members) =
      .ok (g.names, ⟨offset, g.limit⟩, rowRequest members g.names ⟨offset, g.limit⟩) := by
    rw [gridRows_record]
    simp only [h.names, h.page, bind, Except.bind, pure, Except.pure]
  have hasked : grid w (.record members) = (do
      let records ← Session.records pageQuery
      let total ← Session.count countQuery
      return ⟨g.columns, records, total, ⟨offset, g.limit⟩⟩) :=
    (Session.lift_bind_ok hscope _).trans ((Session.lift_bind_ok hrows _).trans
      ((Session.lift_bind_ok hpage _).trans (Session.lift_bind_ok hcount _)))
  have hread : ∀ rows counted : Rows,
      ((Session.ofOutcome counted.scalar >>= fun v => Session.ofOutcome v.toCount) >>= fun total =>
        (pure ⟨g.columns, rows.records, total, ⟨offset, g.limit⟩⟩ : Session GridPage)) =
      .ofOutcome (g.page offset rows counted) := by
    intro rows counted
    unfold GridPlan.page
    cases counted.scalar with
    | error e => rfl
    | ok v =>
      exact Session.lift_bind_lift v.toCount fun total =>
        .ok (⟨g.columns, rows.records, total, ⟨offset, g.limit⟩⟩ : GridPage)
  rw [hasked]
  exact congrArg (Session.ask pageQuery) (funext fun rows =>
    congrArg (Session.ask countQuery) (funext fun counted => hread rows counted))

/-- Where the page starts changes nothing else. -/
theorem at_offset (h : g.Of w members offset) {o : Int} (ho : 0 ≤ o) :
    g.Of w (setNamed "offset" (.int o) members) o := by
  have hother : ∀ {name : String}, name ≠ "offset" →
      memberOf (setNamed "offset" (.int o) members) name = memberOf members name := by
    intro name hname
    rw [memberOf, memberOf, valueOf?_setNamed_ne hname]
  have hfilter : filterOf (setNamed "offset" (.int o) members) = filterOf members := by
    rw [filterOf, filterOf, valueOf?_setNamed_ne (by decide), hother (by decide)]
  have hself : memberOf (setNamed "offset" (.int o) members) "offset" = .int o := by
    rw [memberOf, valueOf?_setNamed]
    rfl
  obtain ⟨_, n, -, hlimit, -, hn, hpage⟩ := Page.ofRequest_eq_ok h.page
  have hmost : g.limit = min n w.settings.gridMaxLimit := congrArg Page.limit hpage
  refine { h with
    schema := ?_
    names := ?_
    condition := ?_
    sort := ?_
    page := ?_
    offset_nonneg := ho }
  · rw [hother (by decide), h.schema]
  · rw [gridNames, wantedColumns, hother (by decide)]
    exact h.names
  · rw [gridCondition_record, hfilter, hother (by decide), hother (by decide)]
    exact h.condition
  · rw [hother (by decide), h.sort]
  · rw [hself, hother (by decide), hmost]
    exact Page.ofRequest_of_whole (Page.toWhole_int _ _ o _) hlimit ho hn

end GridPlan.Of

/-- The row query of a request that was read has the numbers of its page. -/
theorem rowQuery_page {scope : Scope} {r : Scope.RowRequest} {o n : Int} {q : Fragment}
    (ho : r.offset = .int o) (hn : r.limit = .int n) (hmost : n ≤ scope.settings.gridMaxLimit)
    (h : scope.rowQuery r = .ok q) :
    (∃ texts, scope.selectedColumns r.columns = .ok texts) ∧
    (∃ p?, scope.rowsWhere r.filter r.time r.baseSpec = .ok p? ∧
      ∃ f, Predicate.fragment? p? = .ok f) ∧
    (∃ term, scope.sortTerm r.sort .null = .ok term) ∧
      0 ≤ o ∧ 1 ≤ n ∧ Number.isWritable o = true ∧ Number.isWritable n = true := by
  obtain ⟨texts, htexts, h⟩ := Outcome.bind_eq_ok.1 h
  obtain ⟨p?, hp, h⟩ := Outcome.bind_eq_ok.1 h
  obtain ⟨f, hf, h⟩ := Outcome.bind_eq_ok.1 h
  obtain ⟨term, hterm, h⟩ := Outcome.bind_eq_ok.1 h
  obtain ⟨page, hpage, h⟩ := Outcome.bind_eq_ok.1 h
  rw [ho, hn] at hpage
  obtain ⟨o', n', ho', hn', hoffset, hlimit, rfl⟩ := Page.ofRequest_eq_ok hpage
  obtain rfl : o = o' := Except.ok.inj ho'
  obtain rfl : n = n' := Except.ok.inj hn'
  rw [Int.min_eq_left hmost] at h
  obtain ⟨ordered, -, h⟩ := Outcome.bind_eq_ok.1 h
  obtain ⟨limited, hlimited, h⟩ := Outcome.bind_eq_ok.1 h
  obtain ⟨started, hstarted, hbuild⟩ := Outcome.bind_eq_ok.1 h
  obtain rfl := Except.ok.inj ((Select.limitTo_int hlimit _).symm.trans hlimited)
  obtain rfl := Except.ok.inj ((Select.startAt_int hoffset _).symm.trans hstarted)
  have hwritable := Select.writable_of_build hbuild
  exact ⟨⟨texts, htexts⟩, ⟨p?, hp, f, hf⟩, ⟨term, hterm⟩, hoffset, hlimit, hwritable.offset o rfl,
    hwritable.limit n rfl⟩

/-- A request fails before it asks anything, or comes to a plan. -/
theorem grid_cases (w : Workspace) (request : Value) :
    (∃ e, grid w request = .fail e) ∨ ∃ members offset g, request = .record members ∧
      GridPlan.Of w members offset g ∧ Number.isWritable offset = true := by
  refine Session.fails_or fun scope hscope => Session.fails_or fun read hrows =>
    Session.fails_or fun pageQuery hpage => Session.fails_or fun countQuery hcount => .inr ?_
  obtain ⟨members, rfl⟩ : ∃ members, request = .record members := by
    cases request with
    | record members => exact ⟨members, rfl⟩
    | _ => cases hscope
  obtain ⟨schema, hschema, hscope⟩ := Outcome.bind_eq_ok.1 ((gridScope_record w members) ▸ hscope)
  obtain rfl := Outcome.pure_eq_ok.1 hscope
  obtain ⟨names, hnames, hrows⟩ := Outcome.bind_eq_ok.1 ((gridRows_record _ members) ▸ hrows)
  obtain ⟨page, hread, hrows⟩ := Outcome.bind_eq_ok.1 hrows
  obtain rfl := Outcome.pure_eq_ok.1 hrows
  obtain ⟨o, n, -, -, -, -, rfl⟩ := Page.ofRequest_eq_ok hread
  have hmost := Int.min_le_right n w.settings.gridMaxLimit
  obtain ⟨⟨texts, htexts⟩, ⟨p?, hp, f, hf⟩, ⟨⟨column, direction⟩, hterm⟩, ho, hn, hofits, hnfits⟩ :=
    rowQuery_page rfl rfl hmost hpage
  obtain ⟨-, field, hcolumn⟩ := sortTerm_eq_ok hterm
  obtain ⟨selected, hselected, -⟩ :=
    (selectedColumns_eq_ok (gridNames_ne_nil hnames hcolumn)).1 htexts
  obtain ⟨sortName, -, -, rfl⟩ := Schema.column_eq_ok.1 hcolumn
  refine ⟨members, o, ⟨schema, names, selected, f, sortName, direction,
    min n w.settings.gridMaxLimit⟩, rfl, ?_, hofits⟩
  have hcondition := (gridCondition_record _ members).trans (Outcome.bind_eq_ok.2 ⟨p?, hp, hf⟩)
  exact ⟨hschema, hnames, hselected, hcondition, hterm, hread, ho, hn, hmost, hnfits⟩

/-! ## Counting and paging -/

/-- The grid counts exactly the rows that it pages. A request that does not fail at once asks two
queries, for the rows of a page and then for the number of rows. Both are about the same table under
the same condition with the same arguments, the page that is told is the one that was asked for, and
the columns that are told about are those that were selected, in their order. -/
theorem grid_counts_what_it_pages (w : Workspace) (request : Value)
    (hplain : ∀ scope, gridScope w request = .ok scope → scope.schema.HasPlainNames) :
    (∃ e, grid w request = .fail e) ∨
    ∃ (schema : Schema) (names : List String) (condition : Fragment) (order : String) (page : Page)
      (columns : List FieldMeta) (pageQuery countQuery : Fragment),
      gridScope w request = .ok ⟨schema, w.settings⟩ ∧
      gridCondition ⟨schema, w.settings⟩ request = .ok condition ∧
      (grid w request = .ask pageQuery fun rows => .ask countQuery fun counted => .ofOutcome do
        let total ← (← counted.scalar).toCount
        return ⟨columns, rows.records, total, page⟩) ∧
      pageQuery.filled = lines ([clause "SELECT" (", ".intercalate (names.map selectedAs)),
          clause "FROM" schema.fromClause] ++ Select.filteredFilled condition.filled ++
        [clause "ORDER BY" order, clause "LIMIT" (Number.intText page.limit),
          clause "OFFSET" (Number.intText page.offset)]) ∧
      countQuery.filled = lines ([clause "SELECT" "COUNT(*) AS total",
          clause "FROM" schema.fromClause] ++ Select.filteredFilled condition.filled) ∧
      pageQuery.args = condition.args ∧ countQuery.args = condition.args ∧
      (0 ≤ page.offset ∧ 1 ≤ page.limit ∧ page.limit ≤ w.settings.gridMaxLimit) ∧
      columns.map (·.name) = names ∧ ∀ c ∈ columns, c ∈ schema.fieldMeta := by
  rcases grid_cases w request with hfails | ⟨members, offset, g, rfl, h, hfits⟩
  · exact .inl hfails
  · obtain ⟨pageQuery, countQuery, hasked, hpage, hcount⟩ := h.asks hfits
    obtain ⟨hnames, htold⟩ := h.columns_eq
    have hscope : gridScope w (.record members) = .ok ⟨g.schema, w.settings⟩ := by
      rw [gridScope_record, h.schema]
      rfl
    have hpageArgs : pageQuery.args = g.condition.args := by
      rw [Select.args_of_lines hpage, ← Select.args_of_filtered g.condition]
      simp [GridPlan.pageLines, GridPlan.source, Select.pagedLines, Select.countedFilled, clause,
        Select.filterMap_value_symbols]
    have hcountArgs : countQuery.args = g.condition.args := by
      rw [Select.args_of_lines hcount, ← Select.args_of_filtered g.condition]
      simp [GridPlan.countLines, GridPlan.source, clause, Select.filterMap_value_symbols]
    refine .inr ⟨g.schema, g.names, g.condition, g.order, ⟨offset, g.limit⟩, g.columns, pageQuery,
      countQuery, hscope, h.condition, hasked, ?_, hcount, hpageArgs, hcountArgs,
      ⟨h.offset_nonneg, h.limit_pos, h.limit_most⟩, hnames, htold⟩
    rw [hpage, GridPlan.pageLines, h.selected_eq (hplain _ hscope), Select.pagedLines,
      Select.countedFilled_some, Select.countedFilled_some]
    simp [GridPlan.source]

/-- A request for the second page of large packets, with names in another case and a suffix. -/
def secondPage : Value :=
  .record [("layer", .text "TCP"), ("columns", .list [.text "SIZE", .text "time-x"]),
    ("filterModel", .record [("size", .record [("op", .text "GT"), ("value", .int 1000)])]),
    ("time", .record [("field", .text "time"), ("fromEpoch", .int 10)]), ("sort", .text "Size"),
    ("offset", .int 2000), ("limit", .text "2000")]

/-- The condition of large packets from a time on. -/
def largePackets : Fragment :=
  ⟨"epoch(t.\"time\") >= ? AND (t.\"size\" > ?)", [.int 10, .int 1000], by decide⟩

/-- The plan of the second page. -/
def secondPlan : GridPlan where
  schema := Scope.packets.schema
  names := ["size", "time"]
  selected := ["size", "time"]
  condition := largePackets
  sortName := "size"
  direction := "DESC"
  limit := 1000

theorem secondPlan_of_secondPage :
    ∃ members, secondPage = .record members ∧ secondPlan.Of .ofPackets members 2000 := by
  have hsize : Selects Scope.packets.schema "size" "size" := by
    constructor <;> decide +kernel
  have htime : Selects Scope.packets.schema "time" "time" := by
    constructor <;> decide +kernel
  refine ⟨_, rfl, ?_⟩
  constructor
  case selected => exact .cons hsize (.cons htime .nil)
  case offset_nonneg => decide
  all_goals
    dsimp only [secondPlan]
    decide +kernel

theorem pageLines_secondPlan :
    secondPlan.pageLines 2000 =
      [clause "SELECT" "t.\"size\" AS \"size\", t.\"time\" AS \"time\"",
          clause "FROM" "tcp_sample t"] ++ Select.filteredFilled largePackets.filled ++
        [clause "ORDER BY" "t.\"size\" DESC", clause "LIMIT" "1000", clause "OFFSET" "2000"] := by
  rw [GridPlan.pageLines, Select.pagedLines, Select.countedFilled_some, Select.countedFilled_some,
    List.append_assoc, List.append_assoc]
  rfl

/-- What is told about the two columns of the second page. -/
def secondPageColumns : List FieldMeta :=
  [⟨"size", .number, "BIGINT", .null⟩, ⟨"time", .date, "TIMESTAMP WITH TIME ZONE", .null⟩]

theorem second_page_counts_what_it_pages :
    (∀ scope, gridScope .ofPackets secondPage = .ok scope → scope.schema.HasPlainNames) ∧
    gridCondition Scope.packets secondPage = .ok largePackets ∧
    ∃ pageQuery countQuery : Fragment,
      (grid .ofPackets secondPage = .ask pageQuery fun rows => .ask countQuery fun counted =>
        .ofOutcome do
          let total ← (← counted.scalar).toCount
          return ⟨secondPageColumns, rows.records, total, ⟨2000, 1000⟩⟩) ∧
      pageQuery.filled = lines ([clause "SELECT" "t.\"size\" AS \"size\", t.\"time\" AS \"time\"",
          clause "FROM" "tcp_sample t"] ++ Select.filteredFilled largePackets.filled ++
        [clause "ORDER BY" "t.\"size\" DESC", clause "LIMIT" "1000", clause "OFFSET" "2000"]) ∧
      countQuery.filled = lines ([clause "SELECT" "COUNT(*) AS total",
          clause "FROM" "tcp_sample t"] ++ Select.filteredFilled largePackets.filled) ∧
      pageQuery.args = [.int 10, .int 1000] ∧ countQuery.args = [.int 10, .int 1000] := by
  have hschema : Workspace.ofPackets.schema (.text "TCP") = .ok Scope.packets.schema := by
    decide +kernel
  have hscope : gridScope .ofPackets secondPage = .ok Scope.packets :=
    Outcome.bind_eq_ok.2 ⟨.text "TCP", rfl, Outcome.bind_eq_ok.2 ⟨_, hschema, rfl⟩⟩
  have hplain : ∀ scope, gridScope .ofPackets secondPage = .ok scope →
      scope.schema.HasPlainNames := by
    intro scope h
    obtain rfl := Except.ok.inj (hscope.symm.trans h)
    decide +kernel
  have hlarge : gridCondition Scope.packets secondPage = .ok largePackets := by decide +kernel
  obtain ⟨members, hrecord, hplan⟩ := secondPlan_of_secondPage
  obtain ⟨_, _, hasks, hpaged, -⟩ := hplan.asks (by decide +kernel)
  rw [← hrecord] at hasks
  refine ⟨hplain, hlarge, ?_⟩
  rcases grid_counts_what_it_pages .ofPackets secondPage hplain with ⟨e, he⟩ | hasked
  · rw [hasks] at he
    cases he
  · obtain ⟨schema, names, condition, order, page, columns, pageQuery, countQuery, hsame,
      hcondition, hgrid, hpage, hcount, hpageArgs, hcountArgs, -, hnames, -⟩ := hasked
    obtain rfl : Scope.packets.schema = schema :=
      congrArg Scope.schema (Except.ok.inj (hscope.symm.trans hsame))
    obtain rfl : largePackets = condition := Except.ok.inj (hlarge.symm.trans hcondition)
    -- both are the same session, so they tell the same page, and the order is that of its query
    obtain ⟨rfl, hnext⟩ := Session.ask.inj (hasks.symm.trans hgrid)
    obtain ⟨-, htold⟩ := Session.ask.inj (congrFun hnext ⟨[], []⟩)
    obtain ⟨hcolumns, -, -, hread⟩ :=
      GridPage.mk.inj (Session.done.inj (congrFun htold (Rows.ofColumn "total" [.int 0])))
    have hshown : secondPlan.columns = secondPageColumns := by decide +kernel
    obtain rfl : secondPageColumns = columns := hshown.symm.trans hcolumns
    obtain rfl := hread
    obtain rfl := hnames
    obtain rfl : order = "t.\"size\" DESC" := by
      rw [pageLines_secondPlan] at hpaged
      exact Select.clause_inj (lines_between_inj (List.cons_ne_nil _ _) (hpage.symm.trans hpaged))
    exact ⟨_, countQuery, hgrid, hpage, hcount, hpageArgs, hcountArgs⟩

end View

end Crosstab
