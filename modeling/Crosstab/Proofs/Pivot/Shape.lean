import Crosstab.Pivot.Query
import Crosstab.Proofs.Columns
import Crosstab.Proofs.Filter.Conjunction
import Crosstab.Proofs.Filter.Written
import Crosstab.Proofs.Sql.Statement

/-!
# Values never reach the text of a query

The keys that a matrix is restricted to come from the rows, and the values of a row query from a
request; neither can be told from the text of the statement. Two row queries of the same shape have
the same text, and so have two matrices whose keys are missing at the same places.
-/

namespace Crosstab.Pivot

open Crosstab.Filter Sql

/-! ## Restrictions -/

/-- The restrictions are entries of the same shape or fragments with the same text. -/
inductive SameRestriction : Restriction → Restriction → Prop where
  | entry {e f : Entry} (h : SameEntry e f) : SameRestriction (.entry e) (.entry f)
  | fragment {f g : Fragment} (h : SameSql f g) : SameRestriction (.fragment f) (.fragment g)

theorem sameTest_refl (t : Test) : SameTest t t := by
  cases t with
  | checkbox vs => exact .checkbox (List.forall₂_same.2 fun _ _ => rfl)
  | conditions cs logic =>
    have hvalues : ∀ vs : List Value, List.Forall₂ SameOperand vs vs := fun vs =>
      List.forall₂_same.2 fun _ _ => ⟨rfl, Iff.rfl⟩
    exact .conditions (List.forall₂_same.2 fun c _ => ⟨rfl, hvalues c.values⟩) logic

theorem sameRestriction_refl (r : Restriction) : SameRestriction r r := by
  cases r with
  | entry e => exact .entry ⟨rfl, rfl, rfl, sameTest_refl e.test⟩
  | fragment f => exact .fragment rfl

theorem entryParts_agree {rs ss : List Restriction} (h : List.Forall₂ SameRestriction rs ss) :
    List.Forall₂ SameEntry (rs.filterMap (·.entryPart)) (ss.filterMap (·.entryPart)) ∧
      List.Forall₂ SameSql (rs.filterMap (·.fragmentPart)) (ss.filterMap (·.fragmentPart)) := by
  induction h with
  | nil => exact ⟨.nil, .nil⟩
  | cons hrs _ ih =>
    obtain ⟨hentries, hfragments⟩ := ih
    cases hrs with
    | entry hef => exact ⟨.cons hef hentries, hfragments⟩
    | fragment hfg => exact ⟨hentries, .cons hfg hfragments⟩

namespace Context

variable {c : Context}

/-- Restrictions of the same shape have the same text. -/
theorem whereWith_agrees {rs ss : List Restriction} (h : List.Forall₂ SameRestriction rs ss) :
    Outcome.Agrees SameSql (c.whereWith rs) (c.whereWith ss) := by
  obtain ⟨hentries, hfragments⟩ := entryParts_agree h
  refine Outcome.Agrees.bind_same fun base => ?_
  refine (Scope.entries_agrees hentries .null).bind fun p? q? hpq => ?_
  refine (fragment_agrees hpq).bind fun f g hfg => ?_
  exact join_agrees " AND " (.cons rfl (.cons hfg hfragments))

/-- The restriction of a field to keys only tells how many there are and which are missing. -/
theorem axisFilter_agrees (field : Value) {ks ls : List Value}
    (h : List.Forall₂ SameMarker ks ls) :
    Outcome.Agrees SameRestriction (c.axisFilter field ks) (c.axisFilter field ls) := by
  have hempty : ks.isEmpty = ls.isEmpty := by cases h <;> rfl
  have hplaces : ks.map (fun _ => "?") = ls.map (fun _ => "?") := by
    rw [List.map_const', List.map_const', h.length_eq]
  unfold axisFilter
  rw [hempty]
  split
  · exact .ok (.entry ⟨rfl, rfl, rfl, .checkbox h⟩)
  · split
    · exact .refl sameRestriction_refl _
    · refine Outcome.Agrees.bind_same fun column => ?_
      have hsql : (Predicate.atom (.member (.asKey column) false ks)).sql =
          (Predicate.atom (.member (.asKey column) false ls)).sql := by
        simp only [Predicate.sql, Atom.sql, Subject.placeholder, hplaces]
      exact (of_agrees hsql _ _).bind fun f g hfg => .ok (.fragment hfg)

theorem matrixWith_agrees (colField rowField : Value) (metric : Metric)
    (extra : List Restriction) {ks ls ms ns : List Value} (hcols : List.Forall₂ SameMarker ks ls)
    (hrows : List.Forall₂ SameMarker ms ns) :
    Outcome.Agrees SameSql (c.matrixWith colField rowField metric ks ms extra)
      (c.matrixWith colField rowField metric ls ns extra) := by
  refine Outcome.Agrees.bind_same fun colKey => Outcome.Agrees.bind_same fun rowKey => ?_
  refine (axisFilter_agrees colField hcols).bind fun r s hrs => ?_
  refine (axisFilter_agrees rowField hrows).bind fun r' s' hrs' => ?_
  refine Outcome.Agrees.bind_same fun value => ?_
  have hextra : List.Forall₂ SameRestriction extra extra :=
    List.forall₂_same.2 fun r _ => sameRestriction_refl r
  have hall := List.rel_append hextra (.cons hrs (.cons hrs' .nil))
  refine (whereWith_agrees hall).bind fun f g hfg => ?_
  exact Select.build_agrees (Select.groupBy_sameShape (Select.filter_sameShape _ hfg) _)

/-- The key of a field is inert. -/
theorem inert_key {field : Value} {key : String} (h : c.key field = .ok key) : Inert key := by
  obtain ⟨column, hcolumn, h⟩ := Outcome.bind_eq_ok.1 h
  obtain rfl := Outcome.pure_eq_ok.1 h
  have hplain : IsPlain column := (c.schema.column_yields field).of_ok hcolumn
  obtain ⟨w, ts, ⟨r, hr, -⟩, -⟩ := (show Subject.Sound (.asKey column) from hplain).isPhrase
  exact ⟨hr.balanced, hr.arity⟩

theorem inert_expr {metric : Metric} {value : String}
    (h : metric.expr c.schema = .ok value) : Inert value := by
  have haround : ∀ {name column : String}, Inert name → Inert column →
      Inert (name ++ column ++ ")") := fun hname hcolumn =>
    (hname.append hcolumn).append (by decide)
  have hcolumn : ∀ {column : String}, c.schema.column (.text metric.field) = .ok column →
      Inert column := fun hok => ((c.schema.column_yields _).of_ok hok).1.1
  unfold Metric.expr at h
  split at h
  · obtain rfl := Except.ok.inj h
    decide
  · obtain ⟨column, hok, h⟩ := Outcome.bind_eq_ok.1 h
    obtain rfl := Outcome.pure_eq_ok.1 h
    cases metric.agg with
    | sum => exact haround (by decide : Inert "SUM(") (hcolumn hok)
    | avg => exact haround (by decide : Inert "AVG(") (hcolumn hok)
    | min => exact haround (by decide : Inert "MIN(") (hcolumn hok)
    | max => exact haround (by decide : Inert "MAX(") (hcolumn hok)
    | count => exact (by decide : Inert "COUNT(*)")
    | countDistinct => exact haround (by decide : Inert "COUNT(DISTINCT ") (hcolumn hok)

/-- A term with a name for it is inert. -/
theorem inert_named {term name : String} (hterm : Inert term) (hname : Inert name) :
    Inert (term ++ " AS " ++ name) :=
  (hterm.append (by decide)).append hname

/-- The rows of a layer under a condition, in groups, are a sound statement. -/
theorem sound_grouped {columns keys : List String} {f : Fragment}
    (hcolumns : ∀ x ∈ columns, Inert x) (hf : Balanced f.sql) (hkeys : ∀ k ∈ keys, Inert k) :
    ((c.selectWhere columns f).groupBy keys).Sound := by
  have hsteps : (c.selectWhere columns f).groupBy keys = (Select.ofColumns columns).run
      [.fromTable c.schema.fromClause, .filter f, .groupBy keys] := rfl
  rw [hsteps]
  refine Select.run_sound (Select.sound_ofColumns hcolumns) ?_
  simp only [List.forall_mem_cons]
  exact ⟨c.schema.isQuiet_fromClause.inert, hf, hkeys, nofun⟩

/-- They have a table, and neither an order nor a page. -/
theorem grouped_parts (columns keys : List String) (f : Fragment) :
    ((c.selectWhere columns f).groupBy keys).table? = some c.schema.fromClause ∧
      ((c.selectWhere columns f).groupBy keys).orders = [] ∧
      ((c.selectWhere columns f).groupBy keys).limit? = none ∧
      ((c.selectWhere columns f).groupBy keys).offset? = none := by
  rw [selectWhere, Select.filter_eq]
  exact ⟨rfl, rfl, rfl, rfl⟩

/-- The rows of a layer under a condition, in groups, always come together. -/
theorem grouped_builds {columns keys : List String} {f : Fragment}
    (hcolumns : ∀ x ∈ columns, Inert x) (hf : Balanced f.sql) (hkeys : ∀ k ∈ keys, Inert k) :
    ∃ q, ((c.selectWhere columns f).groupBy keys).build = .ok q := by
  obtain ⟨htable, -, hlimit, hoffset⟩ := c.grouped_parts columns keys f
  cases hbuild : ((c.selectWhere columns f).groupBy keys).build with
  | ok q => exact ⟨q, rfl⟩
  | error e =>
    -- it has a table, and no number that could be too wide
    rcases (Select.build_yields (sound_grouped hcolumns hf hkeys)).of_error hbuild with
      ⟨-, htables⟩ | ⟨-, n, hn, -⟩
    · exact absurd (htables _ htable) (Bool.eq_false_iff.1 c.schema.fromClause_not_blank)
    · rw [hlimit, hoffset] at hn
      exact absurd hn (by simp)

/-- A matrix comes together if its parts do. -/
theorem matrixWith_succeeds {colField rowField : Value} {metric : Metric}
    {ks ms : List Value} {extra : List Restriction} {colKey rowKey value : String}
    {r s : Restriction} {f : Fragment} (hcol : c.key colField = .ok colKey)
    (hrow : c.key rowField = .ok rowKey) (hr : c.axisFilter colField ks = .ok r)
    (hs : c.axisFilter rowField ms = .ok s) (hvalue : metric.expr c.schema = .ok value)
    (hf : c.whereWith (extra ++ [r, s]) = .ok f) (hbalanced : Balanced f.sql) :
    ∃ q, c.matrixWith colField rowField metric ks ms extra = .ok q := by
  have hcolInert := inert_key hcol
  have hrowInert := inert_key hrow
  have hcolumns : ∀ x ∈ [colKey ++ " AS " ++ colColumn, rowKey ++ " AS " ++ rowColumn,
      value ++ " AS " ++ metricColumn], Inert x := by
    simp only [List.forall_mem_cons]
    exact ⟨inert_named hcolInert (by decide), inert_named hrowInert (by decide),
      inert_named (inert_expr hvalue) (by decide), nofun⟩
  have hkeys : ∀ k ∈ [colKey, rowKey], Inert k :=
    List.forall_mem_cons.2 ⟨hcolInert, List.forall_mem_singleton.2 hrowInert⟩
  obtain ⟨q, hq⟩ := grouped_builds (c := c) hcolumns hbalanced hkeys
  refine ⟨q, ?_⟩
  unfold matrixWith
  rw [hcol, hrow, hr, hs, hvalue]
  show (do let condition ← c.whereWith (extra ++ [r, s]); _) = _
  rw [hf]
  exact hq

end Context

/-- Neither the values of a request nor the keys of a matrix are in the text of a query. -/
theorem values_never_reach_text :
    (∀ (scope : Scope) (r s : Scope.RowRequest), Scope.SameRequest r s → ∀ f g : Fragment,
      scope.rowQuery r = .ok f → scope.rowQuery s = .ok g → f.sql = g.sql) ∧
    (∀ (c : Context) (colField rowField : Value) (metric : Metric) (extra : List Restriction)
      (ks ls ms ns : List Value), List.Forall₂ SameMarker ks ls → List.Forall₂ SameMarker ms ns →
      ∀ f g : Fragment, c.matrixWith colField rowField metric ks ms extra = .ok f →
      c.matrixWith colField rowField metric ls ns extra = .ok g → f.sql = g.sql) := by
  constructor
  · intro scope r s h f g hf hg
    exact Scope.rowQuery_agrees h f g hf hg
  · intro c colField rowField metric extra ks ls ms ns hcols hrows f g hf hg
    exact Context.matrixWith_agrees colField rowField metric extra hcols hrows f g hf hg

/-- The rows of packets from a time on whose port is a text. -/
def search (text : String) (start : Int) : Scope.RowRequest where
  columns := .null
  filter := .record [("port", .record [("op", .text "LIKE"), ("value", .text text)])]
  time := .record [("fromEpoch", .int start), ("field", .text "time")]
  sort := .text "port"
  offset := .null
  limit := .null
  baseSpec := .null

/-- The context of all packets of a layer with two columns and a time. -/
def allPackets : Context where
  schema := .of .tcp [("port", "VARCHAR"), ("syn", "BOOLEAN"), ("time", "BIGINT")] []
  settings := .standard
  timeField := "time"
  time := .null
  restrictions := []

/-- Two searches are written alike if they look for texts that are alike. -/
theorem search_written {text text' : String} (h : SameOperand (.text text) (.text text'))
    (start start' : Int) : Written.SameRequest (search text start) (search text' start') := by
  have hgiven : Written.SameGiven (.text text) (.text text') := .single nofun nofun h
  have hentry : Written.OnRecords Written.SameEntry
      (.record [("op", .text "LIKE"), ("value", .text text)])
      (.record [("op", .text "LIKE"), ("value", .text text')]) := by
    rintro _ _ ⟨⟩ ⟨⟩
    refine ⟨?_, ?_, .none⟩
    · simp only [Written.Agree, Written.entryNames, List.forall_mem_cons]
      exact ⟨rfl, rfl, rfl, rfl, rfl, rfl, rfl, rfl, nofun⟩
    · simp only [Written.SameOperands, Written.operandNames, List.forall_mem_cons]
      exact ⟨.none, .some hgiven, .none, .none, .none, .none, .none, .none, .none, nofun⟩
  have hwindow : Written.SameWindow [("fromEpoch", .int start), ("field", .text "time")]
      [("fromEpoch", .int start'), ("field", .text "time")] := by
    refine ⟨List.forall_mem_cons.2 ⟨rfl, List.forall_mem_singleton.2 rfl⟩, ?_, Iff.rfl⟩
    simp [Written.SameSide, valueOf?]
  exact ⟨rfl, rfl, rfl, rfl, .model (.mapping (.cons ⟨rfl, hentry⟩ .nil)), .window hwindow, .absent⟩

theorem search_succeeds (text : String) (start : Int)
    (hrows : (allPackets.scope.rowsWhere (search text start).filter (search text start).time
      .null).isOk = true) : ∃ q, allPackets.scope.rowQuery (search text start) = .ok q := by
  obtain ⟨p?, hp⟩ := Outcome.isOk_iff.1 hrows
  have hsort : allPackets.scope.sortTerm (.text "port") .null = .ok ("t.\"port\"", "DESC") := by
    decide +kernel
  have hpage : Page.ofRequest .null .null allPackets.settings.gridDefaultLimit
      allPackets.settings.gridMaxLimit = .ok ⟨0, allPackets.settings.gridDefaultLimit⟩ := by decide
  exact Scope.rowQuery_succeeds rfl hp hsort hpage (by decide) (by decide) (by decide +kernel)
    (by decide +kernel)

/-- The matrix of two columns for keys of ports and one flag. -/
def portMatrix (ports : List Value) (flag : Bool) : Outcome Fragment :=
  allPackets.matrix (.text "port") (.text "syn") (.countOf "syn") ports [.bool flag]

/-- The text of a condition on a port and a flag. -/
def portText : String :=
  "(CAST(t.\"port\" AS VARCHAR) IN (?) OR (t.\"port\" IS NULL OR " ++
    "CAST(t.\"port\" AS VARCHAR) = '')) AND t.\"syn\" IN (?)"

/-- The condition that a port is a text or missing and that a flag has a value. -/
def portCondition (port : String) (flag : Bool) : Fragment where
  sql := portText
  args := [.text port, .bool flag]
  arity := by
    show countPlaceholders portText = 2
    decide +kernel

theorem portMatrix_succeeds (ports : List Value) (port : String) (flag : Bool)
    (hcondition : allPackets.whereWith [.entry (.checkbox (.text "port") ports),
      .entry (.checkbox (.text "syn") [.bool flag])] = .ok (portCondition port flag)) :
    ∃ q, portMatrix ports flag = .ok q := by
  have hport : allPackets.key (.text "port") = .ok (keyExpr "t.\"port\"") := by decide +kernel
  have hflag : allPackets.key (.text "syn") = .ok (keyExpr "t.\"syn\"") := by decide +kernel
  have hports : ∀ keys, allPackets.axisFilter (.text "port") keys =
      .ok (.entry (.checkbox (.text "port") keys)) := fun _ => if_pos (by decide +kernel)
  have hflags : ∀ keys, allPackets.axisFilter (.text "syn") keys =
      .ok (.entry (.checkbox (.text "syn") keys)) := fun _ => if_pos (by decide +kernel)
  have hvalue : (Metric.countOf "syn").expr allPackets.schema = .ok "COUNT(*)" := rfl
  have hbalanced : Balanced portText := by decide +kernel
  exact Context.matrixWith_succeeds hport hflag (hports _) (hflags _) hvalue hcondition hbalanced

/-- A search and a matrix, each with two sets of values. -/
theorem values_of_search_never_reach_text :
    (∃ f g : Fragment, allPackets.scope.rowQuery (search "80" 10) = .ok f ∧
      allPackets.scope.rowQuery (search "' OR ''='" 20) = .ok g ∧ f.sql = g.sql) ∧
    ∃ f g : Fragment, portMatrix [.text "80", .text ""] true = .ok f ∧
      portMatrix [.text "'; DROP", .text "(empty)"] false = .ok g ∧ f.sql = g.sql := by
  obtain ⟨hrows, hmatrix⟩ := values_never_reach_text
  constructor
  · obtain ⟨f, hf⟩ := search_succeeds "80" 10 (by decide +kernel)
    obtain ⟨g, hg⟩ := search_succeeds "' OR ''='" 20 (by decide +kernel)
    have hmarker : isEmptyMarker (.text "80") = isEmptyMarker (.text "' OR ''='") := by decide
    have hsame := (search_written ⟨hmarker, by decide⟩ 10 20).sameRequest
    exact ⟨f, g, hf, hg, hrows allPackets.scope _ _ hsame f g hf hg⟩
  · have hport : isEmptyMarker (.text "80") = isEmptyMarker (.text "'; DROP") := by decide
    have hmissing : isEmptyMarker (.text "") = isEmptyMarker (.text "(empty)") := by decide
    have hflag : isEmptyMarker (.bool true) = isEmptyMarker (.bool false) := by decide
    have hports : List.Forall₂ SameMarker [.text "80", .text ""]
        [.text "'; DROP", .text "(empty)"] := .cons hport (.cons hmissing .nil)
    have hflags : List.Forall₂ SameMarker [.bool true] [.bool false] := .cons hflag .nil
    obtain ⟨f, hf⟩ := portMatrix_succeeds [.text "80", .text ""] "80" true (by decide +kernel)
    obtain ⟨g, hg⟩ := portMatrix_succeeds [.text "'; DROP", .text "(empty)"] "'; DROP" false
      (by decide +kernel)
    exact ⟨f, g, hf, hg, hmatrix allPackets _ _ _ [] _ _ _ _ hports hflags f g hf hg⟩

end Crosstab.Pivot
