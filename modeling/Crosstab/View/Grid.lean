import Crosstab.Grid.RowQuery
import Crosstab.Session
import Crosstab.View.Workspace

/-!
# The grid

The grid shows rows of a layer, a page at a time, and aggregates of its columns at its foot. The
query for the number of rows has the same condition as the query for the page.

Models `GridQueryService` and `GridPage`: `search`, `aggregate`, `_number_aggregate` and
`_text_aggregate`.
-/

namespace Crosstab.View

open Crosstab.Filter Sql Text

/-! ## Pages of rows -/

/-- A page of rows. -/
structure GridPage where
  columns : List FieldMeta
  rows : List Row
  total : Int
  page : Page
  deriving DecidableEq

namespace GridPage

/-- Whether there are rows behind the page. -/
def hasMore (g : GridPage) : Bool :=
  g.page.offset + g.rows.length < g.total

/-- The page as a record. -/
def toValue (g : GridPage) : Value :=
  .record [("columns", .list (g.columns.map fun c => .record c.toRecord)),
    ("rows", .list (g.rows.map Value.record)), ("total", .int g.total),
    ("offset", .int g.page.offset), ("limit", .int g.page.limit), ("hasMore", .bool g.hasMore)]

end GridPage

/-- The filter of a grid request, under its older name if it has no other. -/
def gridFilter (request : Value) : Outcome Value := do
  let older ← request.get "filters"
  match request with
  | .record members => return (valueOf? "filterModel" members).getD older
  | _ => return older

/-- What a grid request asks of the rows of a layer, with the names of its columns. -/
def gridRows (scope : Scope) (request : Value) :
    Outcome (List String × Page × Scope.RowRequest) := do
  let columns ← request.get "columns"
  let wanted ←
    if columns.truthy then columns.elements
    else pure (scope.schema.columns.map fun c => .text c.1)
  let names ← wanted.mapM scope.schema.require
  let page ← Page.ofRequest (← request.get "offset") (← request.get "limit")
    scope.settings.gridDefaultLimit scope.settings.gridMaxLimit
  return (names, page, {
    columns := .list (names.map .text)
    filter := ← gridFilter request
    time := ← request.get "time"
    sort := ← request.get "sort"
    offset := .int page.offset
    limit := .int page.limit
    baseSpec := ← request.get "baseSpec" })

/-- The query for the number of rows of a request. -/
def gridCount (scope : Scope) (r : Scope.RowRequest) : Outcome Fragment := do
  let condition ← Predicate.fragment? (← scope.rowsWhere r.filter r.time r.baseSpec)
  ((Select.ofColumns ["COUNT(*) AS total"]).fromTable scope.schema.fromClause
    |>.filter condition).build

/-- What filters of a grid request are read against. -/
def gridScope (w : Workspace) (request : Value) : Outcome Scope := do
  return ⟨← w.schema (← request.get "layer"), w.settings⟩

/-- The rows that a request asks for. -/
def grid (w : Workspace) (request : Value) : Session GridPage := do
  let scope ← gridScope w request
  let (names, page, r) ← gridRows scope request
  let pageQuery ← scope.rowQuery r
  let countQuery ← gridCount scope r
  let records ← Session.records pageQuery
  let total ← Session.count countQuery
  let columns := names.filterMap fun n => scope.schema.fieldMeta.find? (·.name == n)
  return ⟨columns, records, total, page⟩

/-! ## Aggregates -/

/-- An aggregate that the foot of a grid shows. -/
inductive FootOp where
  | count
  | sum
  | avg
  | min
  | max
  | distinct
  /-- The value of the given rank, from one on, by frequency. -/
  | top (rank : Nat)
  deriving Repr, DecidableEq

namespace FootOp

/-- The name of the aggregate. -/
def name : FootOp → String
  | .count => "count"
  | .sum => "sum"
  | .avg => "avg"
  | .min => "min"
  | .max => "max"
  | .distinct => "distinct"
  | .top rank => s!"top{rank}"

/-- The aggregates of numbers. -/
def ofNumbers : List FootOp := [.count, .sum, .avg, .min, .max]

/-- The aggregates of other values. -/
def ofTexts : List FootOp := [.count, .distinct, .top 1, .top 2, .top 3]

/-- The aggregate of numbers over a column. -/
def expr (op : FootOp) (column : String) : String :=
  s!"{upper op.name}({column})"

/-- The column of an aggregate in the result of a query. -/
def resultColumn (op : FootOp) : String :=
  s!"agg_{op.name}"

end FootOp

/-- The aggregates of a field, by name. -/
abbrev FieldAggregates := List (String × Value)

/-- The aggregates that a request names, of those that there are for its type of field. -/
def footOps (name : String) (type : String) (ops : List Value) : Outcome (List FootOp) :=
  let allowed := if type == "number" then FootOp.ofNumbers else FootOp.ofTexts
  let opOf? (v : Value) : Option FootOp := allowed.find? fun op => v == .text op.name
  let unknown := ops.filter fun v => (opOf? v).isNone
  if unknown.isEmpty then .ok (ops.filterMap opOf?)
  else
    reject .invalidMetric
      s!"{(Value.list unknown).shown} for {type} field {quoted name}"

/-- The first row of a query, which has one. -/
def firstRow (records : List Row) : Outcome Row :=
  match records with
  | row :: _ => .ok row
  | [] => mismatch .index

/-- The rows of a layer under a condition, with the given columns. -/
def footSelect (schema : Schema) (columns : List String) (condition : Fragment) : Select :=
  (Select.ofColumns columns).fromTable schema.fromClause |>.filter condition

/-- Aggregates of a field of numbers, all from one query. -/
def numberAggregates (schema : Schema) (column : String) (condition : Fragment)
    (ops : List FootOp) : Session FieldAggregates := do
  let columns := FootOp.ofNumbers.map fun op => s!"{op.expr column} AS {op.resultColumn}"
  let row ← firstRow (← Session.records (← (footSelect schema columns condition).build))
  let pairs ← (ops.mapM fun op => do
    return (op.name, ← row.get op.resultColumn) : Outcome (List (String × Value)))
  return namedValues pairs

/-- The query for the three most frequent values of a column. -/
def topQuery (schema : Schema) (column : String) (condition : Fragment) : Outcome Fragment := do
  let present ← condition.and (← Fragment.raw s!"{column} IS NOT NULL")
  let selected := footSelect schema [s!"{textExpr column} AS val", "COUNT(*) AS c"] present
  let ordered := selected.groupBy [textExpr column] |>.orderByTerms "c DESC, val ASC"
  (← ordered.limitTo (.int 3)).build

/-- The value of a rank and how often it occurs; null if there is no such value. -/
def topValue (ranked : List Row) (rank : Nat) : Outcome Value :=
  match ranked[rank - 1]? with
  | none => .ok .null
  | some row => do
    let v ← row.get "val"
    return .record [("value", v), ("count", ← row.get "c")]

/-- The most frequent values that are asked for. -/
def topAggregates (schema : Schema) (column : String) (condition : Fragment)
    (ranks : List Nat) : Session FieldAggregates := do
  let ranked ← Session.records (← topQuery schema column condition)
  let pairs ← (ranks.mapM fun rank => do
    return (FootOp.name (.top rank), ← topValue ranked rank) : Outcome (List (String × Value)))
  return pairs

/-- Aggregates of a field of other values. The most frequent ones are only asked for where some
value occurs more than once. -/
def textAggregates (schema : Schema) (column : String) (condition : Fragment)
    (ops : List FootOp) : Session FieldAggregates := do
  let columns := [s!"COUNT({column}) AS cnt", s!"COUNT(DISTINCT {textExpr column}) AS uniq"]
  let row ← firstRow (← Session.records (← (footSelect schema columns condition).build))
  let count ← (← row.get "cnt").toCount
  let unique ← (← row.get "uniq").toCount
  let counts := (if ops.contains .count then [("count", Value.int count)] else []) ++
    if ops.contains .distinct then [("distinct", Value.int unique)] else []
  let ranks := ops.filterMap fun op =>
    match op with
    | .top rank => some rank
    | _ => none
  if ranks.isEmpty || count ≤ unique then return counts
  return namedValues (counts ++ (← topAggregates schema column condition ranks))

/-- The type that aggregates of a field go by: the one that the request declares, or its own. -/
def footType (schema : Schema) (name : String) (spec : Value) : Outcome String := do
  let declared ← spec.get "type"
  return lower (← (declared.orElse (.text (schema.fieldType (.text name)).name)).asText)

/-- The aggregates of fields, one field after the other; dates are passed over. -/
def fieldAggregates (schema : Schema) (condition : Fragment) :
    List (String × Value) → Session (List (String × FieldAggregates))
  | [] => pure []
  | (name, given) :: rest => do
    let spec := given.orElse (.record [])
    let type ← footType schema name spec
    if type == "date" then fieldAggregates schema condition rest
    else
      let column ← schema.column (.text name)
      let listed ← spec.get "ops"
      let ops ← footOps name type (← if listed.truthy then listed.elements else pure [])
      let found ←
        if type == "number" then numberAggregates schema column condition ops
        else textAggregates schema column condition ops
      return (name, found) :: (← fieldAggregates schema condition rest)

/-- The aggregates that a request asks for. -/
def aggregates (w : Workspace) (request : Value) :
    Session (List (String × FieldAggregates)) := do
  let scope ← gridScope w request
  let condition ← Predicate.fragment?
    (← scope.rowsWhere (← gridFilter request) (← request.get "time") (← request.get "baseSpec"))
  match (← request.get "metrics").orElse (.record []) with
  | .record metrics => fieldAggregates scope.schema condition metrics
  | _ => mismatch .member

/-- Aggregates of fields as a record. -/
def aggregatesValue (found : List (String × FieldAggregates)) : Value :=
  .record (found.map fun f => (f.1, .record f.2))

end Crosstab.View
