import Crosstab.Filter.BaseSpec
import Crosstab.Paging
import Crosstab.Sql.Select

/-!
# Row queries

A row query selects some columns, or all of them, of the rows that the filter, the time window and
the base specification of a request leave, in the order of one column, a page at a time.

Models `order_by` and `compile_query` of `FilterModelCompiler`.
-/

namespace Crosstab.Filter.Scope

open Sql Text

/-- The name and the direction in a request's sort, which may be a bare name. -/
def sortParts (v : Value) : Value × Value :=
  match v with
  | .record members =>
    ((valueOf? "field" members).getD .null,
      ((valueOf? "direction" members).or (valueOf? "dir" members)).getD .null)
  | v => (v, .null)

/-- The column and the direction that a request sorts by. Without a field it is the default one,
or else the layer's column of times; without a direction it is descending. -/
def sortTerm (scope : Scope) (sort default_ : Value) : Outcome (String × String) := do
  let (field, direction) := sortParts sort
  let field := field.orElse (default_.orElse (.text scope.schema.layer.defaultTimeField))
  if !scope.schema.has field then reject .invalidSort s!"cannot sort by {field.shown}"
  let word := upper (trim (direction.displayOr "DESC"))
  if word != "ASC" && word != "DESC" then reject .invalidSort s!"direction {quoted word}"
  return (← scope.schema.column field, word)

/-- The rows that a request is about: its window, its filter and its base specification. -/
def rowsWhere (scope : Scope) (filter time baseSpec : Value) : Outcome (Option Predicate) := do
  let p? ← scope.whereFilter filter time .null
  return Predicate.both? p? (← scope.baseSpec baseSpec)

/-- A column of a row query under its own name. -/
def selectedColumn (scope : Scope) (name : Value) : Outcome String := do
  let column ← scope.schema.column name
  return s!"{column} AS {← quoteIdentifier (.text (← scope.schema.require name))}"

/-- The columns of a row query, all of them if the request names none. -/
def selectedColumns (scope : Scope) (columns : Value) : Outcome (List String) :=
  if columns.truthy then do (← columns.elements).mapM scope.selectedColumn
  else .ok ["t.*"]

/-- What a request asks of the rows of a layer. -/
structure RowRequest where
  columns : Value
  filter : Value
  time : Value
  sort : Value
  offset : Value
  limit : Value
  baseSpec : Value

/-- The query for the rows of a request. -/
def rowQuery (scope : Scope) (r : RowRequest) : Outcome Fragment := do
  let columns ← scope.selectedColumns r.columns
  let condition ← Predicate.fragment? (← scope.rowsWhere r.filter r.time r.baseSpec)
  let (column, direction) ← scope.sortTerm r.sort .null
  let page ← Page.ofRequest r.offset r.limit scope.settings.gridDefaultLimit
    scope.settings.gridMaxLimit
  let ordered ← ((Select.ofColumns columns).fromTable scope.schema.fromClause
    |>.filter condition).orderBy column (.text direction)
  let limited ← ordered.limitTo (.int page.limit)
  (← limited.startAt (.int page.offset)).build

end Crosstab.Filter.Scope
