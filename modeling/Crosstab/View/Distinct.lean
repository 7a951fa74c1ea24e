import Crosstab.Cursor
import Crosstab.Pivot.Request
import Crosstab.Sql.Select
import Crosstab.View.Workspace

/-!
# Pages of distinct values

A page holds values of a column, for choosing among them in a filter. The filter on the column
itself is left out unless the request keeps it, so all values can be chosen and not only those that
are chosen already. A page ends with a cursor that holds its last value, and the next one starts
behind it.

Models `DistinctValuesRequest`, `DistinctValuesPage` and `DistinctValuesResolver`.
-/

namespace Crosstab.View

open Crosstab.Filter Pivot Sql Text

/-- A request for values of a field. -/
structure DistinctRequest where
  layer : Value
  field : Value
  filters : Value
  time : Value
  search : Value
  cursor : Value
  limit : Value
  /-- The filter on the field itself is kept. -/
  includeSelf : Bool
  order : Value
  deriving DecidableEq

/-- Reads a request for values. -/
def DistinctRequest.ofRequest (data : Value) : Outcome DistinctRequest := do
  let members ← requestMembers data
  let field := memberOf members "field"
  if !field.truthy then reject .missingParameter "field is required"
  return {
    field
    layer := memberOf members "layer"
    filters := memberOr members "filters" "filterModel"
    time := memberOf members "time"
    search := memberOr members "search" "keyword"
    cursor := memberOf members "cursor"
    limit := memberOf members "limit"
    includeSelf := (memberOf members "includeSelf").truthy
    order := (memberOf members "order").orElse (.text "ASC") }

/-- The word for the order of values. -/
def DistinctRequest.orderWord (r : DistinctRequest) : String :=
  upper (trim (r.order.displayOr "ASC"))

/-- A page of values. -/
structure DistinctPage where
  items : List String
  nextCursor? : Option String
  hasMore : Bool
  totalCount : Int
  deriving Repr, DecidableEq

/-- The page as a record. -/
def DistinctPage.toValue (p : DistinctPage) : Value :=
  .record [("items", .list (p.items.map .text)),
    ("nextCursor", (p.nextCursor?.map Value.text).getD .null), ("hasMore", .bool p.hasMore),
    ("totalCount", .int p.totalCount)]

/-! ## Queries -/

/-- The queries of a request: for the values of the page and one more, and for the number of all
values. -/
structure DistinctQueries where
  target : String
  order : String
  limit : Int
  page : Fragment
  count : Fragment

/-- The largest page that a request gets. -/
def distinctLimit (settings : Settings) (limit : Value) : Outcome Int := do
  let n ← limit.toWhole "limit" settings.distinctDefaultLimit .invalidPagination
  if n < 1 then reject .invalidPagination "limit must be >= 1"
  return min n settings.distinctMaxLimit

/-- The pattern of the search text; none for a blank one. -/
def searchPattern? (search : Value) : Option String :=
  let s := trim search.display
  if search == .null || s.isEmpty then none else some ("%" ++ escapeLike s ++ "%")

/-- The rows that have a value, meet the filters and match the search. -/
def distinctWhere (scope : Scope) (r : DistinctRequest) (target column : String) :
    Outcome (Option Predicate) := do
  let excluded := if r.includeSelf then .null else .text target
  let p? ← scope.whereFilter r.filters r.time excluded
  let present := Predicate.atom (.isNull column true)
  let found? := (searchPattern? r.search).map fun s => Predicate.atom (.like column s)
  return Predicate.all? [p?, some present, found?]

/-- The values behind the cursor of a request; a cursor of another column or order is rejected. -/
def afterCursor (r : DistinctRequest) (target order : String) : Outcome Fragment := do
  match ← Cursor.decode r.cursor with
  | none => return .empty
  | some position =>
    let isSame := memberOf position "f" == .text target &&
      (valueOf? "o" position).getD (.text "ASC") == .text order
    if !isSame then reject .invalidCursor "cursor does not belong to this query"
    let sign := if order == "ASC" then ">" else "<"
    Fragment.of s!"v {sign} ?" [memberOf position "v"]

/-- The queries of a request. -/
def distinctQueries (w : Workspace) (r : DistinctRequest) : Outcome DistinctQueries := do
  let schema ← w.schema r.layer
  let target ← schema.require r.field
  let column ← schema.column (.text target)
  let order := r.orderWord
  if order != "ASC" && order != "DESC" then reject .invalidSort s!"order {r.order.shown}"
  let limit ← distinctLimit w.settings r.limit
  let condition ← Predicate.fragment? (← distinctWhere ⟨schema, w.settings⟩ r target column)
  let base := (Select.ofColumns [s!"{column} AS v"]).fromTable schema.fromClause
    |>.filter condition
  let ordered ← (Select.distinctOf ["v"]).fromTable "base" |>.orderBy "v" (.text order)
  let limited ← ordered.limitTo (.int (limit + 1))
  let page := limited.filter (← afterCursor r target order)
  let counted := (Select.ofColumns ["COUNT(DISTINCT v) AS total"]).fromTable "base"
  let withBase (main : Select) : Outcome Fragment := do
    (With.empty.subquery "base" (← base.build) |>.mainQuery main.build).build
  let pageQuery ← withBase page
  return ⟨target, order, limit, pageQuery, ← withBase counted⟩

/-! ## The view -/

/-- A value as a cursor holds it: numbers, texts and truth values as they are, others as text. -/
def cursorValue (v : Value) : Value :=
  match v with
  | .null | .bool _ | .int _ | .real _ | .text _ => v
  | v => .text v.display

/-- The cursor behind a value. -/
def cursorAfter (q : DistinctQueries) (v : Value) : String :=
  Cursor.encode (.record [("f", .text q.target), ("o", .text q.order), ("v", cursorValue v)])

/-- The values that a request asks for. One value more than the page holds is asked for, which
tells whether there are more. -/
def distinct (w : Workspace) (r : DistinctRequest) : Session DistinctPage := do
  let q ← distinctQueries w r
  let values ← columnOf "v" (← Session.records q.page)
  let hasMore := decide (q.limit < values.length)
  let shown := takeCount q.limit values
  let nextCursor? := if hasMore then shown.getLast?.map (cursorAfter q) else none
  let total ← Session.count q.count
  return ⟨shown.map normalizeKey, nextCursor?, hasMore, total⟩

end Crosstab.View
