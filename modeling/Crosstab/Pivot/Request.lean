import Crosstab.Pivot.Axis

/-!
# Requests for pivot views

What a request leaves to later stages, such as its filter, is kept as it was given; what decides the
shape of the view is read here.

Models `PivotRequest`, `ChartRequest`, `HeatmapRequest`, `DrilldownRequest`, `PivotSort`,
`PivotTableRequest` and `_field_of`.
-/

namespace Crosstab.Pivot

/-- The members of a request, which must be a record. -/
def requestMembers (data : Value) : Outcome (List (String × Value)) :=
  match data with
  | .record members => .ok members
  | _ => reject .missingParameter "request must be a JSON object"

/-- A member of a request, null if it is absent. -/
def memberOf (members : List (String × Value)) (name : String) : Value :=
  (valueOf? name members).getD .null

/-- A member of a request under its name or, if that is absent, under another. -/
def memberOr (members : List (String × Value)) (name other : String) : Value :=
  ((valueOf? name members).or (valueOf? other members)).getD .null

/-- What every pivot request gives. -/
structure Request where
  layer : Value
  time : Value
  filters : Value
  timeField : Value
  deriving DecidableEq

/-- Reads what every pivot request gives. -/
def Request.ofMembers (members : List (String × Value)) : Request :=
  ⟨memberOf members "layer", memberOf members "time", memberOr members "filters" "filterModel",
    memberOf members "timeField"⟩

/-! ## Charts -/

/-- A request for a chart, or for one chart per column key. -/
structure ChartRequest extends Request where
  col : Axis
  row : Axis
  metric : Metric
  chartType : Value
  chartsPerRow : Int
  deriving DecidableEq

/-- Reads a request for charts. -/
def ChartRequest.ofRequest (data : Value) : Outcome ChartRequest := do
  let members ← requestMembers data
  let col ← Axis.ofRequest "col" (memberOf members "col")
  let row ← Axis.ofRequest "row" (memberOf members "row")
  let metric ← Metric.firstOf members
  let perRow :=
    match memberOf members "layout" with
    | .record layout => memberOf layout "chartsPerRow"
    | _ => .null
  let chartsPerRow ← perRow.toWhole "layout.chartsPerRow" 0 .missingParameter
  return { Request.ofMembers members with
    col, row, metric, chartsPerRow, chartType := memberOf members "chartType" }

/-! ## Heatmaps -/

/-- A request for a page of a heatmap. -/
structure HeatmapRequest extends Request where
  colField : Value
  rowField : Value
  metric : Metric
  offset : Value
  limit : Value
  deriving DecidableEq

/-- The field that a request names under either of two names, or else in the record of an axis. -/
def namedField (members : List (String × Value)) (name other axis : String) : Outcome Value :=
  let v := (memberOf members name).orElse (memberOf members other)
  if v.truthy then .ok v else ((memberOf members axis).orElse (.record [])).get "field"

/-- Reads a request for a page of a heatmap. -/
def HeatmapRequest.ofRequest (data : Value) : Outcome HeatmapRequest := do
  let members ← requestMembers data
  let colField ← namedField members "colField" "xField" "col"
  let rowField ← namedField members "rowField" "yField" "row"
  if !colField.truthy then reject .missingParameter "colField is required"
  if !rowField.truthy then reject .missingParameter "rowField is required"
  let metric ← Metric.firstOf members
  match (memberOf members "page").orElse (.record []) with
  | .record page =>
    let ofPage (name : String) : Value := (valueOf? name page).getD (memberOf members name)
    return { Request.ofMembers members with
      colField, rowField, metric, offset := ofPage "offset", limit := ofPage "limit" }
  | _ => mismatch .member

/-! ## Drilldowns -/

/-- A request for the course over time behind one column key. -/
structure DrilldownRequest extends Request where
  colField : Value
  rowField : Value
  selectedColKey : Value
  rowKeys : List Value
  metric : Metric
  timeBucket : Value
  deriving DecidableEq

/-- Reads a request for a drilldown. -/
def DrilldownRequest.ofRequest (data : Value) : Outcome DrilldownRequest := do
  let members ← requestMembers data
  let rowKeys ←
    match (memberOf members "rowKeys").orElse (.list []) with
    | .list items => pure items
    | _ => reject .missingParameter "rowKeys must be a list"
  let colField ← required data "colField" "colField"
  let rowField ← required data "rowField" "rowField"
  let metric ← Metric.firstOf members
  return { Request.ofMembers members with
    colField, rowField, rowKeys, metric
    selectedColKey := memberOf members "selectedColKey"
    timeBucket := memberOf members "timeBucket" }

/-! ## Pivot tables -/

/-- A sort of row items by a metric under one column value. -/
structure ItemSort where
  columnValue : String
  metric : Metric
  descending : Bool
  deriving DecidableEq

/-- Reads the sort of a request, which names one of the request's metrics by its field and, if it
likes, its aggregation. -/
def ItemSort.ofRequest (data : Value) (metrics : List Metric) : Outcome (Option ItemSort) := do
  let .record members := data | return none
  let columnValue := memberOf members "columnValue"
  if columnValue == .null then return none
  let direction := memberOf members "direction"
  let word := Text.upper (direction.displayOr "desc")
  if word != "ASC" && word != "DESC" then reject .invalidSort s!"direction {direction.shown}"
  let field := memberOf members "valueField"
  let agg := Text.lower ((memberOf members "agg").displayOr "")
  match metrics.find? fun m => field == .text m.field && (agg.isEmpty || m.agg.name == agg) with
  | some metric => return some ⟨Filter.normalizeKey columnValue, metric, word == "DESC"⟩
  | none =>
    let wanted := if agg.isEmpty then "*" else agg
    reject .invalidSort s!"no metric {field.display}/{wanted}"

/-- A request for a pivot table or for the items of one of its row groups. -/
structure TableRequest extends Request where
  columnField? : Option String
  rowFields : List String
  metrics : List Metric
  sort? : Option ItemSort
  rowField? : Option String
  offset : Value
  limit : Value
  deriving DecidableEq

/-- The field that a request names, bare or in a record; none if it is blank. -/
def fieldOf? (v : Value) : Option String :=
  let name :=
    match v with
    | .record members => memberOf members "field"
    | v => v
  let s := Text.trim name.display
  if name == .null || s.isEmpty then none else some s

/-- Reads a request for a pivot table. -/
def TableRequest.ofRequest (data : Value) : Outcome TableRequest := do
  let members ← requestMembers data
  let listed (v : Value) : Outcome (List Value) := if v.truthy then v.elements else .ok []
  let metrics ← (← listed ((memberOf members "values").orElse (memberOf members "metrics"))).mapM
    (Metric.ofRequest "values")
  let rows ← listed (memberOf members "rows")
  let sort? ← ItemSort.ofRequest (memberOf members "sort") metrics
  return { Request.ofMembers members with
    metrics, sort?
    rowFields := rows.filterMap fieldOf?
    columnField? := fieldOf? (memberOr members "column" "columnField")
    rowField? := fieldOf? (memberOf members "rowField")
    offset := memberOf members "offset"
    limit := memberOf members "limit" }

end Crosstab.Pivot
