import Crosstab.View.Workspace

/-!
# Charts

A chart shows a metric for each pair of a column key and a row key. The keys of both axes are found
first; the cells come from one query over just those keys.

Models `chart`, `ChartSeries` and `ChartResponse`.
-/

namespace Crosstab.View

open Number Pivot

/-! ## Cells -/

/-- A matrix of cells, a row of cells for each row key. -/
abbrev Cells := List (List (Option Binary64))

/-- A matrix whose cells are all empty. -/
def emptyCells (columns rows : Nat) : Cells :=
  List.replicate rows (List.replicate columns none)

/-- Sets the cell of a column and a row. -/
def setCell (column row : Nat) (x : Option Binary64) (cells : Cells) : Cells :=
  cells.modify row (·.set column x)

/-- The value of an empty cell is null. -/
def cellValue (x? : Option Binary64) : Value :=
  (x?.map Value.real).getD .null

/-- Keys that things are looked up by; a list or a record is none. -/
def checkKeys (keys : List Value) : Outcome Unit :=
  keys.forM fun k => discard (asKey k)

/-- The place of a key that a row gives. -/
def placeIn (keys : List Value) (key : Value) : Outcome (Option Nat) := do
  return placeOf? (← asKey key) keys

/-- Puts the cell of a row in its place; a row with another key changes nothing. -/
def placeRow (xKeys yKeys : List Value) (cells : Cells) (row : Row) : Outcome Cells := do
  let x? ← placeIn xKeys (← row.get colColumn)
  let y? ← placeIn yKeys (← row.get rowColumn)
  match x?, y? with
  | some x, some y => return setCell x y (← (← row.get metricColumn).toReal?) cells
  | _, _ => return cells

/-- The cells of rows; of rows for one cell the last counts. -/
def placeRows (xKeys yKeys : List Value) (records : List Row) : Outcome Cells :=
  records.foldlM (placeRow xKeys yKeys) (emptyCells xKeys.length yKeys.length)

/-! ## Charts -/

/-- The cells of a metric. -/
structure Series where
  metric : Metric
  values : Cells
  deriving DecidableEq

/-- A chart; without keys it has no series. -/
structure Chart where
  xField : String
  yField : String
  xCategories : List Value
  yCategories : List Value
  series : List Series
  deriving DecidableEq

/-- The series as a record. -/
def Series.toValue (s : Series) : Value :=
  .record [("id", .text s.metric.id), ("label", s.metric.label), ("field", .text s.metric.field),
    ("agg", .text s.metric.agg.name),
    ("values", .list (s.values.map fun row => .list (row.map cellValue)))]

/-- The chart as a record. -/
def Chart.toValue (c : Chart) : Value :=
  .record [("xField", .text c.xField), ("yField", .text c.yField),
    ("xCategories", .list c.xCategories), ("yCategories", .list c.yCategories),
    ("series", .list (c.series.map Series.toValue))]

/-- The most column keys of a chart of the given type. -/
def maxColumns (settings : Settings) (chartType : Value) : Int :=
  if chartType == .text "multiplePie" then settings.chartMaxColumnsMultiplePie
  else settings.chartMaxColumns

/-- The chart of a request. -/
def chart (w : Workspace) (r : ChartRequest) : Session Chart := do
  let c ← w.context r.toRequest [r.metric]
  let xKeys ← w.axisKeys c r.col r.metric (maxColumns w.settings r.chartType)
  let yKeys ← w.axisKeys c r.row r.metric w.settings.chartMaxRows
  if xKeys.isEmpty || yKeys.isEmpty then return ⟨r.col.field, r.row.field, [], [], []⟩
  let query ← c.matrix (.text r.col.field) (.text r.row.field) r.metric xKeys yKeys
  checkKeys xKeys
  checkKeys yKeys
  let records ← Session.records query
  let cells ← placeRows xKeys yKeys records
  return ⟨r.col.field, r.row.field, xKeys, yKeys, [⟨r.metric, cells⟩]⟩

end Crosstab.View
