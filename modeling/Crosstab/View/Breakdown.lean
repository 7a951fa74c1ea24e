import Crosstab.View.Chart

/-!
# Breakdowns

A breakdown is one chart for each column key. Each chart ranks the rows behind its own column key,
by one query.

Models `chart_by_column`, `ColumnChart` and `ByColumnResponse`.
-/

namespace Crosstab.View

open Number Pivot

/-- The chart of one column key. -/
structure ColumnChart where
  colKey : Value
  rowCategories : List Value
  values : List (Option Binary64)
  deriving DecidableEq

/-- The charts of a metric by column key. -/
structure Breakdown where
  colField : String
  rowField : String
  metric : Metric
  charts : List ColumnChart
  deriving DecidableEq

/-- The chart as a record. -/
def ColumnChart.toValue (c : ColumnChart) : Value :=
  .record [("colKey", c.colKey), ("rowCategories", .list c.rowCategories),
    ("values", .list (c.values.map cellValue))]

/-- The charts as a record. -/
def Breakdown.toValue (b : Breakdown) : Value :=
  .record [("colField", .text b.colField), ("rowField", .text b.rowField),
    ("metricField", .text b.metric.field), ("metricAgg", .text b.metric.agg.name),
    ("metricLabel", b.metric.label), ("charts", .list (b.charts.map ColumnChart.toValue))]

/-- The most column keys of a breakdown: two rows of charts. -/
def maxCharts (settings : Settings) (chartsPerRow : Int) : Int :=
  2 * if 0 < chartsPerRow then chartsPerRow else settings.chartMaxColumns

/-- The chart of a column key from the rows of its ranking. -/
def rankedChart (colKey : Value) (ranked : List Row) : Outcome ColumnChart := do
  let categories ← columnOf keyColumn ranked
  let values ← ranked.mapM fun row => do (← row.get metricColumn).toReal?
  return ⟨colKey, categories, values⟩

/-- The chart of a column key. -/
def columnChart (w : Workspace) (c : Context) (r : ChartRequest) (colKey : Value) :
    Session ColumnChart := do
  let restriction ← c.axisFilter (.text r.col.field) [colKey]
  let n := min (r.row.topN?.getD w.settings.defaultTopN) w.settings.chartMaxRows
  let query ← c.topKeys (.text r.row.field) r.metric (.int n) [restriction] r.row.ranking .null
  let ranked ← Session.records query
  rankedChart colKey ranked

/-- The charts of column keys, one query after the other. -/
def columnCharts (w : Workspace) (c : Context) (r : ChartRequest) :
    List Value → Session (List ColumnChart)
  | [] => pure []
  | key :: rest => do
    let chart ← columnChart w c r key
    return chart :: (← columnCharts w c r rest)

/-- The charts of a request by column key. -/
def breakdown (w : Workspace) (r : ChartRequest) : Session Breakdown := do
  let c ← w.context r.toRequest [r.metric]
  let colKeys ← w.axisKeys c r.col r.metric (maxCharts w.settings r.chartsPerRow)
  return ⟨r.col.field, r.row.field, r.metric, ← columnCharts w c r colKeys⟩

end Crosstab.View
