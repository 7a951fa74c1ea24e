import Crosstab.View.HeatmapTable
import Crosstab.View.Run

/-!
# Reports

Responses as printed text with tables in it. How a table is laid out on the screen is not said
here: a report holds its headers and rows, and the name of the format it is wanted in.

Models `print_results` and `_print_cells`.
-/

namespace Crosstab.Command

open Pivot View

/-- A table of values. -/
structure PlainTable where
  headers : List Value
  rows : List (List Value)
  format : String
  deriving DecidableEq

/-- A part of a report. -/
inductive Part where
  /-- A text that ends its line. -/
  | line (text : String)
  | table (t : PlainTable)
  | coloured (t : StyledTable)
  deriving DecidableEq

/-- The parts of a report; a report that fails is cut off where it does. -/
structure Report where
  parts : List Part
  failure? : Option Failure
  deriving DecidableEq

namespace Report

/-- A report of the given parts. -/
def of (parts : List Part) : Report := ⟨parts, none⟩

/-- The report of parts that may fail to come together. -/
def ofOutcome (parts : Outcome (List Part)) : Report :=
  match parts with
  | .ok parts => .of parts
  | .error f => ⟨[], some f⟩

/-- The table of values under texts. -/
def tableOf (format : String) (headers : List String) (rows : List (List Value)) : Part :=
  .table ⟨headers.map .text, rows, format⟩

/-! ## Charts -/

/-- The report on a chart. -/
def ofChart (format : String) (c : Chart) : List Part :=
  let series (s : Series) : List Part :=
    [.line s!"\nSeries: {s.metric.label.display}",
      .table ⟨.text c.yField :: c.xCategories,
        (c.yCategories.zip s.values).map fun (y, values) => y :: values.map cellValue, format⟩]
  if c.series.isEmpty then [.line "No data returned"] else c.series.flatMap series

/-- The report on charts by column key. -/
def ofBreakdown (format : String) (b : Breakdown) : List Part :=
  b.charts.flatMap fun c =>
    [.line s!"\n--- {b.colField} = {c.colKey.display} ---",
      .table ⟨[.text b.rowField, b.metric.label],
        (c.rowCategories.zip c.values).map fun (key, x?) => [key, cellValue x?], format⟩]

/-- The report on a page of a heatmap, whose table is made from the page's values. -/
def ofHeatmap (p : HeatmapPage) : Outcome (List Part) := do
  let page ← HeatmapPage.assemble p.xField p.yField p.xCategories p.yCategories
    (p.values.map .ok) p.totalRowCount p.offset p.limit
  return [.coloured (← HeatmapStyle.standard.render page)]

/-- The report on a drilldown. -/
def ofDrilldown (format : String) (d : Drilldown) : List Part :=
  let rows (s : TimeSeries) : List (List Value) :=
    s.points.map fun p =>
      [s.rowKey, timeValue p.time?, cellValue p.value?, cellValue s.median?]
  [.line s!"Global median: {(cellValue d.median?).display}",
    tableOf format ["row", "ts (ms)", "value", "median"] (d.series.flatMap rows)]

/-! ## Values and rows -/

/-- The report on a page of values. -/
def ofDistinct (format : String) (p : DistinctPage) : Outcome (List Part) := do
  let total ← Value.wholeText p.totalCount
  let next :=
    match p.nextCursor? with
    | some cursor => if cursor.isEmpty then [] else [Part.line s!"Next cursor: {cursor}"]
    | none => []
  return [.line s!"Total: {total}, more: {(Value.bool p.hasMore).display}",
    tableOf format ["value"] (p.items.map fun v => [.text v])] ++ next

/-- The report on a page of rows. -/
def ofGrid (format : String) (g : GridPage) : Outcome (List Part) := do
  let names := g.columns.map (·.name)
  let first ← Value.wholeText (g.page.offset + 1)
  let last ← Value.wholeText (g.page.offset + g.rows.length)
  let total ← Value.wholeText g.total
  let row (r : Row) : List Value := names.map fun n => (valueOf? n r).getD (.text "")
  return [.line s!"Rows {first}-{last} of {total}\n", tableOf format names (g.rows.map row)]

/-- The report on the fields of a layer. -/
def ofFields (format : String) (f : FieldList) : List Part :=
  let row (m : FieldMeta) : List Value :=
    [.text m.name, .text m.engineType, .text m.type.name, m.label]
  [tableOf format ["name", "engineType", "type", "label"] (f.fields.map row)]

/-! ## Pivot tables -/

/-- The headers of cells: one for each column value and metric. -/
def cellHeaders (cells : ColumnCells) : List String :=
  cells.flatMap fun (v, metrics) => metrics.map fun (label, _) =>
    s!"{v.display} / {label.display}"

/-- The values of cells. -/
def cellValues (cells : ColumnCells) : List Value :=
  cells.flatMap fun (_, metrics) => metrics.map (·.2)

/-- The table of items with their cells. A header stands at the place where it comes up first; the
values of a row follow each other without gaps. -/
def cellTable (format : String) (items : List (Value × ColumnCells)) : Part :=
  let headers := (items.flatMap fun i => cellHeaders i.2).foldl
    (fun acc h => if acc.contains h then acc else acc ++ [h]) [""]
  tableOf format headers (items.map fun (label, cells) => label :: cellValues cells)

/-- The report on a pivot table. -/
def ofTable (format : String) (t : Table) : List Part :=
  let group (g : RowGroup) : List Part :=
    [.line s!"\n--- {g.label} ---",
      cellTable format [(.text "total", g.cells)]]
  .line t.rowCountText :: t.groups.flatMap group

/-- The report on the items of a row group. -/
def ofItems (format : String) (r : RowItems) : List Part :=
  [.line r.label,
    cellTable format (r.items.map fun i => (i.key, i.cells))]

/-! ## Responses -/

/-- The report on a response. -/
def ofResponse (format : String) : Response → Report
  | .chart c => .of (ofChart format c)
  | .breakdown b => .of (ofBreakdown format b)
  | .heatmap p => ofOutcome (ofHeatmap p)
  | .drilldown d => .of (ofDrilldown format d)
  | .distinct p => ofOutcome (ofDistinct format p)
  | .table t => .of (ofTable format t)
  | .items r => .of (ofItems format r)
  | .grid g => ofOutcome (ofGrid format g)
  | .fields f => .of (ofFields format f)

/-- The report of a view on its response, under the name of the view. -/
def ofView (format : String) (view : ViewName) (r : Response) : Report :=
  let body := ofResponse format r
  ⟨.line s!"\n=== {Text.upper view.name} ===" :: body.parts, body.failure?⟩

end Report

end Crosstab.Command
