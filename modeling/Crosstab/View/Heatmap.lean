import Crosstab.View.Chart

/-!
# Heatmaps

A page of a heatmap holds some of the row keys against all column keys. The smallest and the largest
value of a page are those of its cells that have one, so colours can be scaled page by page.

Models `heatmap_table`, `HeatmapRow` and `HeatmapPage`, with `assemble`.
-/

namespace Crosstab.View

open Number Pivot

/-! ## Pages -/

/-- The cells of a row key and their sum. -/
structure HeatmapRow where
  category : Value
  cells : List (Option Binary64)
  total : Binary64
  deriving DecidableEq

/-- A page of a heatmap. -/
structure HeatmapPage where
  xField : Value
  yField : Value
  xCategories : List Value
  rows : List HeatmapRow
  totalRowCount : Int
  offset : Int
  limit : Int
  min? : Option Binary64
  max? : Option Binary64
  deriving DecidableEq

/-- A value for a pair of a column key and a row key. -/
structure Cell where
  x : Value
  y : Value
  value : Value
  deriving DecidableEq

namespace HeatmapPage

/-- The page of a heatmap without data. -/
def empty (xField yField : Value) : HeatmapPage :=
  ⟨xField, yField, [], [], 0, 0, 0, none, none⟩

/-- The smallest value; a later one must be less than an earlier one to take its place. -/
def least : List Binary64 → Option Binary64
  | [] => none
  | x :: xs => some (xs.foldl (fun acc y => if y.lt acc then y else acc) x)

/-- The largest value; a later one must be more than an earlier one to take its place. -/
def greatest : List Binary64 → Option Binary64
  | [] => none
  | x :: xs => some (xs.foldl (fun acc y => if acc.lt y then y else acc) x)

/-- The sum of the cells that have a value, from left to right. -/
def sum (cells : List (Option Binary64)) : Binary64 :=
  (cells.filterMap id).foldl .add .zero

/-- Puts a value in its place; a missing one, or one for other keys, changes nothing. -/
def placeCell (xKeys yKeys : List Value) (cells : Cells) (c : Cell) : Outcome Cells := do
  let x? ← placeIn xKeys c.x
  let y? ← placeIn yKeys c.y
  match x?, y? with
  | some x, some y =>
    if c.value == .null then return cells
    return setCell x y (some (← c.value.toReal)) cells
  | _, _ => return cells

/-- The page whose cells are given. -/
def ofCells (xField yField : Value) (xKeys yKeys : List Value) (cells : Cells)
    (total offset limit : Int) : HeatmapPage :=
  let populated := cells.flatMap (·.filterMap id)
  let rows := (yKeys.zip cells).map fun (key, row) => ⟨key, row, sum row⟩
  ⟨xField, yField, xKeys, rows, total, offset, limit, least populated, greatest populated⟩

/-- The page of values that are read and put in their places one after the other. -/
def assemble (xField yField : Value) (xKeys yKeys : List Value) (values : List (Outcome Cell))
    (total offset limit : Int) : Outcome HeatmapPage := do
  checkKeys xKeys
  checkKeys yKeys
  let cells ← values.foldlM (fun cells c => do placeCell xKeys yKeys cells (← c))
    (emptyCells xKeys.length yKeys.length)
  return ofCells xField yField xKeys yKeys cells total offset limit

/-- The row keys of the page. -/
def yCategories (p : HeatmapPage) : List Value :=
  p.rows.map (·.category)

/-- The page as a record. -/
def toValue (p : HeatmapPage) : Value :=
  let row (r : HeatmapRow) : Value :=
    .record [("yCategory", r.category), ("cells", .list (r.cells.map cellValue)),
      ("rowTotal", .real r.total)]
  .record [("xField", p.xField), ("yField", p.yField), ("xCategories", .list p.xCategories),
    ("rows", .list (p.rows.map row)), ("totalRowCount", .int p.totalRowCount),
    ("offset", .int p.offset), ("limit", .int p.limit), ("pageMin", cellValue p.min?),
    ("pageMax", cellValue p.max?)]

/-- The values of a page again, row by row. -/
def values (p : HeatmapPage) : List Cell :=
  p.rows.flatMap fun r => (p.xCategories.zip r.cells).map fun (x, v) =>
    ⟨x, r.category, cellValue v⟩

end HeatmapPage

/-! ## The view -/

/-- The page that a request asks for. -/
def heatmapPaging (settings : Settings) (r : HeatmapRequest) : Outcome Page := do
  let offset ← r.offset.toWhole "offset" 0 .invalidPagination
  let limit ← r.limit.toWhole "limit" settings.heatmapDefaultLimit .invalidPagination
  if offset < 0 || limit < 1 then
    reject .invalidPagination s!"offset={offset} limit={limit}"
  return ⟨offset, min limit settings.heatmapMaxLimit⟩

/-- The value of a row of the query for cells. -/
def cellOf (row : Row) : Outcome Cell := do
  let x ← row.get colColumn
  let y ← row.get rowColumn
  return ⟨x, y, ← row.get metricColumn⟩

/-- The page of a request. The column keys and the number of row keys are asked for on every page;
the row keys are those of the page in the ranking by the metric. -/
def heatmap (w : Workspace) (r : HeatmapRequest) : Session HeatmapPage := do
  let page ← heatmapPaging w.settings r
  let c ← w.context r.toRequest [r.metric]
  let _ ← c.schema.require r.colField
  let _ ← c.schema.require r.rowField
  let xKeys ← Workspace.keys
    (← c.topKeys r.colField r.metric (.int w.settings.heatmapMaxX) [] .top .null)
  let total ← Session.count (← c.keyCount r.rowField [])
  if xKeys.isEmpty || total == 0 then return .empty r.colField r.rowField
  let yKeys ← Workspace.keys
    (← c.topKeys r.rowField r.metric (.int page.limit) [] .top (.int page.offset))
  if yKeys.isEmpty then
    return ⟨r.colField, r.rowField, xKeys, [], total, page.offset, page.limit, none, none⟩
  let records ← Session.records (← c.matrix r.colField r.rowField r.metric xKeys yKeys)
  HeatmapPage.assemble r.colField r.rowField xKeys yKeys (records.map cellOf) total page.offset
    page.limit

end Crosstab.View
