import Crosstab.Value.Sorted
import Crosstab.View.Chart

/-!
# Pivot tables

A table has a column for each of the most frequent values of its column field, and a group for each
of its row fields. A group is shown by the number of its keys and a summary of each column; its
items are a view of their own, a page at a time, in the order of their keys or of one metric under
one column value.

Models `PivotTableService`: `column_values`, `_cells`, `query`, `row_items` and `_sort_keys`.
-/

namespace Crosstab.View

open Number Pivot

/-! ## Cells -/

/-- The metrics of a cell, by their labels. -/
abbrev Metrics := List (Value × Value)

/-- Sets the value of a key; an equal key keeps its place. -/
def setKeyed {α β : Type} (same : α → α → Bool) (key : α) (v : β) : List (α × β) → List (α × β)
  | [] => [(key, v)]
  | (k, w) :: rest =>
    if same k key then (k, v) :: rest else (k, w) :: setKeyed same key v rest

/-- Values by keys; an equal key keeps its first place and its last value. -/
def keyed {α β : Type} (same : α → α → Bool) (pairs : List (α × β)) : List (α × β) :=
  pairs.foldl (fun acc p => setKeyed same p.1 p.2 acc) []

/-- The cells of a query by the keys of their rows. -/
abbrev CellMap := List (List Value × Metrics)

/-- The metrics of a row. -/
def metricsOf (metrics : List Metric) (row : Row) : Outcome Metrics := do
  let pairs ← metrics.zipIdx.mapM fun (m, i) => do
    let v ← row.get (groupMetricColumn i)
    return (← asKey m.label, v)
  return keyed Value.equals pairs

/-- The cell of a row and the keys it belongs to. -/
def groupOf (keyCount : Nat) (metrics : List Metric) (row : Row) :
    Outcome (List Value × Metrics) := do
  let keys ← (List.range keyCount).mapM fun i => row.get (groupKeyColumn i)
  let cell ← metricsOf metrics row
  checkKeys keys
  return (keys, cell)

/-- The cells of rows; of rows with the same keys the last counts. -/
def cellMap (keyCount : Nat) (metrics : List Metric) (records : List Row) : Outcome CellMap := do
  return keyed Value.equalItems (← records.mapM (groupOf keyCount metrics))

/-- The cell of keys, empty if there is none. -/
def cellAt (keys : List Value) (cells : CellMap) : Outcome Metrics := do
  checkKeys keys
  return ((cells.find? fun c => Value.equalItems c.1 keys).map (·.2)).getD []

/-- The cells of a row of a table by column value. -/
abbrev ColumnCells := List (Value × Metrics)

/-- The cells of a row of a table: those of its keys and each column value. -/
def columnCells (columnValues : List Value) (keys : List Value) (cells : CellMap) :
    Outcome ColumnCells := do
  let pairs ← columnValues.mapM fun v => do
    return (v, ← cellAt (keys ++ [v]) cells)
  return keyed Value.equals pairs

/-! ## Requests -/

/-- The context of a request, all of whose fields must be columns. -/
def tableContext (w : Workspace) (r : TableRequest) : Session Context := do
  let c ← w.context r.toRequest r.metrics
  let fields := (r.columnField?.toList ++ r.rowField?.toList) ++ r.rowFields
  fields.forM fun f => discard (c.schema.require (.text f) : Outcome String)
  r.metrics.forM fun m => do
    if m.agg != .count then discard (c.schema.require (.text m.field) : Outcome String)
  return c

/-- The values of the column field by their numbers of rows. -/
def columnValues (w : Workspace) (c : Context) (field : String) : Session (List Value) := do
  let query ← c.topKeys (.text field) (.countOf field) (.int w.settings.pivotMaxColumns) [] .top
    .null
  columnOf keyColumn (← Session.records query)

/-- The cells of all combinations of keys of the fields. -/
def queryCells (c : Context) (fields : List String) (metrics : List Metric) :
    Session CellMap := do
  cellMap fields.length metrics
    (← Session.records (← c.grouped (fields.map .text) metrics))

/-! ## Tables -/

/-- A group of a table. -/
structure RowGroup where
  field : String
  count : Int
  /-- The field with its number of keys. -/
  label : String
  cells : ColumnCells
  deriving DecidableEq

/-- The label of a field with a number. -/
def countedLabel (field : String) (n : Int) : Outcome String := do
  return s!"{field} ({← Value.wholeText n})"

/-- A pivot table. -/
structure Table where
  columnField? : Option String
  columnValues : List Value
  metrics : List Metric
  groups : List RowGroup
  rowCount : Int
  /-- The line that tells the number of rows. -/
  rowCountText : String
  deriving DecidableEq

/-- The groups of fields under a summary, one query after the other. -/
def rowGroups (c : Context) (summary : ColumnCells) : List String → Session (List RowGroup)
  | [] => pure []
  | f :: rest => do
    let n ← Session.count (← c.keyCount (.text f) [])
    let label ← countedLabel f n
    return ⟨f, n, label, summary⟩ :: (← rowGroups c summary rest)

/-- The column values of a table and the summary under each of them. -/
def tableHead (w : Workspace) (c : Context) (r : TableRequest) :
    Session (List Value × ColumnCells) := do
  match r.columnField? with
  | none => return ([], [])
  | some field =>
    let values ← columnValues w c field
    if r.metrics.isEmpty then return (values, [])
    let cells ← queryCells c [field] r.metrics
    return (values, ← columnCells values [] cells)

/-- The pivot table of a request. -/
def table (w : Workspace) (r : TableRequest) : Session Table := do
  match r.rowFields with
  | [] => reject .missingParameter "rows is required"
  | first :: _ =>
    let c ← tableContext w r
    let (values, summary) ← tableHead w c r
    let groups ← rowGroups c summary r.rowFields
    let rowCount ← Session.count (← c.grouped [] [.countOf first])
    let rowCountText := s!"Total: {← Value.wholeText rowCount} rows"
    return ⟨r.columnField?, values, r.metrics, groups, rowCount, rowCountText⟩

/-! ## Items of a group -/

/-- An item of a group. -/
structure RowItem where
  key : Value
  cells : ColumnCells
  deriving DecidableEq

/-- A page of the items of a group. -/
structure RowItems where
  field : String
  /-- The field with its number of keys. -/
  label : String
  items : List RowItem
  total : Int
  page : Page
  deriving DecidableEq

/-- Whether there are items behind the page. -/
def RowItems.hasMore (r : RowItems) : Bool :=
  r.page.offset + r.items.length < r.total

/-- The metric of a label, null if there is none. A label finds itself, even if it is not a number
and so equals nothing. -/
def metricAt (label : Value) (metrics : Metrics) : Value :=
  ((metrics.find? fun m => m.1 == label || m.1.equals label).map (·.2)).getD .null

/-- The number that a key is sorted by: the metric of its cell under the column value. -/
def sortValue (cells : CellMap) (sort : ItemSort) (key : Value) : Outcome (Option Binary64) := do
  let cell ← cellAt [key, .text sort.columnValue] cells
  (metricAt (← asKey sort.metric.label) cell).toReal?

/-- The keys in the order of a sort: those that have a number in the order of their numbers, equal
ones as they come, and then those that have none. -/
def sortKeys (cells : CellMap) (sort : ItemSort) (keys : List Value) : Outcome (List Value) := do
  let ranked ← keys.mapM fun k => do return (k, ← sortValue cells sort k)
  let rank (x : Binary64) : Binary64 := if sort.descending then x.neg else x
  let present := ranked.filterMap fun (k, x?) => x?.map fun x => (k, rank x)
  let missing := ranked.filterMap fun (k, x?) => if x?.isNone then some k else none
  let sorted := sortedBy (fun p : Value × Binary64 => !p.2.isNaN) (fun p q => p.2.lt q.2) present
  return sorted.map (·.1) ++ missing

/-- The column values of a group's items and their cells. -/
def itemHead (w : Workspace) (c : Context) (r : TableRequest) (rowField : String) :
    Session (List Value × CellMap) := do
  match r.columnField? with
  | none => return ([], [])
  | some field =>
    if r.metrics.isEmpty then return ([], [])
    let values ← columnValues w c field
    return (values, ← queryCells c [rowField, field] r.metrics)

/-- The keys on a page. Without a sort the query for keys is for the page; with one it is for all
keys, because cells decide their order. -/
def pageKeys (c : Context) (rowField : String) (page : Page) (cells : CellMap) :
    Option ItemSort → Session (List Value)
  | none => do
    let query ← c.sortedKeys (.text rowField) (.int page.offset) (.int page.limit)
    columnOf keyColumn (← Session.records query)
  | some sort => do
    let records ← Session.records (← c.sortedKeys (.text rowField) .null .null)
    let keys ← columnOf keyColumn records
    return page.slice (← sortKeys cells sort keys)

/-- The items that a request asks for. A sort only counts where there are column values. -/
def rowItems (w : Workspace) (r : TableRequest) : Session RowItems := do
  match r.rowField? with
  | none => reject .missingParameter "rowField is required"
  | some rowField =>
    let page ← Page.ofRequest r.offset r.limit w.settings.pivotDefaultLimit
      w.settings.pivotMaxLimit
    let c ← tableContext w r
    let (values, cells) ← itemHead w c r rowField
    let total ← Session.count (← c.keyCount (.text rowField) [])
    let keys ← pageKeys c rowField page cells (if values.isEmpty then none else r.sort?)
    let items ← (keys.mapM fun k => do
      return ⟨k, ← columnCells values [k] cells⟩ : Outcome (List RowItem))
    return ⟨rowField, ← countedLabel rowField total, items, total, page⟩

/-! ## As records -/

/-- Cells as a record; keys become texts as told. -/
def cellsValue (keyText : Value → Outcome String) (cells : ColumnCells) : Outcome Value := do
  let members ← cells.mapM fun (v, metrics) => do
    let inner ← metrics.mapM fun (label, x) => do return (← keyText label, x)
    return (← keyText v, Value.record inner)
  return .record members

/-- The table as a record; keys of cells become texts as told. -/
def Table.toValue (keyText : Value → Outcome String) (t : Table) : Outcome Value := do
  let metric (m : Metric) : Value :=
    .record [("alias", m.label), ("field", .text m.field), ("agg", .text m.agg.name)]
  let groups ← t.groups.mapM fun g => do
    return Value.record [("rowLabel", .text g.field),
      ("displayLabel", .text g.label),
      ("rowInfo", .record [("count", .int g.count)]), ("cells", ← cellsValue keyText g.cells),
      ("items", .list [])]
  return .record [
    ("columnField", .record [("name", (t.columnField?.map Value.text).getD .null),
      ("values", .list t.columnValues), ("metrics", .list (t.metrics.map metric))]),
    ("rowGroups", .list groups),
    ("summary", .record [("rowCount", .int t.rowCount),
      ("rowCountText", .text t.rowCountText)])]

/-- The items as a record; keys of cells become texts as told. -/
def RowItems.toValue (keyText : Value → Outcome String) (r : RowItems) : Outcome Value := do
  let items ← r.items.mapM fun i => do
    return Value.record [("valueLabel", i.key), ("displayLabel", i.key),
      ("cells", ← cellsValue keyText i.cells)]
  return .record [("rowField", .text r.field),
    ("rowLabel", .text r.label), ("items", .list items),
    ("total", .int r.total), ("offset", .int r.page.offset), ("limit", .int r.page.limit),
    ("hasMore", .bool r.hasMore)]

end Crosstab.View
