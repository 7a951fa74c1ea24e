import Crosstab.Paging
import Crosstab.Pivot.Axis
import Crosstab.Pivot.Context
import Crosstab.Sql.Select
import Crosstab.Sql.TimeBucket

/-!
# The queries of pivot views

Keys are told as text, the missing value by its label, so the keys of one query can restrict the
next. A ranking goes by the metric and then by the first row of each group: ties stay in the order
of the rows, and pages of a ranking do not overlap.

Models `PivotQueries`: `top_keys`, `axis_filter`, `key_count`, `matrix`, `time_series`,
`sorted_keys` and `grouped`.
-/

namespace Crosstab.Pivot

open Crosstab.Filter Sql

/-! ## Names of result columns -/

/-- The key of a group. -/
def keyColumn : String := "pv_key"

/-- The column key of a cell. -/
def colColumn : String := "pv_col"

/-- The row key of a cell. -/
def rowColumn : String := "pv_row"

/-- The time of a point. -/
def timeColumn : String := "pv_ts"

/-- The value of the metric. -/
def metricColumn : String := "pv_metric"

/-- The first row of a group. -/
def firstColumn : String := "pv_first_seen"

/-- The key of a rank among several. -/
def groupKeyColumn (i : Nat) : String := s!"pv_k{i}"

/-- The metric of a rank among several. -/
def groupMetricColumn (i : Nat) : String := s!"pv_m{i}"

namespace Context

/-! ## Queries -/

/-- The key of a field in a statement. -/
def key (field : Value) (c : Context) : Outcome String := do
  return keyExpr (← c.schema.column field)

/-- The rows under a condition, with the given columns. -/
def selectWhere (columns : List String) (condition : Fragment) (c : Context) : Select :=
  (Select.ofColumns columns).fromTable c.schema.fromClause |>.filter condition

/-- Limits a statement to a number of rows, unless that is null, and starts at an offset that
counts as true. -/
def paged (limit offset : Value) (s : Select) : Outcome Select := do
  let limited ← if limit == .null then pure s else s.limitTo limit
  if offset.truthy then limited.startAt offset else return limited

/-- The keys of a field, those first that the ranking by the metric puts first. -/
def topKeys (field : Value) (metric : Metric) (n : Value) (extra : List Restriction)
    (ranking : Ranking) (offset : Value) (c : Context) : Outcome Fragment := do
  let key ← c.key field
  let value ← metric.expr c.schema
  let condition ← c.whereWith extra
  let direction := if ranking == .bottom then "ASC" else "DESC"
  let ranked := c.selectWhere [s!"{key} AS {keyColumn}", s!"{value} AS {metricColumn}",
    s!"MIN(t.rowid) AS {firstColumn}"] condition
  let ordered := ranked.groupBy [key] |>.orderByTerms
    s!"{metricColumn} {direction} NULLS LAST, {firstColumn} ASC"
  (← paged n offset ordered).build

/-- The restriction of a field to keys. The keys of a date field are compared as text. -/
def axisFilter (field : Value) (keys : List Value) (c : Context) : Outcome Restriction :=
  if c.schema.fieldType field != .date then .ok (.entry (.checkbox field keys))
  else if keys.isEmpty then .fragment <$> Fragment.raw "1=0"
  else do
    let column ← c.schema.column field
    return .fragment (← (Predicate.atom (.member (.asKey column) false keys)).fragment)

/-- The number of keys of a field. -/
def keyCount (field : Value) (extra : List Restriction) (c : Context) : Outcome Fragment := do
  let key ← c.key field
  let groups := (c.selectWhere [s!"{key} AS {keyColumn}"] (← c.whereWith extra)).groupBy [key]
  let counted := (Select.ofColumns ["COUNT(*) AS pv_count"]).fromTable "pv_groups"
  (With.empty.subquery "pv_groups" (← groups.build) |>.mainQuery counted.build).build

/-- The metric of each pair of a column key and a row key among the given ones, in the rows that
meet further restrictions. -/
def matrixWith (colField rowField : Value) (metric : Metric) (colKeys rowKeys : List Value)
    (extra : List Restriction) (c : Context) : Outcome Fragment := do
  let colKey ← c.key colField
  let rowKey ← c.key rowField
  let restrictions := extra ++ [← c.axisFilter colField colKeys, ← c.axisFilter rowField rowKeys]
  let value ← metric.expr c.schema
  let condition ← c.whereWith restrictions
  (c.selectWhere [s!"{colKey} AS {colColumn}", s!"{rowKey} AS {rowColumn}",
    s!"{value} AS {metricColumn}"] condition |>.groupBy [colKey, rowKey]).build

/-- The metric of each pair of a column key and a row key among the given ones. -/
def matrix (colField rowField : Value) (metric : Metric) (colKeys rowKeys : List Value)
    (c : Context) : Outcome Fragment :=
  c.matrixWith colField rowField metric colKeys rowKeys []

/-- The metric of each row key over time, in the order of times. -/
def timeSeries (rowField : Value) (metric : Metric) (bucket : Value) (extra : List Restriction)
    (c : Context) : Outcome Fragment := do
  let time := Value.text c.timeField
  let start ← bucketExpr (← c.schema.column time) (c.schema.temporalKind? time) bucket
  let rowKey ← c.key rowField
  let value ← metric.expr c.schema
  let condition ← c.whereWith extra
  (c.selectWhere [s!"{rowKey} AS {rowColumn}", s!"{start} AS {timeColumn}",
    s!"{value} AS {metricColumn}"] condition |>.groupBy [rowKey, start]
    |>.orderByTerms s!"{timeColumn} ASC, {rowColumn} ASC").build

/-- The keys of a field in increasing order. -/
def sortedKeys (field offset limit : Value) (c : Context) : Outcome Fragment := do
  let key ← c.key field
  let groups := (c.selectWhere [s!"{key} AS {keyColumn}"] (← c.whereWith [])).groupBy [key]
  let ordered ← groups.orderBy keyColumn (.text "ASC")
  (← paged limit offset ordered).build

/-- Every metric of each combination of keys of the fields. -/
def grouped (fields : List Value) (metrics : List Metric) (c : Context) : Outcome Fragment := do
  let keys ← fields.mapM c.key
  let values ← metrics.mapM (·.expr c.schema)
  let keyTerms := keys.zipIdx.map fun (k, i) => s!"{k} AS {groupKeyColumn i}"
  let valueTerms := values.zipIdx.map fun (v, i) => s!"{v} AS {groupMetricColumn i}"
  (c.selectWhere (keyTerms ++ valueTerms) (← c.whereWith []) |>.groupBy keys).build

end Context

end Crosstab.Pivot
