import Crosstab.Command.Options
import Crosstab.Command.PointInTime

/-!
# Requests from the command line

The request of a view is put together from the options, each view taking the ones that it has a
use for.

Models `parse_metric` and `build_request`.
-/

namespace Crosstab.Command

open Text

/-- The metric that a text names by its field and, behind a colon, its aggregation. -/
def metricValue (v : Value) : Outcome Value := do
  let (field, agg?) := cutAt ':' (← v.asText)
  let agg := if (agg?.getD "").isEmpty then "sum" else agg?.getD ""
  return .record [("field", .text field), ("agg", .text agg)]

/-- The filter that a JSON text tells. -/
def filterValue (v : Value) : Outcome Value :=
  match v with
  | .text s => (Json.read s).mapError .ofRead
  | _ => mismatch .kind

namespace Wanted

/-- The axis of a field with as many keys as are wanted. -/
def axis (w : Wanted) (field : Value) : Value :=
  .record [("field", field), ("topN", w.topN)]

/-- The part of the request that only its view has a use for. -/
def viewMembers (w : Wanted) (metric : Value) : List (String × Value) :=
  match ViewName.ofName? w.view with
  | some .chart | some .breakdown =>
    [("col", w.axis w.col), ("row", w.axis w.row), ("metric", metric)]
  | some .heatmap =>
    [("colField", w.col), ("rowField", w.row), ("metric", metric),
      ("page", .record [("offset", w.offset), ("limit", w.limit)])]
  | some .drilldown =>
    [("colField", w.col), ("rowField", w.row), ("metric", metric), ("selectedColKey", w.colKey),
      ("rowKeys", w.rowKeys.orElse (.list [])), ("timeBucket", w.timeBucket)]
  | some .distinct =>
    [("field", w.col), ("search", w.search), ("cursor", w.cursor), ("limit", w.limit),
      ("includeSelf", w.includeSelf)]
  | some .pivot =>
    [("column", .record [("field", w.col)]), ("rows", .list [.record [("field", w.row)]]),
      ("values", .list [metric]), ("offset", w.offset), ("limit", w.limit)] ++
      if w.rowItems.truthy then [("rowField", w.row)] else []
  | some .grid =>
    [("columns", w.columns.orElse .null), ("offset", w.offset), ("limit", w.limit)]
  | some .fields | none => []

/-- The time window that is wanted, if one is. -/
def timeMembers (now : Int) (w : Wanted) : Outcome (List (String × Value)) := do
  if !w.fromTime.truthy && !w.toTime.truthy then return []
  let low ← pointInTime now w.fromTime
  let high ← pointInTime now w.toTime
  return [("time", .record [("fromEpoch", low), ("toEpoch", high)])]

/-- The filter that is wanted, if one is. -/
def filterMembers (w : Wanted) : Outcome (List (String × Value)) := do
  if !w.filter.truthy then return []
  return [("filters", ← filterValue w.filter)]

/-- The request for what is wanted, at a time in microseconds since the start of 1970. -/
def request (now : Int) (w : Wanted) : Outcome Value := do
  let time ← w.timeMembers now
  let filters ← w.filterMembers
  let metric ← metricValue w.metric
  return .record (("layer", w.layer) :: time ++ filters ++ w.viewMembers metric)

end Wanted

end Crosstab.Command
