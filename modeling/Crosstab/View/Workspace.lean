import Crosstab.Pivot.Query
import Crosstab.Pivot.Request
import Crosstab.Pivot.TopN
import Crosstab.Session

/-!
# The workspace of views

All views work with the settings and the schemas of the layers. Here the context of a pivot request
is put together. Each of its top-n filters is answered by a query of its own, over the other filters
and without any other top-n filter, and becomes a restriction to the keys that come back.

Models `context`, `_keys` and `resolve_axis_keys` of `PivotAggregationEngine`.
-/

namespace Crosstab

open Pivot Sql

/-- The settings and the schemas that views work with. -/
structure Workspace where
  settings : Settings
  schemaOf : Layer → Outcome Schema

namespace Workspace

/-- The schema of the layer that a request selects. -/
def schema (w : Workspace) (selector : Value) : Outcome Schema := do
  w.schemaOf (← Layer.resolve selector ((w.settings.defaultLayer?.map .text).getD .null))

/-- The keys that a query returns, each once. -/
def keys (query : Fragment) : Session (List Value) := do
  let records ← Session.records query
  return distinctKeys (← columnOf keyColumn records)

/-- The restriction that a top-n filter comes to. -/
def resolveTopN (c : Context) (metrics : List Metric) (t : TopN) : Session Restriction := do
  let metric ← t.metricIn metrics
  let found ← keys (← c.topKeys t.field metric (.int t.n) [] t.ranking .null)
  c.axisFilter t.field found

/-- The restrictions that top-n filters come to, one query after the other. -/
def resolveAll (c : Context) (metrics : List Metric) : List TopN → Session (List Restriction)
  | [] => pure []
  | t :: rest => do
    let r ← resolveTopN c metrics t
    return r :: (← resolveAll c metrics rest)

/-- The context of a pivot request for the given metrics. -/
def context (w : Workspace) (r : Request) (metrics : List Metric) : Session Context := do
  let schema ← w.schema r.layer
  let (entries, topNs) ← TopN.split r.filters
  let c ← Context.make schema w.settings r.time r.timeField (entries.map .entry)
  if topNs.isEmpty then return c
  c.withFilters (← resolveAll c metrics topNs)

/-- The keys of an axis, no more than so many: its selected items, or those that come first by the
metric. -/
def axisKeys (w : Workspace) (c : Context) (axis : Axis) (metric : Metric) (maxCount : Int) :
    Session (List Value) := do
  let field := Value.text axis.field
  let _ ← c.schema.require field
  if axis.manual then return (axis.manualKeys (some maxCount)).map .text
  let n := min (axis.topN?.getD w.settings.defaultTopN) maxCount
  keys (← c.topKeys field metric (.int n) [] axis.ranking .null)

end Workspace

end Crosstab
