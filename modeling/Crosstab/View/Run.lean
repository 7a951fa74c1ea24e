import Crosstab.View.Breakdown
import Crosstab.View.Distinct
import Crosstab.View.Drilldown
import Crosstab.View.Grid
import Crosstab.View.Heatmap
import Crosstab.View.Table

/-!
# Views by name

Each view reads its own request and comes to a response of its own; a response becomes a record for
clients.

Models `run_view` of `FlowPivotTester`.
-/

namespace Crosstab

open Pivot View

/-- The fields of a layer. -/
structure FieldList where
  layer : Layer
  fields : List FieldMeta
  deriving DecidableEq

/-- The fields of the layer that a request selects. -/
def fieldList (w : Workspace) (request : Value) : Outcome FieldList := do
  let schema ← w.schema (← request.get "layer")
  return ⟨schema.layer, schema.fieldMeta⟩

/-- What a view comes to. -/
inductive Response where
  | chart (c : Chart)
  | breakdown (b : Breakdown)
  | heatmap (p : HeatmapPage)
  | drilldown (d : Drilldown)
  | distinct (p : DistinctPage)
  | table (t : Table)
  | items (r : RowItems)
  | grid (g : GridPage)
  | fields (f : FieldList)

namespace Response

/-- The response as a record. Values that are keys in it become texts as told. -/
def toValue (keyText : Value → Outcome String) : Response → Outcome Value
  | .chart c => .ok c.toValue
  | .breakdown b => .ok b.toValue
  | .heatmap p => .ok p.toValue
  | .drilldown d => d.toValue keyText
  | .distinct p => .ok p.toValue
  | .table t => t.toValue keyText
  | .items r => r.toValue keyText
  | .grid g => .ok g.toValue
  | .fields f => .ok (.record [("layer", .text f.layer.code),
      ("fields", .list (f.fields.map fun m => .record m.toRecord))])

end Response

/-- A view. -/
inductive ViewName where
  | chart
  | breakdown
  | heatmap
  | drilldown
  | distinct
  | pivot
  | grid
  | fields
  deriving Repr, DecidableEq

namespace ViewName

/-- All views. -/
def all : List ViewName :=
  [.chart, .breakdown, .heatmap, .drilldown, .distinct, .pivot, .grid, .fields]

/-- The name of the view. -/
def name : ViewName → String
  | .chart => "chart"
  | .breakdown => "breakdown"
  | .heatmap => "heatmap"
  | .drilldown => "drilldown"
  | .distinct => "distinct"
  | .pivot => "pivot"
  | .grid => "grid"
  | .fields => "fields"

/-- The view of a name. -/
def ofName? (s : String) : Option ViewName :=
  all.find? (·.name == s)

/-- A request, which must be a record. -/
def recordOf (v : Value) : Outcome Value :=
  match v with
  | .record _ => .ok v
  | _ => mismatch .member

/-- The response of a view to a request. A pivot request that names a row field asks for the items
of its group. -/
def run (w : Workspace) (view : ViewName) (request : Value) : Session Response := do
  let request ← recordOf request
  match view with
  | .chart => return .chart (← View.chart w (← ChartRequest.ofRequest request))
  | .breakdown => return .breakdown (← View.breakdown w (← ChartRequest.ofRequest request))
  | .heatmap => return .heatmap (← View.heatmap w (← HeatmapRequest.ofRequest request))
  | .drilldown => return .drilldown (← View.drilldown w (← DrilldownRequest.ofRequest request))
  | .distinct => return .distinct (← View.distinct w (← DistinctRequest.ofRequest request))
  | .pivot =>
    if (← request.get "rowField").truthy then
      return .items (← View.rowItems w (← TableRequest.ofRequest request))
    else return .table (← View.table w (← TableRequest.ofRequest request))
  | .grid => return .grid (← View.grid w request)
  | .fields => return .fields (← fieldList w request)

end ViewName

end Crosstab
