import Crosstab.Pivot.Axis
import Crosstab.Value.Order

/-!
# Top-n filters

A top-n filter keeps the first values of a field by a metric. A request puts them among its other
filters; they are told apart before those are read, because what they keep is only known from the
rows of a query.

Models `TopNFilter`, `split_top_n_filters` and `_metric_for`.
-/

namespace Crosstab.Pivot

open Crosstab.Filter Text

/-- Keeps as many values of a field as come first by a metric. -/
structure TopN where
  field : Value
  n : Int
  ranking : Ranking
  /-- The metric by its alias, identifier or field; null is the first of the request. -/
  valueKey : Value
  deriving DecidableEq

namespace TopN

/-- Reads the setting of an item that is enabled. -/
def ofSetting (item : Value) (setting : List (String × Value)) : Outcome TopN := do
  let member (name : String) : Value := (valueOf? name setting).getD .null
  let field ← required item "field" "filter.field"
  let n ← (member "n").toWhole "topN.n" 5 .missingParameter
  let word := lower ((member "mode").displayOr "top")
  match Ranking.ofName? word with
  | some ranking =>
    if n < 1 then malformed s!"topN for {field.shown}"
    return ⟨field, n, ranking, member "valueKey"⟩
  | none => malformed s!"topN for {field.shown}"

/-- Whether an item without its setting is still a filter. -/
def isPlain (members : List (String × Value)) : Bool :=
  ["mode", "op", "operator", "conditions"].any fun name => (valueOf? name members).isSome

/-- An item of a filter list as the plain item and the setting in it, either of which may be
absent. -/
def splitItem (item : Value) : Outcome (Option Value × Option TopN) :=
  match item with
  | .record members =>
    match (valueOf? "topN" members).getD .null with
    | .record setting => do
      let enabled := ((valueOf? "enabled" setting).getD .null).truthy
      let topN? ← if enabled then some <$> ofSetting item setting else pure none
      let stripped := members.filter (·.1 != "topN")
      return (if isPlain stripped then some (.record stripped) else none, topN?)
    | _ => .ok (some item, none)
  | _ => .ok (some item, none)

/-- The entries of a filter and its settings; only a filter list holds settings. -/
def split (filter : Value) : Outcome (List Entry × List TopN) :=
  match filter with
  | .list items => do
    let parts ← items.mapM splitItem
    return (← readEntries (.list (parts.filterMap (·.1))), parts.filterMap (·.2))
  | v => do return (← readEntries v, [])

/-- The metric that the setting ranks by. -/
def metricIn (metrics : List Metric) (t : TopN) : Outcome Metric :=
  match metrics with
  | [] => reject .invalidMetric s!"topN on {t.field.shown} needs a metric"
  | first :: _ =>
    if t.valueKey == .null then .ok first
    else
      let isNamed (m : Metric) : Bool :=
        t.valueKey.isIn [m.givenLabel, .text m.id, .text m.field]
      match metrics.find? isNamed with
      | some m => .ok m
      | none => reject .invalidMetric s!"topN valueKey {t.valueKey.shown} matches no metric"

end TopN

end Crosstab.Pivot
