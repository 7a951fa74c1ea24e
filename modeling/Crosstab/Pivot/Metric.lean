import Crosstab.Schema
import Crosstab.Sql.Aggregation

/-!
# Metrics

A metric is a measure that pivot views show. It aggregates one field; it is known by an identifier
made of both and shown under its alias, or else under a label made of both.

Models `MetricDef`, `_require` and `_first_metric`.
-/

namespace Crosstab.Pivot

open Sql Text

/-- The member of a request that must be there, be more than blank text, and is named in the
rejection otherwise. -/
def required (data : Value) (key what : String) : Outcome Value :=
  let refused : Outcome Value := reject .missingParameter s!"{what} is required"
  match data with
  | .record members =>
    match (valueOf? key members).getD .null with
    | .null => refused
    | .text s => if isBlank s then refused else .ok (.text s)
    | v => .ok v
  | _ => refused

/-- A field and how its values are put together. -/
structure Metric where
  field : String
  agg : Aggregation
  /-- What the request wants the metric shown under, its alias; null if it gives none. -/
  givenLabel : Value
  deriving DecidableEq

namespace Metric

/-- The number of rows, as a metric of a field. -/
def countOf (field : String) : Metric :=
  ⟨field, .count, .null⟩

/-- The identifier of the metric. -/
def id (m : Metric) : String :=
  s!"{m.field}::{m.agg.name}"

/-- What the metric is shown under. -/
def label (m : Metric) : Value :=
  m.givenLabel.orElse (.text s!"{upper m.agg.name}: {m.field}")

/-- Reads a metric of a request, which messages call by the given name. -/
def ofRequest (what : String) (data : Value) : Outcome Metric :=
  match data with
  | .record members => do
    let member (name : String) : Option Value := valueOf? name members
    let field ← required data "field" s!"{what}.field"
    let given := ((member "agg").or ((member "aggregation").or (member "aggregate"))).getD .null
    match ← Aggregation.ofRequest given with
    | some agg => return ⟨field.display, agg, ((member "alias").getD .null).orElse .null⟩
    | none =>
      let names := ", ".intercalate (Aggregation.all.map (·.name))
      reject .invalidMetric s!"aggregation {given.shown}, expected one of {names}"
  | _ => reject .missingParameter s!"{what} is required"

/-- Reads the metric of a request for one metric, the first of its list if it gives a list. -/
def firstOf (members : List (String × Value)) : Outcome Metric :=
  let member (name : String) : Value := (valueOf? name members).getD .null
  match member "metric", member "metrics" with
  | .null, .list (m :: _) => ofRequest "metric" m
  | m, _ => ofRequest "metric" m

/-- The metric over the columns of a schema. -/
def expr (schema : Schema) (m : Metric) : Outcome String :=
  match m.agg with
  | .count => .ok (Aggregation.count.expr "*")
  | agg => do return agg.expr (← schema.column (.text m.field))

end Metric

end Crosstab.Pivot
