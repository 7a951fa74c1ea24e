import Crosstab.Value.Convert
import Crosstab.Text.Search

/-!
# Aggregations

A request may spell one in any case, with spaces for underscores, or by one of a few other names.

Models `normalize_aggregation` and `aggregate_expr`.
-/

namespace Crosstab.Sql

open Text

/-- How the values of a group are put together. -/
inductive Aggregation where
  | sum
  | avg
  | min
  | max
  /-- The number of rows. -/
  | count
  /-- The number of distinct values. -/
  | countDistinct
  deriving Repr, DecidableEq, Inhabited

namespace Aggregation

/-- All aggregations, in the order messages list them. -/
def all : List Aggregation := [.sum, .avg, .min, .max, .count, .countDistinct]

/-- The name of the aggregation. -/
def name : Aggregation → String
  | .sum => "sum"
  | .avg => "avg"
  | .min => "min"
  | .max => "max"
  | .count => "count"
  | .countDistinct => "count_distinct"

/-- The other names that aggregations go by. -/
def aliases : List (String × Aggregation) :=
  [("average", .avg), ("mean", .avg), ("cnt", .count), ("distinct", .countDistinct),
    ("countdistinct", .countDistinct)]

/-- The aggregation of a name in its plain spelling. -/
def ofName? (s : String) : Option Aggregation :=
  (aliases.lookup s).or (all.find? (·.name == s))

/-- The plain spelling of a name. -/
def plainSpelling (s : String) : String :=
  replaceChar ' ' "_" (lower (trim s))

/-- The aggregation that a request asks for, none if it is not known; without one it is the
sum. -/
def ofRequest (v : Value) : Outcome (Option Aggregation) := do
  return ofName? (plainSpelling (← v.textOr "sum"))

/-- The aggregation applied to a column. -/
def expr (a : Aggregation) (column : String) : String :=
  match a with
  | .sum => s!"SUM({column})"
  | .avg => s!"AVG({column})"
  | .min => s!"MIN({column})"
  | .max => s!"MAX({column})"
  | .count => "COUNT(*)"
  | .countDistinct => s!"COUNT(DISTINCT {column})"

end Aggregation

/-- The aggregation that a request asks for, applied to a column. -/
def aggregateExpr (v : Value) (column : String) : Outcome String := do
  match ← Aggregation.ofRequest v with
  | some a => return a.expr column
  | none => throw (.unusable (.aggregation v.display))

end Crosstab.Sql
