import Crosstab.Sql.Predicate
import Crosstab.Value.Display
import Crosstab.Text.Search

/-!
# Operators of filter conditions

A request may spell one by its name, by its sign or by one of several other names, in any case and
with spaces or underscores between words.

Models `Operator` and `parse_operator`.
-/

namespace Crosstab.Filter

open Sql Text

/-- What a condition asks of a field. -/
inductive Operator where
  | eq
  | ne
  | like
  | startsWith
  | endsWith
  | isIn
  | notIn
  | between
  | gt
  | gte
  | lt
  | lte
  | isNull
  | isNotNull
  deriving Repr, DecidableEq, Inhabited

namespace Operator

/-- All operators. -/
def all : List Operator :=
  [.eq, .ne, .like, .startsWith, .endsWith, .isIn, .notIn, .between, .gt, .gte, .lt, .lte,
    .isNull, .isNotNull]

/-- The name of the operator. -/
def name : Operator → String
  | .eq => "EQ"
  | .ne => "NE"
  | .like => "LIKE"
  | .startsWith => "STARTS_WITH"
  | .endsWith => "ENDS_WITH"
  | .isIn => "IN"
  | .notIn => "NOT_IN"
  | .between => "BETWEEN"
  | .gt => "GT"
  | .gte => "GTE"
  | .lt => "LT"
  | .lte => "LTE"
  | .isNull => "IS_NULL"
  | .isNotNull => "IS_NOT_NULL"

/-- The signs and other names of operators. -/
def aliases : List (String × Operator) := [
  ("=", .eq), ("==", .eq), ("EQUALS", .eq), ("EQUAL", .eq),
  ("!=", .ne), ("<>", .ne), ("NOT", .ne), ("NOT_EQUALS", .ne), ("NOTEQUAL", .ne),
  ("NOTEQUALS", .ne),
  ("CONTAINS", .like), ("STARTSWITH", .startsWith), ("ENDSWITH", .endsWith),
  (">", .gt), ("AFTER", .gt), (">=", .gte), ("<", .lt), ("BEFORE", .lt), ("<=", .lte),
  ("NOTIN", .notIn), ("ISNULL", .isNull), ("ISNOTNULL", .isNotNull)]

/-- The operator of a name in its plain spelling; other names also match without their
underscores. -/
def ofName? (key : String) : Option Operator :=
  ((all.find? (·.name == key)).or (aliases.lookup key)).or (aliases.lookup (replaceChar '_' "" key))

/-- The operator that a request names. -/
def ofRequest (v : Value) : Outcome Operator :=
  let spelled := if v == .null then "" else trim v.display
  if spelled.isEmpty then reject .invalidOperator "op is required"
  else
    match ofName? (replaceChar ' ' "_" (upper spelled)) with
    | some op => .ok op
    | none => reject .invalidOperator v.shown

end Operator

end Crosstab.Filter
