import Crosstab.Calendar.Iso
import Crosstab.Json.Reader
import Crosstab.Number.Numeral
import Crosstab.Text.Base64
import Crosstab.Text.Utf8

/-!
# Failures

A failure is told by its cause. A request is rejected with a code and a detail before any statement
is made from it; a statement may fail to come together; the channel may fail to run one; and a value
may be of the wrong kind for what is done with it. The words of every failure are in
`Failure.message`.

Models `ErrorCode`, `ValidationError`, `CompilationError` and `QueryExecutionError`.
-/

namespace Crosstab

/-! ## Rejected requests -/

/-- What is wrong with a request. -/
inductive ErrorCode where
  | invalidFilterModel
  | invalidTimeWindow
  | layerNotFound
  | fieldNotAllowed
  | invalidOperator
  | invalidValue
  | invalidSort
  | invalidPagination
  | invalidCursor
  | invalidMetric
  | missingParameter
  | queryExecutionFailed
  deriving Repr, DecidableEq

namespace ErrorCode

/-- All codes. -/
def all : List ErrorCode :=
  [.invalidFilterModel, .invalidTimeWindow, .layerNotFound, .fieldNotAllowed, .invalidOperator,
    .invalidValue, .invalidSort, .invalidPagination, .invalidCursor, .invalidMetric,
    .missingParameter, .queryExecutionFailed]

/-- The name by which clients know the code. -/
def name : ErrorCode → String
  | .invalidFilterModel => "INVALID_FILTER_MODEL"
  | .invalidTimeWindow => "INVALID_TIME_WINDOW"
  | .layerNotFound => "LAYER_NOT_FOUND"
  | .fieldNotAllowed => "FIELD_NOT_ALLOWED"
  | .invalidOperator => "INVALID_OPERATOR"
  | .invalidValue => "INVALID_VALUE"
  | .invalidSort => "INVALID_SORT"
  | .invalidPagination => "INVALID_PAGINATION"
  | .invalidCursor => "INVALID_CURSOR"
  | .invalidMetric => "INVALID_METRIC"
  | .missingParameter => "MISSING_PARAMETER"
  | .queryExecutionFailed => "QUERY_EXECUTION_FAILED"

/-- The code in words. -/
def message : ErrorCode → String
  | .invalidFilterModel => "Malformed filter model"
  | .invalidTimeWindow => "Invalid time window"
  | .layerNotFound => "Unknown layer"
  | .fieldNotAllowed => "Field not allowed"
  | .invalidOperator => "Unsupported filter operator"
  | .invalidValue => "Invalid filter value"
  | .invalidSort => "Invalid sort"
  | .invalidPagination => "Invalid pagination"
  | .invalidCursor => "Invalid cursor"
  | .invalidMetric => "Invalid metric"
  | .missingParameter => "Missing required parameter"
  | .queryExecutionFailed => "Query execution failed"

/-- The code of a name. -/
def ofName? (s : String) : Option ErrorCode :=
  all.find? (·.name == s)

end ErrorCode

/-! ## Statements that do not come together -/

/-- Why parts do not make up a statement. -/
inductive Miscompiled where
  /-- The text has another number of placeholders than there are arguments. -/
  | placeholders (expected actual : Nat) (sql : String)
  /-- A sort direction that is none; it is given in quoted form. -/
  | direction (shown : String)
  /-- A row limit below one. -/
  | limit (shown : String)
  /-- A row offset below zero. -/
  | offset (shown : String)
  /-- A statement without a table. -/
  | noTable
  /-- Named subqueries without a main query. -/
  | noMainQuery
  deriving Repr, DecidableEq

/-- The cause in words. -/
def Miscompiled.message : Miscompiled → String
  | .placeholders expected actual sql =>
    s!"Placeholder count {expected} does not match {actual} args in: {sql}"
  | .direction shown => s!"ORDER BY direction must be ASC or DESC, got {shown}"
  | .limit shown => s!"LIMIT must be >= 1, got {shown}"
  | .offset shown => s!"OFFSET must be >= 0, got {shown}"
  | .noTable => "FROM clause is required"
  | .noMainQuery => "Main query is required for a CTE statement"

/-! ## Values out of place -/

/-- A value that has the right kind and still cannot be used. -/
inductive Unusable where
  | numeral (e : Number.NumeralError)
  | moment (e : Calendar.MomentError)
  | utf8 (e : Text.Utf8.DecodeError)
  | base64 (e : Text.Base64.DecodeError)
  /-- A number that is none cannot become a whole number. -/
  | notANumber
  | aggregation (text : String)
  | timeBucket (shown : String)
  | timeZone (name : String)
  | tableName (text : String)
  | setting (variable_ raw : String)
  | noDirectory
  deriving Repr, DecidableEq

/-- The cause in words. -/
def Unusable.message : Unusable → String
  | .numeral e => e.message
  | .moment e => e.message
  | .utf8 e => e.message
  | .base64 e => e.message
  | .notANumber => "cannot convert float NaN to integer"
  | .aggregation text => s!"Unsupported aggregation: {text}"
  | .timeBucket shown => s!"invalid time bucket {shown}"
  | .timeZone name => s!"Invalid time zone name: {name}"
  | .tableName text => s!"Invalid table name: {text}"
  | .setting variable_ raw => s!"Invalid value for {variable_}: {raw}"
  | .noDirectory => "No data directory configured"

/-- A value that an operation cannot be done with at all. -/
inductive Mismatch where
  /-- The operation is not defined on the value's kind. -/
  | kind
  /-- The value's kind has no such member. -/
  | member
  /-- A record has no such key. -/
  | key
  /-- A list has no such place. -/
  | index
  /-- A number is too large for its target. -/
  | overflow
  /-- A divisor is zero. -/
  | zeroDivisor
  deriving Repr, DecidableEq

/-- The mismatch in words. -/
def Mismatch.message : Mismatch → String
  | .kind => "a value is of the wrong kind"
  | .member => "a value has no such member"
  | .key => "a record has no such key"
  | .index => "a list has no such place"
  | .overflow => "a number is too large"
  | .zeroDivisor => "a divisor is zero"

/-! ## Failures -/

/-- Why an operation fails. -/
inductive Failure where
  /-- The request is rejected. -/
  | rejected (code : ErrorCode) (detail : String)
  /-- A statement does not come together. -/
  | miscompiled (cause : Miscompiled)
  /-- The channel failed to run a statement. -/
  | channel (detail sql : String)
  /-- A value cannot be used. -/
  | unusable (cause : Unusable)
  /-- A text is not JSON. -/
  | malformedJson (e : Json.SyntaxError)
  /-- A value is of the wrong kind. -/
  | mismatch (m : Mismatch)
  deriving Repr, DecidableEq

namespace Failure

/-- The failure in words. -/
def message : Failure → String
  | .rejected code detail =>
    if detail.isEmpty then code.message else s!"{code.message}: {detail}"
  | .miscompiled cause => cause.message
  | .channel detail _ => s!"{ErrorCode.queryExecutionFailed.message}: {detail}"
  | .unusable cause => cause.message
  | .malformedJson e => e.message
  | .mismatch m => m.message

/-- Whether the failure is about a value's content: rejections, unusable values and malformed
texts are, statements, channels and wrong kinds are not. -/
def isValueFault : Failure → Bool
  | .rejected _ _ | .unusable _ | .malformedJson _ => true
  | .miscompiled _ | .channel _ _ | .mismatch _ => false

/-- Whether the failure is one that a view answers for: a rejection, a statement that does not
come together, or a failed channel. -/
def isAnswered : Failure → Bool
  | .rejected _ _ | .miscompiled _ | .channel _ _ => true
  | .unusable _ | .malformedJson _ | .mismatch _ => false

/-- The failure to read a JSON text. -/
def ofRead : Json.ReadError → Failure
  | .malformed e => .malformedJson e
  | .numeral e => .unusable (.numeral e)

end Failure

/-- The outcome of an operation on request data. -/
abbrev Outcome := Except Failure

/-- Rejects a request. -/
def reject {α : Type} (code : ErrorCode) (detail : String) : Outcome α :=
  .error (.rejected code detail)

/-- Fails on a value of the wrong kind. -/
def mismatch {α : Type} (m : Mismatch) : Outcome α :=
  .error (.mismatch m)

end Crosstab
