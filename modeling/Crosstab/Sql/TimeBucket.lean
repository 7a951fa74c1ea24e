import Crosstab.Sql.Expression
import Crosstab.Text.Digit

/-!
# Time buckets

A bucket is given by a name or by a number of seconds, and groups the times of a column by the
multiples of its width; without a width every time is a bucket of its own.

Models `time_bucket_width` and `time_bucket_expr`.
-/

namespace Crosstab.Sql

open Text

/-- The named buckets and their widths in seconds. -/
def namedBuckets : List (String × Option Int) :=
  [("RAW", none), ("S10", some 10), ("SECOND", some 1), ("MI", some 60), ("MINUTE", some 60),
    ("HH", some 3600), ("HOUR", some 3600), ("DAY", some 86400)]

/-- Digits that are followed by an `S` for seconds, without it; other text as it is. -/
def dropSecondsMark (key : List Char) : List Char :=
  if key.getLast? == some 'S' && allDigits key.dropLast then key.dropLast else key

/-- The width in seconds of a bucket; none for raw times. -/
def bucketWidth (bucket : Value) : Outcome (Option Int) := do
  let positive (width : Int) : Outcome (Option Int) :=
    if width ≤ 0 then .error (.unusable (.timeBucket bucket.shown)) else .ok (some width)
  match bucket with
  | .null => return none
  | .bool _ => throw (.unusable (.timeBucket bucket.shown))
  | .int n => positive n
  | .real x => positive (← Value.truncate x)
  | v =>
    if v == .text "" then return none
    let key := upper (trim v.display)
    match namedBuckets.lookup key with
    | some width => return width
    | none =>
      let digits := dropSecondsMark key.toList
      if !allDigits digits then throw (.unusable (.timeBucket bucket.shown))
      positive (← Value.toInt (.text (String.ofList digits)))

/-- The epoch seconds of a column, cut down to the start of the bucket. -/
def bucketExpr (column : String) (kind? : Option TemporalKind) (bucket : Value) :
    Outcome String := do
  let seconds := epochExpr column kind?
  match ← bucketWidth bucket with
  | none => return seconds
  | some width => return s!"FLOOR({seconds} / {width}) * {width}"

end Crosstab.Sql
