import Crosstab.Value.Convert
import Crosstab.Text.Search

/-!
# Expressions over a column

A column is given by the SQL that names it, quoted and qualified; what is built here around it holds
no other input but the time zone, which is configuration.

Models `temporal_kind`, `text_expr`, `epoch_expr`, `date_expr`, `escape_like`, `ilike_expr` and
`key_expr`.
-/

namespace Crosstab.Sql

open Text

/-! ## Kinds of time -/

/-- The kinds of column that hold times. -/
inductive TemporalKind where
  /-- A point of time. -/
  | zoned
  /-- A reading of calendar and clock. -/
  | unzoned
  /-- A calendar date. -/
  | date
  deriving Repr, DecidableEq

namespace TemporalKind

/-- The name of the kind. -/
def name : TemporalKind → String
  | .zoned => "timestamptz"
  | .unzoned => "timestamp"
  | .date => "date"

/-- The kind of a name. -/
def ofName? (s : String) : Option TemporalKind :=
  [zoned, unzoned, date].find? (·.name == s)

/-- The kind of a column of the given engine type. -/
def ofEngineType? (engineType : String) : Option TemporalKind :=
  let t := lower engineType
  if holds t "timestamp" then
    if holds t "time zone" || holds t "tz" then some .zoned else some .unzoned
  else if t == "date" then some .date
  else none

end TemporalKind

/-! ## Expressions -/

/-- The column as text. -/
def textExpr (column : String) : String :=
  s!"CAST({column} AS VARCHAR)"

/-- The epoch seconds of a temporal column; a column that holds numbers stands for itself. -/
def epochExpr (column : String) (kind? : Option TemporalKind) : String :=
  match kind? with
  | some _ => s!"epoch({column})"
  | none => column

/-- The name of a time zone as it may stand in a quoted literal. -/
def zoneName (zone : String) : Outcome String :=
  if zone.toList.contains '\'' then .error (.unusable (.timeZone zone)) else .ok zone

/-- The calendar date of a column in a time zone. A column without zone is read in universal time
if so configured, and otherwise as it stands; numbers are epoch seconds. -/
def dateExpr (column : String) (kind? : Option TemporalKind) (zone : String)
    (unzonedIsUtc : Bool) : Outcome String :=
  match kind? with
  | some .zoned => do
    let z ← zoneName zone
    return s!"CAST(timezone('{z}', {column}) AS DATE)"
  | some .unzoned =>
    if unzonedIsUtc && upper zone != "UTC" then do
      let z ← zoneName zone
      return s!"CAST(timezone('{z}', timezone('UTC', {column})) AS DATE)"
    else .ok s!"CAST({column} AS DATE)"
  | some .date => .ok column
  | none => .ok s!"CAST(to_timestamp({column}) AS DATE)"

/-! ## Patterns -/

/-- A text as a pattern that only itself matches: wildcards and the escape are escaped. -/
def escapeLike (s : String) : String :=
  replaceChar '_' "\\_" (replaceChar '%' "\\%" (replaceChar '\\' "\\\\" s))

/-- The column as text, compared with a pattern without regard to case. -/
def likeExpr (column : String) : String :=
  textExpr column ++ " ILIKE ? ESCAPE '\\'"

/-! ## Grouping keys -/

/-- The label of a missing value. -/
def emptyLabel : String := "(empty)"

/-- The column as a grouping key: its text, or the label of the missing value. -/
def keyExpr (column : String) : String :=
  s!"COALESCE(NULLIF({textExpr column}, ''), '{emptyLabel}')"

end Crosstab.Sql
