import Crosstab.Text.Case
import Crosstab.Value.Convert

/-!
# Settings

The settings are the limits and defaults of the engine. Each has a value of its own, which a
variable of the environment may replace.

Models `EngineSettings`, with `from_env`.
-/

namespace Crosstab

open Text

/-- The limits and defaults. -/
structure Settings where
  /-- The layer of a request that names none. -/
  defaultLayer? : Option String
  /-- The time zone that calendar dates are told in. -/
  timeZone : String
  /-- Times without zone are universal times. -/
  unzonedIsUtc : Bool
  chartMaxColumns : Int
  chartMaxColumnsMultiplePie : Int
  chartMaxRows : Int
  defaultTopN : Int
  heatmapMaxX : Int
  pivotMaxColumns : Int
  pivotDefaultLimit : Int
  pivotMaxLimit : Int
  heatmapDefaultLimit : Int
  heatmapMaxLimit : Int
  distinctDefaultLimit : Int
  distinctMaxLimit : Int
  gridDefaultLimit : Int
  gridMaxLimit : Int
  /-- The threads of the database, its own choice if none. -/
  threads? : Option Int
  deriving Repr, DecidableEq

namespace Settings

/-- The settings without any replacement. -/
def standard : Settings where
  defaultLayer? := none
  timeZone := "UTC"
  unzonedIsUtc := true
  chartMaxColumns := 5
  chartMaxColumnsMultiplePie := 6
  chartMaxRows := 5
  defaultTopN := 5
  heatmapMaxX := 50
  pivotMaxColumns := 50
  pivotDefaultLimit := 50
  pivotMaxLimit := 1000
  heatmapDefaultLimit := 100
  heatmapMaxLimit := 1000
  distinctDefaultLimit := 50
  distinctMaxLimit := 200
  gridDefaultLimit := 100
  gridMaxLimit := 1000
  threads? := none

instance : Inhabited Settings := ⟨standard⟩

/-! ## The environment -/

/-- How the value of a variable becomes that of a setting. -/
inductive Field where
  | text (set : String → Settings → Settings)
  | flag (set : Bool → Settings → Settings)
  | number (set : Int → Settings → Settings)

/-- The settings by name, in the order they are replaced. -/
def fields : List (String × Field) := [
  ("default_layer", .text fun v s => { s with defaultLayer? := some v }),
  ("time_zone", .text fun v s => { s with timeZone := v }),
  ("timestamp_without_tz_is_utc", .flag fun v s => { s with unzonedIsUtc := v }),
  ("chart_max_columns", .number fun v s => { s with chartMaxColumns := v }),
  ("chart_max_columns_multiple_pie",
    .number fun v s => { s with chartMaxColumnsMultiplePie := v }),
  ("chart_max_rows", .number fun v s => { s with chartMaxRows := v }),
  ("default_top_n", .number fun v s => { s with defaultTopN := v }),
  ("heatmap_max_x", .number fun v s => { s with heatmapMaxX := v }),
  ("pivot_max_columns", .number fun v s => { s with pivotMaxColumns := v }),
  ("pivot_default_limit", .number fun v s => { s with pivotDefaultLimit := v }),
  ("pivot_max_limit", .number fun v s => { s with pivotMaxLimit := v }),
  ("heatmap_default_limit", .number fun v s => { s with heatmapDefaultLimit := v }),
  ("heatmap_max_limit", .number fun v s => { s with heatmapMaxLimit := v }),
  ("distinct_default_limit", .number fun v s => { s with distinctDefaultLimit := v }),
  ("distinct_max_limit", .number fun v s => { s with distinctMaxLimit := v }),
  ("grid_default_limit", .number fun v s => { s with gridDefaultLimit := v }),
  ("grid_max_limit", .number fun v s => { s with gridMaxLimit := v }),
  ("duckdb_threads", .number fun v s => { s with threads? := some v })]

/-- The variable that replaces a setting. -/
def variableOf (name : String) : String :=
  "FLOWPIVOT_" ++ upper name

/-- The words that turn a flag on; all others turn it off. -/
def onWords : List String := ["1", "true", "yes", "on"]

/-- Replaces a setting by the value of its variable. -/
def replace (name : String) (field : Field) (raw : Value) (s : Settings) : Outcome Settings :=
  match field with
  | .text set => do return set (trim (← raw.asText)) s
  | .flag set => do return set (onWords.contains (lower (trim (← raw.asText)))) s
  | .number set =>
    match raw.toInt with
    | .ok n => .ok (set n s)
    | .error (.unusable _) => .error (.unusable (.setting (variableOf name) raw.display))
    | .error f => .error f

/-- The settings with the replacements of an environment, which gives texts or, where it is part
of a document, any values; what is null or empty replaces nothing. -/
def ofEnvironment (lookup : String → Value) : Outcome Settings :=
  fields.foldlM (fun s f =>
    let raw := lookup (variableOf f.1)
    if raw == .null || raw == .text "" then .ok s else replace f.1 f.2 raw s) standard

end Settings

end Crosstab
