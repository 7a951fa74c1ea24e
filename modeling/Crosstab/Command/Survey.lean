import Crosstab.Loading
import Crosstab.Session

/-!
# What a directory holds

Once the tables of a directory are created, the database is asked for their columns, and for the
rows of those that describe fields. The rows of samples are left to the views.

Asks what `describe_table` and `load_field_labels` ask.
-/

namespace Crosstab.Command.Survey

open Session Sql

/-- The columns of a table with their types. -/
def columns (table : String) : Session (List (String × String)) := do
  let found ← rows (← Fragment.raw s!"DESCRIBE {table}")
  return found.rows.filterMap fun row =>
    match row with
    | .text name :: .text engineType :: _ => some (name, engineType)
    | _ => none

/-- The columns of a table of samples. -/
def samples (layer : Layer) : Session (String × TableInfo) := do
  return (layer.dataTable, ⟨← columns layer.dataTable, []⟩)

/-- The columns and rows of a table that describes fields. -/
def descriptions (layer : Layer) : Session (String × TableInfo) := do
  let names ← columns layer.fieldsTable
  let found ← rows (← Fragment.raw s!"SELECT * FROM {layer.fieldsTable}")
  return (layer.fieldsTable, ⟨names, found.rows⟩)

/-- What is known of the tables of layers, those of one layer after those of the other. -/
def tables (d : Directory) : List Layer → Session Tables
  | [] => pure []
  | layer :: rest => do
    let sampled ← samples layer
    let described ←
      if (d.formatOf? layer.fieldsTable).isSome then pure [← descriptions layer] else pure []
    return sampled :: described ++ (← tables d rest)

end Crosstab.Command.Survey
