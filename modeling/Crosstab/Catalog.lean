import Crosstab.Schema

/-!
# The catalog of schemas

A schema is registered, or it is discovered from the tables of the database: the columns of a
layer's table, and the labels in the table that describes its fields. What is known once is not
looked up again.

Models `SchemaCatalog`, with `table_exists`, `describe_table` and `load_field_labels` of its data
source.
-/

namespace Crosstab

open Text

/-! ## Tables -/

/-- What is known of a table: its columns with their types, and its rows. -/
structure TableInfo where
  columns : List (String × String)
  rows : List (List Value)
  deriving DecidableEq, Inhabited

/-- The tables of a database by name. -/
abbrev Tables := List (String × TableInfo)

namespace TableInfo

/-- The values of a column. -/
def values (column : String) (t : TableInfo) : List Value :=
  match t.columns.findIdx? (·.1 == column) with
  | some i => t.rows.map fun row => row[i]?.getD .null
  | none => []

/-- The column whose name in lower case is the given one, the last of several. -/
def columnNamed? (name : String) (t : TableInfo) : Option String :=
  (t.columns.reverse.find? fun c => lower c.1 == name).map (·.1)

/-- The columns that may hold the name of a field, the preferred one first. -/
def fieldColumns : List String := ["field_key", "field"]

/-- The columns that may hold the label of a field, the preferred one first. -/
def labelColumns : List String := ["label", "label_en", "label_ko", "description"]

/-- The labels of fields in a table that describes them. -/
def labels (t : TableInfo) : List (String × Value) :=
  match fieldColumns.findSome? t.columnNamed?, labelColumns.findSome? t.columnNamed? with
  | some field, some label =>
    let pairs := (t.values field).zip (t.values label)
    namedValues (pairs.filterMap fun (k, v) => if k == .null then none else some (k.display, v))
  | _, _ => []

end TableInfo

namespace Tables

/-- Whether there is a table of the name. -/
def holds (name : String) (tables : Tables) : Bool :=
  (valueOf? name tables).isSome

/-- The columns of the table of a name, which must be an identifier. -/
def describe (name : Value) (tables : Tables) : Outcome (List (String × String)) :=
  let refused : Outcome (List (String × String)) :=
    .error (.unusable (.tableName name.display))
  match name with
  | .text s =>
    if isIdentifier s then .ok (((valueOf? s tables).map (·.columns)).getD []) else refused
  | v => if v.truthy then mismatch .kind else refused

/-- The labels in the table of a name; none if there is no such table. -/
def labels (name : String) (tables : Tables) : List (String × Value) :=
  ((valueOf? name tables).map (·.labels)).getD []

/-- The labels in the table of a name that need not be that of a table. -/
def fieldLabels (name : Value) (tables : Tables) : Outcome (List (String × Value)) :=
  match name with
  | .text s =>
    if tables.holds s then do
      let _ ← tables.describe name
      return tables.labels s
    else .ok []
  | _ => .ok []

/-- The schema of a layer as its tables tell it. -/
def schema (layer : Layer) (tables : Tables) : Outcome Schema :=
  match valueOf? layer.dataTable tables with
  | some t => .ok (.of layer t.columns (tables.labels layer.fieldsTable))
  | none => reject .layerNotFound s!"no table loaded for {layer.code}"

end Tables

/-! ## The catalog -/

/-- The schemas that are known. -/
structure Catalog where
  known : List (Layer × Schema)
  deriving DecidableEq

namespace Catalog

/-- The catalog that knows nothing. -/
def empty : Catalog := ⟨[]⟩

/-- Keeps a schema for its layer. -/
def keep (schema : Schema) (c : Catalog) : Catalog :=
  ⟨(schema.layer, schema) :: c.known.filter (·.1 != schema.layer)⟩

/-- Registers columns and labels for the layer that a selector names. -/
def register (selector : Value) (columns : List (String × String)) (labels : List (String × Value))
    (c : Catalog) : Outcome (Schema × Catalog) := do
  let schema := Schema.of (← Layer.resolve selector .null) columns labels
  return (schema, c.keep schema)

/-- The schema of a layer, discovered from the tables if it is not known. -/
def schema (tables : Tables) (layer : Layer) (c : Catalog) : Outcome (Schema × Catalog) :=
  match c.known.lookup layer with
  | some schema => .ok (schema, c)
  | none => do
    let schema ← tables.schema layer
    return (schema, c.keep schema)

end Catalog

end Crosstab
