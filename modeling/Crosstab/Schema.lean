import Crosstab.Layer
import Crosstab.Sql.Expression

/-!
# The columns of a layer

A request names columns in any case and with a suffix after a dash; a name that is not the name of a
column is rejected, so nothing but column names that are plain identifiers ever stands in a
statement.

Models `safe_field_name`, `quote_ident`, `frontend_type`, `FieldMeta` and `LayerSchema`, with
`resolve_name`, `require` and `col`.
-/

namespace Crosstab

open Text Sql

/-! ## Names -/

/-- Whether the character may start an identifier. -/
def isIdentifierStart (c : Char) : Bool :=
  c.isAlpha || c == '_'

/-- Whether the character may stand in an identifier. -/
def isIdentifierChar (c : Char) : Bool :=
  isIdentifierStart c || c.isDigit

/-- Whether the characters are an identifier, of ASCII letters, digits and underscores, that does
not start with a digit; a line break may follow it. -/
def isIdentifier (s : String) : Bool :=
  match s.toList with
  | [] => false
  | c :: cs =>
    let rest := cs.dropWhile isIdentifierChar
    isIdentifierStart c && (rest.isEmpty || rest == ['\n'])

/-- The name of a field without the suffix that clients append after a dash. -/
def fieldName (v : Value) : String :=
  match v with
  | .null => ""
  | v => upTo '-' (trim v.display)

/-- The name between quotes, if it is an identifier. -/
def quoteIdentifier (v : Value) : Outcome String :=
  match v with
  | .text s =>
    if isIdentifier s then .ok s!"\"{s}\"" else reject .fieldNotAllowed v.shown
  | v => if v.truthy then mismatch .kind else reject .fieldNotAllowed v.shown

/-! ## Types of fields -/

/-- The type of a field as clients know it. -/
inductive FieldType where
  | string
  | ip
  | mac
  | json
  | number
  | date
  | boolean
  /-- A type that a request declares and the engine does not know. -/
  | other (name : String)
  deriving Repr, DecidableEq

namespace FieldType

/-- The name of the type. -/
def name : FieldType → String
  | .string => "string"
  | .ip => "ip"
  | .mac => "mac"
  | .json => "json"
  | .number => "number"
  | .date => "date"
  | .boolean => "boolean"
  | .other name => name

/-- The type of a name. -/
def ofName (s : String) : FieldType :=
  ([string, ip, mac, json, number, date, boolean].find? (·.name == s)).getD (.other s)

/-- Whether an empty text counts as a missing value. -/
def isTextual : FieldType → Bool
  | .string | .ip | .mac | .json => true
  | .number | .date | .boolean | .other _ => false

/-- The type of a column: some words in its name tell it, otherwise the engine type does. -/
def ofColumn (engineType column : String) : FieldType :=
  let t := lower engineType
  let words := splitOn '_' (lower column)
  let among (parts : List String) : Bool := parts.any (holds t ·)
  if holds t "inet" || words.contains "ip" then .ip
  else if words.contains "mac" then .mac
  else if words.contains "port" then .string
  else if among ["char", "text", "string", "uuid"] then .string
  else if among ["int", "numeric", "decimal", "float", "double", "real"] then .number
  else if among ["date", "time"] then .date
  else if among ["bool"] then .boolean
  else if among ["json"] then .json
  else .string

end FieldType

/-! ## Schemas -/

/-- What clients are told about a field. -/
structure FieldMeta where
  name : String
  type : FieldType
  engineType : String
  label : Value
  deriving DecidableEq

namespace FieldMeta

/-- The description as a record. -/
def toRecord (m : FieldMeta) : List (String × Value) :=
  [("name", .text m.name), ("type", .text m.type.name), ("engineType", .text m.engineType),
    ("label", m.label)]

end FieldMeta

/-- The columns of a layer's table with their engine types, in table order, and the labels of
fields. -/
structure Schema where
  layer : Layer
  columns : List (String × String)
  labels : List (String × Value)
  deriving DecidableEq

namespace Schema

/-- The name that the layer's table goes by in a statement. -/
def tableAlias : String := "t"

/-- The schema of a layer; of a repeated column the last type counts. -/
def of (layer : Layer) (columns : List (String × String)) (labels : List (String × Value)) :
    Schema :=
  ⟨layer, namedValues columns, labels⟩

/-- The table of the layer. -/
def table (s : Schema) : String :=
  s.layer.dataTable

/-- The table with its alias, as a statement selects from it. -/
def fromClause (s : Schema) : String :=
  s!"{s.layer.dataTable} {tableAlias}"

/-- The column whose name agrees with the given one without regard to case, the last of several;
an exact agreement is looked for first. -/
def lookup? (name : String) (s : Schema) : Option String :=
  if s.columns.any (·.1 == name) then some name
  else (s.columns.reverse.find? fun c => lower c.1 == lower name).map (·.1)

/-- The column that a name resolves to. -/
def resolve? (name : Value) (s : Schema) : Option String :=
  let n := fieldName name
  if isIdentifier n then s.lookup? n else none

/-- Whether the name resolves to a column. -/
def has (name : Value) (s : Schema) : Bool :=
  (s.resolve? name).isSome

/-- The column that a name resolves to; a name that resolves to none is rejected. -/
def require (name : Value) (s : Schema) : Outcome String :=
  match s.resolve? name with
  | some column => .ok column
  | none => reject .fieldNotAllowed s!"{name.shown} is not a column of {s.layer.code}"

/-- The column of a name, qualified and quoted. -/
def column (name : Value) (s : Schema) : Outcome String := do
  let quoted ← quoteIdentifier (.text (← s.require name))
  return s!"{tableAlias}.{quoted}"

/-- The engine type of the column of a name, empty if there is none. -/
def engineType (name : Value) (s : Schema) : String :=
  ((s.resolve? name).bind (valueOf? · s.columns)).getD ""

/-- The type of the field of a name; a string if there is none. -/
def fieldType (name : Value) (s : Schema) : FieldType :=
  match s.resolve? name with
  | none => .string
  | some column => .ofColumn ((valueOf? column s.columns).getD "") column

/-- The kind of time that the column of a name holds. -/
def temporalKind? (name : Value) (s : Schema) : Option TemporalKind :=
  TemporalKind.ofEngineType? (s.engineType name)

/-- What clients are told about the fields. -/
def fieldMeta (s : Schema) : List FieldMeta :=
  s.columns.map fun (name, type) =>
    ⟨name, .ofColumn type name, type, (valueOf? name s.labels).getD .null⟩

end Schema

end Crosstab
