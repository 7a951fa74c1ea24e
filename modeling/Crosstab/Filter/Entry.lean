import Crosstab.Filter.Operator
import Crosstab.Json.Reader
import Crosstab.Value.Convert

/-!
# Filter entries

A filter entry tests one field, either for being among given values or by a chain of conditions. A
filter is made of entries, and may be written as a mapping from fields to entries, as a list of
entries that name their fields, or as JSON text of either.

Models `Condition`, `FilterEntry`, `is_empty_marker`, `normalize_key`, `_condition_values`,
`_parse_condition`, `_parse_logic_ops`, `_parse_entry` and `parse_filters`.
-/

namespace Crosstab.Filter

open Sql Text

/-! ## Missing values -/

/-- Whether a value stands for the missing one: null, blank text and the label do. -/
def isEmptyMarker (v : Value) : Bool :=
  match v with
  | .null => true
  | .text s => isBlank s || s == emptyLabel
  | _ => false

/-- The label of a grouped value. -/
def normalizeKey (v : Value) : String :=
  if isEmptyMarker v then emptyLabel else v.display

/-! ## Entries -/

/-- An operator and its operands. -/
structure Condition where
  op : Operator
  values : List Value
  deriving DecidableEq, Inhabited

/-- What an entry asks of its field. -/
inductive Test where
  /-- The value is among these. -/
  | checkbox (values : List Value)
  /-- The conditions hold, put together by the connectives between them. -/
  | conditions (conditions : List Condition) (logic : List Logic)
  deriving DecidableEq, Inhabited

/-- The filter of one field. -/
structure Entry where
  field : Value
  test : Test
  /-- The type that the request declares for the field. -/
  type? : Option String
  negated : Bool
  deriving DecidableEq, Inhabited

namespace Entry

/-- The entry that keeps the given values of a field. -/
def checkbox (field : Value) (values : List Value) : Entry :=
  ⟨field, .checkbox values, none, false⟩

end Entry

/-! ## Reading -/

/-- Rejects a filter. -/
def malformed {α : Type} (detail : String) : Outcome α :=
  reject .invalidFilterModel detail

/-- A pair of members that give the two ends of a range. -/
def rangeNames : List (String × String) := [("val1", "val2"), ("min", "max"), ("from", "to")]

/-- The operands in the members of a condition. -/
def operands (members : List (String × Value)) : List Value :=
  match ["values", "value", "val"].findSome? (valueOf? · members) with
  | some (.list items) => items
  | some v => [v]
  | none =>
    let member (name : String) : Option Value := valueOf? name members
    match rangeNames.find? fun r => (member r.1).isSome || (member r.2).isSome with
    | some (low, high) => [(member low).getD .null, (member high).getD .null]
    | none => []

/-- Reads a condition on the named field. -/
def Condition.ofRequest (field : String) (spec : Value) : Outcome Condition :=
  match spec with
  | .record members => do
    let op := ((valueOf? "op" members).or (valueOf? "operator" members)).getD .null
    return ⟨← Operator.ofRequest op, operands members⟩
  | _ => malformed s!"condition for {quoted field} must be an object"

/-- Reads a connective on the named field. -/
def logicOf (field : String) (v : Value) : Outcome Logic :=
  let word := upper (trim (v.displayOr "AND"))
  match Logic.ofName? word with
  | some logic => .ok logic
  | none => malformed s!"logic op {quoted word} for {quoted field}"

/-- Reads the connectives between the conditions on the named field. -/
def logicsOf (field : String) (v : Value) : Outcome (List Logic) :=
  match v with
  | .null => .ok []
  | .list items => items.mapM (logicOf field)
  | _ => malformed s!"logicOps for {quoted field} must be a list"

/-- Reads the values of a checkbox on the named field. -/
def checkboxOf (field : String) (members : List (String × Value)) : Outcome Test :=
  match (valueOf? "values" members).getD .null with
  | .null => .ok (.checkbox [])
  | .list items => .ok (.checkbox items)
  | _ => malformed s!"values for {quoted field} must be a list"

/-- Reads the conditions on the named field: a list of them, or a single one. -/
def conditionsOf (field : String) (members : List (String × Value)) : Outcome Test :=
  match valueOf? "conditions" members with
  | some v => do
    let items ←
      if v.truthy then
        match v with
        | .list items => pure items
        | _ => malformed s!"conditions for {quoted field} must be a list"
      else pure []
    let conditions ← items.mapM (Condition.ofRequest field)
    let logic ← logicsOf field ((valueOf? "logicOps" members).getD .null)
    return .conditions conditions logic
  | none => do return .conditions [← Condition.ofRequest field (.record members)] []

/-- The mode of an entry: an absent one is that of conditions if any are there. -/
def modeOf (members : List (String × Value)) : String :=
  let mode := (valueOf? "mode" members).getD .null
  let named (name : String) : Bool := (valueOf? name members).isSome
  if mode == .null && (named "op" || named "operator" || named "conditions") then "condition"
  else lower (trim (mode.displayOr ""))

/-- The type that an entry declares, by its present name. -/
def declaredType? (members : List (String × Value)) : Option String :=
  let member (name : String) : Value := (valueOf? name members).getD .null
  let v := (member "type").orElse (member "dataType")
  if v.truthy then
    let t := lower (trim v.display)
    some (if t == "text" then "string" else if t == "datetime" then "date" else t)
  else none

/-- Reads an entry on the field of the given name. -/
def Entry.ofRequest (field : Value) (spec : Value) : Outcome Entry := do
  let name ←
    match field with
    | .text s => if s.isEmpty then malformed "filter field is required" else pure s
    | _ => malformed "filter field is required"
  let members ←
    match spec with
    | .record members => pure members
    | _ => malformed s!"filter for {quoted name} must be an object"
  let mode := modeOf members
  let type? := declaredType? members
  let negated := ((valueOf? "not" members).getD (.bool false)).truthy
  if mode == "checkbox" then return ⟨field, ← checkboxOf name members, type?, negated⟩
  else if mode == "condition" then return ⟨field, ← conditionsOf name members, type?, negated⟩
  else
    let given := (valueOf? "mode" members).getD .null
    malformed s!"mode {given.shown} for {quoted name}"

/-- Reads the JSON text of a part of a request; a text that is none is rejected. -/
def readText (what : String) (s : String) : Outcome Value :=
  match Json.read s with
  | .ok v => .ok v
  | .error (.malformed e) => malformed s!"{what} ({e.fault.message})"
  | .error (.numeral e) => .error (.unusable (.numeral e))

/-- Reads the entries of a filter that is not text. -/
def entriesOf (v : Value) : Outcome (List Entry) :=
  match v with
  | .null => .ok []
  | .record members => members.mapM fun (name, spec) => Entry.ofRequest (.text name) spec
  | .list items => items.mapM fun item =>
    match item with
    | .record members => Entry.ofRequest ((valueOf? "field" members).getD .null) item
    | _ => malformed "filter entries must be objects"
  | _ => malformed "filter model must be a JSON object"

/-- Reads the entries of a filter. Null and blank text are no filter. -/
def readEntries (v : Value) : Outcome (List Entry) :=
  match v with
  | .text s =>
    if isBlank s then .ok [] else do entriesOf (← readText "not valid JSON" s)
  | v => entriesOf v

end Crosstab.Filter
