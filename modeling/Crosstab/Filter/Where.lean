import Crosstab.Filter.Entry
import Crosstab.Schema
import Crosstab.Settings
import Crosstab.Window

/-!
# Filters as conditions on rows

A filter becomes a condition on the rows of a layer. Names are resolved against the layer's columns,
and operands are turned into what the field's type compares with. A condition without the operands
it needs restricts nothing; the missing value is asked for by any of its markers.

Models `FilterModelCompiler`: `compile_where`, `time_predicate`, `compile_filters`, `compile_entry`,
`_condition_chain`, `compile_condition`, `in_predicate`, `_empty_predicate`, `_operand`, `_kind_of`,
`_to_number` and `_to_bool`.
-/

namespace Crosstab.Filter

open Number Sql Text

/-- What filters are read against. -/
structure Scope where
  schema : Schema
  settings : Settings

namespace Scope

/-! ## Operands -/

/-- The number that an operand is, whole if its text spells a whole one. -/
def numberOf (column : String) (v : Value) : Outcome Value :=
  let refused : Outcome Value := reject .invalidValue s!"{v.shown} is not a number for {column}"
  match v with
  | .bool _ => refused
  | .int n => .ok (.int n)
  | .real x => .ok (.real x)
  | v =>
    let s := trim v.display
    match readInt s with
    | .ok n => .ok (.int n)
    | .error _ =>
      match readReal s with
      | .ok x => .ok (.real x)
      | .error _ => refused

/-- The words for true. -/
def trueWords : List String := ["true", "1", "y", "yes"]

/-- The words for false. -/
def falseWords : List String := ["false", "0", "n", "no"]

/-- The truth value that an operand is. -/
def flagOf (column : String) (v : Value) : Outcome Value :=
  match v with
  | .bool b => .ok (.bool b)
  | v =>
    let s := lower (trim v.display)
    if trueWords.contains s then .ok (.bool true)
    else if falseWords.contains s then .ok (.bool false)
    else reject .invalidValue s!"{v.shown} is not a boolean for {column}"

/-- A field as conditions see it: its name, its column in a statement and its type. -/
structure Target where
  name : String
  column : String
  type : FieldType

/-- What a value is compared with, and the value as it is bound. -/
def operand (scope : Scope) (t : Target) (v : Value) : Outcome (Subject × Value) :=
  match t.type with
  | .number => do return (.stored t.column, ← numberOf t.column v)
  | .boolean => do return (.stored t.column, ← flagOf t.column v)
  | .date => do
    let kind? := scope.schema.temporalKind? (.text t.name)
    let expr ← dateExpr t.column kind? scope.settings.timeZone scope.settings.unzonedIsUtc
    return (.asDate t.column expr, .text (trim v.display))
  | .string | .ip | .mac | .json | .other _ => .ok (.asText t.column, .text v.display)

/-- The field of a name, of the declared type or else its own. -/
def target (scope : Scope) (field : Value) (type? : Option String) : Outcome Target := do
  let type :=
    match type? with
    | some t => if t.isEmpty then scope.schema.fieldType field else .ofName t
    | none => scope.schema.fieldType field
  return ⟨← scope.schema.require field, ← scope.schema.column field, type⟩

/-! ## Predicates -/

/-- The condition that the value is missing, or is there if negated. -/
def missing (t : Target) (negated : Bool) : Predicate :=
  let null : Predicate := .atom (.isNull t.column negated)
  if t.type.isTextual then
    .group (.link null (if negated then .and else .or) (.atom (.isEmptyText t.column negated)))
  else null

/-- The condition that the value is among the given ones, or is not if negated. No values match
nothing, and negated restrict nothing. -/
def membership (scope : Scope) (t : Target) (values : List Value) (negated : Bool) :
    Outcome (Option Predicate) := do
  let present := values.filter (!isEmptyMarker ·)
  if values.isEmpty then return if negated then none else some (.atom .never)
  let bound ← present.mapM (scope.operand t)
  let member? := bound.head?.map fun b => Predicate.atom (.member b.1 negated (bound.map (·.2)))
  if present.length == values.length then return member?
  match member? with
  | none => return some (missing t negated)
  | some member =>
    return some (.group (.link member (if negated then .and else .or) (missing t negated)))

/-- The operand as a pattern of its own: anywhere, at the start or at the end of the text. -/
def pattern (op : Operator) (v : Value) : String :=
  let s := escapeLike v.display
  match op with
  | .startsWith => s ++ "%"
  | .endsWith => "%" ++ s
  | _ => "%" ++ s ++ "%"

/-- The comparison of a field with one operand. -/
def comparison (scope : Scope) (t : Target) (c : Comparison) (v : Value) :
    Outcome (Option Predicate) := do
  let (subject, arg) ← scope.operand t v
  return some (.atom (.compare subject c arg))

/-- The ordering of a field against one operand; a missing one restricts nothing. -/
def ordering (scope : Scope) (t : Target) (c : Comparison) (values : List Value) :
    Outcome (Option Predicate) :=
  match values with
  | [] => .ok none
  | v :: _ => if isEmptyMarker v then .ok none else scope.comparison t c v

/-- The equality of a field with one operand; one that stands for the missing value asks for it. -/
def equality (scope : Scope) (t : Target) (negated : Bool) (values : List Value) :
    Outcome (Option Predicate) :=
  match values with
  | [] => .ok none
  | v :: _ =>
    if isEmptyMarker v then .ok (some (missing t negated))
    else scope.comparison t (if negated then .ne else .eq) v

/-- The match of a field with the pattern of one operand; null and an empty one restrict nothing. -/
def matching (t : Target) (op : Operator) (values : List Value) : Outcome (Option Predicate) :=
  match values with
  | [] => .ok none
  | v :: _ =>
    if v == .null || v.display.isEmpty then .ok none
    else .ok (some (.atom (.like t.column (pattern op v))))

/-- The range of a field between two operands; a missing one restricts nothing. -/
def between (scope : Scope) (t : Target) (values : List Value) : Outcome (Option Predicate) :=
  match values with
  | low :: high :: _ =>
    if isEmptyMarker low || isEmptyMarker high then .ok none
    else do
      let (subject, low) ← scope.operand t low
      let (_, high) ← scope.operand t high
      return some (.atom (.between subject low high))
  | _ => .ok none

/-- The condition of an operator and its operands. -/
def condition (scope : Scope) (t : Target) (op : Operator) (values : List Value) :
    Outcome (Option Predicate) :=
  match op with
  | .isNull => .ok (some (.atom (.isNull t.column false)))
  | .isNotNull => .ok (some (.atom (.isNull t.column true)))
  | .isIn => scope.membership t values false
  | .notIn => scope.membership t values true
  | .eq => scope.equality t false values
  | .ne => scope.equality t true values
  | .like | .startsWith | .endsWith => matching t op values
  | .between => scope.between t values
  | .gt => scope.ordering t .gt values
  | .gte => scope.ordering t .gte values
  | .lt => scope.ordering t .lt values
  | .lte => scope.ordering t .lte values

/-- The type that a request declares by a value. -/
def declaredBy (v : Value) : Option String :=
  if v.truthy then some v.display else none

/-- The condition of an operator, a field and operands that a request gives one by one. -/
def requestedCondition (scope : Scope) (field op values type : Value) :
    Outcome (Option Predicate) := do
  let op ← Operator.ofRequest op
  let t ← scope.target field (declaredBy type)
  scope.condition t op (← if values.truthy then values.elements else pure [])

/-- The membership of a field in values that a request gives one by one. -/
def requestedMembership (scope : Scope) (field values type : Value) (negated : Bool) :
    Outcome (Option Predicate) := do
  let t ← scope.target field (declaredBy type)
  scope.membership t (← values.elements) negated

/-! ## Entries -/

/-- A chain of conditions as far as it is put together, with the last connective in it. -/
structure Chain where
  predicate? : Option Predicate
  last? : Option Logic

/-- Adds a condition to a chain. Where the connective changes, what stands before it is grouped,
so a chain is read from left to right. -/
def Chain.add (chain : Chain) (logic : Logic) (p? : Option Predicate) : Chain :=
  match chain.predicate?, p? with
  | _, none => chain
  | none, some p => { chain with predicate? := some p }
  | some acc, some p =>
    let left := if chain.last?.all (· == logic) then acc else .group acc
    ⟨some (.link left logic p), some logic⟩

/-- The connective in front of the condition of the given rank; the first has none, and those
that are not given are conjunctions. -/
def logicAt (logic : List Logic) (rank : Nat) : Logic :=
  if rank == 0 then .and else (logic[rank - 1]?).getD .and

/-- The conditions of an entry, put together from left to right. -/
def conditionChain (scope : Scope) (field : Value) (type? : Option String)
    (conditions : List Condition) (logic : List Logic) : Outcome (Option Predicate) := do
  let parts ← conditions.mapM fun c => do
    scope.condition (← scope.target field type?) c.op c.values
  let chain := parts.zipIdx.foldl (fun chain (p?, i) => chain.add (logicAt logic i) p?)
    (⟨none, none⟩ : Chain)
  return chain.predicate?.map .group

/-- The condition of an entry; none if it restricts nothing. -/
def entry (scope : Scope) (e : Entry) : Outcome (Option Predicate) := do
  let _ ← scope.schema.require e.field
  let p? ←
    match e.test with
    | .checkbox values => do scope.membership (← scope.target e.field e.type?) values false
    | .conditions conditions logic => scope.conditionChain e.field e.type? conditions logic
  return if e.negated then p?.map fun p => .negation (.group p) else p?

/-- The conditions of all entries but those on the excluded field. -/
def entries (scope : Scope) (es : List Entry) (excluded : Value) : Outcome (Option Predicate) := do
  let excluded? := if excluded.truthy then scope.schema.resolve? excluded else none
  let isExcluded (e : Entry) : Bool :=
    excluded?.isSome && scope.schema.resolve? e.field == excluded?
  return Predicate.all? (← (es.filter (!isExcluded ·)).mapM scope.entry)

/-- The condition that a row's time lies in the window of a request. -/
def window (scope : Scope) (time : Value) : Outcome (Option Predicate) := do
  match ← Window.ofRequest time with
  | none => return none
  | some w =>
    let field := Value.text (w.field?.getD scope.schema.layer.defaultTimeField)
    let column ← scope.schema.column field
    return some (w.predicate column (scope.schema.temporalKind? field))

/-- The window of a request and all entries but those on the excluded field. -/
def whereEntries (scope : Scope) (es : List Entry) (time : Value) (excluded : Value) :
    Outcome (Option Predicate) := do
  let inWindow ← scope.window time
  return Predicate.both? inWindow (← scope.entries es excluded)

/-- The window and the filter of a request, but for its entries on the excluded field. -/
def whereFilter (scope : Scope) (filter time excluded : Value) : Outcome (Option Predicate) := do
  let inWindow ← scope.window time
  return Predicate.both? inWindow (← scope.entries (← readEntries filter) excluded)

end Scope

end Crosstab.Filter
