import Crosstab.Filter.Where

/-!
# Base specifications

A base specification holds the conditions that a grid starts from: a time window and a list of
conditions, each of which joins those before it by its own connective. The chain of conditions is
grouped as a whole, but not inside: it is read as SQL reads it.

Models `compile_base_spec`.
-/

namespace Crosstab.Filter.Scope

open Sql Text

/-- Reads a base specification from a request; null and an empty text are none. -/
def readBaseSpec (v : Value) : Outcome (Option Value) :=
  match v with
  | .null => .ok none
  | .text s =>
    if s.isEmpty then .ok none else do return some (← readText "base spec is not valid JSON" s)
  | v => .ok (some v)

/-- The conditions of a base specification. -/
def baseConditions (members : List (String × Value)) : Outcome (List Value) :=
  let v := (valueOf? "conditions" members).getD .null
  if v.truthy then
    match v with
    | .list items => .ok items
    | _ => malformed "base spec conditions must be a list"
  else .ok []

/-- A part of a base specification, which is read as an entry of conditions. -/
def partEntry (members : List (String × Value)) : Outcome Entry :=
  Entry.ofRequest ((valueOf? "field" members).getD .null)
    (.record (setNamed "mode" (.text "condition") members))

/-- The condition of a part of a base specification. -/
def basePart (scope : Scope) (members : List (String × Value)) : Outcome (Option Predicate) := do
  scope.entry (← partEntry members)

/-- The connective by which a part of a base specification joins those before it. -/
def joinOf (members : List (String × Value)) : Outcome Logic :=
  let word := upper (trim (((valueOf? "join" members).getD .null).displayOr "AND"))
  match Logic.ofName? word with
  | some logic => .ok logic
  | none => malformed s!"join {quoted word}"

/-- Adds a part to a chain. A part that restricts nothing is left out, and the first one that
stays needs no connective. -/
def addBasePart (scope : Scope) (chain? : Option Predicate) (part : Value) :
    Outcome (Option Predicate) :=
  match part with
  | .record members => do
    match chain?, ← scope.basePart members with
    | _, none => return chain?
    | none, some p => return some p
    | some chain, some p => return some (.link chain (← joinOf members) p)
  | _ => malformed "base spec conditions must be objects"

/-- The condition of a base specification; none if it restricts nothing. -/
def baseSpec (scope : Scope) (v : Value) : Outcome (Option Predicate) := do
  match ← readBaseSpec v with
  | none => return none
  | some (.record members) =>
    let inWindow ← scope.window ((valueOf? "time" members).getD .null)
    let chain? ← (← baseConditions members).foldlM scope.addBasePart none
    return Predicate.both? inWindow (chain?.map .group)
  | some _ => malformed "base spec must be a JSON object"

end Crosstab.Filter.Scope
