import Crosstab.Filter.Entry
import Crosstab.Paging
import Crosstab.Pivot.Metric

/-!
# Axes

An axis shows the keys of one field: those that come first by the metric, or items that the request
selects.

Models `AxisDef`, with `manual_keys`.
-/

namespace Crosstab.Pivot

open Sql Text

/-- Which end of a ranking comes first. -/
inductive Ranking where
  | top
  | bottom
  deriving Repr, DecidableEq, Inhabited

namespace Ranking

/-- The word of the ranking. -/
def name : Ranking → String
  | .top => "top"
  | .bottom => "bottom"

/-- The ranking of a word. -/
def ofName? (s : String) : Option Ranking :=
  [top, bottom].find? (·.name == s)

end Ranking

/-- The keys of a field that a chart shows. -/
structure Axis where
  field : String
  /-- The selected items are shown, not those that come first. -/
  manual : Bool
  /-- How many keys are shown, by default as many as the settings say. -/
  topN? : Option Int
  ranking : Ranking
  selected : List Value
  deriving DecidableEq

namespace Axis

/-- The selected items of an axis. -/
def itemsOf (what : String) (members : List (String × Value)) : Outcome (List Value) :=
  let member (name : String) : Value := (valueOf? name members).getD .null
  let v := (member "selectedItems").orElse (member "items")
  if v.truthy then
    match v with
    | .list items => .ok items
    | _ => reject .missingParameter s!"{what}.selectedItems must be a list"
  else .ok []

/-- Whether an axis shows its selected items: it says so, or says nothing and has some. -/
def manualOf (what : String) (hasItems : Bool) (v : Value) : Outcome Bool :=
  let mode := trim (v.displayOr (if hasItems then "manual" else "topN"))
  if lower mode == "manual" then .ok true
  else if lower mode == "topn" then .ok false
  else reject .missingParameter s!"{what}.mode {quoted mode}"

/-- The word for the ranking and the number in a request's choice of keys. -/
def choiceOf (v : Value) : String × Value :=
  match v with
  | .record members =>
    let member (name : String) : Value := (valueOf? name members).getD .null
    (lower (((member "mode").orElse (member "order")).displayOr "top"), member "n")
  | v => ("top", v)

/-- Reads an axis of a request, which messages call by the given name; a text names its field. -/
def ofRequest (what : String) (data : Value) : Outcome Axis := do
  if let .text field := data then return ⟨field, false, none, .top, []⟩
  let field ← required data "field" s!"{what}.field"
  let members :=
    match data with
    | .record members => members
    | _ => []
  let items ← itemsOf what members
  let manual ← manualOf what (!items.isEmpty) ((valueOf? "mode" members).getD .null)
  let (word, number) := choiceOf ((valueOf? "topN" members).getD .null)
  match Ranking.ofName? word with
  | none => reject .missingParameter s!"{what}.topN.mode {quoted word}"
  | some ranking =>
    let n ← number.toWhole s!"{what}.topN.n" 0 .missingParameter
    return ⟨field.display, manual, if n == 0 then none else some n, ranking, items⟩

/-- The keys of the selected items, each once and, under a bound, no more than so many. -/
def manualKeys (bound? : Option Int) (a : Axis) : List String :=
  let keys := a.selected.foldl (fun acc v =>
    let key := Filter.normalizeKey v
    if acc.contains key then acc else acc ++ [key]) []
  takeUpTo bound? keys

end Axis

end Crosstab.Pivot
