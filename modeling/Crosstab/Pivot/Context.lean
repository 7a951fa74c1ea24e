import Crosstab.Filter.Where

/-!
# The context of a pivot request

The context of a pivot request holds the layer's schema, the column of times, the time window and
the filters, to which a view adds its own. Every query of a request takes its condition from here,
so all of them are about the same rows.

Models `PivotQueryContext`, with `base_where`, `where_with` and `with_filters`.
-/

namespace Crosstab.Pivot

open Crosstab.Filter Sql

/-- A filter that is read already: an entry, or a condition that is put together. -/
inductive Restriction where
  | entry (e : Entry)
  | fragment (f : Fragment)
  deriving DecidableEq

namespace Restriction

/-- The entry of the restriction. -/
def entryPart : Restriction → Option Entry
  | .entry e => some e
  | .fragment _ => none

/-- The condition of the restriction. -/
def fragmentPart : Restriction → Option Fragment
  | .entry _ => none
  | .fragment f => some f

end Restriction

/-- What all queries of a pivot request are about. -/
structure Context where
  schema : Schema
  settings : Settings
  /-- The column of times. -/
  timeField : String
  /-- The time window as the request gives it, on the column of times. -/
  time : Value
  restrictions : List Restriction
  deriving DecidableEq

namespace Context

/-- What filters are read against. -/
def scope (c : Context) : Scope :=
  ⟨c.schema, c.settings⟩

/-- The field in a time window that a request gives. -/
def windowField (time : Value) : Value :=
  match time with
  | .record members => (valueOf? "field" members).getD .null
  | _ => .null

/-- The time window on the given column. -/
def windowOn (column : String) (time : Value) : Value :=
  match time with
  | .record members => .record (setNamed "field" (.text column) members)
  | v => v

/-- The context of a request. The column of times is the one that the request names, or its window
names, or that of the layer; where times matter it must be a column. -/
def make (schema : Schema) (settings : Settings) (time timeField : Value)
    (restrictions : List Restriction) : Outcome Context := do
  let default_ := schema.layer.defaultTimeField
  let explicit := timeField.orElse (windowField time)
  let column ←
    if explicit.truthy || time != .null then
      schema.require (explicit.orElse (.text default_))
    else pure ((schema.resolve? (.text default_)).getD default_)
  return ⟨schema, settings, column, windowOn column time, restrictions⟩

/-- The condition of the entries among restrictions, and those that are put together. -/
def parts (rs : List Restriction) : List Entry × List Fragment :=
  (rs.filterMap (·.entryPart), rs.filterMap (·.fragmentPart))

/-- The rows of the request: its time window and its filters. -/
def baseWhere (c : Context) : Outcome Fragment := do
  let (entries, fragments) := parts c.restrictions
  let p? ← c.scope.whereEntries entries c.time .null
  Fragment.join " AND " ((← Predicate.fragment? p?) :: fragments)

/-- The rows of the request that meet further restrictions. -/
def whereWith (extra : List Restriction) (c : Context) : Outcome Fragment := do
  let (entries, fragments) := parts extra
  let base ← c.baseWhere
  let p? ← c.scope.entries entries .null
  Fragment.join " AND " (base :: (← Predicate.fragment? p?) :: fragments)

/-- The context with further filters. -/
def withFilters (extra : List Restriction) (c : Context) : Outcome Context :=
  make c.schema c.settings c.time (.text c.timeField) (c.restrictions ++ extra)

end Context

end Crosstab.Pivot
