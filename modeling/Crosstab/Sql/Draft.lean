import Crosstab.Sql.Select

/-!
# Drafts of statements

The terms of a draft are values, as a caller gives them. It becomes a statement when it is built,
and fails then if a term that goes into the text is no text; what comes first in the statement fails
first. The draft of a statement builds as the statement does.

Models `SqlQueryBuilder` for terms of any kind.
-/

namespace Crosstab.Sql

/-- A statement whose terms are not known to be texts. -/
structure Draft where
  columns : List Value
  table : Value
  groups : List Value
  /-- The statement without its columns, table and groups, which are checked when they are set. -/
  others : Select

namespace Draft

/-- A draft that selects the columns, all of them if none is given. -/
def ofColumns (columns : List Value) : Draft :=
  ⟨columns, .null, [], .ofColumns []⟩

/-- A draft that selects the distinct combinations of the columns. -/
def distinctOf (columns : List Value) : Draft :=
  ⟨columns, .null, [], .distinctOf []⟩

/-- The draft of a statement. -/
def ofSelect (s : Select) : Draft :=
  ⟨s.columns.map .text, (s.table?.map .text).getD .null, s.groups.map .text, s⟩

/-! ## Steps -/

/-- Selects from a table. -/
def fromTable (table : Value) (d : Draft) : Draft :=
  { d with table }

/-- Adds grouping terms; those that do not count as true are left out. -/
def groupBy (terms : List Value) (d : Draft) : Draft :=
  { d with groups := d.groups ++ terms.filter (·.truthy) }

/-- Changes what is checked at once. -/
def change (step : Select → Outcome Select) (d : Draft) : Outcome Draft := do
  return { d with others := ← step d.others }

/-- Adds ordering terms as they are; those that do not count as true are left out. -/
def orderByTerms (terms : Value) (d : Draft) : Outcome Draft :=
  if terms.truthy then do
    let s ← terms.asText
    d.change fun others => .ok (others.orderByTerms s)
  else .ok d

/-! ## Building -/

/-- A term that goes into the text. -/
def term : Value → Outcome String
  | .text s => .ok s
  | _ => mismatch .kind

/-- The table, which must be there. -/
def tableName (d : Draft) : Outcome String := do
  let table ← d.table.textOr ""
  if Text.isBlank table then .error (.miscompiled .noTable) else .ok table

/-- The statement as one fragment. -/
def build (d : Draft) : Outcome Fragment := do
  let table ← d.tableName
  let columns ← d.columns.mapM term
  let s : Select := { d.others with columns, table? := some table }
  match d.groups.mapM term with
  | .ok groups => Select.build { s with groups }
  | .error f =>
    let _ ← Select.build { s with groups := [], orders := [], limit? := none, offset? := none }
    throw f

/-- Texts are their own terms. -/
theorem mapM_term_texts (xs : List String) : (xs.map Value.text).mapM term = .ok xs := by
  induction xs with
  | nil => rfl
  | cons x xs ih =>
    rw [List.map_cons, List.mapM_cons, ih]
    rfl

/-- A text that is not blank is the table it names. -/
theorem tableName_text {d : Draft} {t : String} (h : d.table = .text t) :
    d.tableName = if Text.isBlank t then .error (.miscompiled .noTable) else .ok t := by
  rw [tableName, h, Value.textOr, Value.truthy]
  cases he : t.isEmpty with
  | true =>
    rw [String.isEmpty_iff.1 he]
    rfl
  | false => rfl

/-- The draft of a statement builds as the statement does. -/
theorem build_ofSelect (s : Select) : (ofSelect s).build = s.build := by
  cases ht : s.table? with
  | none =>
    rw [Select.build, ht, build, tableName, ofSelect, ht]
    rfl
  | some table =>
    have hn : (ofSelect s).table = .text table := by rw [ofSelect, ht]; rfl
    rw [Select.build, ht, build, tableName_text hn]
    by_cases hb : Text.isBlank table = true
    · simp only [hb, if_true]
      rfl
    · have hg : (ofSelect s).groups.mapM term = .ok s.groups := mapM_term_texts s.groups
      have hc : (ofSelect s).columns.mapM term = .ok s.columns := mapM_term_texts s.columns
      have hs : { s with table? := some table } = s := by rw [← ht]
      simp only [hb, hg, hc]
      show Select.build { s with table? := some table } = _
      rw [hs, Select.build, ht]
      simp only [hb]

end Draft

end Crosstab.Sql
