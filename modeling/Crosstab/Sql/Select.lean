import Crosstab.Sql.Fragment
import Crosstab.Value.Convert
import Crosstab.Text.Case

/-!
# SELECT statements

A statement is a record of its clauses; each step changes one of them, and `build` writes those that
are there, each on a line of its own and always in the same order. A statement with named subqueries
writes them first, in the order they were given.

Models `SqlQueryBuilder` and `CteQueryBuilder`.
-/

namespace Crosstab.Sql

open Text

/-- The clauses of a statement. -/
structure Select where
  columns : List String
  distinct : Bool
  table? : Option String
  condition : Fragment
  groups : List String
  orders : List String
  limit? : Option Int
  offset? : Option Int
  deriving DecidableEq

namespace Select

/-- A statement that selects the columns, all of them if none is given. -/
def ofColumns (columns : List String) : Select :=
  ⟨columns, false, none, .empty, [], [], none, none⟩

/-- A statement that selects the distinct combinations of the columns. -/
def distinctOf (columns : List String) : Select :=
  { ofColumns columns with distinct := true }

/-- Selects from a table. -/
def fromTable (table : String) (s : Select) : Select :=
  { s with table? := some table }

/-- Sets the condition on the rows; a blank one changes nothing. -/
def filter (f : Fragment) (s : Select) : Select :=
  if f.isBlank then s else { s with condition := f }

/-- Adds a condition on the rows. -/
def andFilter (f : Fragment) (s : Select) : Outcome Select := do
  let condition ← s.condition.and f
  return { s with condition }

/-- Adds grouping terms; empty ones are left out. -/
def groupBy (terms : List String) (s : Select) : Select :=
  { s with groups := s.groups ++ terms.filter (!·.isEmpty) }

/-- Adds an ordering term with a direction, which may be in any case. -/
def orderBy (column : String) (direction : Value) (s : Select) : Outcome Select :=
  let d := upper (trim (direction.displayOr ""))
  if d == "ASC" || d == "DESC" then .ok { s with orders := s.orders ++ [s!"{column} {d}"] }
  else .error (.miscompiled (.direction direction.shown))

/-- Adds ordering terms as they are; blank ones are left out. -/
def orderByTerms (terms : String) (s : Select) : Select :=
  if isBlank terms then s else { s with orders := s.orders ++ [trim terms] }

/-- Sets the most rows that are wanted, at least one. -/
def limitTo (n : Value) (s : Select) : Outcome Select := do
  let k ← n.toInt
  if k < 1 then throw (.miscompiled (.limit n.display))
  return { s with limit? := some k }

/-- Sets the number of rows that are passed over. -/
def startAt (n : Value) (s : Select) : Outcome Select := do
  let k ← n.toInt
  if k < 0 then throw (.miscompiled (.offset n.display))
  return { s with offset? := some k }

/-! ## Clauses -/

/-- A keyword and its terms, nothing if there are none. -/
def listed (keyword : String) (terms : List String) : Outcome (List Fragment) :=
  if terms.isEmpty then .ok []
  else do return [← Fragment.raw (keyword ++ " " ++ ", ".intercalate terms)]

/-- A keyword and its number, nothing if there is none. -/
def counted (keyword : String) (n? : Option Int) : Outcome (List Fragment) :=
  match n? with
  | some n => do return [← Fragment.raw s!"{keyword} {← Value.wholeText n}"]
  | none => .ok []

/-- The condition behind its keyword, nothing if it is blank. -/
def filtered (condition : Fragment) : Outcome (List Fragment) :=
  if condition.isBlank then .ok []
  else do return [← Fragment.sequence [← Fragment.raw "WHERE", condition]]

/-- The clauses of the statement from its table, in their order. -/
def clauses (s : Select) (table : String) : Outcome (List Fragment) := do
  let head ← listed (if s.distinct then "SELECT DISTINCT" else "SELECT")
    (if s.columns.isEmpty then ["*"] else s.columns)
  let source ← listed "FROM" [table]
  let condition ← filtered s.condition
  let groups ← listed "GROUP BY" s.groups
  let orders ← listed "ORDER BY" s.orders
  let limit ← counted "LIMIT" s.limit?
  let offset ← counted "OFFSET" s.offset?
  return head ++ source ++ condition ++ groups ++ orders ++ limit ++ offset

/-- The statement as one fragment. -/
def build (s : Select) : Outcome Fragment :=
  match s.table? with
  | some table =>
    if isBlank table then .error (.miscompiled .noTable)
    else do Fragment.join "\n" (← s.clauses table)
  | none => .error (.miscompiled .noTable)

end Select

/-! ## Named subqueries -/

/-- A statement with named subqueries before its main query. -/
structure With where
  subqueries : List (String × Fragment)
  /-- The main query, or why it does not come together. -/
  main? : Option (Outcome Fragment)

namespace With

/-- A statement without subqueries and main query. -/
def empty : With := ⟨[], none⟩

/-- Adds a named subquery. -/
def subquery (name : String) (query : Fragment) (w : With) : With :=
  { w with subqueries := w.subqueries ++ [(name, query)] }

/-- Sets the main query, which fails the statement if it does not come together. -/
def mainQuery (query : Outcome Fragment) (w : With) : With :=
  { w with main? := some query }

/-- A named subquery between its parentheses. -/
def definition (name : String) (query : Fragment) : Outcome Fragment :=
  Fragment.of s!"{name} AS (\n{query.sql}\n)" query.args

/-- The statement as one fragment. -/
def build (w : With) : Outcome Fragment := do
  let main ←
    match w.main? with
    | none => throw (.miscompiled .noMainQuery)
    | some query => query
  if w.subqueries.isEmpty then return main
  let definitions ← w.subqueries.mapM fun q => definition q.1 q.2
  let head ← Fragment.join ",\n" definitions
  Fragment.of s!"WITH {head.sql}\n{main.sql}" (head.args ++ main.args)

end With

end Crosstab.Sql
