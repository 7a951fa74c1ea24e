import Crosstab.Sql.Fragment
import Crosstab.Value.Convert
import Crosstab.Value.Order

/-!
# Sessions

A session talks with the channel that runs statements, and is a value: it has come to a result, it
has failed, or it asks a query and goes on with the rows that come back. What runs a session decides
where rows come from; a channel that fails ends the session with the failure. So the queries that an
operation asks, their order and their arguments are part of its meaning.

Models `execute` and `scalar` of `QueryEngine`, and `QueryResult`.
-/

namespace Crosstab

open Sql

/-! ## Rows -/

/-- What a query returns: the names of its columns and the values of each row. -/
structure Rows where
  columns : List String
  rows : List (List Value)
  deriving DecidableEq, Inhabited

/-- A row by its columns. -/
abbrev Row := List (String × Value)

namespace Rows

/-- The rows by their columns; of columns with one name the last counts. -/
def records (r : Rows) : List Row :=
  r.rows.map fun row => namedValues (r.columns.zip row)

/-- The first column of the first row; null without rows. -/
def scalar (r : Rows) : Outcome Value :=
  match r.records, r.columns with
  | [], _ => .ok .null
  | _ :: _, [] => mismatch .index
  | row :: _, column :: _ =>
    match valueOf? column row with
    | some v => .ok v
    | none => mismatch .key

end Rows

/-- The value of a column of a row. -/
def Row.get (column : String) (row : Row) : Outcome Value :=
  match valueOf? column row with
  | some v => .ok v
  | none => mismatch .key

/-- The values of a column of rows. -/
def columnOf (column : String) (records : List Row) : Outcome (List Value) :=
  records.mapM (Row.get column)

/-! ## Sessions -/

/-- A session that comes to a result of the given type. -/
inductive Session (α : Type) where
  | done (result : α)
  | fail (f : Failure)
  | ask (query : Fragment) (next : Rows → Session α)

namespace Session

/-- A session that goes on with the result of another. -/
def bind {α β : Type} : Session α → (α → Session β) → Session β
  | .done a, f => f a
  | .fail e, _ => .fail e
  | .ask q next, f => .ask q fun rows => (next rows).bind f

instance : Monad Session where
  pure := done
  bind := bind

/-- An outcome that needs no query. -/
def ofOutcome {α : Type} : Outcome α → Session α
  | .ok a => .done a
  | .error e => .fail e

instance : MonadLift Outcome Session := ⟨ofOutcome⟩

/-- Asks a query and gives its rows. -/
def rows (query : Fragment) : Session Rows :=
  .ask query .done

/-- Asks a query and gives its rows by their columns. -/
def records (query : Fragment) : Session (List Row) := do
  return (← rows query).records

/-- Asks a query and gives the first column of its first row. -/
def scalar (query : Fragment) : Session Value := do
  (← rows query).scalar

/-- Asks a query for a number of things; no rows and null are none. -/
def count (query : Fragment) : Session Int := do
  (← scalar query).toCount

/-! ## Channels -/

/-- What a channel answers to a query: rows, or the words of its failure. -/
abbrev Reply := Except String Rows

/-- The outcome of a session whose queries are answered by an effect. -/
def runWith {m : Type → Type} [Monad m] {α : Type} (answer : Fragment → m Reply) :
    Session α → m (Outcome α)
  | .done a => pure (.ok a)
  | .fail e => pure (.error e)
  | .ask q next => do
    match ← answer q with
    | .ok rows => (next rows).runWith answer
    | .error detail => pure (.error (.channel detail q.sql))

/-- What a channel says when it has no reply left. -/
def exhausted : Reply := .error "no reply left"

/-- The outcome of a session whose queries are answered by replies in their order, with the
queries it asked. -/
def replay {α : Type} : Session α → List Reply → Outcome α × List Fragment
  | .done a, _ => (.ok a, [])
  | .fail e, _ => (.error e, [])
  | .ask q next, replies =>
    match replies.headD exhausted with
    | .error detail => (.error (.channel detail q.sql), [q])
    | .ok rows =>
      let (outcome, later) := (next rows).replay replies.tail
      (outcome, q :: later)

end Session

/-! ## Keyed values

Values of rows are looked up by equality, so a number is found under an equal number of another
kind. -/

/-- The value, which must be one that things can be looked up by. -/
def asKey (v : Value) : Outcome Value :=
  if v.isKey then .ok v else mismatch .kind

/-- The place of the last equal value. -/
def placeOf? (v : Value) (keys : List Value) : Option Nat :=
  (keys.reverse.findIdx? (·.equals v)).map (keys.length - 1 - ·)

/-- The keys without those that equal an earlier one. -/
def distinctKeys (keys : List Value) : List Value :=
  keys.foldl (fun acc k => if k.isIn acc then acc else acc ++ [k]) []

end Crosstab
