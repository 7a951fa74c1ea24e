import Crosstab.Json.Reader
import Crosstab.Json.Writer
import Crosstab.Session

/-!
# Exchanging statements for rows

The database is at the other end of a pair of streams. A statement goes out as a line of JSON with
its text and its arguments; a line comes back with columns and rows, or with the words of a
failure.

Stands for the connection that `QueryEngine` executes its queries on.
-/

namespace Crosstab.Command.Exchange

open Session

/-- The line of a statement. -/
def statementLine (sql : String) (args : List Value) : String :=
  Json.compact (.record [("sql", .text sql), ("args", .list args)])

/-- The items of a list; nothing else has any. -/
def itemsOf : Value → List Value
  | .list items => items
  | _ => []

/-- The rows in a record with columns and rows. -/
def rowsOf (members : List (String × Value)) : Rows :=
  let part (name : String) : List Value := itemsOf ((valueOf? name members).getD .null)
  ⟨(part "columns").map (·.display), (part "rows").map itemsOf⟩

/-- The reply that a line tells. -/
def replyOfLine (line : String) : Reply :=
  match Json.read line with
  | .ok (.record members) =>
    match valueOf? "error" members with
    | some detail => .error detail.display
    | none => .ok (rowsOf members)
  | .ok _ => .error "the reply is not a record"
  | .error e => .error (Failure.ofRead e).message

end Crosstab.Command.Exchange
