import Crosstab.Sql.Fragment
import Crosstab.Sql.Expression

/-!
# Predicates

A predicate is built from comparisons of a column, or of an expression over it, with values; the
comparisons are data, and their text is one function on them. Values only become arguments: the text
of a predicate depends on its columns and its shape, never on a value.

A link stands for its two sides and the connective between them with nothing around it, so a chain
of links reads as SQL reads it: negation binds tightest, then conjunction, then disjunction. A group
stands in parentheses.

Models the fragments that `compile_condition`, `in_predicate`, `_empty_predicate` and `predicate` of
`TimeWindow` write.
-/

namespace Crosstab.Sql

/-! ## Comparisons -/

/-- What is compared: a column as it is stored, or an expression over it. -/
inductive Subject where
  | stored (column : String)
  /-- The column as text. -/
  | asText (column : String)
  /-- The epoch seconds of a temporal column. -/
  | asEpoch (column : String)
  /-- The calendar date of a column, with the expression that tells it. -/
  | asDate (column expr : String)
  /-- The column as a grouping key. -/
  | asKey (column : String)
  deriving Repr, DecidableEq

namespace Subject

/-- The text of what is compared. -/
def sql : Subject → String
  | .stored column => column
  | .asText column => textExpr column
  | .asEpoch column => s!"epoch({column})"
  | .asDate _ expr => expr
  | .asKey column => keyExpr column

/-- The placeholder of a value to compare with. -/
def placeholder : Subject → String
  | .asDate _ _ => "CAST(? AS DATE)"
  | _ => "?"

end Subject

/-- How one value is compared with another. -/
inductive Comparison where
  | eq
  | ne
  | gt
  | gte
  | lt
  | lte
  deriving Repr, DecidableEq

/-- The sign of the comparison. -/
def Comparison.sql : Comparison → String
  | .eq => "="
  | .ne => "<>"
  | .gt => ">"
  | .gte => ">="
  | .lt => "<"
  | .lte => "<="

/-- A comparison of a column with values. -/
inductive Atom where
  /-- The column has no value, or has one if negated. -/
  | isNull (column : String) (negated : Bool)
  /-- The column as text is empty, or is not if negated. -/
  | isEmptyText (column : String) (negated : Bool)
  | compare (subject : Subject) (comparison : Comparison) (arg : Value)
  | between (subject : Subject) (low high : Value)
  /-- The subject is among the values, or is not if negated. -/
  | member (subject : Subject) (negated : Bool) (args : List Value)
  /-- The column as text matches a pattern. -/
  | like (column pattern : String)
  /-- No row. -/
  | never
  deriving DecidableEq

namespace Atom

/-- The text of the comparison. -/
def sql : Atom → String
  | .isNull column negated => if negated then s!"{column} IS NOT NULL" else s!"{column} IS NULL"
  | .isEmptyText column negated =>
    if negated then s!"{textExpr column} <> ''" else s!"{textExpr column} = ''"
  | .compare s c _ => s!"{s.sql} {c.sql} {s.placeholder}"
  | .between s _ _ => s!"{s.sql} BETWEEN {s.placeholder} AND {s.placeholder}"
  | .member s negated args =>
    let places := ", ".intercalate (args.map fun _ => s.placeholder)
    if negated then s!"{s.sql} NOT IN ({places})" else s!"{s.sql} IN ({places})"
  | .like column _ => likeExpr column
  | .never => "1=0"

/-- The values of the comparison, in the order of their placeholders. -/
def args : Atom → List Value
  | .isNull _ _ | .isEmptyText _ _ | .never => []
  | .compare _ _ arg => [arg]
  | .between _ low high => [low, high]
  | .member _ _ args => args
  | .like _ pattern => [.text pattern]

end Atom

/-! ## Predicates -/

/-- A connective. -/
inductive Logic where
  | and
  | or
  deriving Repr, DecidableEq

/-- The word of the connective. -/
def Logic.sql : Logic → String
  | .and => "AND"
  | .or => "OR"

/-- The connective of a word. -/
def Logic.ofName? (s : String) : Option Logic :=
  if s == "AND" then some .and else if s == "OR" then some .or else none

/-- A condition on rows. -/
inductive Predicate where
  | atom (a : Atom)
  | group (p : Predicate)
  | negation (p : Predicate)
  | link (left : Predicate) (logic : Logic) (right : Predicate)
  deriving DecidableEq

namespace Predicate

/-- The text of the predicate. -/
def sql : Predicate → String
  | .atom a => a.sql
  | .group p => s!"({p.sql})"
  | .negation p => s!"NOT {p.sql}"
  | .link left logic right => s!"{left.sql} {logic.sql} {right.sql}"

/-- The values of the predicate, in the order of their placeholders. -/
def args : Predicate → List Value
  | .atom a => a.args
  | .group p => p.args
  | .negation p => p.args
  | .link left _ right => left.args ++ right.args

/-- The predicate as a fragment. -/
def fragment (p : Predicate) : Outcome Fragment :=
  Fragment.of p.sql p.args

/-- Both predicates, where either may be absent. -/
def both? : Option Predicate → Option Predicate → Option Predicate
  | none, q => q
  | p, none => p
  | some p, some q => some (.link p .and q)

/-- All predicates of a list, those that are present. -/
def all? (ps : List (Option Predicate)) : Option Predicate :=
  ps.foldl both? none

/-- The fragment of a predicate that may be absent. -/
def fragment? : Option Predicate → Outcome Fragment
  | none => .ok .empty
  | some p => p.fragment

end Predicate

end Crosstab.Sql
