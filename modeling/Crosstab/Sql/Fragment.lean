import Crosstab.Failure
import Crosstab.Text.Blank
import Crosstab.Value.Basic

/-!
# Fragments of SQL

A fragment is a piece of SQL with positional arguments. Every `?` outside of quotes in the text
stands for the argument of its rank, and the type guarantees that there are as many of the one as of
the other. Fragments are put together by text; the blank ones are dropped when that is done.

Models `count_placeholders` and `SqlFragment`.
-/

namespace Crosstab.Sql

/-! ## Placeholders -/

/-- Counts the placeholders of a text that starts inside the given quote, or outside of any. A
quote inside another is text, and a doubled quote closes and opens again. -/
def countFrom : Option Char → List Char → Nat
  | _, [] => 0
  | some q, c :: cs => countFrom (if c == q then none else some q) cs
  | none, c :: cs =>
    if c == '\'' || c == '"' then countFrom (some c) cs
    else if c == '?' then countFrom none cs + 1
    else countFrom none cs

/-- The number of placeholders outside of quoted literals and identifiers. -/
def countPlaceholders (sql : String) : Nat :=
  countFrom none sql.toList

/-! ## Fragments -/

/-- A text and the arguments of its placeholders. -/
structure Fragment where
  sql : String
  args : List Value
  arity : countPlaceholders sql = args.length
  deriving DecidableEq

namespace Fragment

/-- A text with arguments, if their numbers agree. -/
def of (sql : String) (args : List Value) : Outcome Fragment :=
  if h : countPlaceholders sql = args.length then .ok ⟨sql, args, h⟩
  else .error (.miscompiled (.placeholders (countPlaceholders sql) args.length sql))

/-- A text without arguments. -/
def raw (sql : String) : Outcome Fragment :=
  of sql []

/-- The fragment without text. -/
def empty : Fragment := ⟨"", [], by decide⟩

instance : Inhabited Fragment := ⟨empty⟩

/-- The fragment has no text but blanks. -/
def isBlank (f : Fragment) : Bool :=
  Text.isBlank f.sql

/-- The number of placeholders. -/
def placeholders (f : Fragment) : Nat :=
  countPlaceholders f.sql

/-- Both fragments joined by `AND`; a blank one gives way to the other. -/
def and (left right : Fragment) : Outcome Fragment :=
  if left.isBlank then .ok right
  else if right.isBlank then .ok left
  else of s!"{left.sql} AND {right.sql}" (left.args ++ right.args)

/-- The fragments that are not blank, with the separator between them. -/
def join (separator : String) (fs : List Fragment) : Outcome Fragment :=
  match fs.filter (!·.isBlank) with
  | [] => .ok empty
  | parts => of (separator.intercalate (parts.map (·.sql))) (parts.flatMap (·.args))

/-- The fragment in parentheses; a blank one stays blank. -/
def wrap (f : Fragment) : Outcome Fragment :=
  if f.isBlank then .ok empty else of s!"({f.sql})" f.args

/-- The fragments that are not blank, with single spaces between them. -/
def sequence (fs : List Fragment) : Outcome Fragment :=
  join " " fs

end Fragment

end Crosstab.Sql
