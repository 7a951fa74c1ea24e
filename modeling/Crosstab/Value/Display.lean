import Crosstab.Value.Basic
import Crosstab.Calendar.Iso

/-!
# Values as text

The plain form of a value is what becomes a key, a label or part of a pattern; texts, dates and
decimals stand for themselves in it. The quoted form is what messages show and what lists and
records show of their items; it tells the kind of the value.

Models `str` and `repr` of a value.
-/

namespace Crosstab

open Number Calendar Text

/-- The quoted form of a date. -/
def dateQuoted (d : Date) : String :=
  s!"datetime.date({d.year}, {d.month}, {d.day})"

/-- The quoted form of an offset. -/
def offsetQuoted (offset : Int) : String :=
  if offset == 0 then "datetime.timezone.utc"
  else s!"datetime.timezone({durationText offset})"

/-- The quoted form of a moment; seconds and microseconds that are zero are left out. -/
def momentQuoted (m : Moment) : String :=
  let c := m.clock
  let tail :=
    if c.micro != 0 then s!", {c.second}, {c.micro}"
    else if c.second != 0 then s!", {c.second}" else ""
  let zone :=
    match m.offset? with
    | some o => ", tzinfo=" ++ offsetQuoted o
    | none => ""
  s!"datetime.datetime({m.date.year}, {m.date.month}, {m.date.day}, {c.hour}, {c.minute}" ++
    tail ++ zone ++ ")"

namespace Value

mutual

/-- The quoted form of a value. -/
def shown : Value → String
  | .null => "None"
  | .bool b => if b then "True" else "False"
  | .int n => intText n
  | .real x => x.text
  | .text s => quoted s
  | .list items => "[" ++ ", ".intercalate (shownItems items) ++ "]"
  | .record members => "\x7b" ++ ", ".intercalate (shownMembers members) ++ "\x7d"
  | .decimal d => "Decimal('" ++ d.text ++ "')"
  | .date d => dateQuoted d
  | .moment m => momentQuoted m

/-- The quoted forms of values. -/
def shownItems : List Value → List String
  | [] => []
  | v :: rest => v.shown :: shownItems rest

/-- The quoted forms of members, key and value. -/
def shownMembers : List (String × Value) → List String
  | [] => []
  | (k, v) :: rest => (quoted k ++ ": " ++ v.shown) :: shownMembers rest

end

/-- The plain form of a value. -/
def display : Value → String
  | .text s => s
  | .decimal d => d.text
  | .date d => d.text
  | .moment m => m.text
  | v => v.shown

end Value

end Crosstab
