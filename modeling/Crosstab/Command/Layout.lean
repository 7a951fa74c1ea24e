import Crosstab.Command.Report

/-!
# The layout of tables

A table becomes lines of text: every column is as wide as its widest text, and blanks fill the
rest. The plain format leaves it at that; every other one draws rules around the cells. A colour
behind a text is told in the codes of a terminal.

Stands for `tabulate`, and for the `Table` that `HeatmapRenderer` makes.
-/

namespace Crosstab.Command.Layout

open View

/-! ## Widths -/

/-- The blanks that a text lacks to a width. -/
def filler (width : Nat) (text : String) : String :=
  String.ofList (List.replicate (width - text.length) ' ')

/-- A text at the left of a width, or at the right of it. -/
def aligned (right : Bool) (width : Nat) (text : String) : String :=
  if right then filler width text ++ text else text ++ filler width text

/-- The width of each column: that of its widest text. -/
def widths (rows : List (List String)) : List Nat :=
  rows.foldl (fun ws row =>
    ws.zipWithAll (fun w? text? => max (w?.getD 0) ((text?.map String.length).getD 0)) row) []

/-- A row with as many cells as there are columns. -/
def completed (columns : Nat) (row : List String) : List String :=
  row ++ List.replicate (columns - row.length) ""

/-! ## Lines -/

/-- The line of cells between bars. -/
def ruledLine (cells : List String) : String :=
  "| " ++ " | ".intercalate cells ++ " |"

/-- The rule between two lines of cells, drawn with the given character. -/
def rule (stroke : Char) (ws : List Nat) : String :=
  "+" ++ "+".intercalate (ws.map fun w => String.ofList (List.replicate (w + 2) stroke)) ++ "+"

/-- The cells under their headers as lines between rules. -/
def ruled (ws : List Nat) (header : List String) (body : List (List String)) : List String :=
  [rule '-' ws, ruledLine header, rule '=' ws] ++
    body.flatMap fun row => [ruledLine row, rule '-' ws]

/-- The cells under their headers as lines without rules. -/
def plain (header : List String) (body : List (List String)) : List String :=
  (header :: body).map ("  ".intercalate ·)

/-! ## Tables -/

/-- The text of a value in a table; null leaves its cell empty. -/
def valueText (v : Value) : String :=
  if v == .null then "" else v.display

/-- The lines of a table of values. -/
def plainTable (t : PlainTable) : List String :=
  let rows := (t.headers :: t.rows).map (·.map valueText)
  let ws := widths rows
  let line (row : List String) : List String :=
    (ws.zip (completed ws.length row)).map fun (w, text) => aligned false w text
  let header := line (rows.headD [])
  let body := rows.tail.map line
  if t.format == "plain" then plain header body else ruled ws header body

/-- A text in front of a colour. -/
def coloured (colour? : Option Nat) (text : String) : String :=
  match colour? with
  | some colour => s!"\x1b[48;5;{colour}m" ++ text ++ "\x1b[0m"
  | none => text

/-- The lines of a table with a title and a caption. -/
def styledTable (t : StyledTable) : List String :=
  let headers := t.columns.map (·.header.display)
  let ws := widths (headers :: t.rows.map (·.map (·.text)))
  let rights := t.columns.map (·.alignedRight)
  let header := (ws.zip (rights.zip headers)).map fun (w, right, text) => aligned right w text
  let row (cells : List StyledText) : List String :=
    (ws.zip (rights.zip cells)).map fun (w, right, cell) =>
      coloured cell.background? (aligned right w cell.text)
  t.title :: ruled ws header (t.rows.map row) ++ [t.caption]

/-- The lines of a part of a report. -/
def part : Part → List String
  | .line text => [text]
  | .table t => plainTable t
  | .coloured t => styledTable t

end Crosstab.Command.Layout
