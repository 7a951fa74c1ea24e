import Crosstab.Value.Arithmetic
import Crosstab.View.Heatmap

/-!
# Heatmaps as coloured tables

The colour of a cell tells where its value lies between the smallest and the largest value of the
page; its text is the value, or a block that is the denser the larger the value.

Models `HeatmapRenderer`, with `level` and `render`.
-/

namespace Crosstab.View

open Number Text

/-! ## Levels -/

/-- The number of colours for cells that have a value. -/
def levelCount : Int := 6

/-- The colour of a value between two others, from 1 to 6 for one between them; 0 for a missing
value. Where the two leave no room between them it is the last one. -/
def level (value low high : Value) : Outcome Int := do
  if [value, low, high].contains .null then return 0
  if (← high.isLess low) || high.equals low then return levelCount
  let ratio ← (← value.distanceFrom low).ratioTo (← high.distanceFrom low)
  let step ← (← ratio.times (.int levelCount)).toInt
  return 1 + min step (levelCount - 1)

/-- The colours by level, from that of a missing value on, as numbers among the 256 that a
terminal knows. -/
def palette : List Nat := [15, 226, 220, 214, 208, 202, 196]

/-- The blocks by level; the last one stands for all further levels. -/
def blocks : List String := [" ", "░", "▒", "▓", "█"]

/-! ## Tables -/

/-- A text, and the colour behind it if there is one. -/
structure StyledText where
  text : String
  background? : Option Nat
  deriving Repr, DecidableEq

/-- The style of a text in words, which is empty for plain text. -/
def StyledText.style (t : StyledText) : String :=
  match t.background? with
  | some colour => s!"on color({colour})"
  | none => ""

/-- The head of a column. -/
structure ColumnHead where
  header : Value
  alignedRight : Bool
  noWrap : Bool
  deriving DecidableEq

/-- A table with a title and a caption. -/
structure StyledTable where
  title : String
  caption : String
  columns : List ColumnHead
  rows : List (List StyledText)
  deriving DecidableEq

/-- How a heatmap becomes a table. -/
structure HeatmapStyle where
  /-- The most characters of a column key. -/
  cellWidth? : Option Int
  /-- Cells show their values, otherwise blocks. -/
  showsValues : Bool
  deriving Repr, DecidableEq

namespace HeatmapStyle

/-- Column keys of ten characters, and values. -/
def standard : HeatmapStyle := ⟨some 10, true⟩

/-- Characters that move the cursor of a terminal; they are left out of texts. -/
def isControl (c : Char) : Bool :=
  [7, 8, 11, 12, 13].contains c.toNat

/-- A key as plain text; only texts are. -/
def plainText (v : Value) : Outcome StyledText := do
  return ⟨String.ofList ((← v.asText).toList.filter (!isControl ·)), none⟩

/-- The head of a column key, cut to its width. -/
def keyHead (style : HeatmapStyle) (v : Value) : Outcome ColumnHead :=
  match v with
  | .text s => .ok ⟨.text (String.ofList (takeUpTo style.cellWidth? s.toList)), true, false⟩
  | _ => mismatch .kind

/-- The text of a cell with a value of the given level. -/
def cellLabel (style : HeatmapStyle) (x : Binary64) (level : Int) : Outcome String :=
  if style.showsValues then .ok (x.fixedText (if x.isWhole then 0 else 2))
  else
    match blocks[(min level 4).toNat]? with
    | some block => .ok block
    | none => mismatch .index

/-- A cell of a page. -/
def cellText (style : HeatmapStyle) (p : HeatmapPage) (x? : Option Binary64) :
    Outcome StyledText := do
  let n ← level (cellValue x?) (cellValue p.min?) (cellValue p.max?)
  let colour? ←
    if n == 0 then pure none
    else
      match palette[n.toNat]? with
      | some colour => pure (some colour)
      | none => mismatch .key
  match x? with
  | none => return ⟨"", colour?⟩
  | some x => return ⟨← style.cellLabel x n, colour?⟩

/-- A row of a page, with its sum at the end. -/
def rowTexts (style : HeatmapStyle) (p : HeatmapPage) (r : HeatmapRow) :
    Outcome (List StyledText) := do
  let key ← plainText r.category
  let cells ← r.cells.mapM (style.cellText p)
  return key :: cells ++ [⟨r.total.fixedText 0, none⟩]

/-- The page as a table. -/
def render (style : HeatmapStyle) (p : HeatmapPage) : Outcome StyledTable := do
  let title := if p.xField.truthy then s!"{p.yField.display} x {p.xField.display}" else "heatmap"
  let keys ← p.xCategories.mapM style.keyHead
  let rows ← p.rows.mapM (style.rowTexts p)
  let caption ←
    if p.rows.isEmpty then pure "no data"
    else do
      let first ← Value.wholeText (p.offset + 1)
      let last ← Value.wholeText (p.offset + p.rows.length)
      pure s!"rows {first}-{last} of {← Value.wholeText p.totalRowCount}"
  return ⟨title, caption,
    ⟨p.yField.orElse (.text ""), false, true⟩ :: keys ++ [⟨.text "total", true, false⟩], rows⟩

end HeatmapStyle

end Crosstab.View
