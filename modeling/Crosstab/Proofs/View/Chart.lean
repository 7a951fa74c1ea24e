import Crosstab.Proofs.Firsts
import Crosstab.Proofs.Pivot.StoredKeys
import Crosstab.Proofs.Value.Equality
import Crosstab.Proofs.View.Heatmap
import Crosstab.Proofs.View.TopN

/-!
# Charts of selected items

A chart asks for the rows of the keys of its axes and puts the metric of each row in the cell of its
keys. A row is not lost if its keys are among those of the axes. Items in the words of the database
select just such rows; an item in other words may select rows whose key is not its own.
-/

namespace Crosstab.View

open Crosstab.Filter Number Pivot Sql
open Session (Reply)

/-! ## Cells in their places -/

/-- The cell of a column and a row, if the matrix has one there. -/
def cellAt? (cells : Cells) (column row : Nat) : Option (Option Binary64) :=
  cells[row]?.bind (·[column]?)

/-- The matrix has a cell for each column and row. -/
def Shaped (columns rows : Nat) (cells : Cells) : Prop :=
  ∀ i < columns, ∀ j < rows, (cellAt? cells i j).isSome = true

theorem cellAt?_setCell (cells : Cells) (i j : Nat) (x : Option Binary64) (i' j' : Nat) :
    cellAt? (setCell i j x cells) i' j' =
      if i = i' ∧ j = j' then (cellAt? cells i' j').map fun _ => x else cellAt? cells i' j' := by
  unfold cellAt? setCell
  rw [List.getElem?_modify]
  cases cells[j']? with
  | none => simp
  | some row =>
    by_cases hj : j = j'
    · by_cases hi : i = i'
      · simp only [hi, hj, and_self, if_true, Option.bind_some]
        exact List.getElem?_set_self'
      · simp [hi, hj]
    · simp [hj]

theorem shaped_empty (columns rows : Nat) : Shaped columns rows (emptyCells columns rows) := by
  intro i hi j hj
  simp [cellAt?, emptyCells, hi, hj]

theorem Shaped.setCell {columns rows : Nat} {cells : Cells} (h : Shaped columns rows cells)
    (i j : Nat) (x : Option Binary64) : Shaped columns rows (setCell i j x cells) := by
  intro i' hi j' hj
  rw [cellAt?_setCell]
  split
  · rw [Option.isSome_map]
    exact h i' hi j' hj
  · exact h i' hi j' hj

/-- A key has the place of a key that it equals, or it equals none. -/
theorem placeOf?_cases (v : Value) (keys : List Value) :
    (∃ i k, placeOf? v keys = some i ∧ keys[i]? = some k ∧ k.equals v = true) ∨
      placeOf? v keys = none ∧ ∀ k ∈ keys, k.equals v = false := by
  unfold placeOf?
  cases hfind : keys.reverse.findIdx? (·.equals v) with
  | none =>
    refine .inr ⟨rfl, fun k hk => ?_⟩
    exact List.findIdx?_eq_none_iff.1 hfind _ (List.mem_reverse.2 hk)
  | some n =>
    obtain ⟨hn, hequal, -⟩ := List.findIdx?_eq_some_iff_getElem.1 hfind
    rw [List.length_reverse] at hn
    rw [List.getElem_reverse] at hequal
    refine .inl ⟨keys.length - 1 - n, _, rfl, ?_, hequal⟩
    exact List.getElem?_eq_some_iff.2 ⟨by omega, rfl⟩

/-- A text has its place among texts, or is none of them. -/
theorem placeOf?_text (k : String) (keys : List String) :
    (∃ i, placeOf? (.text k) (keys.map .text) = some i ∧ keys[i]? = some k) ∨
      placeOf? (.text k) (keys.map .text) = none ∧ k ∉ keys := by
  rcases placeOf?_cases (.text k) (keys.map .text) with ⟨i, t, hplace, ht, hequal⟩ | ⟨hnone, hall⟩
  · rw [List.getElem?_map] at ht
    obtain ⟨s, hs, rfl⟩ := Option.map_eq_some_iff.1 ht
    obtain rfl := Value.text.inj ((Value.equals_text s _).1 hequal)
    exact .inl ⟨i, hplace, hs⟩
  · refine .inr ⟨hnone, fun hk => ?_⟩
    have hself := hall _ (List.mem_map_of_mem hk)
    rw [(Value.equals_text k _).2 rfl] at hself
    cases hself

/-! ## Rows in their cells -/

/-- The row of a cell. -/
def rowOf (c : Cell) : Row :=
  [(colColumn, c.x), (rowColumn, c.y), (metricColumn, c.value)]

theorem records_cellRows (cells : List Cell) : (cellRows cells).records = cells.map rowOf := by
  simp only [Rows.records, cellRows, List.map_map]
  refine List.map_congr_left fun c _ => ?_
  rfl

/-- A row for keys that are texts whose metric, if there is one, is a number. -/
structure HasTexts (c : Cell) : Prop where
  keys : ∃ a b, c.x = .text a ∧ c.y = .text b
  value : c.value = .null ∨ ∃ x, c.value.toReal = .ok x

/-- The metric of the row stands in the cell of its keys. -/
def IsPlaced (xs ys : List String) (cells : Cells) (c : Cell) : Prop :=
  ∃ i j x?, (xs.map Value.text)[i]? = some c.x ∧ (ys.map Value.text)[j]? = some c.y ∧
    c.value.toReal? = .ok x? ∧ cellAt? cells i j = some x?

/-- The row has the keys of a column and a row of the matrix. -/
def IsFor (xs ys : List String) (i j : Nat) (c : Cell) : Prop :=
  (xs.map Value.text)[i]? = some c.x ∧ (ys.map Value.text)[j]? = some c.y

variable {xs ys : List String}

/-- A row for texts sets the cell at their places, if both have one. -/
theorem placeRow_texts {c : Cell} {a b : String} (hx : c.x = .text a) (hy : c.y = .text b)
    {x? : Option Binary64} (hx? : c.value.toReal? = .ok x?) (cells : Cells) :
    placeRow (xs.map .text) (ys.map .text) cells (rowOf c) =
      match placeOf? (.text a) (xs.map .text), placeOf? (.text b) (ys.map .text) with
      | some x, some y => .ok (setCell x y x? cells)
      | _, _ => .ok cells := by
  have hcol : (rowOf c).get colColumn = .ok c.x := rfl
  have hrow : (rowOf c).get rowColumn = .ok c.y := rfl
  have hmetric : (rowOf c).get metricColumn = .ok c.value := rfl
  unfold placeRow
  rw [hcol, hrow, hmetric, hx, hy]
  show (match placeOf? (.text a) (xs.map .text), placeOf? (.text b) (ys.map .text) with
    | some x, some y => do return setCell x y (← c.value.toReal?) cells
    | _, _ => return cells) = _
  rw [hx?]
  cases placeOf? (.text a) (xs.map .text) with
  | none => rfl
  | some i =>
    cases placeOf? (.text b) (ys.map .text) with
    | none => rfl
    | some j => rfl

/-- A row changes the cell of its keys, which then holds its metric; without such a cell it changes
nothing. -/
theorem placeRow_cell {c : Cell} (hc : HasTexts c) (cells : Cells)
    (hshape : Shaped xs.length ys.length cells) :
    ∃ placed, placeRow (xs.map .text) (ys.map .text) cells (rowOf c) = .ok placed ∧
      Shaped xs.length ys.length placed ∧
      (∀ i j, ¬IsFor xs ys i j c → cellAt? placed i j = cellAt? cells i j) ∧
      (c.x ∈ xs.map .text → c.y ∈ ys.map .text → IsPlaced xs ys placed c) := by
  obtain ⟨⟨a, b, hx, hy⟩, hvalue⟩ := hc
  obtain ⟨x?, hx?⟩ : ∃ x?, c.value.toReal? = .ok x? := by
    rcases hvalue with hnull | ⟨x, hx⟩
    · exact ⟨none, Value.toReal?_eq_none_iff.2 hnull⟩
    · exact ⟨some x, Value.toReal?_of_toReal hx⟩
  rw [placeRow_texts hx hy hx?]
  rcases placeOf?_text a xs with ⟨i, hi, hxi⟩ | ⟨hi, ha⟩
  swap
  · rw [hi]
    refine ⟨cells, rfl, hshape, fun _ _ _ => rfl, fun hmem => ?_⟩
    rw [hx] at hmem
    exact absurd ((List.mem_map_of_injective (fun _ _ => Value.text.inj)).1 hmem) ha
  rcases placeOf?_text b ys with ⟨j, hj, hyj⟩ | ⟨hj, hb⟩
  swap
  · rw [hi, hj]
    refine ⟨cells, rfl, hshape, fun _ _ _ => rfl, fun _ hmem => ?_⟩
    rw [hy] at hmem
    exact absurd ((List.mem_map_of_injective (fun _ _ => Value.text.inj)).1 hmem) hb
  rw [hi, hj]
  have hxPlace : (xs.map Value.text)[i]? = some c.x := by rw [List.getElem?_map, hxi, hx]; rfl
  have hyPlace : (ys.map Value.text)[j]? = some c.y := by rw [List.getElem?_map, hyj, hy]; rfl
  refine ⟨setCell i j x? cells, rfl, hshape.setCell i j x?, ?_, fun _ _ => ?_⟩
  · intro i' j' hother
    rw [cellAt?_setCell, if_neg]
    rintro ⟨rfl, rfl⟩
    exact hother ⟨hxPlace, hyPlace⟩
  · refine ⟨i, j, x?, hxPlace, hyPlace, hx?, ?_⟩
    have hcolumn : i < xs.length := (List.getElem?_eq_some_iff.1 hxi).1
    have hline : j < ys.length := (List.getElem?_eq_some_iff.1 hyj).1
    obtain ⟨old, hold⟩ := Option.isSome_iff_exists.1 (hshape i hcolumn j hline)
    rw [cellAt?_setCell, if_pos ⟨rfl, rfl⟩, hold]
    rfl

/-- The rows that come last for their keys stand in the cells of these. -/
theorem placeRows_from {cs : List Cell} (hcs : ∀ c ∈ cs, HasTexts c) {cells : Cells}
    (hshape : Shaped xs.length ys.length cells) :
    ∃ placed, (cs.map rowOf).foldlM (placeRow (xs.map .text) (ys.map .text)) cells = .ok placed ∧
      (∀ i j, (∀ c ∈ cs, ¬IsFor xs ys i j c) → cellAt? placed i j = cellAt? cells i j) ∧
      ∀ before c after, cs = before ++ c :: after → (∀ d ∈ after, d.x = c.x → d.y ≠ c.y) →
        c.x ∈ xs.map .text → c.y ∈ ys.map .text → IsPlaced xs ys placed c := by
  induction cs generalizing cells with
  | nil =>
    refine ⟨cells, rfl, fun _ _ _ => rfl, fun before c after h => ?_⟩
    exact absurd h.symm (List.append_ne_nil_of_right_ne_nil _ (List.cons_ne_nil c after))
  | cons c cs ih =>
    obtain ⟨hc, hrest⟩ := List.forall_mem_cons.1 hcs
    obtain ⟨next, hnext, hnextShape, hsame, hplaced⟩ := placeRow_cell hc cells hshape
    obtain ⟨placed, hfold, hkept, hlast⟩ := ih hrest hnextShape
    refine ⟨placed, ?_, ?_, ?_⟩
    · rw [List.map_cons, List.foldlM_cons]
      exact Outcome.bind_eq_ok.2 ⟨next, hnext, hfold⟩
    · intro i j hnone
      obtain ⟨hhead, htail⟩ := List.forall_mem_cons.1 hnone
      rw [hkept i j htail, hsame i j hhead]
    · intro before d after hsplit hlater hx hy
      cases before with
      | cons e before => exact hlast before d after (List.cons.inj hsplit).2 hlater hx hy
      | nil =>
        obtain ⟨rfl, rfl⟩ := List.cons.inj hsplit
        obtain ⟨i, j, x?, hxi, hyj, hx?, hcell⟩ := hplaced hx hy
        refine ⟨i, j, x?, hxi, hyj, hx?, (hkept i j ?_).trans hcell⟩
        -- a later row for the same cell would have the same keys
        rintro d hd ⟨hdx, hdy⟩
        exact hlater d hd (Option.some.inj (hdx.symm.trans hxi))
          (Option.some.inj (hdy.symm.trans hyj))

/-- The cells of rows whose keys are texts come together, and each row that comes last for keys of
both axes stands in the cell of its keys. -/
theorem placeRows_cells (xs ys : List String) {cs : List Cell} (hcs : ∀ c ∈ cs, HasTexts c) :
    ∃ placed, placeRows (xs.map .text) (ys.map .text) (cellRows cs).records = .ok placed ∧
      ∀ before c after, cs = before ++ c :: after → (∀ d ∈ after, d.x = c.x → d.y ≠ c.y) →
        c.x ∈ xs.map .text → c.y ∈ ys.map .text → IsPlaced xs ys placed c := by
  obtain ⟨placed, hplaced, -, hlast⟩ := placeRows_from hcs (shaped_empty xs.length ys.length)
  refine ⟨placed, ?_, hlast⟩
  rw [placeRows, records_cellRows, List.length_map, List.length_map]
  exact hplaced

/-! ## Charts -/

/-- The keys of the selected items of an axis, each once and as many as the bound allows. -/
theorem manualKeys_eq (bound? : Option Int) (axis : Axis) :
    axis.manualKeys bound? = takeUpTo bound? (axis.selected.map normalizeKey).eraseDups := by
  have hfold := foldl_eraseDups [] (axis.selected.map normalizeKey)
  rw [List.foldl_map, List.nil_append] at hfold
  rw [Axis.manualKeys, ← hfold]
  rfl

/-- The keys that the selected items of an axis stand for. -/
theorem mem_manualKeys {bound? : Option Int} {axis : Axis} {k : String}
    (h : k ∈ axis.manualKeys bound?) : ∃ v ∈ axis.selected, normalizeKey v = k := by
  rw [manualKeys_eq] at h
  have hkeys : k ∈ (axis.selected.map normalizeKey).eraseDups := by
    unfold takeUpTo at h
    cases bound? with
    | none => exact h
    | some n => exact List.mem_of_mem_take h
  exact List.mem_map.1 (List.mem_eraseDups.1 hkeys)

section Selected

variable {answer : Fragment → Reply} {w : Workspace} {r : ChartRequest} {c : Context}
  {qs : List Fragment} {xName yName : String}

/-- The column keys of a chart of selected items. -/
def columnKeys (w : Workspace) (r : ChartRequest) : List String :=
  r.col.manualKeys (some (maxColumns w.settings r.chartType))

/-- The row keys of a chart of selected items. -/
def rowKeys (w : Workspace) (r : ChartRequest) : List String :=
  r.row.manualKeys (some w.settings.chartMaxRows)

/-- The keys of selected items need no query. -/
theorem axisKeys_manual (answer : Fragment → Reply) (w : Workspace) {axis : Axis}
    (hmanual : axis.manual = true) {name : String}
    (hname : c.schema.require (.text axis.field) = .ok name) (metric : Metric) (bound : Int) :
    Runs answer (w.axisKeys c axis metric bound) ((axis.manualKeys (some bound)).map .text) [] := by
  refine Runs.lift_bind hname ?_
  rw [hmanual]
  exact Runs.done _

/-- What a chart does when its keys are known. -/
def chartOf (r : ChartRequest) (c : Context) (xKeys yKeys : List Value) : Session Chart :=
  if xKeys.isEmpty || yKeys.isEmpty then pure ⟨r.col.field, r.row.field, [], [], []⟩
  else do
    let query ← c.matrix (.text r.col.field) (.text r.row.field) r.metric xKeys yKeys
    checkKeys xKeys
    checkKeys yKeys
    let records ← Session.records query
    let cells ← placeRows xKeys yKeys records
    return ⟨r.col.field, r.row.field, xKeys, yKeys, [⟨r.metric, cells⟩]⟩

/-- A chart of selected items asks for nothing before its cells but its context. -/
theorem chart_leads (hcontext : Runs answer (w.context r.toRequest [r.metric]) c qs)
    (hcol : r.col.manual = true) (hrow : r.row.manual = true)
    (hx : c.schema.require (.text r.col.field) = .ok xName)
    (hy : c.schema.require (.text r.row.field) = .ok yName) :
    Leads answer (chart w r) qs
      (chartOf r c ((columnKeys w r).map .text) ((rowKeys w r).map .text)) := by
  have hxs := axisKeys_manual answer w hcol hx r.metric (maxColumns w.settings r.chartType)
  have hys := axisKeys_manual answer w hrow hy r.metric w.settings.chartMaxRows
  rw [← List.append_nil qs]
  exact hcontext.leads (hxs.leads (hys.leads (Leads.refl _)))

/-- A chart comes of its keys if the query for its cells comes together and is answered. -/
theorem chartOf_keys_runs {xs ys : List Value} (hxs : xs ≠ []) (hys : ys ≠ [])
    (hxKeys : checkKeys xs = .ok ()) (hyKeys : checkKeys ys = .ok ()) {q : Fragment}
    (hq : c.matrix (.text r.col.field) (.text r.row.field) r.metric xs ys = .ok q) {rows : Rows}
    (hrows : answer q = .ok rows) {cells : Cells}
    (hcells : placeRows xs ys rows.records = .ok cells) :
    Runs answer (chartOf r c xs ys)
      ⟨r.col.field, r.row.field, xs, ys, [⟨r.metric, cells⟩]⟩ [q] := by
  have hsome : (xs.isEmpty || ys.isEmpty) = false := by
    rw [List.isEmpty_eq_false_iff.2 hxs, List.isEmpty_eq_false_iff.2 hys]
    rfl
  unfold chartOf
  rw [hsome]
  refine Runs.lift_bind hq (Runs.lift_bind hxKeys (Runs.lift_bind hyKeys ?_))
  exact (Runs.records hrows).bind (Runs.lift_bind hcells (Runs.done _))

theorem chartOf_runs {xs ys : List String} (hxs : xs ≠ []) (hys : ys ≠ []) {q : Fragment}
    (hq : c.matrix (.text r.col.field) (.text r.row.field) r.metric (xs.map .text) (ys.map .text) =
      .ok q) {rows : Rows} (hrows : answer q = .ok rows) {cells : Cells}
    (hcells : placeRows (xs.map .text) (ys.map .text) rows.records = .ok cells) :
    Runs answer (chartOf r c (xs.map .text) (ys.map .text))
      ⟨r.col.field, r.row.field, xs.map .text, ys.map .text, [⟨r.metric, cells⟩]⟩ [q] :=
  chartOf_keys_runs (fun h => hxs (List.map_eq_nil_iff.1 h))
    (fun h => hys (List.map_eq_nil_iff.1 h)) (checkKeys_texts xs) (checkKeys_texts ys) hq hrows
    hcells

/-- A row that comes back for the keys of both axes: their restrictions keep it, its keys are those
of what it stores, and its metric is a number if there is one. -/
structure IsReturned (r : ChartRequest) (c : Context) (finds : Int → List Value → Bool)
    (xs ys : List String) (cell : Cell) : Prop where
  stored : ∃ row, c.Returns (.text r.col.field) finds (xs.map .text) row cell.x ∧
    c.Returns (.text r.row.field) finds (ys.map .text) row cell.y
  value : cell.value = .null ∨ ∃ x, cell.value.toReal = .ok x

theorem IsReturned.hasTexts {finds : Int → List Value → Bool} {xs ys : List String} {cell : Cell}
    (h : IsReturned r c finds xs ys cell) : HasTexts cell := by
  obtain ⟨row, hx, hy⟩ := h.stored
  obtain ⟨_, -, -, hxKey⟩ := hx.key
  obtain ⟨_, -, -, hyKey⟩ := hy.key
  exact ⟨⟨_, _, hxKey, hyKey⟩, h.value⟩

/-- The chart shows the metric of the row in the cell of its keys. -/
def IsShown (chart : Chart) (cell : Cell) : Prop :=
  ∃ i j x s, chart.xCategories[i]? = some cell.x ∧ chart.yCategories[j]? = some cell.y ∧
    cell.value.toReal = .ok x ∧ chart.series = [s] ∧ cellAt? s.values i j = some (some x)

/-- The items of both axes are in the words of the database. -/
def InWords (r : ChartRequest) (c : Context) : Prop :=
  (∀ v ∈ r.col.selected, IsItem (c.schema.fieldType (.text r.col.field)) v) ∧
    ∀ v ∈ r.row.selected, IsItem (c.schema.fieldType (.text r.row.field)) v

theorem InWords.keys (h : InWords r c) (w : Workspace) :
    (∀ k ∈ columnKeys w r, IsWord (c.schema.fieldType (.text r.col.field)) k) ∧
      ∀ k ∈ rowKeys w r, IsWord (c.schema.fieldType (.text r.row.field)) k := by
  constructor
  · intro k hk
    obtain ⟨v, hv, rfl⟩ := mem_manualKeys hk
    exact (h.1 v hv).isWord
  · intro k hk
    obtain ⟨v, hv, rfl⟩ := mem_manualKeys hk
    exact (h.2 v hv).isWord

/-- The rows of a chart of selected items are not lost. If the items are in the words of the
database, any text of a text field but of flags and whole numbers only their own texts, the query
for the cells comes together, and each row that it returns stands in the cell of its keys. So does
any row whose keys are among those of the axes, whatever the items are; of several rows for one cell
it is the last that stands there. -/
theorem rows_of_items_are_placed {finds : Int → List Value → Bool} (hfinds : Scope.FindsWhole finds)
    (hcontext : Runs answer (w.context r.toRequest [r.metric]) c qs) (hcol : r.col.manual = true)
    (hrow : r.row.manual = true) {xColumn yColumn value : String} {base : Fragment}
    (hx : c.schema.column (.text r.col.field) = .ok xColumn)
    (hy : c.schema.column (.text r.row.field) = .ok yColumn)
    (hvalue : r.metric.expr c.schema = .ok value) (hbase : c.baseWhere = .ok base) :
    (InWords r c → ∃ q, c.matrix (.text r.col.field) (.text r.row.field) r.metric
      ((columnKeys w r).map .text) ((rowKeys w r).map .text) = .ok q) ∧
    ∀ q cells, c.matrix (.text r.col.field) (.text r.row.field) r.metric
        ((columnKeys w r).map .text) ((rowKeys w r).map .text) = .ok q →
      answer q = .ok (cellRows cells) →
      (∀ cell ∈ cells, IsReturned r c finds (columnKeys w r) (rowKeys w r) cell) →
      ∃ shown asked, Runs answer (chart w r) shown (qs ++ asked) ∧
        ∀ before cell after, cells = before ++ cell :: after →
          (∀ d ∈ after, d.x = cell.x → d.y ≠ cell.y) → cell.value ≠ .null →
          InWords r c ∨ cell.x ∈ (columnKeys w r).map .text ∧ cell.y ∈ (rowKeys w r).map .text →
          IsShown shown cell := by
  obtain ⟨xName, hxName, -⟩ := Outcome.bind_eq_ok.1 hx
  obtain ⟨yName, hyName, -⟩ := Outcome.bind_eq_ok.1 hy
  have hleads := chart_leads hcontext hcol hrow hxName hyName
  constructor
  · intro hwords
    have hc : c.Sound := (Workspace.context_within w r.toRequest [r.metric]).of_runs hcontext
    obtain ⟨hxWords, hyWords⟩ := hwords.keys w
    refine Context.matrix_builds hc hx hy hvalue hbase ?_ ?_
    · exact List.forall_mem_map.2 fun k hk => Context.takes_of_isWord (hxWords k hk)
    · exact List.forall_mem_map.2 fun k hk => Context.takes_of_isWord (hyWords k hk)
  · intro q cells hq hanswer hreturned
    -- a row has its keys among those of the axes, if only because of its words
    have hkeys : ∀ cell ∈ cells, InWords r c ∨
        cell.x ∈ (columnKeys w r).map .text ∧ cell.y ∈ (rowKeys w r).map .text →
        cell.x ∈ (columnKeys w r).map .text ∧ cell.y ∈ (rowKeys w r).map .text := by
      rintro cell hcell (hwords | hmem)
      · obtain ⟨hxWords, hyWords⟩ := hwords.keys w
        obtain ⟨row, hxReturns, hyReturns⟩ := (hreturned cell hcell).stored
        exact ⟨hxReturns.key_mem hfinds hxWords, hyReturns.key_mem hfinds hyWords⟩
      · exact hmem
    by_cases hnone : columnKeys w r = [] ∨ rowKeys w r = []
    · have hempty : Runs answer (chartOf r c ((columnKeys w r).map .text) ((rowKeys w r).map .text))
          ⟨r.col.field, r.row.field, [], [], []⟩ [] := by
        unfold chartOf
        rw [if_pos]
        · exact Runs.done _
        · simpa using hnone
      refine ⟨_, [], hleads.runs hempty, fun before cell after hsplit _ _ hcase => ?_⟩
      have hcell : cell ∈ cells := hsplit ▸ List.mem_append_right _ List.mem_cons_self
      obtain ⟨hxMem, hyMem⟩ := hkeys cell hcell hcase
      rcases hnone with hnone | hnone
      · rw [hnone] at hxMem
        cases hxMem
      · rw [hnone] at hyMem
        cases hyMem
    · rw [not_or] at hnone
      obtain ⟨placed, hplaced, hlast⟩ := placeRows_cells (columnKeys w r) (rowKeys w r)
        fun cell hcell => (hreturned cell hcell).hasTexts
      have hruns := chartOf_runs hnone.1 hnone.2 hq hanswer hplaced
      refine ⟨_, [q], hleads.runs hruns, fun before cell after hsplit hlater hpresent hcase => ?_⟩
      have hcell : cell ∈ cells := hsplit ▸ List.mem_append_right _ List.mem_cons_self
      obtain ⟨hxMem, hyMem⟩ := hkeys cell hcell hcase
      obtain ⟨i, j, x?, hxi, hyj, hx?, hat⟩ := hlast before cell after hsplit hlater hxMem hyMem
      obtain ⟨x, hreal⟩ := (hreturned cell hcell).value.resolve_left hpresent
      obtain rfl := Except.ok.inj (hx?.symm.trans (Value.toReal?_of_toReal hreal))
      exact ⟨i, j, x, _, hxi, hyj, hreal, rfl, hat⟩

end Selected

/-! ### Flags and sizes of packets -/

/-- A chart of the numbers of packets with some flags and sizes. -/
def packetChart (flags sizes : List Value) : ChartRequest where
  layer := .text "TCP"
  time := .null
  filters := .null
  timeField := .null
  col := ⟨"syn", true, none, .top, flags⟩
  row := ⟨"size", true, none, .top, sizes⟩
  metric := .countOf "size"
  chartType := .null
  chartsPerRow := 0

/-- A large packet with the flag. -/
def flaggedPacket : Stored :=
  fun column => if column = "t.\"syn\"" then .bool true else .int 1500

/-- A channel that knows of seven packets, all large and with the flag. -/
def sevenPackets : List Cell :=
  [⟨.text "true", .text "1500", .int 7⟩]

def packetChannel (_ : Fragment) : Reply :=
  .ok (cellRows sevenPackets)

/-- A database that compares whole numbers with whole numbers. -/
def findsEqual (n : Int) (args : List Value) : Bool :=
  decide (.int n ∈ args)

theorem context_packetChart (answer : Fragment → Reply) (flags sizes : List Value) :
    Runs answer (Workspace.ofPackets.context (packetChart flags sizes).toRequest
      [(packetChart flags sizes).metric]) allPackets [] := by
  have hplain : Workspace.ofPackets.plainContext
      (packetChart flags sizes).toRequest = .ok (allPackets, []) := by
    show Workspace.ofPackets.plainContext ⟨.text "TCP", .null, .null, .null⟩ = _
    rfl
  rw [Workspace.context_eq, hplain]
  exact Runs.done _

theorem column_syn : allPackets.schema.column (.text "syn") = .ok "t.\"syn\"" := rfl

theorem column_size : allPackets.schema.column (.text "size") = .ok "t.\"size\"" := rfl

theorem type_syn : allPackets.schema.fieldType (.text "syn") = .boolean := rfl

theorem type_size : allPackets.schema.fieldType (.text "size") = .number := rfl

/-- The packet comes back for keys of which one reads as its flag. -/
theorem returns_syn {keys : List Value} {args : List Value}
    (hentry : allPackets.scope.entry (.checkbox (.text "syn") keys) =
      .ok (some (.atom (.member (.stored "t.\"syn\"") false args)))) (hmem : .bool true ∈ args) :
    allPackets.Returns (.text "syn") findsEqual keys flaggedPacket (.text "true") := by
  refine ⟨⟨.checkbox (.text "syn") keys, _, ?_, hentry, ?_⟩, _, column_syn, ?_, rfl⟩
  · rw [Context.axisFilter, type_syn]
    rfl
  · exact congrArg some ((amongValues_bool findsEqual).2 hmem)
  · rw [type_syn]
    exact .flag true

/-- The packet comes back for keys of which one reads as its size. -/
theorem returns_size {keys : List Value} {args : List Value}
    (hentry : allPackets.scope.entry (.checkbox (.text "size") keys) =
      .ok (some (.atom (.member (.stored "t.\"size\"") false args)))) (hmem : .int 1500 ∈ args) :
    allPackets.Returns (.text "size") findsEqual keys flaggedPacket (.text "1500") := by
  refine ⟨⟨.checkbox (.text "size") keys, _, ?_, hentry, ?_⟩, _, column_size, ?_, rfl⟩
  · rw [Context.axisFilter, type_size]
    rfl
  · exact congrArg some ((amongValues_int findsEqual).2 (decide_eq_true hmem))
  · rw [type_size]
    exact .number 1500

theorem row_of_true_is_lost :
    ∃ q, allPackets.matrix (.text "syn") (.text "size") (.countOf "size") [.text "True"]
        [.text "1500"] = .ok q ∧
      allPackets.Returns (.text "syn") findsEqual [.text "True"] flaggedPacket (.text "true") ∧
      allPackets.Returns (.text "size") findsEqual [.text "1500"] flaggedPacket (.text "1500") ∧
      packetChannel q = .ok (cellRows [⟨.text "true", .text "1500", .int 7⟩]) ∧
      Runs packetChannel (chart Workspace.ofPackets (packetChart [.bool true] [.int 1500]))
        ⟨"syn", "size", [.text "True"], [.text "1500"], [⟨.countOf "size", [[none]]⟩]⟩ [q] := by
  obtain ⟨base, hbase⟩ : ∃ base, allPackets.baseWhere = .ok base :=
    Outcome.isOk_iff.1 (by decide +kernel)
  have hc : allPackets.Sound := nofun
  have hmetric : (Metric.countOf "size").expr allPackets.schema = .ok "COUNT(*)" := by
    decide +kernel
  -- the item is read as a flag, although its text is not that of the database
  have hflag : allPackets.Takes (.text "syn") (.text "True") := by
    intro t ht _ _
    obtain ⟨name, htarget, -⟩ := Scope.entry_of_column allPackets.scope column_syn
    obtain rfl := Except.ok.inj (htarget.symm.trans ht)
    have hread : Scope.flagOf "t.\"syn\"" (.text "True") = .ok (.bool true) := by decide +kernel
    refine ⟨(.stored "t.\"syn\"", .bool true), ?_⟩
    show Scope.operand _ ⟨name, _, allPackets.schema.fieldType (.text "syn")⟩ _ = _
    rw [type_syn, Scope.operand, hread]
    rfl
  have hsize : allPackets.Takes (.text "size") (.text "1500") := by
    have hword : IsWord .number (intText 1500) := .number (by decide +kernel)
    rw [← type_size] at hword
    exact Context.takes_of_isWord hword
  obtain ⟨q, hq⟩ := Context.matrix_builds hc column_syn column_size hmetric hbase
    (List.forall_mem_singleton.2 hflag) (List.forall_mem_singleton.2 hsize)
  have hanswer : packetChannel q = .ok (cellRows sevenPackets) := rfl
  have hplaced : placeRows (["True"].map .text) (["1500"].map .text)
      (cellRows sevenPackets).records = .ok [[none]] := by decide +kernel
  have hmatrix : allPackets.matrix (.text (packetChart [.bool true] [.int 1500]).col.field)
      (.text (packetChart [.bool true] [.int 1500]).row.field)
      (packetChart [.bool true] [.int 1500]).metric (["True"].map .text) (["1500"].map .text) =
      .ok q := hq
  have hcells := chartOf_runs (List.cons_ne_nil _ _) (List.cons_ne_nil _ _) hmatrix hanswer hplaced
  have hsynName : allPackets.schema.require (.text "syn") = .ok "syn" := by decide +kernel
  have hsizeName : allPackets.schema.require (.text "size") = .ok "size" := by decide +kernel
  have hleads :=
    chart_leads (context_packetChart packetChannel [.bool true] [.int 1500]) rfl rfl hsynName
      hsizeName
  have hsynEntry : allPackets.scope.entry (.checkbox (.text "syn") [.text "True"]) =
      .ok (some (.atom (.member (.stored "t.\"syn\"") false [.bool true]))) := by decide +kernel
  have hsizeEntry : allPackets.scope.entry (.checkbox (.text "size") [.text "1500"]) =
      .ok (some (.atom (.member (.stored "t.\"size\"") false [.int 1500]))) := by decide +kernel
  have hsynReturns := returns_syn hsynEntry (List.mem_singleton_self _)
  have hsizeReturns := returns_size hsizeEntry (List.mem_singleton_self _)
  exact ⟨q, hq, hsynReturns, hsizeReturns, hanswer, hleads.runs hcells⟩

/-- Flags in the words of the database. -/
def flagItems : List Value := [.text "true", .text "false"]

/-- Sizes in the words of the database. -/
def sizeItems : List Value := [.int 1500, .text "40"]

theorem inWords_packetChart : InWords (packetChart flagItems sizeItems) allPackets := by
  constructor
  · show ∀ v ∈ flagItems, IsItem (allPackets.schema.fieldType (.text "syn")) v
    rw [type_syn]
    exact List.forall_mem_cons.2 ⟨.flag true, List.forall_mem_singleton.2 (.flag false)⟩
  · show ∀ v ∈ sizeItems, IsItem (allPackets.schema.fieldType (.text "size")) v
    rw [type_size]
    have hforty : IsItem .number (.text (intText 40)) := .numeral (by decide +kernel)
    exact List.forall_mem_cons.2 ⟨.number (by decide +kernel), List.forall_mem_singleton.2 hforty⟩

theorem rows_of_flags_are_placed :
    Scope.FindsWhole findsEqual ∧ InWords (packetChart flagItems sizeItems) allPackets ∧
    ∃ q shown asked, allPackets.matrix (.text "syn") (.text "size") (.countOf "size")
        [.text "true", .text "false"] [.text "1500", .text "40"] = .ok q ∧
      packetChannel q = .ok (cellRows sevenPackets) ∧
      Runs packetChannel (chart Workspace.ofPackets (packetChart flagItems sizeItems)) shown asked ∧
      IsShown shown ⟨.text "true", .text "1500", .int 7⟩ := by
  have hfinds : Scope.FindsWhole findsEqual := by
    intro n ms
    rw [findsEqual, decide_eq_true_eq, List.mem_map_of_injective fun _ _ => Value.int.inj]
  obtain ⟨base, hbase⟩ : ∃ base, allPackets.baseWhere = .ok base :=
    Outcome.isOk_iff.1 (by decide +kernel)
  have hmetric : (Metric.countOf "size").expr allPackets.schema = .ok "COUNT(*)" := by
    decide +kernel
  have hwords := inWords_packetChart
  obtain ⟨hbuilds, hplaces⟩ := rows_of_items_are_placed hfinds
    (context_packetChart packetChannel flagItems sizeItems) rfl rfl column_syn column_size hmetric
    hbase
  obtain ⟨q, hq⟩ := hbuilds hwords
  have hreturned : ∀ cell ∈ sevenPackets, IsReturned (packetChart flagItems sizeItems) allPackets
      findsEqual (columnKeys Workspace.ofPackets (packetChart flagItems sizeItems))
      (rowKeys Workspace.ofPackets (packetChart flagItems sizeItems)) cell := by
    have hsynEntry :
        allPackets.scope.entry (.checkbox (.text "syn") [.text "true", .text "false"]) =
          .ok (some (.atom (.member (.stored "t.\"syn\"") false [.bool true, .bool false]))) := by
      decide +kernel
    have hsizeEntry : allPackets.scope.entry (.checkbox (.text "size") [.text "1500", .text "40"]) =
        .ok (some (.atom (.member (.stored "t.\"size\"") false [.int 1500, .int 40]))) := by
      decide +kernel
    have hsyn := returns_syn hsynEntry List.mem_cons_self
    have hsize := returns_size hsizeEntry List.mem_cons_self
    have hseven : ∃ x, (Value.int 7).toReal = .ok x := Outcome.isOk_iff.1 (by decide +kernel)
    exact List.forall_mem_singleton.2 ⟨⟨flaggedPacket, hsyn, hsize⟩, .inr hseven⟩
  obtain ⟨shown, asked, hruns, hshown⟩ := hplaces q sevenPackets hq rfl hreturned
  refine ⟨hfinds, hwords, q, shown, [] ++ asked, hq, rfl, hruns, ?_⟩
  exact hshown [] _ [] rfl nofun nofun (.inl hwords)

end Crosstab.View
