import Crosstab.Command.Report
import Crosstab.Proofs.Firsts
import Mathlib.Data.List.Infix
import Mathlib.Data.List.Perm.Subperm

/-!
# Values under their headers

The headers of a printed pivot table are those of all its items, each at the place where it comes up
first, while the values of an item follow each other without gaps. So an item shows its values under
their own headers exactly if its headers are the first ones of the table. The first item does, and
one that lacks a cell in the middle shows a value under the header of another cell.
-/

namespace Crosstab.Command.Report

open View

/-! ## Cells with their headers -/

/-- The cells of an item with the texts of their headers. -/
def headedCells (cells : ColumnCells) : List (String × Value) :=
  cells.flatMap fun (v, metrics) => metrics.map fun (label, x) =>
    (s!"{v.display} / {label.display}", x)

theorem map_fst_headedCells (cells : ColumnCells) :
    (headedCells cells).map (·.1) = cellHeaders cells := by
  rw [headedCells, cellHeaders, List.map_flatMap]
  simp only [List.map_map]
  rfl

theorem map_snd_headedCells (cells : ColumnCells) :
    (headedCells cells).map (·.2) = cellValues cells := by
  rw [headedCells, cellValues, List.map_flatMap]
  simp only [List.map_map]
  rfl

/-- The header of a cell is not the one of the labels. -/
theorem empty_notMem_cellHeaders (cells : ColumnCells) : "" ∉ cellHeaders cells := by
  intro h
  obtain ⟨⟨v, metrics⟩, -, h⟩ := List.mem_flatMap.1 h
  obtain ⟨⟨label, x⟩, -, h⟩ := List.mem_map.1 h
  have htext : v.display ++ " / " ++ label.display = "" := h
  simp at htext

/-! ## Headers -/

/-- The headers of the table of items. -/
def tableHeaders (items : List (Value × ColumnCells)) : List String :=
  ("" :: items.flatMap fun i => cellHeaders i.2).eraseDups

/-- A table has its headers, and a row for each item. -/
theorem cellTable_eq (format : String) (items : List (Value × ColumnCells)) :
    cellTable format items = .table ⟨(tableHeaders items).map .text,
      items.map fun i => i.1 :: cellValues i.2, format⟩ := by
  have hfold := foldl_eraseDups [""] (items.flatMap fun i => cellHeaders i.2)
  have hfirst : [""].eraseDups = [""] := by decide
  rw [hfirst, List.singleton_append] at hfold
  rw [cellTable, hfold]
  rfl

/-- The headers of the first item are the first ones. -/
theorem prefix_tableHeaders (label : Value) {cells : ColumnCells}
    (items : List (Value × ColumnCells)) (hdistinct : (cellHeaders cells).Nodup) :
    "" :: cellHeaders cells <+: tableHeaders ((label, cells) :: items) := by
  have hnodup : ("" :: cellHeaders cells).Nodup :=
    List.nodup_cons.2 ⟨empty_notMem_cellHeaders cells, hdistinct⟩
  have hprefix := prefix_eraseDups ("" :: cellHeaders cells)
    (items.flatMap fun i => cellHeaders i.2)
  rw [eraseDups_of_nodup hnodup] at hprefix
  exact hprefix

theorem mem_tableHeaders {items : List (Value × ColumnCells)} {i : Value × ColumnCells}
    (hi : i ∈ items) {h : String} (hh : h ∈ "" :: cellHeaders i.2) : h ∈ tableHeaders items := by
  rw [tableHeaders, List.mem_eraseDups]
  rcases List.mem_cons.1 hh with rfl | hh
  · exact List.mem_cons_self
  · exact List.mem_cons_of_mem _ (List.mem_flatMap.2 ⟨i, hi, hh⟩)

/-! ## Rows -/

/-- The row of an item holds the value of each of its cells at the place of its header. -/
def StandsUnder (headers : List String) (label : Value) (cells : ColumnCells) : Prop :=
  ∀ c ∈ headedCells cells, (label :: cellValues cells)[headers.idxOf c.1]? = some c.2

/-- The row of an item holds the value of one of its cells at the place of another header. -/
def IsShifted (headers : List String) (label : Value) (cells : ColumnCells) : Prop :=
  ∃ i h x other, (headedCells cells)[i]? = some (h, x) ∧
    (label :: cellValues cells)[i + 1]? = some x ∧ headers[i + 1]? = some other ∧ other ≠ h

theorem getElem?_row (label : Value) {cells : ColumnCells} {i : Nat} {c : String × Value}
    (h : (headedCells cells)[i]? = some c) :
    ("" :: cellHeaders cells)[i + 1]? = some c.1 ∧
      (label :: cellValues cells)[i + 1]? = some c.2 := by
  rw [List.getElem?_cons_succ, List.getElem?_cons_succ, ← map_fst_headedCells,
    ← map_snd_headedCells, List.getElem?_map, List.getElem?_map, h]
  exact ⟨rfl, rfl⟩

/-- An item whose headers are the first ones shows its values under them. -/
theorem standsUnder_of_prefix {headers : List String} (hnodup : headers.Nodup) (label : Value)
    {cells : ColumnCells} (h : "" :: cellHeaders cells <+: headers) :
    StandsUnder headers label cells := by
  intro c hc
  obtain ⟨i, hi⟩ := List.getElem?_of_mem hc
  obtain ⟨hheader, hvalue⟩ := getElem?_row label hi
  obtain ⟨hlt, hat⟩ := List.getElem?_eq_some_iff.1 hheader
  have hall : i + 1 < headers.length := hlt.trans_le h.length_le
  have hplace := hnodup.idxOf_getElem (i + 1) hall
  rw [← h.getElem hlt, hat] at hplace
  rw [hplace, hvalue]

/-- Any other item shows a value under another header. -/
theorem isShifted_of_not_prefix {items : List (Value × ColumnCells)} {i : Value × ColumnCells}
    (hi : i ∈ items) (hdistinct : (cellHeaders i.2).Nodup)
    (h : ¬"" :: cellHeaders i.2 <+: tableHeaders items) :
    IsShifted (tableHeaders items) i.1 i.2 := by
  by_contra hshifted
  have hnodup : ("" :: cellHeaders i.2).Nodup :=
    List.nodup_cons.2 ⟨empty_notMem_cellHeaders i.2, hdistinct⟩
  have hlength : ("" :: cellHeaders i.2).length ≤ (tableHeaders items).length :=
    (List.subperm_of_subset hnodup fun _ hg => mem_tableHeaders hi hg).length_le
  refine h (List.prefix_iff_getElem?.2 fun k hk => ?_)
  have hall : k < (tableHeaders items).length := hk.trans_le hlength
  cases k with
  | zero =>
    rw [tableHeaders, List.eraseDups_cons]
    rfl
  | succ k =>
    have hcell : k < (headedCells i.2).length := by
      rw [← List.length_map (·.1), map_fst_headedCells]
      exact Nat.lt_of_succ_lt_succ hk
    have hat := List.getElem?_eq_getElem hcell
    obtain ⟨hheader, hvalue⟩ := getElem?_row i.1 hat
    rw [List.getElem?_eq_getElem hall, ← List.getElem?_eq_getElem hk, hheader]
    by_contra hother
    exact hshifted ⟨k, _, _, _, hat, hvalue, List.getElem?_eq_getElem hall,
      fun hsame => hother (congrArg some hsame)⟩

/-! ## Reports on pivot tables -/

/-- A pivot table prints each value of its groups under its own header. Of the items of a group, it
does so for those whose headers are the first ones of the table, which the first item's are; every
other item has a value under the header of another cell. -/
theorem values_stand_under_first_headers (format : String) :
    (∀ t : Table, ∀ g ∈ t.groups, (cellHeaders g.cells).Nodup → ∃ headers : List String,
      .table ⟨headers.map .text, [.text "total" :: cellValues g.cells], format⟩ ∈
        ofTable format t ∧ StandsUnder headers (.text "total") g.cells) ∧
    ∀ r : RowItems, (∀ i ∈ r.items, (cellHeaders i.cells).Nodup) → ∃ headers : List String,
      ofItems format r = [.line r.label, .table ⟨headers.map .text,
        r.items.map fun i => i.key :: cellValues i.cells, format⟩] ∧
      (∀ i ∈ r.items.head?, "" :: cellHeaders i.cells <+: headers) ∧
      ∀ i ∈ r.items,
        ("" :: cellHeaders i.cells <+: headers → StandsUnder headers i.key i.cells) ∧
        (¬"" :: cellHeaders i.cells <+: headers → IsShifted headers i.key i.cells) := by
  constructor
  · intro t g hg hdistinct
    let headers := tableHeaders [(.text "total", g.cells)]
    have hprefix : "" :: cellHeaders g.cells <+: headers := prefix_tableHeaders _ [] hdistinct
    refine ⟨headers, ?_, standsUnder_of_prefix (nodup_eraseDups _) _ hprefix⟩
    refine List.mem_cons_of_mem _ (List.mem_flatMap.2 ⟨g, hg, List.mem_cons_of_mem _ ?_⟩)
    rw [cellTable_eq]
    exact List.mem_cons_self
  · intro r hdistinct
    let items := r.items.map fun i => (i.key, i.cells)
    refine ⟨tableHeaders items, ?_, ?_, fun i hi => ⟨fun h => ?_, fun h => ?_⟩⟩
    · rw [ofItems, cellTable_eq, List.map_map]
      rfl
    · intro i hi
      obtain ⟨rest, hrest⟩ := List.head?_eq_some_iff.1 hi
      have hfirst := hdistinct i (List.mem_of_mem_head? hi)
      have hitems : items = (i.key, i.cells) :: rest.map fun i => (i.key, i.cells) := by
        simp only [items, hrest, List.map_cons]
      rw [hitems]
      exact prefix_tableHeaders i.key _ hfirst
    · exact standsUnder_of_prefix (nodup_eraseDups _) i.key h
    · have hmem : (i.key, i.cells) ∈ items := List.mem_map_of_mem hi
      exact isShifted_of_not_prefix hmem (hdistinct i hi) h

/-- Two hosts, one with a cell under each of two codes and one without the first of them. -/
def sparse : RowItems where
  field := "host"
  label := "host (2)"
  items := [
    ⟨.text "a", [(.text "200", [(.text "n", .int 5)]), (.text "404", [(.text "n", .int 6)])]⟩,
    ⟨.text "b", [(.text "200", []), (.text "404", [(.text "n", .int 7)])]⟩]
  total := 2
  page := ⟨0, 10⟩

theorem first_row_of_sparse_stands :
    (∀ i ∈ sparse.items, (cellHeaders i.cells).Nodup) ∧ ∃ headers : List String,
      ofItems "grid" sparse = [.line "host (2)", .table ⟨headers.map .text,
        [[.text "a", .int 5, .int 6], [.text "b", .int 7]], "grid"⟩] ∧
      ∀ i ∈ sparse.items.head?, StandsUnder headers i.key i.cells := by
  have hdistinct : ∀ i ∈ sparse.items, (cellHeaders i.cells).Nodup := by decide +kernel
  obtain ⟨headers, htable, hfirst, hrows⟩ :=
    (values_stand_under_first_headers "grid").2 sparse hdistinct
  refine ⟨hdistinct, headers, htable, fun i hi => ?_⟩
  exact (hrows i (List.mem_of_mem_head? hi)).1 (hfirst i hi)

/-- A host without a cell under the first code shows its value under that code, and none under its
own. -/
theorem second_row_of_sparse_shifts :
    ofItems "grid" sparse = [.line "host (2)", .table ⟨["", "200 / n", "404 / n"].map .text,
      [[.text "a", .int 5, .int 6], [.text "b", .int 7]], "grid"⟩] ∧
    ¬∀ i ∈ sparse.items, StandsUnder ["", "200 / n", "404 / n"] i.key i.cells := by
  constructor
  · decide +kernel
  · intro h
    have hrow := h ⟨.text "b", [(.text "200", []), (.text "404", [(.text "n", .int 7)])]⟩
      (List.mem_cons_of_mem _ List.mem_cons_self) ("404 / n", .int 7) (by decide +kernel)
    revert hrow
    decide +kernel

end Crosstab.Command.Report
