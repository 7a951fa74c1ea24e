import Crosstab.Command.Report
import Crosstab.Proofs.View.Tabulated

/-!
# Cells of a heatmap

A page of a heatmap is put together from values for pairs of keys, of which those that are missing
do not count. Its smallest and largest value are cells that bound all others. A report puts a page
together once more, from the cells that the record of the page shows; the second page is the first
one, so the table that is printed is that of the page.
-/

namespace Crosstab.View

open Number

/-! ## Smallest and largest numbers -/

/-- The number is finite. -/
def IsBounded (x : Binary64) : Prop :=
  ∃ s u, x = .finite s u

/-- The units of a number with their sign. -/
def unitsOf : Binary64 → Int
  | .finite s u => Binary64.signed s u
  | _ => 0

theorem lt_iff_unitsOf {x y : Binary64} (hx : IsBounded x) (hy : IsBounded y) :
    x.lt y = true ↔ unitsOf x < unitsOf y := by
  obtain ⟨s, u, rfl⟩ := hx
  obtain ⟨t, v, rfl⟩ := hy
  exact decide_eq_true_iff

theorem le_iff_unitsOf {x y : Binary64} (hx : IsBounded x) (hy : IsBounded y) :
    x.le y = true ↔ unitsOf x ≤ unitsOf y := by
  have heq : x.eq y = true ↔ unitsOf x = unitsOf y := by
    obtain ⟨s, u, rfl⟩ := hx
    obtain ⟨t, v, rfl⟩ := hy
    simp [Binary64.eq, Binary64.rank?, unitsOf]
  rw [Binary64.le, Bool.or_eq_true, lt_iff_unitsOf hx hy, heq, Int.le_iff_lt_or_eq]

/-- What is chosen from numbers one after the other, whenever a later one comes before, is one of
them, and none comes before it. -/
theorem foldl_first (key : Binary64 → Int) (before : Binary64 → Binary64 → Bool)
    (xs : List Binary64) (x : Binary64)
    (h : ∀ a ∈ x :: xs, ∀ b ∈ x :: xs, before a b = true ↔ key a < key b) :
    xs.foldl (fun acc y => if before y acc then y else acc) x ∈ x :: xs ∧
      ∀ y ∈ x :: xs, key (xs.foldl (fun acc y => if before y acc then y else acc) x) ≤ key y := by
  induction xs generalizing x with
  | nil =>
    refine ⟨List.mem_cons_self, fun y hy => ?_⟩
    rw [List.mem_singleton.1 hy]
    exact Int.le_refl _
  | cons y ys ih =>
    obtain ⟨z, hz, hmem, hx, hy⟩ : ∃ z, (if before y x then y else x) = z ∧ z ∈ [x, y] ∧
        key z ≤ key x ∧ key z ≤ key y := by
      have hbefore := h y (by simp) x (by simp)
      cases hcase : before y x with
      | true => exact ⟨y, rfl, by simp, Int.le_of_lt (hbefore.1 hcase), Int.le_refl _⟩
      | false =>
        rw [hcase] at hbefore
        exact ⟨x, rfl, by simp, Int.le_refl _, by simpa using hbefore⟩
    have hsub : z :: ys ⊆ x :: y :: ys := by
      refine List.cons_subset.2 ⟨?_, fun a ha => by simp [ha]⟩
      exact List.mem_of_mem_take (i := 2) hmem
    obtain ⟨hfirst, hall⟩ := ih z fun a ha b hb => h a (hsub ha) b (hsub hb)
    rw [List.foldl_cons, hz]
    refine ⟨hsub hfirst, fun a ha => ?_⟩
    have hleast := hall z List.mem_cons_self
    rcases List.mem_cons.1 ha with rfl | ha
    · exact hleast.trans hx
    rcases List.mem_cons.1 ha with rfl | ha
    · exact hleast.trans hy
    · exact hall a (List.mem_cons_of_mem _ ha)

/-- The two are missing just if there are no numbers, and otherwise are numbers that bound all. -/
structure Bounds (numbers : List Binary64) (low? high? : Option Binary64) : Prop where
  low_none : low? = none ↔ numbers = []
  high_none : high? = none ↔ numbers = []
  low : ∀ m, low? = some m → m ∈ numbers ∧ ∀ x ∈ numbers, m.le x = true
  high : ∀ m, high? = some m → m ∈ numbers ∧ ∀ x ∈ numbers, x.le m = true

/-- A single number is both of its bounds. -/
theorem Bounds.of_singleton {x : Binary64} {low? high? : Option Binary64}
    (h : Bounds [x] low? high?) : low? = some x ∧ high? = some x := by
  obtain ⟨low, rfl⟩ := Option.ne_none_iff_exists'.1 (mt h.low_none.1 (List.cons_ne_nil x []))
  obtain ⟨high, rfl⟩ := Option.ne_none_iff_exists'.1 (mt h.high_none.1 (List.cons_ne_nil x []))
  rw [List.mem_singleton.1 (h.low low rfl).1, List.mem_singleton.1 (h.high high rfl).1]
  exact ⟨rfl, rfl⟩

theorem bounds_of_bounded {numbers : List Binary64} (h : ∀ x ∈ numbers, IsBounded x) :
    Bounds numbers (HeatmapPage.least numbers) (HeatmapPage.greatest numbers) := by
  cases numbers with
  | nil => exact ⟨by simp [HeatmapPage.least], by simp [HeatmapPage.greatest], nofun, nofun⟩
  | cons x xs =>
    refine ⟨by simp [HeatmapPage.least], by simp [HeatmapPage.greatest], ?_, ?_⟩
    · rintro m hm
      obtain rfl := Option.some.inj hm
      obtain ⟨hmem, hall⟩ := foldl_first unitsOf (fun y acc => y.lt acc) xs x
        fun a ha b hb => lt_iff_unitsOf (h a ha) (h b hb)
      exact ⟨hmem, fun y hy => (le_iff_unitsOf (h _ hmem) (h y hy)).2 (hall y hy)⟩
    · rintro m hm
      obtain rfl := Option.some.inj hm
      obtain ⟨hmem, hall⟩ := foldl_first (fun y => -unitsOf y)
        (fun y acc => acc.lt y) xs x fun a ha b hb => by
          rw [lt_iff_unitsOf (h b hb) (h a ha)]
          omega
      exact ⟨hmem, fun y hy => (le_iff_unitsOf (h y hy) (h _ hmem)).2 (by
        have := hall y hy
        omega)⟩

/-! ## Values in their places -/

/-- The cells that have a value. -/
def present (cells : List Cell) : List Cell :=
  cells.filter fun c => c.value != .null

/-- Things can be looked up by the keys of the cell, and its value is a finite number if there is
one. -/
structure Cell.IsNumbered (c : Cell) : Prop where
  x : c.x.isKey = true
  y : c.y.isKey = true
  value : c.value = .null ∨ ∃ s u, c.value.toReal = .ok (.finite s u)

theorem Cell.IsNumbered.isReadable {c : Cell} (h : c.IsNumbered) : IsReadable c :=
  ⟨h.x, h.y, h.value.imp id fun ⟨_, _, hreal⟩ => ⟨_, hreal⟩⟩

namespace HeatmapPage

variable {xs ys : List Value} {cells : List Cell}

/-- A missing value changes nothing; any other one goes where its row would. -/
theorem placeCell_eq (xs ys : List Value) (matrix : Cells) {c : Cell} (h : IsReadable c) :
    placeCell xs ys matrix c =
      if c.value != .null then placeRow xs ys matrix (rowOf c) else .ok matrix := by
  rw [placeRow_of_isReadable matrix h, placeCell, placeIn_of_isKey h.1, placeIn_of_isKey h.2.1]
  by_cases hnull : c.value = .null
  · rw [hnull]
    cases placeOf? c.x xs <;> cases placeOf? c.y ys <;> rfl
  · obtain ⟨v, hv⟩ := h.2.2.resolve_left hnull
    have hnumber : c.number? = some v := by rw [Cell.number?, Value.toReal?_of_toReal hv]
    have hpresent : (c.value != .null) = true := bne_iff_ne.2 hnull
    have hnot : ¬(c.value == .null) = true := by simpa using hnull
    rw [if_pos hpresent, hnumber, hv]
    cases placeOf? c.x xs with
    | none => rfl
    | some i =>
      cases placeOf? c.y ys with
      | none => rfl
      | some j => exact if_neg hnot

/-- Values go to their places as the rows of those that are present. -/
theorem placeCells_eq (xs ys : List Value) (h : ∀ c ∈ cells, IsReadable c) (matrix : Cells) :
    (cells.map .ok : List (Outcome Cell)).foldlM
        (fun matrix c => do placeCell xs ys matrix (← c)) matrix =
      ((present cells).map rowOf).foldlM (placeRow xs ys) matrix := by
  induction cells generalizing matrix with
  | nil => rfl
  | cons c cells ih =>
    obtain ⟨hc, hcells⟩ := List.forall_mem_cons.1 h
    rw [List.map_cons, List.foldlM_cons]
    show (placeCell xs ys matrix c >>= _) = _
    rw [placeCell_eq xs ys matrix hc, present, List.filter_cons]
    cases c.value != .null with
    | true =>
      rw [if_pos rfl, if_pos rfl, List.map_cons, List.foldlM_cons]
      exact congrArg _ (funext fun next => ih hcells next)
    | false =>
      rw [if_neg Bool.false_ne_true, if_neg Bool.false_ne_true]
      exact ih hcells matrix

/-- A page is that of the table of the last values that are present. -/
theorem assemble_eq (hxs : AreLabels xs) (hys : AreLabels ys) (h : ∀ c ∈ cells, IsReadable c)
    (xField yField : Value) (total offset limit : Int) :
    assemble xField yField xs ys (cells.map .ok) total offset limit =
      .ok (ofCells xField yField xs ys (tabulated xs ys (lastNumber? (present cells))) total offset
        limit) := by
  have hcells : (cells.map .ok : List (Outcome Cell)).foldlM
      (fun matrix c => do placeCell xs ys matrix (← c)) (emptyCells xs.length ys.length) =
      .ok (tabulated xs ys (lastNumber? (present cells))) := by
    rw [placeCells_eq xs ys h]
    exact placeRows_tabulated hxs hys fun c hc => h c (List.mem_of_mem_filter hc)
  refine Outcome.bind_eq_ok.2 ⟨(), checkKeys_of_isKey hxs.isKey, ?_⟩
  refine Outcome.bind_eq_ok.2 ⟨(), checkKeys_of_isKey hys.isKey, ?_⟩
  exact Outcome.bind_eq_ok.2 ⟨_, hcells, rfl⟩

/-! ## Pages of tables -/

variable {f : Value → Value → Option Binary64} {xField yField : Value} {total offset limit : Int}

/-- The rows of the page of a table. -/
theorem rows_ofCells : (ofCells xField yField xs ys (tabulated xs ys f) total offset limit).rows =
    ys.map fun y => ⟨y, xs.map fun x => f x y, sum (xs.map fun x => f x y)⟩ := by
  have hzip : ys.zip (tabulated xs ys f) = ys.map fun y => (y, xs.map fun x => f x y) := by
    have hmap := List.zip_map' (f := id) (g := fun y => xs.map fun x => f x y) (l := ys)
    rwa [List.map_id] at hmap
  rw [ofCells, hzip, List.map_map]
  rfl

/-- The values of the page of a table are those of the table. -/
theorem values_ofCells :
    (ofCells xField yField xs ys (tabulated xs ys f) total offset limit).values =
      ys.flatMap fun y => xs.map fun x => ⟨x, y, cellValue (f x y)⟩ := by
  rw [values, rows_ofCells, List.flatMap_map]
  refine List.flatMap_congr fun y _ => ?_
  have hmap := List.zip_map' (f := id) (g := fun x => f x y) (l := xs)
  rw [List.map_id] at hmap
  show ((xs.zip (xs.map fun x => f x y)).map _) = _
  rw [hmap, List.map_map]
  rfl

/-! ## The same page again -/

/-- The cells of a table by their keys. -/
def cellsOfTable (xs ys : List Value) (f : Value → Value → Option Binary64) : List Cell :=
  ys.flatMap fun y => xs.map fun x => ⟨x, y, cellValue (f x y)⟩

theorem mem_cellsOfTable {c : Cell} :
    c ∈ cellsOfTable xs ys f ↔ ∃ y ∈ ys, ∃ x ∈ xs, ⟨x, y, cellValue (f x y)⟩ = c := by
  simp only [cellsOfTable, List.mem_flatMap, List.mem_map]

theorem isNumbered_cellsOfTable (hxs : AreLabels xs) (hys : AreLabels ys)
    (hf : ∀ x ∈ xs, ∀ y ∈ ys, ∀ v, f x y = some v → IsBounded v) :
    ∀ c ∈ cellsOfTable xs ys f, c.IsNumbered := by
  intro c hc
  obtain ⟨y, hy, x, hx, rfl⟩ := mem_cellsOfTable.1 hc
  refine ⟨hxs.isKey x hx, hys.isKey y hy, ?_⟩
  cases hv : f x y with
  | none => exact .inl rfl
  | some v =>
    obtain ⟨s, u, rfl⟩ := hf x hx y hy v hv
    exact .inr ⟨s, u, rfl⟩

/-- A table is made up of its own cells, if it shows nothing for a key that equals none. -/
theorem lastNumber?_cellsOfTable (hxs : AreLabels xs) (hys : AreLabels ys)
    (hf : ∀ x ∈ xs, ∀ y ∈ ys, ∀ v, f x y = some v → x.equals x = true ∧ y.equals y = true)
    {x y : Value} (hx : x ∈ xs) (hy : y ∈ ys) :
    lastNumber? (present (cellsOfTable xs ys f)) x y = f x y := by
  have honly : ∀ c ∈ (present (cellsOfTable xs ys f)).filter (·.isFor x y),
      c = ⟨x, y, cellValue (f x y)⟩ ∧ f x y ≠ none := by
    intro c hc
    obtain ⟨hpresent, hfor⟩ := List.mem_filter.1 hc
    obtain ⟨hmem, hvalue⟩ := List.mem_filter.1 hpresent
    obtain ⟨y', hy', x', hx', rfl⟩ := mem_cellsOfTable.1 hmem
    rw [Cell.isFor, Bool.and_eq_true] at hfor
    obtain rfl := hxs.eq_of_equals hx hx' hfor.1
    obtain rfl := hys.eq_of_equals hy hy' hfor.2
    refine ⟨rfl, fun hnone => ?_⟩
    rw [hnone] at hvalue
    cases hvalue
  rw [lastNumber?]
  cases hlast : ((present (cellsOfTable xs ys f)).filter (·.isFor x y)).getLast? with
  | some c =>
    obtain ⟨rfl, hsome⟩ := honly c (List.mem_of_getLast? hlast)
    obtain ⟨v, hv⟩ := Option.ne_none_iff_exists'.1 hsome
    rw [hv]
    rfl
  | none =>
    cases hv : f x y with
    | none => rfl
    | some v =>
      -- the cell of the table would be there
      have hnone := List.getLast?_eq_none_iff.1 hlast
      have hcell : (⟨x, y, cellValue (f x y)⟩ : Cell) ∈
          (present (cellsOfTable xs ys f)).filter (·.isFor x y) := by
        refine List.mem_filter.2
          ⟨List.mem_filter.2 ⟨mem_cellsOfTable.2 ⟨y, hy, x, hx, rfl⟩, ?_⟩, ?_⟩
        · rw [hv]
          rfl
        · obtain ⟨hxSelf, hySelf⟩ := hf x hx y hy v hv
          rw [Cell.isFor, hxSelf, hySelf]
          rfl
      rw [hnone] at hcell
      cases hcell

/-- A number in the table of cells is finite, and its keys are keys that equal themselves. -/
theorem lastNumber?_present (hxs : AreLabels xs) (hys : AreLabels ys)
    (h : ∀ c ∈ cells, c.IsNumbered) {x y : Value} (hx : x ∈ xs) (hy : y ∈ ys) {v : Binary64}
    (hv : lastNumber? (present cells) x y = some v) :
    IsBounded v ∧ x.equals x = true ∧ y.equals y = true := by
  obtain ⟨c, hpresent, hfor, hnumber⟩ := exists_of_lastNumber? hv
  obtain ⟨hmem, hvalue⟩ := List.mem_filter.1 hpresent
  have hc := h c hmem
  have hself : ∀ {k l : Value}, k.isKey = true → l.isKey = true → k.equals l = true →
      k.equals k = true := fun hk hl hequal =>
    Value.equals_trans hk hl hequal (Value.equals_comm hk hl ▸ hequal)
  rw [Cell.isFor, Bool.and_eq_true] at hfor
  refine ⟨?_, hself (hxs.isKey x hx) hc.x hfor.1, hself (hys.isKey y hy) hc.y hfor.2⟩
  obtain ⟨s, u, hreal⟩ := hc.value.resolve_left (bne_iff_ne.1 hvalue)
  have hsame := hc.isReadable.toReal?.symm.trans (Value.toReal?_of_toReal hreal)
  rw [hnumber] at hsame
  exact ⟨s, u, Option.some.inj (Except.ok.inj hsame)⟩

/-- A page comes of its own values. -/
theorem assemble_values (hxs : AreLabels xs) (hys : AreLabels ys)
    (hf : ∀ x ∈ xs, ∀ y ∈ ys, ∀ v, f x y = some v →
      IsBounded v ∧ x.equals x = true ∧ y.equals y = true) :
    assemble xField yField xs ys
      ((ofCells xField yField xs ys (tabulated xs ys f) total offset limit).values.map .ok) total
      offset limit = .ok (ofCells xField yField xs ys (tabulated xs ys f) total offset limit) := by
  have hnumbered : ∀ c ∈ cellsOfTable xs ys f, c.IsNumbered :=
    isNumbered_cellsOfTable hxs hys fun x hx y hy v hv => (hf x hx y hy v hv).1
  have htable : tabulated xs ys (lastNumber? (present (cellsOfTable xs ys f))) =
      tabulated xs ys f := tabulated_congr fun x hx y hy =>
    lastNumber?_cellsOfTable hxs hys (fun x hx y hy v hv => (hf x hx y hy v hv).2) hx hy
  rw [values_ofCells]
  exact (assemble_eq hxs hys (fun c hc => (hnumbered c hc).isReadable) _ _ _ _ _).trans
    (by rw [htable])

/-! ## Records of pages -/

/-- The member of a record. -/
def memberOf (name : String) : Value → Outcome Value
  | .record members =>
    match valueOf? name members with
    | some v => .ok v
    | none => mismatch .key
  | _ => mismatch .kind

/-- The items of a list. -/
def itemsOf : Value → Outcome (List Value)
  | .list items => .ok items
  | _ => mismatch .kind

/-- The whole number that a value is. -/
def wholeOf : Value → Outcome Int
  | .int n => .ok n
  | _ => mismatch .kind

/-- The page that is put together from what the record of a page shows: its categories, and its
cells row by row. -/
def ofRecord (v : Value) : Outcome HeatmapPage := do
  let xKeys ← itemsOf (← memberOf "xCategories" v)
  let rows ← (← itemsOf (← memberOf "rows" v)).mapM fun row => do
    return (← memberOf "yCategory" row, ← itemsOf (← memberOf "cells" row))
  let values := rows.flatMap fun (key, cells) =>
    (xKeys.zip cells).map fun (x, value) => Except.ok ⟨x, key, value⟩
  assemble (← memberOf "xField" v) (← memberOf "yField" v) xKeys (rows.map (·.1)) values
    (← wholeOf (← memberOf "totalRowCount" v)) (← wholeOf (← memberOf "offset" v))
    (← wholeOf (← memberOf "limit" v))

/-- The record of a page shows the values of the page. -/
theorem ofRecord_toValue (p : HeatmapPage) : ofRecord p.toValue =
    assemble p.xField p.yField p.xCategories p.yCategories (p.values.map .ok) p.totalRowCount
      p.offset p.limit := by
  let row (r : HeatmapRow) : Value :=
    .record [("yCategory", r.category), ("cells", .list (r.cells.map cellValue)),
      ("rowTotal", .real r.total)]
  have hrows : (p.rows.map row).mapM (fun row => do
      return (← memberOf "yCategory" row, ← itemsOf (← memberOf "cells" row))) =
      .ok (p.rows.map fun r => (r.category, r.cells.map cellValue)) :=
    Outcome.mapM_map_eq fun r _ => rfl
  have hvalues : (p.rows.map fun r => (r.category, r.cells.map cellValue)).flatMap
      (fun (key, cells) => (p.xCategories.zip cells).map fun (x, value) =>
        (Except.ok ⟨x, key, value⟩ : Outcome Cell)) = p.values.map .ok := by
    rw [List.flatMap_map, values, List.map_flatMap]
    refine List.flatMap_congr fun r _ => ?_
    simp only [List.zip_map_right, List.map_map]
    rfl
  have hkeys : (p.rows.map fun r => (r.category, r.cells.map cellValue)).map (·.1) =
      p.yCategories := List.map_map
  rw [← hvalues, ← hkeys]
  show (do
    let rows ← (p.rows.map row).mapM (fun row => do
      return (← memberOf "yCategory" row, ← itemsOf (← memberOf "cells" row)))
    assemble p.xField p.yField p.xCategories (rows.map Prod.fst) (rows.flatMap fun (key, cells) =>
      (p.xCategories.zip cells).map fun (x, value) => Except.ok ⟨x, key, value⟩)
      p.totalRowCount p.offset p.limit) = _
  rw [hrows]
  rfl

/-! ## Pages and their reports -/

/-- The numbers that a page shows. -/
def numbers (p : HeatmapPage) : List Binary64 :=
  p.rows.flatMap fun r => r.cells.filterMap id

theorem numbers_eq (p : HeatmapPage) :
    p.numbers = (p.rows.map (·.cells)).flatMap (·.filterMap id) := by
  rw [List.flatMap_map]
  rfl

/-- A page of labels and numbers shows at each two keys the last value that is present, and its
bounds are those of its numbers. The same page comes of its record again, so the table of its report
is its own. -/
theorem page_comes_back_from_record (hxs : AreLabels xs) (hys : AreLabels ys)
    (h : ∀ c ∈ cells, c.IsNumbered) (xField yField : Value) (total offset limit : Int) :
    ∃ p, assemble xField yField xs ys (cells.map .ok) total offset limit = .ok p ∧
      p.xCategories = xs ∧ p.yCategories = ys ∧
      ShowsLast xs ys (present cells) (p.rows.map (·.cells)) ∧
      Bounds p.numbers p.min? p.max? ∧
      ofRecord p.toValue = .ok p ∧
      Command.Report.ofHeatmap p =
        (do return [.coloured (← HeatmapStyle.standard.render p)]) := by
  have hf := fun x hx y hy v hv => @lastNumber?_present xs ys cells hxs hys h x y hx hy v hv
  let p := ofCells xField yField xs ys (tabulated xs ys (lastNumber? (present cells))) total offset
    limit
  have hrows : p.rows.map (·.cells) = tabulated xs ys (lastNumber? (present cells)) := by
    rw [rows_ofCells, List.map_map]
    rfl
  have hkeys : p.yCategories = ys := by
    rw [yCategories, rows_ofCells, List.map_map]
    exact List.map_id _
  have hagain : assemble p.xField p.yField p.xCategories p.yCategories (p.values.map .ok)
      p.totalRowCount p.offset p.limit = .ok p := by
    rw [hkeys]
    exact assemble_values hxs hys hf
  refine ⟨p, assemble_eq hxs hys (fun c hc => (h c hc).isReadable) _ _ _ _ _, rfl, hkeys, ?_, ?_,
    (ofRecord_toValue p).trans hagain, ?_⟩
  · rw [hrows]
    exact showsLast_tabulated xs ys fun c hc => (h c (List.mem_of_mem_filter hc)).isReadable
  · rw [p.numbers_eq, hrows]
    refine bounds_of_bounded fun v hv => ?_
    obtain ⟨row, hrow, hv⟩ := List.mem_flatMap.1 hv
    obtain ⟨y, hy, rfl⟩ := List.mem_map.1 hrow
    obtain ⟨v?, hcell, hv⟩ := List.mem_filterMap.1 hv
    obtain ⟨x, hx, rfl⟩ := List.mem_map.1 hcell
    exact (hf x hx y hy v hv).1
  · rw [Command.Report.ofHeatmap, hagain]
    rfl

/-! ### Methods by port -/

/-- Values for methods and ports: one is missing later on, one is missing at all and one is for
another method. -/
def methodValues : List Cell :=
  [⟨.text "80", .text "GET", .int 3⟩, ⟨.text "443", .text "GET", .null⟩,
    ⟨.text "80", .text "GET", .null⟩, ⟨.text "80", .text "PUT", .int 9⟩]

theorem isNumbered_methodValues : ∀ c ∈ methodValues, c.IsNumbered := by
  simp only [methodValues, List.forall_mem_cons]
  refine ⟨⟨rfl, rfl, .inr (Value.toReal_int_finite ?_)⟩, ⟨rfl, rfl, .inl rfl⟩, ⟨rfl, rfl, .inl rfl⟩,
    ⟨rfl, rfl, .inr (Value.toReal_int_finite ?_)⟩, nofun⟩
  all_goals decide

/-- The value that is there stays, and the page comes back from its record. -/
theorem page_of_methods_comes_back :
    AreLabels (["80", "443"].map .text) ∧ AreLabels (["GET"].map .text) ∧
    (∀ c ∈ methodValues, c.IsNumbered) ∧
    ∃ p, assemble (.text "port") (.text "method") (["80", "443"].map .text) (["GET"].map .text)
        (methodValues.map .ok) 2 0 1 = .ok p ∧
      p.rows.map (·.cells) = [[some (.ofWhole 3), none]] ∧ p.min? = some (.ofWhole 3) ∧
      p.max? = some (.ofWhole 3) ∧ ofRecord p.toValue = .ok p := by
  have hports : AreLabels (["80", "443"].map .text) := areLabels_texts (by decide)
  have hmethods : AreLabels (["GET"].map .text) := areLabels_texts (by decide)
  obtain ⟨p, hp, -, -, hcells, hbounds, hback, -⟩ := page_comes_back_from_record hports hmethods
    isNumbered_methodValues (.text "port") (.text "method") 2 0 1
  have hreadable : ∀ c ∈ present methodValues, IsReadable c := fun c hc =>
    (isNumbered_methodValues c (List.mem_of_mem_filter hc)).isReadable
  have htable : tabulated (["80", "443"].map .text) (["GET"].map .text)
      (lastNumber? (present methodValues)) = [[some (.ofWhole 3), none]] := by
    decide +kernel
  have hrows := (hcells.eq_tabulated hreadable).trans htable
  rw [p.numbers_eq, hrows] at hbounds
  obtain ⟨hmin, hmax⟩ := Bounds.of_singleton hbounds
  exact ⟨hports, hmethods, isNumbered_methodValues, p, hp, hrows, hmin, hmax, hback⟩

end HeatmapPage

end Crosstab.View
