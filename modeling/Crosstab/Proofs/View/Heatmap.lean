import Crosstab.Proofs.View.Workspace
import Crosstab.View.Heatmap

/-!
# Pages of a heatmap

All pages of a heatmap ask the same queries for the column keys and the number of row keys. The row
keys of a page are a part of the ranking, and the parts of the pages make up the whole of it. This
holds although each page may be answered by a channel of its own, which may put groups that are
equal in an order as it likes: the order of a ranking leaves no two groups equal.
-/

namespace Crosstab.View

open Pivot Sql
open Session (Reply)

/-! ## Putting a page together -/

namespace HeatmapPage

/-- A value in its place leaves the number of rows. -/
theorem placeCell_yields (xKeys yKeys : List Value) (cells : Cells) (c : Cell) :
    Outcome.Yields (fun _ => True) (fun placed => placed.length = cells.length)
      (placeCell xKeys yKeys cells c) := by
  refine (Outcome.Yields.any _).bind fun x? _ => (Outcome.Yields.any _).bind fun y? _ => ?_
  cases x? with
  | none => exact .ok rfl
  | some x =>
    cases y? with
    | none => exact .ok rfl
    | some y =>
      dsimp only
      split
      · exact .ok rfl
      · exact (Outcome.Yields.any _).bind fun _ _ => .ok (List.length_modify _ _ _)

/-- A page that comes together has the keys and the numbers that it is given. -/
theorem assemble_yields (xField yField : Value) (xKeys yKeys : List Value)
    (values : List (Outcome Cell)) (total offset limit : Int) :
    Outcome.Yields (fun _ => True) (fun p => p.xCategories = xKeys ∧ p.yCategories = yKeys ∧
        p.totalRowCount = total ∧ p.offset = offset ∧ p.limit = limit)
      (assemble xField yField xKeys yKeys values total offset limit) := by
  refine (Outcome.Yields.any _).bind fun _ _ => (Outcome.Yields.any _).bind fun _ _ => ?_
  have hcells : Outcome.Yields (fun _ => True) (fun cells => cells.length = yKeys.length)
      (values.foldlM (fun cells c => do placeCell xKeys yKeys cells (← c))
        (emptyCells xKeys.length yKeys.length)) := by
    refine Outcome.Yields.foldlM List.length_replicate fun cells hlength v _ => ?_
    refine (Outcome.Yields.any v).bind fun c _ => ?_
    exact (placeCell_yields xKeys yKeys cells c).mono fun placed hplaced => hplaced.trans hlength
  refine hcells.bind fun cells hlength => .ok ⟨rfl, ?_, rfl, rfl, rfl⟩
  have hzip : (yKeys.zip cells).map Prod.fst = yKeys := List.map_fst_zip (Nat.le_of_eq hlength.symm)
  rw [yCategories, ofCells, List.map_map]
  exact hzip

end HeatmapPage

/-- A cell whose keys things can be looked up by and whose value, if there is one, is a number. -/
def IsReadable (c : Cell) : Prop :=
  c.x.isKey = true ∧ c.y.isKey = true ∧ (c.value = .null ∨ ∃ x, c.value.toReal = .ok x)

/-- The rows of cells. -/
def cellRows (cells : List Cell) : Rows :=
  ⟨[colColumn, rowColumn, metricColumn], cells.map fun c => [c.x, c.y, c.value]⟩

theorem cells_of_rows (cells : List Cell) :
    (cellRows cells).records.map cellOf = cells.map .ok := by
  simp only [Rows.records, cellRows, List.map_map]
  refine List.map_congr_left fun c _ => ?_
  rfl

theorem placeIn_of_isKey {v : Value} (h : v.isKey = true) (keys : List Value) :
    placeIn keys v = .ok (placeOf? v keys) := by
  rw [placeIn, asKey, if_pos h]
  rfl

namespace HeatmapPage

/-- Readable cells are put in their places. -/
theorem placeCell_isOk (xKeys yKeys : List Value) (cells : Cells) {c : Cell} (h : IsReadable c) :
    ∃ placed, placeCell xKeys yKeys cells c = .ok placed := by
  obtain ⟨hx, hy, hvalue⟩ := h
  rw [placeCell, placeIn_of_isKey hx, placeIn_of_isKey hy]
  simp only [bind, Except.bind]
  cases placeOf? c.x xKeys with
  | none => exact ⟨_, rfl⟩
  | some x =>
    cases placeOf? c.y yKeys with
    | none => exact ⟨_, rfl⟩
    | some y =>
      rcases hvalue with hnull | ⟨v, hv⟩
      · rw [hnull]
        exact ⟨_, rfl⟩
      · dsimp only
        rw [hv]
        split
        · exact ⟨_, rfl⟩
        · exact ⟨_, rfl⟩

/-- A page of texts and readable cells comes together. -/
theorem assemble_isOk (xField yField : Value) (xKeys yKeys : List String) {cells : List Cell}
    (h : ∀ c ∈ cells, IsReadable c) (total offset limit : Int) :
    ∃ page, assemble xField yField (xKeys.map .text) (yKeys.map .text) (cells.map .ok) total offset
      limit = .ok page := by
  have hfold : ∀ placed : Cells, ∃ result, (cells.map .ok : List (Outcome Cell)).foldlM
      (fun cells c => do placeCell (xKeys.map .text) (yKeys.map .text) cells (← c)) placed =
      .ok result := by
    induction cells with
    | nil => exact fun placed => ⟨placed, rfl⟩
    | cons c cs ih =>
      intro placed
      obtain ⟨hc, hcs⟩ := List.forall_mem_cons.1 h
      obtain ⟨next, hnext⟩ := placeCell_isOk (xKeys.map .text) (yKeys.map .text) placed hc
      obtain ⟨result, hresult⟩ := ih hcs next
      refine ⟨result, ?_⟩
      rw [List.map_cons, List.foldlM_cons]
      exact Outcome.bind_eq_ok.2 ⟨next, hnext, hresult⟩
  obtain ⟨placed, hplaced⟩ := hfold (emptyCells (xKeys.map Value.text).length
    (yKeys.map Value.text).length)
  refine ⟨ofCells xField yField (xKeys.map .text) (yKeys.map .text) placed total offset limit, ?_⟩
  refine Outcome.bind_eq_ok.2 ⟨(), checkKeys_texts xKeys, ?_⟩
  refine Outcome.bind_eq_ok.2 ⟨(), checkKeys_texts yKeys, ?_⟩
  exact Outcome.bind_eq_ok.2 ⟨placed, hplaced, rfl⟩

end HeatmapPage

/-! ## The queries of a page -/

/-- What a page does when its keys are known. -/
def cellsOf (r : HeatmapRequest) (c : Context) (page : Page) (total : Int)
    (xKeys yKeys : List Value) : Session HeatmapPage :=
  if yKeys.isEmpty then
    pure ⟨r.colField, r.rowField, xKeys, [], total, page.offset, page.limit, none, none⟩
  else do
    let records ← Session.records (← c.matrix r.colField r.rowField r.metric xKeys yKeys)
    HeatmapPage.assemble r.colField r.rowField xKeys yKeys (records.map cellOf) total page.offset
      page.limit

section Page

variable {answer : Fragment → Reply} {w : Workspace} {r : HeatmapRequest} {c : Context}
  {page : Page} {total : Int} {xKeys yKeys : List Value}

/-- A page asks for its column keys, for the number of row keys and for its row keys. -/
theorem heatmap_leads {qs : List Fragment} {xQuery countQuery yQuery : Fragment}
    {xName yName : String} (hpaging : heatmapPaging w.settings r = .ok page)
    (hcontext : Runs answer (w.context r.toRequest [r.metric]) c qs)
    (hcol : c.schema.require r.colField = .ok xName)
    (hrow : c.schema.require r.rowField = .ok yName)
    (hx : c.topKeys r.colField r.metric (.int w.settings.heatmapMaxX) [] .top .null = .ok xQuery)
    (hxKeys : Runs answer (Workspace.keys xQuery) xKeys [xQuery])
    (hcount : c.keyCount r.rowField [] = .ok countQuery)
    (htotal : Runs answer (Session.count countQuery) total [countQuery])
    (hsome : (xKeys.isEmpty || total == 0) = false)
    (hy : c.topKeys r.rowField r.metric (.int page.limit) [] .top (.int page.offset) = .ok yQuery)
    (hyKeys : Runs answer (Workspace.keys yQuery) yKeys [yQuery]) :
    Leads answer (heatmap w r) (qs ++ [xQuery, countQuery, yQuery])
      (cellsOf r c page total xKeys yKeys) := by
  have hlast : Leads answer (Workspace.keys yQuery >>= cellsOf r c page total xKeys) [yQuery]
      (cellsOf r c page total xKeys yKeys) := hyKeys.leads (.refl _)
  refine (Runs.lift hpaging).leads (hcontext.leads ?_)
  refine (Runs.lift hcol).leads ((Runs.lift hrow).leads ((Runs.lift hx).leads ?_))
  refine hxKeys.leads ((Runs.lift hcount).leads (htotal.leads ?_))
  rw [hsome]
  exact (Runs.lift hy).leads hlast

/-- A page that comes of its keys has them, whatever its cells are. -/
theorem cellsOf_within : (cellsOf r c page total xKeys yKeys).Within (fun _ => True) fun p =>
    p.xCategories = xKeys ∧ p.yCategories = yKeys ∧ p.totalRowCount = total ∧
      p.offset = page.offset ∧ p.limit = page.limit := by
  unfold cellsOf
  split
  · next hnone =>
    rw [List.isEmpty_iff.1 hnone]
    exact ⟨rfl, rfl, rfl, rfl, rfl⟩
  · refine (Session.Within.lift (.any _)).bind fun q _ => ?_
    refine (Session.Within.records trivial).bind fun records _ => ?_
    exact Session.Within.lift (HeatmapPage.assemble_yields _ _ _ _ _ _ _ _)

/-- A page comes of its keys if the query for its cells comes together and is answered. -/
theorem cellsOf_runs {xs ys : List String} {q : Fragment} {cells : List Cell}
    (hq : c.matrix r.colField r.rowField r.metric (xs.map .text) (ys.map .text) = .ok q)
    (hcells : answer q = .ok (cellRows cells)) (hreadable : ∀ c ∈ cells, IsReadable c) :
    ∃ p rest, Runs answer (cellsOf r c page total (xs.map .text) (ys.map .text)) p rest := by
  unfold cellsOf
  split
  · exact ⟨_, [], Runs.done _⟩
  · obtain ⟨p, hp⟩ := HeatmapPage.assemble_isOk r.colField r.rowField xs ys hreadable total
      page.offset page.limit
    refine ⟨p, [q] ++ [], Runs.lift_bind hq ((Runs.records hcells).bind ?_)⟩
    rw [cells_of_rows]
    exact Runs.lift hp

end Page

/-! ## All pages -/

/-- The request for the page from an offset on. -/
def pageAt (r : HeatmapRequest) (offset : Int) : HeatmapRequest :=
  { r with offset := .int offset }

/-- The largest page and the number of columns are positive numbers of a fair length. -/
structure HeatmapBounded (settings : Settings) : Prop where
  most_pos : 1 ≤ settings.heatmapMaxLimit
  most_fits : Number.isWritable settings.heatmapMaxLimit = true
  columns_pos : 1 ≤ settings.heatmapMaxX
  columns_fits : Number.isWritable settings.heatmapMaxX = true

/-- The limit of a page does not depend on its offset; it is positive and of a fair length. -/
theorem heatmapPaging_at {settings : Settings} (hbounded : HeatmapBounded settings)
    {r : HeatmapRequest} {limit : Int} (h : heatmapPaging settings (pageAt r 0) = .ok ⟨0, limit⟩) :
    1 ≤ limit ∧ Number.isWritable limit = true ∧
      ∀ o, 0 ≤ o → heatmapPaging settings (pageAt r o) = .ok ⟨o, limit⟩ := by
  have hoffset : ∀ o, (Value.int o).toWhole "offset" 0 .invalidPagination = .ok o := fun _ => rfl
  have hpaging : ∀ o, heatmapPaging settings (pageAt r o) = (do
      let asked ← r.limit.toWhole "limit" settings.heatmapDefaultLimit .invalidPagination
      if o < 0 || asked < 1 then
        reject .invalidPagination ("offset=" ++ toString o ++ " limit=" ++ toString asked)
      return ⟨o, min asked settings.heatmapMaxLimit⟩) := fun _ => rfl
  rw [hpaging] at h
  obtain ⟨asked, hasked, h⟩ := Outcome.bind_eq_ok.1 h
  by_cases hpos : asked < 1
  · simp only [hpos, decide_true, Bool.or_true, if_true] at h
    cases h
  · simp only [hpos, Int.lt_irrefl, decide_false, Bool.or_false, Bool.false_eq_true, if_false] at h
    obtain rfl : min asked settings.heatmapMaxLimit = limit :=
      (Page.mk.inj (Except.ok.inj h)).2
    have hleast : 1 ≤ min asked settings.heatmapMaxLimit :=
      Int.le_min.2 ⟨by omega, hbounded.most_pos⟩
    refine ⟨hleast, ?_, fun o ho => ?_⟩
    · exact Number.isWritable_of_le (by omega) (Int.min_le_right _ _) hbounded.most_fits
    · have hnot : ¬o < 0 := Int.not_lt.2 ho
      rw [hpaging, hasked]
      simp only [bind, Except.bind, hnot, hpos, decide_false, Bool.or_false, Bool.false_eq_true,
        if_false]
      rfl

/-- The keys of groups. -/
def keysOf (groups : List Group) : List Value :=
  groups.map fun g => .text g.key

/-- A part of some groups: so many from a place on. -/
def part (offset limit : Nat) (groups : List Group) : List Group :=
  (groups.drop offset).take limit

/-- The parts of pages that follow each other make up the groups. -/
theorem flatMap_part (groups : List Group) (limit m : Nat) :
    (List.range m).flatMap (fun i => part (i * limit) limit groups) = groups.take (m * limit) := by
  induction m with
  | zero => simp
  | succ m ih =>
    rw [List.range_succ, List.flatMap_append, ih, List.flatMap_singleton, part, ← List.take_add,
      Nat.succ_mul]

/-- The parts of different pages have no group in common. -/
theorem disjoint_part {α : Type} (f : Group → α) {groups : List Group}
    (h : (groups.map f).Nodup) {i j : Nat} (hij : i ≠ j) (limit : Nat) :
    ((part (i * limit) limit groups).map f).Disjoint ((part (j * limit) limit groups).map f) := by
  have hordered : ∀ {i j : Nat}, i < j →
      ((part (i * limit) limit groups).map f).Disjoint ((part (j * limit) limit groups).map f) := by
    intro i j hlt x hx hy
    have hle : i * limit + limit ≤ j * limit := by
      rw [← Nat.succ_mul]
      exact Nat.mul_le_mul_right limit hlt
    have hbefore : x ∈ (groups.map f).take (j * limit) := by
      rw [part, List.map_take, List.map_drop] at hx
      have hmem := List.mem_of_mem_drop (List.take_drop .. ▸ hx)
      exact (List.take_subset_take_left _ hle) hmem
    have hbehind : x ∈ (groups.map f).drop (j * limit) := by
      rw [part, List.map_take, List.map_drop] at hy
      exact List.mem_of_mem_take hy
    exact List.disjoint_take_drop h (Nat.le_refl _) hbefore hbehind
  rcases Nat.lt_or_gt_of_ne hij with hlt | hlt
  · exact hordered hlt
  · exact fun x hx hy => hordered hlt hy hx

/-- The channel answers the query for cells with readable ones. -/
def AnswersCells (answer : Fragment → Reply) (r : HeatmapRequest) (c : Context) : Prop :=
  ∀ xs ys q, c.matrix r.colField r.rowField r.metric xs ys = .ok q →
    ∃ cells, answer q = .ok (cellRows cells) ∧ ∀ cell ∈ cells, IsReadable cell

section Walk

variable {w : Workspace} {r : HeatmapRequest} {c : Context} {limit : Nat}
  {qs : List Fragment} {xHead yHead : List (List Symbol)} {less : Value → Value → Prop}
  {groups : List Symbol → List Group} {xOrdered ordered : List Group}
  {xQuery countQuery : Fragment}

/-- Each page asks for its own part of the ranking of row keys, and for nothing else of its own
before its cells. -/
theorem page_leads {answer : Fragment → Reply} (hbounded : HeatmapBounded w.settings)
    (hpaging : heatmapPaging w.settings (pageAt r 0) = .ok ⟨0, limit⟩)
    (hcontext : Runs answer (w.context r.toRequest [r.metric]) c qs) (hc : c.Sound)
    (hranks : Ranks answer less groups) (hseparate : ∀ head, Separate (groups head))
    (hxHead : c.rankHead r.colField r.metric = .ok xHead)
    (hyHead : c.rankHead r.rowField r.metric = .ok yHead)
    (hxOrdered : Arranged less (rankTerms .top) (groups (lines xHead)) xOrdered)
    (hordered : Arranged less (rankTerms .top) (groups (lines yHead)) ordered)
    (hxSome : xOrdered ≠ []) (hSome : ordered ≠ [])
    (hx : c.topKeys r.colField r.metric (.int w.settings.heatmapMaxX) [] .top .null = .ok xQuery)
    (hxAnswer : answer xQuery =
      .ok (groupRows (part 0 w.settings.heatmapMaxX.toNat xOrdered)))
    (hcount : c.keyCount r.rowField [] = .ok countQuery)
    (hcountAnswer : answer countQuery = .ok (Rows.ofColumn "pv_count" [.int ordered.length]))
    {o : Nat} (ho : Number.isWritable o = true) :
    ∃ yQuery, Leads answer (heatmap w (pageAt r o)) (qs ++ [xQuery, countQuery, yQuery])
      (cellsOf r c ⟨o, limit⟩ ordered.length
        (keysOf (part 0 w.settings.heatmapMaxX.toNat xOrdered))
        (keysOf (part o limit ordered))) := by
  obtain ⟨hpos, hfits, hpages⟩ := heatmapPaging_at hbounded hpaging
  obtain ⟨yQuery, hy, hyAnswer⟩ := Context.page_answered hseparate hc hyHead hordered hpos hfits
    (Int.natCast_nonneg o) ho
  have hnodup : ∀ {gs : List Group}, (gs.map (·.key)).Nodup → ∀ o n,
      ((part o n gs).map (·.key)).Nodup := by
    intro gs h o n
    exact h.sublist (((List.take_sublist n _).trans (List.drop_sublist o gs)).map _)
  have hxKeys := Workspace.keys_runs hxAnswer (hnodup (hxOrdered.separate (hseparate _)).keys _ _)
  have hyKeys := Workspace.keys_runs (hyAnswer answer hranks)
    (hnodup (hordered.separate (hseparate _)).keys o limit)
  have htotal : Runs answer (Session.count countQuery) ordered.length [countQuery] :=
    Runs.count hcountAnswer (Rows.scalar_ofColumn "pv_count" _) (Value.toCount_int _)
  have hsome : ((keysOf (part 0 w.settings.heatmapMaxX.toNat xOrdered)).isEmpty ||
      (ordered.length : Int) == 0) = false := by
    have hcolumns := hbounded.columns_pos
    have hxLength := List.length_pos_iff.2 hxSome
    have hlength := List.length_pos_iff.2 hSome
    have hxKeys : keysOf (part 0 w.settings.heatmapMaxX.toNat xOrdered) ≠ [] := by
      rw [← List.length_pos_iff, keysOf, List.length_map, part, List.length_take, List.length_drop]
      omega
    rw [List.isEmpty_eq_false_iff.2 hxKeys, Bool.false_or, beq_eq_false_iff_ne]
    omega
  obtain ⟨_, _, _, hxColumn, -, -, -⟩ := Context.rankHead_parts hxHead
  obtain ⟨_, _, _, hyColumn, -, -, -⟩ := Context.rankHead_parts hyHead
  obtain ⟨xName, hxName, -⟩ := Outcome.bind_eq_ok.1 hxColumn
  obtain ⟨yName, hyName, -⟩ := Outcome.bind_eq_ok.1 hyColumn
  exact ⟨yQuery, heatmap_leads (r := pageAt r o) (hpages o (Int.natCast_nonneg o)) hcontext hxName
    hyName hx hxKeys hcount htotal hsome hy hyKeys⟩

/-- Each page asks for the column keys, for the number of row keys and for its own row keys, which
are its part of the groups; what it does then is left. -/
def PagesLead (w : Workspace) (r : HeatmapRequest) (c : Context) (limit : Nat)
    (qs : List Fragment) (xQuery countQuery : Fragment) (xs ys : List Group)
    (answer : Nat → Fragment → Reply) (m : Nat) : Prop :=
  ∀ i < m, ∃ yQuery, Leads (answer i) (heatmap w (pageAt r ((i * limit : Nat) : Int)))
    (qs ++ [xQuery, countQuery, yQuery])
    (cellsOf r c ⟨(i * limit : Nat), limit⟩ ys.length (keysOf xs)
      (keysOf (part (i * limit) limit ys)))

variable {answer : Nat → Fragment → Reply} {m : Nat}

/-- Channels that rank the same groups answer every page, each with its part of the ranking. -/
theorem exists_pagesLead (hbounded : HeatmapBounded w.settings)
    (hpaging : heatmapPaging w.settings (pageAt r 0) = .ok ⟨0, limit⟩)
    (hcontext : Runs (answer 0) (w.context r.toRequest [r.metric]) c qs)
    (hxHead : c.rankHead r.colField r.metric = .ok xHead)
    (hyHead : c.rankHead r.rowField r.metric = .ok yHead)
    (hseparate : ∀ head, Separate (groups head)) (hranks : ∀ i, Ranks (answer i) less groups)
    (hcount : ∀ i q, c.keyCount r.rowField [] = .ok q →
      answer i q = .ok (Rows.ofColumn "pv_count" [.int (groups (lines yHead)).length]))
    (hxs : groups (lines xHead) ≠ []) (hys : groups (lines yHead) ≠ [])
    (hfits : Number.isWritable ((m * limit : Nat) : Int) = true) :
    ∃ xs ys xQuery countQuery, xs ⊆ groups (lines xHead) ∧
      Arranged less (rankTerms .top) (groups (lines yHead)) ys ∧
      PagesLead w r c limit qs xQuery countQuery xs ys answer m := by
  have hwithin := Workspace.context_within w r.toRequest [r.metric]
  have hc : c.Sound := hwithin.of_runs hcontext
  have hcontexts : ∀ i, Runs (answer i) (w.context r.toRequest [r.metric]) c qs := by
    intro i
    unfold Runs
    rw [hwithin.against_eq ((hranks i).agree (hranks 0) hseparate)]
    exact hcontext
  obtain ⟨xOrdered, hxOrdered⟩ := Context.exists_arranged (hranks 0) hc hxHead .top
  obtain ⟨ordered, hordered⟩ := Context.exists_arranged (hranks 0) hc hyHead .top
  have hzero : Number.isWritable 0 = true := Number.isWritable_digit (by decide) (by decide)
  obtain ⟨xQuery, hx, hxAnswer⟩ := Context.page_answered hseparate hc hxHead hxOrdered
    hbounded.columns_pos hbounded.columns_fits (Int.le_refl 0) hzero
  obtain ⟨column, _, f, hcolumn, -, hf, -⟩ := Context.rankHead_parts hyHead
  obtain ⟨countQuery, _, hcountQuery, -⟩ :=
    Context.keyCount_builds hc (Context.key_of_column hcolumn) hf
  have hlength : ordered.length = (groups (lines yHead)).length := hordered.perm.length_eq
  have hxSome : xOrdered ≠ [] := fun h => hxs (List.nil_perm.1 (h ▸ hxOrdered.perm))
  have hsome : ordered ≠ [] := fun h => hys (List.nil_perm.1 (h ▸ hordered.perm))
  refine ⟨part 0 w.settings.heatmapMaxX.toNat xOrdered, ordered, xQuery, countQuery, ?_, hordered,
    fun i hi => ?_⟩
  · exact fun g hg => hxOrdered.perm.subset (List.mem_of_mem_drop (List.mem_of_mem_take hg))
  · have hbefore : i * limit ≤ m * limit := Nat.mul_le_mul_right limit (Nat.le_of_lt hi)
    have ho : Number.isWritable ((i * limit : Nat) : Int) = true :=
      Number.isWritable_of_le (Int.natCast_nonneg _) (Int.ofNat_le.2 hbefore) hfits
    exact page_leads hbounded hpaging (hcontexts i) hc (hranks i) hseparate hxHead hyHead hxOrdered
      hordered hxSome hsome hx (hxAnswer (answer i) (hranks i)) hcountQuery
      (hlength ▸ hcount i countQuery hcountQuery) ho

namespace PagesLead

variable {xs ys : List Group}

/-- What a page shows that comes about. -/
theorem shown (h : PagesLead w r c limit qs xQuery countQuery xs ys answer m) {i : Nat}
    (hi : i < m) {page : HeatmapPage}
    (hpage : ((heatmap w (pageAt r ((i * limit : Nat) : Int))).against (answer i)).1 = .ok page) :
    page.xCategories = keysOf xs ∧ page.yCategories = keysOf (part (i * limit) limit ys) ∧
      page.totalRowCount = ys.length ∧ page.offset = (i * limit : Nat) ∧ page.limit = limit := by
  obtain ⟨yQuery, hlead⟩ := h i hi
  rw [hlead] at hpage
  exact cellsOf_within.of_runs (Prod.ext hpage rfl)

/-- The row keys of the pages are those of the groups, each on one page. -/
theorem partition (h : PagesLead w r c limit qs xQuery countQuery xs ys answer m)
    (hkeys : (ys.map (·.key)).Nodup) (hall : ys.length ≤ m * limit) {pages : Nat → HeatmapPage}
    (hpages : ∀ i < m,
      ((heatmap w (pageAt r ((i * limit : Nat) : Int))).against (answer i)).1 = .ok (pages i)) :
    (∀ i < m, ∀ j < m, i ≠ j → (pages i).yCategories.Disjoint (pages j).yCategories) ∧
      (List.range m).flatMap (fun i => (pages i).yCategories) = keysOf ys := by
  have hshown : ∀ i < m, (pages i).yCategories = keysOf (part (i * limit) limit ys) :=
    fun i hi => (h.shown hi (hpages i hi)).2.1
  have hvalues : (ys.map fun g => Value.text g.key).Nodup := by
    have htexts := hkeys.map (f := Value.text) fun a b hab => Value.text.inj hab
    rwa [List.map_map] at htexts
  constructor
  · intro i hi j hj hij
    rw [hshown i hi, hshown j hj]
    exact disjoint_part _ hvalues hij limit
  · calc (List.range m).flatMap (fun i => (pages i).yCategories)
        = (List.range m).flatMap fun i => keysOf (part (i * limit) limit ys) :=
          List.flatMap_congr fun i hi => hshown i (List.mem_range.1 hi)
      _ = keysOf ((List.range m).flatMap fun i => part (i * limit) limit ys) :=
          List.map_flatMap.symm
      _ = keysOf ys := by rw [flatMap_part, List.take_of_length_le hall]

/-- A page comes about whose keys can be compared with their fields and whose cells are readable. -/
theorem reached (h : PagesLead w r c limit qs xQuery countQuery xs ys answer m) (hc : c.Sound)
    (hxHead : c.rankHead r.colField r.metric = .ok xHead)
    (hyHead : c.rankHead r.rowField r.metric = .ok yHead)
    (hxs : ∀ g ∈ xs, c.Takes r.colField (.text g.key))
    (hys : ∀ g ∈ ys, c.Takes r.rowField (.text g.key)) {i : Nat} (hi : i < m)
    (hcells : AnswersCells (answer i) r c) :
    ∃ page queries,
      Runs (answer i) (heatmap w (pageAt r ((i * limit : Nat) : Int))) page queries := by
  obtain ⟨yQuery, hlead⟩ := h i hi
  obtain ⟨xColumn, _, _, hxColumn, -, -, -⟩ := Context.rankHead_parts hxHead
  obtain ⟨yColumn, value, f, hyColumn, hvalue, hf, -⟩ := Context.rankHead_parts hyHead
  obtain ⟨base, hbase, -⟩ := Outcome.bind_eq_ok.1 hf
  have htexts : ∀ gs : List Group, keysOf gs = (gs.map (·.key)).map .text := by
    intro gs
    rw [List.map_map]
    rfl
  have htakes : ∀ {field : Value} {gs : List Group},
      (∀ g ∈ gs, c.Takes field (.text g.key)) → ∀ k ∈ keysOf gs, c.Takes field k := by
    intro field gs hgs k hk
    obtain ⟨g, hg, rfl⟩ := List.mem_map.1 hk
    exact hgs g hg
  have hpart : ∀ g ∈ part (i * limit) limit ys, c.Takes r.rowField (.text g.key) :=
    fun g hg => hys g (List.mem_of_mem_drop (List.mem_of_mem_take hg))
  obtain ⟨q, hq⟩ := Context.matrix_builds hc hxColumn hyColumn hvalue hbase (htakes hxs)
    (htakes hpart)
  obtain ⟨cells, hanswer, hreadable⟩ := hcells _ _ q hq
  rw [htexts, htexts] at hq hlead
  obtain ⟨page, rest, hrest⟩ := cellsOf_runs hq hanswer hreadable
  exact ⟨page, _, hlead.runs hrest⟩

end PagesLead

/-- The pages of a heatmap ask the same queries for the column keys and the number of row keys, and
show the same column keys and number. Their row keys have nothing in common, and one after the other
they are the keys of all groups, by the metric from the largest down and then by the first row. Only
a page with a key that its field cannot be compared with, or with cells that cannot be read, does
not come about. -/
theorem pages_partition_keys (hbounded : HeatmapBounded w.settings)
    (hpaging : heatmapPaging w.settings (pageAt r 0) = .ok ⟨0, limit⟩)
    (hcontext : Runs (answer 0) (w.context r.toRequest [r.metric]) c qs)
    (hxHead : c.rankHead r.colField r.metric = .ok xHead)
    (hyHead : c.rankHead r.rowField r.metric = .ok yHead)
    (hseparate : ∀ head, Separate (groups head)) (hranks : ∀ i, Ranks (answer i) less groups)
    (hcount : ∀ i q, c.keyCount r.rowField [] = .ok q →
      answer i q = .ok (Rows.ofColumn "pv_count" [.int (groups (lines yHead)).length]))
    (hxs : groups (lines xHead) ≠ []) (hys : groups (lines yHead) ≠ [])
    (hall : (groups (lines yHead)).length ≤ m * limit)
    (hfits : Number.isWritable ((m * limit : Nat) : Int) = true) :
    ∃ ordered xKeys xQuery countQuery,
      ordered.Perm (groups (lines yHead)) ∧ ordered.Pairwise (Precedes less (rankTerms .top)) ∧
      (∀ i < m, ∃ yQuery later, ((heatmap w (pageAt r ((i * limit : Nat) : Int))).against
        (answer i)).2 = qs ++ xQuery :: countQuery :: yQuery :: later) ∧
      (∀ pages : Nat → HeatmapPage,
        (∀ i < m, ((heatmap w (pageAt r ((i * limit : Nat) : Int))).against (answer i)).1 =
          .ok (pages i)) →
        (∀ i < m, (pages i).xCategories = xKeys ∧ (pages i).totalRowCount = ordered.length ∧
          (pages i).limit = limit) ∧
        (∀ i < m, ∀ j < m, i ≠ j → (pages i).yCategories.Disjoint (pages j).yCategories) ∧
        (List.range m).flatMap (fun i => (pages i).yCategories) = keysOf ordered) ∧
      ((∀ g ∈ groups (lines xHead), c.Takes r.colField (.text g.key)) →
        (∀ g ∈ groups (lines yHead), c.Takes r.rowField (.text g.key)) →
        (∀ i < m, AnswersCells (answer i) r c) →
        ∀ i < m, ∃ page queries,
          Runs (answer i) (heatmap w (pageAt r ((i * limit : Nat) : Int))) page queries) := by
  obtain ⟨xs, ys, xQuery, countQuery, hsub, hordered, hpages⟩ := exists_pagesLead hbounded hpaging
    hcontext hxHead hyHead hseparate hranks hcount hxs hys hfits
  have hc : c.Sound := (Workspace.context_within w r.toRequest [r.metric]).of_runs hcontext
  refine ⟨ys, keysOf xs, xQuery, countQuery, hordered.perm, hordered.strict (hseparate _), ?_, ?_,
    ?_⟩
  · intro i hi
    obtain ⟨yQuery, hlead⟩ := hpages i hi
    have hqueries := (congrArg Prod.snd hlead).trans
      (List.append_assoc qs [xQuery, countQuery, yQuery] _)
    exact ⟨yQuery, _, hqueries⟩
  · intro pages hreached
    refine ⟨fun i hi => ?_, ?_⟩
    · obtain ⟨hxKeys, -, htotal, -, hlimit⟩ := hpages.shown hi (hreached i hi)
      exact ⟨hxKeys, htotal, hlimit⟩
    · exact hpages.partition (hordered.separate (hseparate _)).keys
        (hordered.perm.length_eq ▸ hall) hreached
  · intro hxTakes hyTakes hcells i hi
    exact hpages.reached hc hxHead hyHead (fun g hg => hxTakes g (hsub hg))
      (fun g hg => hyTakes g (hordered.perm.subset hg)) hi (hcells i hi)

end Walk

/-- Packets with a host and a method. -/
def methodContext : Context where
  schema := .of .tcp [("host", "VARCHAR"), ("method", "VARCHAR")] []
  settings := .standard
  timeField := Layer.tcp.defaultTimeField
  time := .null
  restrictions := []

theorem sound_methodContext : methodContext.Sound := nofun

/-- A workspace with these packets. -/
def methods : Workspace where
  settings := .standard
  schemaOf _ := .ok methodContext.schema

/-- Methods against hosts by the number of packets, a method to a page. -/
def methodsByHost : HeatmapRequest where
  layer := .text "tcp"
  time := .null
  filters := .null
  timeField := .null
  colField := .text "host"
  rowField := .text "method"
  metric := .countOf "host"
  offset := .null
  limit := .int 1

/-- Two groups of as many packets, of which the second was seen first. -/
def tiedGroups : List Group :=
  [⟨"GET", .int 5, 3⟩, ⟨"POST", .int 5, 0⟩]

/-- Whole numbers in their order. -/
def IsSmaller : Value → Value → Prop
  | .int m, .int n => m < n
  | _, _ => False

theorem isSmaller_asymm (v w : Value) (h : IsSmaller v w) : ¬IsSmaller w v := by
  cases v with
  | int m =>
    cases w with
    | int n => exact Int.lt_asymm h
    | _ => exact h.elim
  | _ => exact h.elim

/-- The channel that counts two groups and has no cells. -/
def countsTwo (countQuery q : Fragment) : Reply :=
  if q = countQuery then .ok (Rows.ofColumn "pv_count" [.int 2]) else .ok (cellRows [])

theorem methods_context {answer : Fragment → Reply} :
    Runs answer (methods.context methodsByHost.toRequest [methodsByHost.metric]) methodContext
      [] := by
  have hschema : methods.schema methodsByHost.layer = .ok methodContext.schema := by decide +kernel
  have hsplit : TopN.split methodsByHost.filters = .ok ([], []) := by decide +kernel
  have hmake : Context.make methodContext.schema .standard .null .null [] = .ok methodContext := by
    decide +kernel
  exact Runs.lift_bind hschema (Runs.lift_bind hsplit (Runs.lift_bind hmake (.done _)))

section Channel

variable {countQuery : Fragment} {groups : List Symbol}

/-- The query for the number of keys does not end like a ranking. -/
theorem ranker_count (hfilled : countQuery.filled = lines (Context.countLines groups)) :
    ranker IsSmaller tiedGroups (countsTwo countQuery) countQuery =
      .ok (Rows.ofColumn "pv_count" [.int 2]) := by
  rw [ranker_other, countsTwo, if_pos rfl]
  intro head order limit? offset? hhead horder heq
  exact Select.lines_ne_pagedLines (List.cons_ne_nil _ _)
    (Select.onLine_clause (by decide) (by decide))
    (Select.clause_ne_paged (by decide) (by decide) _) hhead horder _ _ (hfilled.symm.trans heq)

/-- The query for cells ends neither like a ranking nor like that for the number of keys. -/
theorem ranker_cells (hfilled : countQuery.filled = lines (Context.countLines groups))
    (hhost : methodContext.key (.text "host") = .ok (keyExpr "t.\"host\""))
    (hmethod : methodContext.key (.text "method") = .ok (keyExpr "t.\"method\"")) :
    AnswersCells (ranker IsSmaller tiedGroups (countsTwo countQuery)) methodsByHost
      methodContext := by
  intro xs ys q hq
  obtain ⟨rs, hrs, hcells⟩ :=
    Context.matrix_reads sound_methodContext hhost hmethod (by decide) (by decide) hq
  have honline : OnLine (clause "GROUP BY"
      (", ".intercalate [keyExpr "t.\"host\"", keyExpr "t.\"method\""])) :=
    Select.onLine_clause (by decide) (by decide)
  have hother : q ≠ countQuery := by
    rintro rfl
    have hlast := (lines_concat_inj hrs (List.cons_ne_nil _ _) honline
      (Select.onLine_clause (by decide) (by decide)) (hcells.symm.trans hfilled)).2
    exact Select.clause_ne (by decide) (by decide) (by decide) _ _ hlast
  refine ⟨[], ?_, nofun⟩
  rw [ranker_other, countsTwo, if_neg hother]
  intro head order limit? offset? hhead horder heq
  exact Select.lines_ne_pagedLines hrs honline (Select.clause_ne_paged (by decide) (by decide) _)
    hhead horder _ _ (hcells.symm.trans heq)

end Channel

theorem pages_of_methods_partition_keys :
    ∃ (answer : Fragment → Reply) (pages : Nat → HeatmapPage) (queries : Nat → List Fragment),
      (∀ i : Nat, i < 2 →
        Runs answer (heatmap methods (pageAt methodsByHost i)) (pages i) (queries i)) ∧
      (pages 0).yCategories.Disjoint (pages 1).yCategories ∧
      (pages 0).yCategories ++ (pages 1).yCategories = [.text "POST", .text "GET"] := by
  have hhost : methodContext.schema.column (.text "host") = .ok "t.\"host\"" := by decide +kernel
  have hmethod : methodContext.schema.column (.text "method") = .ok "t.\"method\"" := by
    decide +kernel
  obtain ⟨condition, hcondition⟩ : ∃ f, methodContext.whereWith [] = .ok f :=
    Outcome.isOk_iff.1 (by decide +kernel)
  have hhostKey := Context.key_of_column hhost
  have hmethodKey := Context.key_of_column hmethod
  obtain ⟨countQuery, groups, hcountQuery, hfilled⟩ :=
    Context.keyCount_builds sound_methodContext hmethodKey hcondition
  have hhead : ∀ {field : Value} {key : String}, methodContext.key field = .ok key →
      ∃ head, methodContext.rankHead field (.countOf "host") = .ok head := by
    intro field key hkey
    exact ⟨_, Outcome.bind_eq_ok.2 ⟨key, hkey, Outcome.bind_eq_ok.2 ⟨"COUNT(*)", rfl,
      Outcome.bind_eq_ok.2 ⟨condition, hcondition, rfl⟩⟩⟩⟩
  obtain ⟨xHead, hxHead⟩ := hhead hhostKey
  obtain ⟨yHead, hyHead⟩ := hhead hmethodKey
  have hranks : Ranks (ranker IsSmaller tiedGroups (countsTwo countQuery)) IsSmaller
      fun _ => tiedGroups := ranks_ranker isSmaller_asymm _
  have hcounts : ∀ q, methodContext.keyCount (.text "method") [] = .ok q →
      ranker IsSmaller tiedGroups (countsTwo countQuery) q =
        .ok (Rows.ofColumn "pv_count" [.int 2]) := by
    intro q hq
    obtain rfl := Except.ok.inj (hcountQuery.symm.trans hq)
    exact ranker_count hfilled
  have hbounded : HeatmapBounded methods.settings :=
    ⟨by decide, by decide +kernel, by decide, by decide +kernel⟩
  have hpaging : heatmapPaging methods.settings (pageAt methodsByHost 0) = .ok ⟨0, (1 : Nat)⟩ := by
    decide +kernel
  have hseparate : Separate tiedGroups := ⟨by decide, by decide⟩
  obtain ⟨ordered, _, _, _, hperm, hstrict, -, hpages, hreached⟩ :=
    pages_partition_keys (m := 2) hbounded hpaging methods_context hxHead hyHead
      (fun _ => hseparate) (fun _ => hranks) (fun _ => hcounts) (List.cons_ne_nil _ _)
      (List.cons_ne_nil _ _) (by decide) (by decide +kernel)
  have hordered : ordered = [⟨"POST", .int 5, 0⟩, ⟨"GET", .int 5, 3⟩] := by
    have hgiven : Arranged IsSmaller (rankTerms .top) tiedGroups ordered :=
      ⟨hperm, hstrict.imp (precedes_asymm isSmaller_asymm _ _ _)⟩
    refine hgiven.unique ⟨List.Perm.swap _ _ [], List.pairwise_pair.2 ?_⟩ hseparate
    simp [Precedes, rankTerms, SortTerm.Before, IsSmaller]
  have htakes : ∀ field ∈ [Value.text "host", .text "method"], ∀ s,
      methodContext.Takes field (.text s) := by
    have htext : ∀ field ∈ [Value.text "host", .text "method"],
        (methodContext.schema.fieldType field).isTextual = true := by decide +kernel
    exact fun field hfield s => Context.takes_text (htext field hfield) s
  have hnonempty : Nonempty HeatmapPage := ⟨.empty .null .null⟩
  choose! pages queries hruns using hreached
    (fun g _ => htakes _ List.mem_cons_self g.key)
    (fun g _ => htakes _ (List.mem_cons_of_mem _ List.mem_cons_self) g.key)
    (fun _ _ => ranker_cells hfilled hhostKey hmethodKey)
  obtain ⟨-, hdisjoint, hkeys⟩ := hpages pages fun i hi => congrArg Prod.fst (hruns i hi)
  refine ⟨ranker IsSmaller tiedGroups (countsTwo countQuery), pages, queries, fun i hi => ?_,
    hdisjoint 0 (by decide) 1 (by decide) (by decide), ?_⟩
  · have hrun := hruns i hi
    rwa [Nat.mul_one] at hrun
  · rw [hordered] at hkeys
    simpa [List.range_succ, keysOf] using hkeys

/-- Packets with the gap before them. -/
def gapContext : Context where
  schema := .of .tcp [("gap", "INTERVAL")] []
  settings := .standard
  timeField := Layer.tcp.defaultTimeField
  time := .null
  restrictions := []

/-- A field of intervals passes for one of numbers and is not compared with its own keys. -/
theorem interval_key_is_refused :
    ¬gapContext.Takes (.text "gap") (.text "3 days") ∧
      (gapContext.matrix (.text "gap") (.text "gap") (.countOf "gap") [.text "3 days"]
        [.text "3 days"]).isOk = false := by
  refine ⟨fun h => ?_, by decide +kernel⟩
  have hname : gapContext.schema.require (.text "gap") = .ok "gap" := by decide +kernel
  have hcolumn : gapContext.schema.column (.text "gap") = .ok "t.\"gap\"" := by decide +kernel
  have htype : gapContext.schema.fieldType (.text "gap") = .number := by decide +kernel
  have htarget : gapContext.scope.target (.text "gap") none =
      .ok ⟨"gap", "t.\"gap\"", gapContext.schema.fieldType (.text "gap")⟩ :=
    Outcome.bind_eq_ok.2 ⟨"gap", hname, Outcome.bind_eq_ok.2 ⟨_, hcolumn, rfl⟩⟩
  rw [htype] at htarget
  obtain ⟨bound, hbound⟩ := h _ htarget (by decide) (by decide)
  have hrefused : (gapContext.scope.operand ⟨"gap", "t.\"gap\"", .number⟩ (.text "3 days")).isOk =
      false := by decide +kernel
  rw [hbound] at hrefused
  cases hrefused

end Crosstab.View
