import Crosstab.Proofs.View.Grid
import Crosstab.Proofs.Walk
import Mathlib.Algebra.Order.BigOperators.Group.List
import Mathlib.Algebra.Order.Group.Nat
import Mathlib.Data.List.Sort

/-!
# Walking over the pages of the grid

Each page of the grid is a slice of the rows in the order of one column. Rows that agree in it come
in any order, which may be another one for each page, so a page tells which values of the column it
shows but not which of the rows that agree in such a value. The pages of a walk show the values of
the column in their order, each as often as there are rows with it. They show every row once as far
as rows that agree lie on one page.
-/

namespace Crosstab

open Pivot Sql
open Session (Reply)

/-! ## Slices of arrangements -/

section Arrangements

variable {ρ κ : Type} [LinearOrder κ] {rank : ρ → κ} {rows arranged : List ρ}

/-- The rows in the order of their ranks; rows of one rank come in any order. -/
structure Arranges (rank : ρ → κ) (rows arranged : List ρ) : Prop where
  perm : arranged.Perm rows
  rising : arranged.Pairwise fun a b => rank a ≤ rank b

/-- Every arrangement has the same ranks in the same places. -/
theorem Arranges.ranks_eq (h : Arranges rank rows arranged) {ordered : List κ}
    (hperm : ordered.Perm (rows.map rank)) (hrising : ordered.Pairwise (· ≤ ·)) :
    arranged.map rank = ordered :=
  List.Perm.eq_of_pairwise' (List.pairwise_map.2 h.rising) hrising
    ((h.perm.map rank).trans hperm.symm)

/-- The things that agree in the rank lie on one page of so many things. -/
def OnOnePage (ordered : List κ) (n : Nat) (k : κ) : Prop :=
  ∃ i, k ∉ ordered.take (i * n) ∧ k ∉ ordered.drop (i * n + n)

theorem take_slice_drop {α : Type} (xs : List α) (m n : Nat) :
    xs = xs.take m ++ ((xs.drop m).take n ++ xs.drop (m + n)) := by
  rw [← List.drop_drop, List.take_append_drop, List.take_append_drop]

/-- What lies on one page only is as often on that page as in the whole. -/
theorem count_slice {α : Type} [DecidableEq α] {xs : List α} {m n : Nat} {x : α}
    (hbefore : x ∉ xs.take m) (hbehind : x ∉ xs.drop (m + n)) :
    ((xs.drop m).take n).count x = xs.count x := by
  conv_rhs => rw [take_slice_drop xs m n, List.count_append, List.count_append,
    List.count_eq_zero_of_not_mem hbefore, List.count_eq_zero_of_not_mem hbehind]
  omega

/-- Pages of at most so many things hold no more than so many each together. -/
theorem length_flatten_le {pages : List (List ρ)} {n : Nat} (h : ∀ page ∈ pages, page.length ≤ n) :
    pages.flatten.length ≤ pages.length * n := by
  have hsum := List.sum_le_card_nsmul (pages.map List.length) n (List.forall_mem_map.2 h)
  rwa [List.length_map, Nat.nsmul_eq_mul, ← List.length_flatten] at hsum

/-- If one page has all of a rank, the rows of this rank are on no other page. -/
theorem count_flatten_of_page [DecidableEq ρ] {pages : List (List ρ)} {page : List ρ} {i : Nat}
    (hi : pages[i]? = some page) {row : ρ}
    (hall : (page.map rank).count (rank row) = (pages.flatten.map rank).count (rank row)) :
    pages.flatten.count row = page.count row := by
  obtain ⟨hlt, hget⟩ := List.getElem?_eq_some_iff.1 hi
  have hsplit : pages = pages.take i ++ page :: pages.drop (i + 1) := by
    rw [← hget, List.getElem_cons_drop, List.take_append_drop]
  rw [hsplit] at hall ⊢
  rw [List.flatten_append, List.flatten_cons, List.map_append, List.map_append,
    List.count_append, List.count_append] at hall
  have hfront : rank row ∉ (pages.take i).flatten.map rank :=
    List.count_eq_zero.1 (by omega)
  have hrest : rank row ∉ (pages.drop (i + 1)).flatten.map rank :=
    List.count_eq_zero.1 (by omega)
  rw [List.flatten_append, List.flatten_cons, List.count_append, List.count_append,
    List.count_eq_zero_of_not_mem (mt List.mem_map_of_mem hfront),
    List.count_eq_zero_of_not_mem (mt List.mem_map_of_mem hrest)]
  omega

/-- A row whose rank lies on one page is on the pages as often as it is among the rows, if the page
of each number is a slice of some arrangement and the pages show all ranks. -/
theorem count_flatten_of_onOnePage [DecidableEq ρ] {ordered : List κ}
    (hperm : ordered.Perm (rows.map rank)) (hrising : ordered.Pairwise (· ≤ ·)) {n : Nat}
    {pages : List (List ρ)} (hpages : ∀ i page, pages[i]? = some page → ∃ arranged,
      Arranges rank rows arranged ∧ page = (arranged.drop (i * n)).take n)
    (hranks : pages.flatten.map rank = ordered) {row : ρ}
    (hpage : OnOnePage ordered n (rank row)) : pages.flatten.count row = rows.count row := by
  obtain ⟨i, hbefore, hbehind⟩ := hpage
  cases hi : pages[i]? with
  | some page =>
    obtain ⟨arranged, harranged, rfl⟩ := hpages i page hi
    have hsame := harranged.ranks_eq hperm hrising
    have hall : (((arranged.drop (i * n)).take n).map rank).count (rank row) =
        (pages.flatten.map rank).count (rank row) := by
      rw [hranks, List.map_take, List.map_drop, hsame]
      exact count_slice hbefore hbehind
    have honly : ((arranged.drop (i * n)).take n).count row = arranged.count row := by
      have hfront : rank row ∉ (arranged.take (i * n)).map rank := by
        rwa [List.map_take, hsame]
      have hrest : rank row ∉ (arranged.drop (i * n + n)).map rank := by
        rwa [List.map_drop, hsame]
      exact count_slice (mt List.mem_map_of_mem hfront) (mt List.mem_map_of_mem hrest)
    rw [count_flatten_of_page hi hall, honly, harranged.perm.count_eq]
  | none =>
    -- the page lies behind all ranks, so no row has this one
    have hfull : ∀ page ∈ pages, page.length ≤ n := by
      intro page hmem
      obtain ⟨j, hj⟩ := List.mem_iff_getElem?.1 hmem
      obtain ⟨arranged, -, rfl⟩ := hpages j page hj
      exact List.length_take_le n _
    have hlength : pages.flatten.length ≤ i * n :=
      (length_flatten_le hfull).trans (Nat.mul_le_mul_right n (List.getElem?_eq_none_iff.1 hi))
    have hnone : rank row ∉ ordered := by
      rwa [List.take_of_length_le] at hbefore
      rwa [← hranks, List.length_map]
    have hrows : row ∉ rows := mt List.mem_map_of_mem fun hmem => hnone (hperm.mem_iff.2 hmem)
    have hshown : row ∉ pages.flatten := mt List.mem_map_of_mem (hranks ▸ hnone)
    rw [List.count_eq_zero_of_not_mem hrows, List.count_eq_zero_of_not_mem hshown]

end Arrangements

namespace View

/-! ## A channel that holds rows -/

/-- The request with another offset. -/
def startingAt (members : List (String × Value)) (o : Nat) : List (String × Value) :=
  setNamed "offset" (.int o) members

namespace GridPlan

variable {ρ κ : Type} [LinearOrder κ]

/-- The cells of a row by the columns that are selected. -/
def record (g : GridPlan) (cell : ρ → String → Value) (row : ρ) : Row :=
  namedValues (g.selected.zip (g.selected.map (cell row)))

/-- What a query for rows returns. -/
def answerRows (g : GridPlan) (cell : ρ → String → Value) (rows : List ρ) : Rows :=
  ⟨g.selected, rows.map fun row => g.selected.map (cell row)⟩

theorem records_answerRows (g : GridPlan) (cell : ρ → String → Value) (rows : List ρ) :
    (g.answerRows cell rows).records = rows.map (g.record cell) := by
  simp only [Rows.records, answerRows, List.map_map]
  rfl

/-- The channel holds the rows that meet the plan's condition. The query for a page is answered with
a slice of some arrangement in the order of the plan's column, where `place` tells how the values of
the column come in the plan's direction; each query may have an arrangement of its own. -/
structure Stores (g : GridPlan) (cell : ρ → String → Value) (place : Value → κ) (rows : List ρ)
    (answer : Fragment → Reply) : Prop where
  page : ∀ (o : Nat) (q : Fragment), q.filled = lines (g.pageLines o) → ∃ arranged,
    Arranges (fun row => place (cell row g.sortName)) rows arranged ∧
      answer q = .ok (g.answerRows cell ((arranged.drop o).take g.limit.toNat))
  count : ∀ q : Fragment, q.filled = lines g.countLines →
    answer q = .ok (Rows.ofColumn "total" [.int rows.length])

end GridPlan

/-! ## The walk -/

/-- The walk of searches from an offset on, each behind the page before by its limit, until a page
tells that there are no more rows. -/
def GridWalk (w : Workspace) (answer : Fragment → Reply) (members : List (String × Value)) :
    Nat → List (Visit GridPage) → Prop :=
  Walk (fun o v => v.Of answer (grid w (.record (startingAt members o))))
    (fun o v => if v.page.hasMore then some (o + v.page.page.limit.toNat) else none)

section Walk

variable {ρ κ : Type} [LinearOrder κ] {w : Workspace} {members : List (String × Value)}
  {g : GridPlan} {cell : ρ → String → Value} {place : Value → κ} {rows : List ρ}
  {answer : Fragment → Reply}

theorem startingAt_startingAt (members : List (String × Value)) (m o : Nat) :
    startingAt (startingAt members m) o = startingAt members o :=
  setNamed_setNamed _ _ _ _

/-- The visit shows the rows of a page, which is a slice of some arrangement. -/
structure ShowsSlice (g : GridPlan) (cell : ρ → String → Value) (place : Value → κ) (rows : List ρ)
    (o : Nat) (v : GridPage) (page : List ρ) : Prop where
  slice : ∃ arranged, Arranges (fun row => place (cell row g.sortName)) rows arranged ∧
    page = (arranged.drop o).take g.limit.toNat
  shown : v.rows = page.map (g.record cell)
  total : v.total = rows.length
  page : v.page = ⟨o, g.limit⟩

/-- A search comes to the page that its query is answered with. -/
theorem GridPlan.Of.visit {m o : Nat} (h : g.Of w (startingAt members m) m)
    (hfits : Number.isWritable o = true) {page : List ρ} {total : Nat}
    (hpage : ∀ q : Fragment, q.filled = lines (g.pageLines o) →
      answer q = .ok (g.answerRows cell page))
    (hcount : ∀ q : Fragment, q.filled = lines g.countLines →
      answer q = .ok (Rows.ofColumn "total" [.int total])) :
    ∃ queries, Visit.Of answer (grid w (.record (startingAt members o)))
      ⟨⟨g.columns, page.map (g.record cell), total, ⟨o, g.limit⟩⟩, queries⟩ := by
  have hat := h.at_offset (Int.natCast_nonneg o)
  rw [show setNamed "offset" (.int o) (startingAt members m) = startingAt members o from
    startingAt_startingAt members m o] at hat
  obtain ⟨pageQuery, countQuery, hasked, hpageFilled, hcountFilled⟩ := hat.asks hfits
  have hread : g.page o (g.answerRows cell page) (Rows.ofColumn "total" [.int total]) =
      .ok ⟨g.columns, page.map (g.record cell), total, ⟨o, g.limit⟩⟩ := by
    rw [GridPlan.page, Rows.scalar_ofColumn, GridPlan.records_answerRows]
    simp only [bind, Except.bind, Value.toCount_int]
    rfl
  refine ⟨[pageQuery, countQuery], ?_⟩
  unfold Visit.Of Runs
  simp only [hasked, Session.against, hpage pageQuery hpageFilled, hcount countQuery hcountFilled,
    hread, Session.ofOutcome]

/-- A search comes to a slice of some arrangement. -/
theorem GridPlan.Of.runs {m o : Nat} (h : g.Of w (startingAt members m) m)
    (hstores : g.Stores cell place rows answer) (hfits : Number.isWritable o = true) :
    ∃ v page, Visit.Of answer (grid w (.record (startingAt members o))) v ∧
      ShowsSlice g cell place rows o v.page page := by
  have hat := h.at_offset (Int.natCast_nonneg o)
  rw [show setNamed "offset" (.int o) (startingAt members m) = startingAt members o from
    startingAt_startingAt members m o] at hat
  obtain ⟨pageQuery, -, -, hpageFilled, -⟩ := hat.asks hfits
  obtain ⟨arranged, harranged, hrows⟩ := hstores.page o pageQuery hpageFilled
  have hanswer : ∀ q : Fragment, q.filled = lines (g.pageLines o) →
      answer q = .ok (g.answerRows cell ((arranged.drop o).take g.limit.toNat)) := by
    intro q hq
    rwa [Fragment.eq_of_filled (hq.trans hpageFilled.symm)]
  obtain ⟨queries, hvisit⟩ := h.visit hfits hanswer hstores.count
  exact ⟨_, _, hvisit, ⟨arranged, harranged, rfl⟩, rfl, rfl, rfl⟩

/-- A page tells that there are more rows exactly if some lie behind it. -/
theorem ShowsSlice.next {o : Nat} {v : GridPage} {page : List ρ}
    (h : ShowsSlice g cell place rows o v page) (hlimit : 1 ≤ g.limit) (ho : o ≤ rows.length) :
    (if v.hasMore then some (o + v.page.limit.toNat) else none) =
      if o + g.limit.toNat < rows.length then some (o + g.limit.toNat) else none := by
  obtain ⟨arranged, harranged, rfl⟩ := h.slice
  have hlength : v.rows.length = min g.limit.toNat (rows.length - o) := by
    rw [h.shown, List.length_map, List.length_take, List.length_drop, harranged.perm.length_eq]
  have hmore : v.hasMore = decide (o + g.limit.toNat < rows.length) := by
    rw [GridPage.hasMore, h.total, h.page, hlength, decide_eq_decide]
    show (o : Int) + (min g.limit.toNat (rows.length - o) : Nat) < rows.length ↔ _
    omega
  rw [hmore, h.page]
  by_cases hlt : o + g.limit.toNat < rows.length
  · simp only [hlt, decide_true, if_true]
  · simp only [hlt, decide_false, if_false, Bool.false_eq_true]

/-- The walk from the first page on ends, and each of its pages is a slice of some arrangement. -/
theorem exists_gridWalk (h : g.Of w (startingAt members 0) 0)
    (hstores : g.Stores cell place rows answer) (hfits : Number.isWritable rows.length = true)
    {ordered : List κ} (hperm : ordered.Perm (rows.map fun row => place (cell row g.sortName)))
    (hrising : ordered.Pairwise (· ≤ ·)) :
    ∃ shown : List (Visit GridPage × List ρ),
      GridWalk w answer members 0 (shown.map (·.1)) ∧
      (∀ i s, shown[i]? = some s →
        ShowsSlice g cell place rows (i * g.limit.toNat) s.1.page s.2) ∧
      (shown.map (·.2)).flatten.map (fun row => place (cell row g.sortName)) = ordered := by
  have hpos : 1 ≤ g.limit.toNat := by
    have := h.limit_pos
    omega
  have hlength : ordered.length = rows.length := by
    rw [hperm.length_eq, List.length_map]
  have hpage : ∀ o, o = 0 ∨ o < ordered.length → ∃ s : Visit GridPage × List ρ,
      (s.1.Of answer (grid w (.record (startingAt members o))) ∧
        ShowsSlice g cell place rows o s.1.page s.2) ∧
      s.2.map (fun row => place (cell row g.sortName)) = (ordered.drop o).take g.limit.toNat ∧
      (if s.1.page.hasMore then some (o + s.1.page.page.limit.toNat) else none) =
        if o + g.limit.toNat < ordered.length then some (o + g.limit.toNat) else none := by
    intro o ho
    rw [hlength] at ho ⊢
    have hle : o ≤ rows.length := by omega
    have ofits : Number.isWritable o = true :=
      Number.isWritable_of_le (Int.natCast_nonneg o) (Int.ofNat_le.2 hle) hfits
    obtain ⟨v, page, hv, hshows⟩ := h.runs hstores ofits
    refine ⟨(v, page), ⟨hv, hshows⟩, ?_, hshows.next h.limit_pos hle⟩
    obtain ⟨arranged, harranged, rfl⟩ := hshows.slice
    rw [List.map_take, List.map_drop, harranged.ranks_eq hperm hrising]
  obtain ⟨shown, hwalk, hranks⟩ := Walk.exists_of_slices hpos hpage (.inl rfl)
  refine ⟨shown, hwalk.map Prod.fst (fun _ _ hs => hs.1) fun _ _ => rfl, ?_, ?_⟩
  · intro i s hs
    have hvisit := hwalk.visits_at (n := g.limit.toNat) ?_ hs
    · rw [Nat.zero_add] at hvisit
      exact hvisit.2
    · intro o s o' hnext hvisit
      split at hnext
      · rw [hvisit.2.page] at hnext
        exact (Option.some.inj hnext).symm
      · cases hnext
  · rw [List.map_flatten, List.map_map, ← List.flatMap_def]
    exact hranks

end Walk

/-- The pages of the grid follow the order of its column. A request fails before it asks anything,
or comes to a plan such that every channel which holds the rows lets the walk from the first page
end, and its pages show the values of the column in their order, each as often as there are rows
with it. A row is shown as often as it is among the rows if those that agree with it lie on one
page, whatever order they come in; so where this is so of all rows, every row is shown exactly
once. -/
theorem grid_pages_follow_order (w : Workspace) (members : List (String × Value)) :
    (∃ e, grid w (.record (startingAt members 0)) = .fail e) ∨
    ∃ g : GridPlan, g.Of w (startingAt members 0) 0 ∧
      ∀ {ρ κ : Type} [DecidableEq ρ] [LinearOrder κ] (cell : ρ → String → Value)
        (place : Value → κ) (rows : List ρ) (answer : Fragment → Reply),
        g.Stores cell place rows answer → Number.isWritable rows.length = true →
        ∃ (visits : List (Visit GridPage)) (pages : List (List ρ)) (ordered : List κ),
          (∀ vs, GridWalk w answer members 0 vs ↔ vs = visits) ∧
          visits.map (·.page.rows) = pages.map (·.map (g.record cell)) ∧
          (∀ v ∈ visits, v.page.total = rows.length ∧ v.page.page.limit = g.limit) ∧
          ordered.Perm (rows.map fun row => place (cell row g.sortName)) ∧
          ordered.Pairwise (· ≤ ·) ∧
          pages.flatten.map (fun row => place (cell row g.sortName)) = ordered ∧
          (∀ row, OnOnePage ordered g.limit.toNat (place (cell row g.sortName)) →
            pages.flatten.count row = rows.count row) ∧
          ((∀ row ∈ rows, OnOnePage ordered g.limit.toNat (place (cell row g.sortName))) →
            pages.flatten.Perm rows) := by
  rcases grid_cases w (.record (startingAt members 0)) with
    hfails | ⟨_, offset, g, hmembers, h, -⟩
  · exact .inl hfails
  · obtain rfl := Value.record.inj hmembers
    obtain rfl : offset = 0 := by
      obtain ⟨o, n, ho, -, -, -, hpage⟩ := Page.ofRequest_eq_ok h.page
      rw [startingAt, memberOf, valueOf?_setNamed] at ho
      obtain rfl : 0 = o := Except.ok.inj ho
      exact congrArg Page.offset hpage
    refine .inr ⟨g, h, ?_⟩
    intro ρ κ _ _ cell place rows answer hstores hfits
    let rank := fun row => place (cell row g.sortName)
    have hperm : ((rows.map rank).mergeSort (· ≤ ·)).Perm (rows.map rank) := List.mergeSort_perm _ _
    have hrising : ((rows.map rank).mergeSort (· ≤ ·)).Pairwise (· ≤ ·) :=
      List.pairwise_mergeSort' _ _
    obtain ⟨shown, hwalk, hslices, hranks⟩ := exists_gridWalk h hstores hfits hperm hrising
    have hshows : ∀ s ∈ shown, ∃ o, ShowsSlice g cell place rows o s.1.page s.2 := by
      intro s hs
      obtain ⟨i, hi⟩ := List.mem_iff_getElem?.1 hs
      exact ⟨_, hslices i s hi⟩
    have hpages : ∀ i page, (shown.map (·.2))[i]? = some page → ∃ arranged,
        Arranges rank rows arranged ∧
          page = (arranged.drop (i * g.limit.toNat)).take g.limit.toNat := by
      intro i page hi
      rw [List.getElem?_map] at hi
      obtain ⟨s, hs, rfl⟩ := Option.map_eq_some_iff.1 hi
      exact (hslices i s hs).slice
    have hcount : ∀ row, OnOnePage ((rows.map rank).mergeSort (· ≤ ·)) g.limit.toNat (rank row) →
        (shown.map (·.2)).flatten.count row = rows.count row := fun row =>
      count_flatten_of_onOnePage hperm hrising hpages hranks
    refine ⟨shown.map (·.1), shown.map (·.2), _, ?_, ?_, ?_, hperm, hrising, hranks, hcount, ?_⟩
    · exact fun vs => ⟨fun hvs => Walk.unique hvs hwalk fun _ _ _ => Visit.Of.unique,
        fun hvs => hvs ▸ hwalk⟩
    · rw [List.map_map, List.map_map]
      refine List.map_congr_left fun s hs => ?_
      obtain ⟨o, hs⟩ := hshows s hs
      exact hs.shown
    · intro v hv
      obtain ⟨s, hs, rfl⟩ := List.mem_map.1 hv
      obtain ⟨o, hs⟩ := hshows s hs
      exact ⟨hs.total, by rw [hs.page]⟩
    · intro hall
      refine List.perm_iff_count.2 fun row => ?_
      by_cases hrow : row ∈ rows
      · exact hcount row (hall row hrow)
      · have hshown : row ∉ (shown.map (·.2)).flatten := by
          intro hmem
          obtain ⟨page, hpage, hmem⟩ := List.mem_flatten.1 hmem
          obtain ⟨i, hi⟩ := List.mem_iff_getElem?.1 hpage
          obtain ⟨arranged, harranged, rfl⟩ := hpages i page hi
          exact hrow (harranged.perm.mem_iff.1 (List.mem_of_mem_drop (List.mem_of_mem_take hmem)))
        rw [List.count_eq_zero_of_not_mem hrow, List.count_eq_zero_of_not_mem hshown]

/-! ## A channel that arranges rows as it likes -/

namespace GridPlan

variable {ρ κ : Type} [LinearOrder κ] {w : Workspace} {members : List (String × Value)}
  {offset : Int} {g : GridPlan}

/-- The order stands on one line where names are plain. -/
theorem Of.newline_not_mem_order (h : g.Of w members offset) (hplain : g.schema.HasPlainNames) :
    '\n' ∉ g.order.toList := by
  obtain ⟨hdirection, field, hcolumn⟩ := sortTerm_eq_ok h.sort
  obtain ⟨column, hresolve, -, hsame⟩ := Schema.column_eq_ok.1 hcolumn
  obtain ⟨-, -, p, hp, rfl⟩ := Schema.agrees_of_resolve hresolve
  have hname : '\n' ∉ p.1.toList := fun hmem =>
    absurd (List.all_eq_true.1 (hplain p hp) _ hmem) (by decide)
  have hword : '\n' ∉ g.direction.toList := by
    rcases hdirection with hd | hd <;> rw [hd] <;> decide
  rw [order, hsame, Schema.columnText]
  simp only [String.toList_append, List.mem_append, not_or]
  exact ⟨⟨⟨⟨by decide, by decide⟩, ⟨by decide, hname⟩, by decide⟩, by decide⟩, hword⟩

/-- The query for a page tells where it starts. -/
theorem Of.pageLines_inj (h : g.Of w members offset) (hplain : g.schema.HasPlainNames) {m n : Int}
    (hsame : lines (g.pageLines m) = lines (g.pageLines n)) : m = n := by
  have hline := h.newline_not_mem_order hplain
  obtain ⟨-, -, -, hoffset⟩ := Select.pagedLines_inj (List.cons_ne_nil _ _) (List.cons_ne_nil _ _)
    hline hline hsame
  exact Option.some.inj hoffset

/-- The query for the number of rows is none for a page. -/
theorem Of.countLines_ne_pageLines (h : g.Of w members offset) (n : Int) :
    lines g.countLines ≠ lines (g.pageLines n) := by
  obtain ⟨a, as, hselected⟩ := List.exists_cons_of_ne_nil h.selected_ne_nil
  have hfirst : ∃ cs, (", ".intercalate (g.selected.map selectedAs)).toList = 't' :: cs := by
    have hone : ∃ cs, (selectedAs a).toList = 't' :: cs := by
      simp [selectedAs, Schema.columnText, Schema.tableAlias]
    obtain ⟨cs, hcs⟩ := hone
    rw [hselected, List.map_cons]
    cases as with
    | nil => exact ⟨cs, by rwa [List.map_nil, String.intercalate_singleton]⟩
    | cons b bs =>
      rw [List.map_cons, String.intercalate_cons_cons, String.append_assoc, String.toList_append,
        hcs]
      exact ⟨_, rfl⟩
  obtain ⟨cs, hcs⟩ := hfirst
  have hcount : (lines g.countLines)[7]? = some (.char 'C') := rfl
  have hpage : (lines (g.pageLines n))[7]? = some (.char 't') := by
    have hselect : clause "SELECT" (", ".intercalate (g.selected.map selectedAs)) =
        symbols "SELECT " ++ .char 't' :: cs.map .char := by
      rw [clause, symbols_append, symbols, symbols, symbols, hcs]
      rfl
    rw [pageLines, hselect]
    rfl
  intro hsame
  rw [hsame, hpage] at hcount
  exact absurd hcount (by decide)

/-- A channel that arranges the rows in one way for each offset. -/
noncomputable def serving (g : GridPlan) (cell : ρ → String → Value) (total : Nat)
    (arranged : Nat → List ρ) (q : Fragment) : Reply :=
  open Classical in
  if h : ∃ o : Nat, q.filled = lines (g.pageLines o) then
    .ok (g.answerRows cell (((arranged h.choose).drop h.choose).take g.limit.toNat))
  else .ok (Rows.ofColumn "total" [.int total])

theorem Of.serving_page (h : g.Of w members offset) (hplain : g.schema.HasPlainNames)
    {cell : ρ → String → Value} {total : Nat} {arranged : Nat → List ρ} {o : Nat} {q : Fragment}
    (hq : q.filled = lines (g.pageLines o)) :
    g.serving cell total arranged q =
      .ok (g.answerRows cell (((arranged o).drop o).take g.limit.toNat)) := by
  have hasked : ∃ o : Nat, q.filled = lines (g.pageLines o) := ⟨o, hq⟩
  have hsame : hasked.choose = o :=
    Int.ofNat.inj (h.pageLines_inj hplain (hasked.choose_spec.symm.trans hq))
  rw [serving, dif_pos hasked, hsame]

theorem Of.serving_count (h : g.Of w members offset) {cell : ρ → String → Value} {total : Nat}
    {arranged : Nat → List ρ} {q : Fragment} (hq : q.filled = lines g.countLines) :
    g.serving cell total arranged q = .ok (Rows.ofColumn "total" [.int total]) :=
  dif_neg fun ⟨o, ho⟩ => h.countLines_ne_pageLines o (hq.symm.trans ho)

/-- The channel holds the rows, whatever its arrangements are. -/
theorem Of.stores_serving (h : g.Of w members offset) (hplain : g.schema.HasPlainNames)
    {cell : ρ → String → Value} {place : Value → κ} {rows : List ρ} {arranged : Nat → List ρ}
    (harranged : ∀ o, Arranges (fun row => place (cell row g.sortName)) rows (arranged o)) :
    g.Stores cell place rows (g.serving cell rows.length arranged) where
  page o _ hq := ⟨arranged o, harranged o, h.serving_page hplain hq⟩
  count _ hq := h.serving_count hq

end GridPlan

/-! ## Packets of equal size -/

/-- A request for the ports of packets by size, so many on a page. -/
def portsBySize (limit : Nat) : List (String × Value) :=
  [("layer", .text "TCP"), ("columns", .list [.text "PORT"]),
    ("sort", .record [("field", .text "size"), ("dir", .text "asc")]), ("limit", .int limit)]

/-- What the request comes to. -/
def portsBySizePlan (limit : Nat) : GridPlan where
  schema := Filter.Scope.packets.schema
  names := ["port"]
  selected := ["port"]
  condition := .empty
  sortName := "size"
  direction := "ASC"
  limit

/-- The cells of a packet, given by its port: all packets but those of port 443 are of one size. -/
def packetCell (port name : String) : Value :=
  if name == "port" then .text port else .int (if port == "443" then 1500 else 40)

/-- Sizes come upwards. -/
def sizePlace : Value → Int
  | .int n => n
  | _ => 0

theorem hasPlainNames_packets : Filter.Scope.packets.schema.HasPlainNames := by decide +kernel

theorem portsBySizePlan_of {limit : Nat} (hlimit : limit ∈ [1, 2]) :
    (portsBySizePlan limit).Of .ofPackets (startingAt (portsBySize limit) 0) 0 := by
  have hall : ∀ n ∈ [1, 2], Page.ofRequest (.int 0) (.int (n : Nat))
      Workspace.ofPackets.settings.gridDefaultLimit Workspace.ofPackets.settings.gridMaxLimit =
        .ok ⟨0, (n : Nat)⟩ ∧ 1 ≤ (n : Int) ∧ (n : Int) ≤ 1000 ∧ Number.isWritable n = true := by
    decide +kernel
  obtain ⟨hpage, hpos, hmost, hfits⟩ := hall limit hlimit
  have hschema : Workspace.ofPackets.schema (.text "TCP") = .ok Filter.Scope.packets.schema := by
    decide +kernel
  have hnames : [Value.text "PORT"].mapM Filter.Scope.packets.schema.require = .ok ["port"] := by
    decide +kernel
  have hselected : Selects Filter.Scope.packets.schema "port" "port" :=
    ⟨by decide +kernel, by decide⟩
  have hcondition : Filter.Scope.packets.rowsWhere .null .null .null = .ok none := by
    decide +kernel
  have hsort : Filter.Scope.packets.sortTerm
      (.record [("field", .text "size"), ("dir", .text "asc")]) .null =
        .ok (Schema.columnText "size", "ASC") := by decide +kernel
  refine ⟨hschema, hnames, .cons hselected .nil, ?_, hsort, hpage, by decide, hpos, hmost, hfits⟩
  exact (gridCondition_record _ _).trans (Outcome.bind_eq_ok.2 ⟨none, hcondition, rfl⟩)

/-- The packets of equal size come in another order for each of two pages. -/
def swapped (rest : List String) (o : Nat) : List String :=
  (if o = 0 then ["22", "80"] else ["80", "22"]) ++ rest

/-- Both orders are arrangements by size. -/
theorem arranges_swapped (limit : Nat) (rest : List String)
    (hrest : (["22", "80"] ++ rest).Pairwise fun a b =>
      sizePlace (packetCell a "size") ≤ sizePlace (packetCell b "size"))
    (hrest' : (["80", "22"] ++ rest).Pairwise fun a b =>
      sizePlace (packetCell a "size") ≤ sizePlace (packetCell b "size")) (o : Nat) :
    Arranges (fun port => sizePlace (packetCell port (portsBySizePlan limit).sortName))
      (["22", "80"] ++ rest) (swapped rest o) := by
  unfold swapped
  split
  · exact ⟨.refl _, hrest⟩
  · exact ⟨(List.Perm.swap "22" "80" []).append_right rest, hrest'⟩

/-- A channel that holds three packets, of which two tie. -/
noncomputable def threePackets : Fragment → Reply :=
  (portsBySizePlan 2).serving packetCell 3 (swapped ["443"])

theorem pages_of_ports_follow_order :
    (portsBySizePlan 2).Stores packetCell sizePlace ["22", "80", "443"] threePackets ∧
    ∃ (visits : List (Visit GridPage)) (pages : List (List String)),
      (∀ vs, GridWalk .ofPackets threePackets (portsBySize 2) 0 vs ↔ vs = visits) ∧
      visits.map (·.page.rows) = pages.map (·.map ((portsBySizePlan 2).record packetCell)) ∧
      pages.flatten.Perm ["22", "80", "443"] := by
  have hplan : (portsBySizePlan 2).Of .ofPackets (startingAt (portsBySize 2) 0) 0 :=
    portsBySizePlan_of (by decide)
  have hstores : (portsBySizePlan 2).Stores packetCell sizePlace ["22", "80", "443"] threePackets :=
    hplan.stores_serving hasPlainNames_packets
      (arranges_swapped 2 ["443"] (by decide) (by decide))
  refine ⟨hstores, ?_⟩
  rcases grid_pages_follow_order .ofPackets (portsBySize 2) with ⟨e, he⟩ | ⟨g, hg, hpages⟩
  · obtain ⟨_, _, hasked, -⟩ := hplan.asks (by decide +kernel)
    rw [hasked] at he
    cases he
  · obtain rfl := hg.unique hplan
    obtain ⟨visits, pages, ordered, hwalk, hshown, -, hperm, hrising, -, -, hall⟩ :=
      hpages packetCell sizePlace _ threePackets hstores (by decide +kernel)
    refine ⟨visits, pages, hwalk, hshown, hall ?_⟩
    obtain rfl : ordered = [40, 40, 1500] :=
      List.Perm.eq_of_pairwise' hrising (by decide) hperm
    have hone : ∀ port ∈ ["22", "80", "443"], ∃ i ∈ [0, 1],
        sizePlace (packetCell port "size") ∉ [40, 40, 1500].take (i * 2) ∧
          sizePlace (packetCell port "size") ∉ [40, 40, 1500].drop (i * 2 + 2) := by decide
    intro port hport
    obtain ⟨i, -, hi⟩ := hone port hport
    exact ⟨i, hi⟩

/-- A channel that holds two packets, which tie. -/
noncomputable def twoPackets : Fragment → Reply :=
  (portsBySizePlan 1).serving packetCell 2 (swapped [])

/-- Rows that tie on either side of a page's end need not be shown once: although each page is a
slice of the two rows in their order, one of them is shown twice and the other never. -/
theorem tied_row_is_lost :
    (portsBySizePlan 1).Stores packetCell sizePlace ["22", "80"] twoPackets ∧
    ["22", "80"].map ((portsBySizePlan 1).record packetCell) =
      [[("port", .text "22")], [("port", .text "80")]] ∧
    ∃ visits, (∀ vs, GridWalk .ofPackets twoPackets (portsBySize 1) 0 vs ↔ vs = visits) ∧
      visits.flatMap (·.page.rows) = [[("port", .text "22")], [("port", .text "22")]] := by
  have hplan : (portsBySizePlan 1).Of .ofPackets (startingAt (portsBySize 1) 0) 0 :=
    portsBySizePlan_of (by decide)
  have hstores : (portsBySizePlan 1).Stores packetCell sizePlace ["22", "80"] twoPackets :=
    hplan.stores_serving hasPlainNames_packets (arranges_swapped 1 [] (by decide) (by decide))
  obtain ⟨first, hfirst⟩ := hplan.visit (o := 0) (by decide +kernel)
    (fun _ hq => hplan.serving_page hasPlainNames_packets hq) hstores.count
  obtain ⟨second, hsecond⟩ := hplan.visit (o := 1) (by decide +kernel)
    (fun _ hq => hplan.serving_page hasPlainNames_packets hq) hstores.count
  have hwalk : GridWalk .ofPackets twoPackets (portsBySize 1) 0 [⟨_, first⟩, ⟨_, second⟩] :=
    .more hfirst rfl (.last hsecond rfl)
  refine ⟨hstores, by decide, _, fun vs => ⟨fun hvs => ?_, fun hvs => hvs ▸ hwalk⟩, rfl⟩
  exact Walk.unique hvs hwalk fun _ _ _ => Visit.Of.unique

end View

end Crosstab
