import Crosstab.Proofs.View.Chart

/-!
# Tabulated cells

Cells that are put in their places one after the other make up a table: for a column key and a row
key it shows the number of the last cell that is for them. This describes the matrix behind charts
and heatmaps by the cells alone, without places and without the order in which the matrix changes.
-/

namespace Crosstab.View

open Number Pivot

/-! ## Labels -/

/-- Things can be looked up by the keys, and no two of them are equal. -/
structure AreLabels (keys : List Value) : Prop where
  isKey : ∀ k ∈ keys, k.isKey = true
  distinct : keys.Pairwise fun a b => a.equals b = false

/-- Different texts are not equal. -/
theorem pairwise_texts {keys : List String} (h : keys.Nodup) :
    (keys.map Value.text).Pairwise fun a b => a.equals b = false := by
  refine List.pairwise_map.2 (h.imp fun {a _} hab => Bool.eq_false_iff.2 fun hequal => ?_)
  exact hab (Value.text.inj ((Value.equals_text a _).1 hequal))

theorem areLabels_texts {keys : List String} (h : keys.Nodup) : AreLabels (keys.map .text) :=
  ⟨List.forall_mem_map.2 fun _ _ => rfl, pairwise_texts h⟩

/-- No key equals what the label at another place equals. -/
theorem AreLabels.place_unique {keys : List Value} (h : AreLabels keys) {v k l : Value}
    (hv : v.isKey = true) {i j : Nat} (hk : keys[i]? = some k) (hl : keys[j]? = some l)
    (hkv : k.equals v = true) (hlv : l.equals v = true) : i = j := by
  obtain ⟨hi, rfl⟩ := List.getElem?_eq_some_iff.1 hk
  obtain ⟨hj, rfl⟩ := List.getElem?_eq_some_iff.1 hl
  have hiKey := h.isKey _ (List.getElem_mem hi)
  have hjKey := h.isKey _ (List.getElem_mem hj)
  have hdiffer := List.pairwise_iff_getElem.1 h.distinct
  rcases Nat.lt_trichotomy i j with hij | hij | hij
  · have hequal := Value.equals_trans hiKey hv hkv (Value.equals_comm hjKey hv ▸ hlv)
    rw [hdiffer i j hi hj hij] at hequal
    cases hequal
  · exact hij
  · have hequal := Value.equals_trans hjKey hv hlv (Value.equals_comm hiKey hv ▸ hkv)
    rw [hdiffer j i hj hi hij] at hequal
    cases hequal

/-- A label that equals another one is the same. -/
theorem AreLabels.eq_of_equals {keys : List Value} (h : AreLabels keys) {k l : Value}
    (hk : k ∈ keys) (hl : l ∈ keys) (hequal : k.equals l = true) : k = l := by
  have hkKey := h.isKey k hk
  have hlKey := h.isKey l hl
  have hself : l.equals l = true :=
    Value.equals_trans hlKey hkKey (Value.equals_comm hkKey hlKey ▸ hequal) hequal
  obtain ⟨i, hi⟩ := List.getElem?_of_mem hk
  obtain ⟨j, hj⟩ := List.getElem?_of_mem hl
  obtain rfl := h.place_unique hlKey hi hj hequal hself
  exact Option.some.inj (hi.symm.trans hj)

/-! ## Tables -/

/-- The matrix of a function of column keys and row keys. -/
def tabulated (xs ys : List Value) (f : Value → Value → Option Binary64) : Cells :=
  ys.map fun y => xs.map fun x => f x y

variable {xs ys : List Value}

theorem emptyCells_eq_tabulated (xs ys : List Value) :
    emptyCells xs.length ys.length = tabulated xs ys fun _ _ => none := by
  rw [emptyCells, tabulated, List.map_const', List.map_const']

theorem tabulated_congr {f g : Value → Value → Option Binary64}
    (h : ∀ x ∈ xs, ∀ y ∈ ys, f x y = g x y) : tabulated xs ys f = tabulated xs ys g :=
  List.map_congr_left fun y hy => List.map_congr_left fun x hx => h x hx y hy

/-- A change at the place of the only key with a property is a change for that key. -/
theorem modify_map {α β : Type} {keys : List α} {i : Nat} {p : α → Bool}
    (hp : ∀ j k, keys[j]? = some k → (p k = true ↔ i = j)) (f : α → β) (g : β → β) :
    (keys.map f).modify i g = keys.map fun k => if p k then g (f k) else f k := by
  refine List.ext_getElem? fun j => ?_
  rw [List.getElem?_modify, List.getElem?_map, List.getElem?_map]
  cases hk : keys[j]? with
  | none => rfl
  | some k =>
    by_cases hij : i = j
    · simp [hij, (hp j k hk).2 hij]
    · have hno : p k = false := Bool.eq_false_iff.2 fun h => hij ((hp j k hk).1 h)
      simp [hij, hno]

/-- A label equals a key with a place just at this place. -/
theorem AreLabels.equals_iff {keys : List Value} (h : AreLabels keys) {v k : Value}
    (hv : v.isKey = true) {i : Nat} (hk : keys[i]? = some k) (hkv : k.equals v = true) :
    ∀ j l, keys[j]? = some l → (l.equals v = true ↔ i = j) := by
  intro j l hl
  refine ⟨h.place_unique hv hk hl hkv, ?_⟩
  rintro rfl
  rwa [← Option.some.inj (hk.symm.trans hl)]

/-- The cell at the places of two keys is the one for them. -/
theorem setCell_tabulated (hxs : AreLabels xs) (hys : AreLabels ys) {a b : Value}
    (ha : a.isKey = true) (hb : b.isKey = true) {i j : Nat} {x y : Value} (hx : xs[i]? = some x)
    (hy : ys[j]? = some y) (hxa : x.equals a = true) (hyb : y.equals b = true)
    (v : Option Binary64) (f : Value → Value → Option Binary64) :
    setCell i j v (tabulated xs ys f) =
      tabulated xs ys fun x y => if x.equals a && y.equals b then v else f x y := by
  unfold setCell tabulated
  rw [modify_map (hys.equals_iff hb hy hyb)]
  refine List.map_congr_left fun z _ => ?_
  cases hz : z.equals b with
  | true =>
    -- setting a cell is a change that forgets the old one
    rw [if_pos rfl, ← List.modify_eq_set (fun _ => v), modify_map (hxs.equals_iff ha hx hxa)]
    simp only [hz, Bool.and_true]
  | false =>
    simp only [hz, Bool.and_false, Bool.false_eq_true, if_false]

/-! ## Cells in a table -/

/-- The cell is for the column key and the row key. -/
def Cell.isFor (x y : Value) (c : Cell) : Bool :=
  x.equals c.x && y.equals c.y

/-- The number of the cell; none if it has no value. -/
def Cell.number? (c : Cell) : Option Binary64 :=
  match c.value.toReal? with
  | .ok x? => x?
  | .error _ => none

/-- The number of the last cell for two keys; none if there is no such cell or it has no value. -/
def lastNumber? (cells : List Cell) (x y : Value) : Option Binary64 :=
  (cells.filter (·.isFor x y)).getLast?.bind Cell.number?

theorem lastNumber?_concat (cells : List Cell) (c : Cell) (x y : Value) :
    lastNumber? (cells ++ [c]) x y = if c.isFor x y then c.number? else lastNumber? cells x y := by
  rw [lastNumber?, List.filter_append, List.filter_singleton]
  cases c.isFor x y with
  | true => simp
  | false => simp [lastNumber?]

/-- A number for two keys is that of a cell for them. -/
theorem exists_of_lastNumber? {cells : List Cell} {x y : Value} {v : Binary64}
    (h : lastNumber? cells x y = some v) :
    ∃ c ∈ cells, c.isFor x y = true ∧ c.number? = some v := by
  obtain ⟨c, hlast, hc⟩ := Option.bind_eq_some_iff.1 h
  obtain ⟨hmem, hfor⟩ := List.mem_filter.1 (List.mem_of_getLast? hlast)
  exact ⟨c, hmem, hfor, hc⟩

theorem IsReadable.toReal? {c : Cell} (h : IsReadable c) : c.value.toReal? = .ok c.number? := by
  obtain ⟨-, -, hvalue⟩ := h
  unfold Cell.number?
  rcases hvalue with hnull | ⟨x, hx⟩
  · rw [hnull]
    rfl
  · rw [Value.toReal?_of_toReal hx]

/-- The matrix with a value at two places; as it is if one of them is missing. -/
def setPlaced (i? j? : Option Nat) (v : Option Binary64) (matrix : Cells) : Cells :=
  match i?, j? with
  | some i, some j => setCell i j v matrix
  | _, _ => matrix

/-- The cell of a row goes to the places of its keys. -/
theorem placeRow_of_isReadable (matrix : Cells) {c : Cell} (hc : IsReadable c) :
    placeRow xs ys matrix (rowOf c) =
      .ok (setPlaced (placeOf? c.x xs) (placeOf? c.y ys) c.number? matrix) := by
  have hx : (rowOf c).get colColumn = .ok c.x := rfl
  have hy : (rowOf c).get rowColumn = .ok c.y := rfl
  have hv : (rowOf c).get metricColumn = .ok c.value := rfl
  simp only [placeRow, hx, hy, hv, placeIn_of_isKey hc.1, placeIn_of_isKey hc.2.1, hc.toReal?,
    bind, Except.bind]
  cases placeOf? c.x xs <;> cases placeOf? c.y ys <;> rfl

/-- The cell of a row goes to its place in the table. -/
theorem placeRow_tabulated (hxs : AreLabels xs) (hys : AreLabels ys) {c : Cell} (hc : IsReadable c)
    (f : Value → Value → Option Binary64) :
    placeRow xs ys (tabulated xs ys f) (rowOf c) =
      .ok (tabulated xs ys fun x y => if c.isFor x y then c.number? else f x y) := by
  rw [placeRow_of_isReadable _ hc]
  rcases placeOf?_cases c.x xs with ⟨i, x, hi, hx, hxc⟩ | ⟨hi, hnoX⟩
  swap
  · rw [hi]
    refine congrArg _ (tabulated_congr fun x hx y _ => ?_)
    simp [Cell.isFor, hnoX x hx]
  rcases placeOf?_cases c.y ys with ⟨j, y, hj, hy, hyc⟩ | ⟨hj, hnoY⟩
  swap
  · rw [hi, hj]
    refine congrArg _ (tabulated_congr fun x _ y hy => ?_)
    simp [Cell.isFor, hnoY y hy]
  rw [hi, hj]
  exact congrArg _ (setCell_tabulated hxs hys hc.1 hc.2.1 hx hy hxc hyc _ f)

/-- Rows make up the table of the last number for each pair of keys. -/
theorem placeRows_tabulated (hxs : AreLabels xs) (hys : AreLabels ys) {cells : List Cell}
    (h : ∀ c ∈ cells, IsReadable c) :
    placeRows xs ys (cells.map rowOf) = .ok (tabulated xs ys (lastNumber? cells)) := by
  rw [placeRows, emptyCells_eq_tabulated]
  induction cells using List.reverseRecOn with
  | nil => rfl
  | append_singleton cells c ih =>
    obtain ⟨hcells, hc⟩ := List.forall_mem_append.1 h
    rw [List.map_append, List.foldlM_append, ih hcells]
    show List.foldlM (placeRow xs ys) (tabulated xs ys (lastNumber? cells)) [rowOf c] = _
    rw [List.foldlM_cons, placeRow_tabulated hxs hys (hc c (List.mem_singleton_self c))]
    refine congrArg Except.ok (tabulated_congr fun x _ y _ => ?_)
    exact (lastNumber?_concat cells c x y).symm

/-! ## What a table shows -/

/-- The matrix has a row of cells for each row key with a cell for each column key. A cell shows the
value of the last one that is for its keys; it is empty if there is none or it has no value. -/
structure ShowsLast (xs ys : List Value) (cells : List Cell) (matrix : Cells) : Prop where
  rows : matrix.length = ys.length
  columns : ∀ row ∈ matrix, row.length = xs.length
  empty : ∀ i j x y, xs[i]? = some x → ys[j]? = some y → (∀ c ∈ cells, c.isFor x y = false) →
    cellAt? matrix i j = some none
  last : ∀ i j x y before c after, xs[i]? = some x → ys[j]? = some y →
    cells = before ++ c :: after → c.isFor x y = true → (∀ d ∈ after, d.isFor x y = false) →
    ∃ v?, c.value.toReal? = .ok v? ∧ cellAt? matrix i j = some v?

theorem cellAt?_tabulated {i j : Nat} {x y : Value} (hx : xs[i]? = some x) (hy : ys[j]? = some y)
    (f : Value → Value → Option Binary64) : cellAt? (tabulated xs ys f) i j = some (f x y) := by
  rw [cellAt?, tabulated, List.getElem?_map, hy, Option.map_some, Option.bind_some,
    List.getElem?_map, hx, Option.map_some]

/-- Without a cell for two keys there is no number for them. -/
theorem lastNumber?_of_forall_not {cells : List Cell} {x y : Value}
    (h : ∀ c ∈ cells, c.isFor x y = false) : lastNumber? cells x y = none := by
  have hnone : cells.filter (·.isFor x y) = [] :=
    List.filter_eq_nil_iff.2 fun c hc => Bool.eq_false_iff.1 (h c hc)
  rw [lastNumber?, hnone]
  rfl

theorem lastNumber?_of_last {before after : List Cell} {c : Cell} {x y : Value}
    (hc : c.isFor x y = true) (hafter : ∀ d ∈ after, d.isFor x y = false) :
    lastNumber? (before ++ c :: after) x y = c.number? := by
  have hnone : after.filter (·.isFor x y) = [] :=
    List.filter_eq_nil_iff.2 fun d hd => Bool.eq_false_iff.1 (hafter d hd)
  rw [lastNumber?, List.filter_append, List.filter_cons_of_pos hc, hnone, List.getLast?_concat,
    Option.bind_some]

/-- The table of last numbers shows the last cells. -/
theorem showsLast_tabulated (xs ys : List Value) {cells : List Cell}
    (h : ∀ c ∈ cells, IsReadable c) :
    ShowsLast xs ys cells (tabulated xs ys (lastNumber? cells)) where
  rows := List.length_map _
  columns := List.forall_mem_map.2 fun _ _ => List.length_map _
  empty i j x y hx hy hnone := by
    rw [cellAt?_tabulated hx hy, lastNumber?_of_forall_not hnone]
  last i j x y before c after hx hy hsplit hc hafter := by
    have hmem : c ∈ cells := hsplit ▸ List.mem_append_right _ List.mem_cons_self
    refine ⟨c.number?, (h c hmem).toReal?, ?_⟩
    rw [cellAt?_tabulated hx hy, hsplit, lastNumber?_of_last hc hafter]

/-- None of the cells has a property, or there is a last one that has it. -/
theorem forall_not_or_exists_last (p : Cell → Bool) (cells : List Cell) :
    (∀ c ∈ cells, p c = false) ∨
      ∃ before c after, cells = before ++ c :: after ∧ p c = true ∧ ∀ d ∈ after, p d = false := by
  induction cells with
  | nil => exact .inl nofun
  | cons c cells ih =>
    rcases ih with hnone | ⟨before, d, after, rfl, hd, hafter⟩
    · cases hc : p c with
      | false => exact .inl (List.forall_mem_cons.2 ⟨hc, hnone⟩)
      | true => exact .inr ⟨[], c, cells, rfl, hc, hnone⟩
    · exact .inr ⟨c :: before, d, after, rfl, hd, hafter⟩

/-- The table of last numbers is the only matrix that shows the last cells. -/
theorem ShowsLast.eq_tabulated {cells : List Cell} {matrix : Cells}
    (hshows : ShowsLast xs ys cells matrix) (h : ∀ c ∈ cells, IsReadable c) :
    matrix = tabulated xs ys (lastNumber? cells) := by
  have hcell : ∀ i j x y, xs[i]? = some x → ys[j]? = some y →
      cellAt? matrix i j = some (lastNumber? cells x y) := by
    intro i j x y hx hy
    rcases forall_not_or_exists_last (·.isFor x y) cells with
      hnone | ⟨before, c, after, hsplit, hc, hafter⟩
    · rw [hshows.empty i j x y hx hy hnone, lastNumber?_of_forall_not hnone]
    · obtain ⟨v?, hv, hshown⟩ := hshows.last i j x y before c after hx hy hsplit hc hafter
      have hmem : c ∈ cells := hsplit ▸ List.mem_append_right _ List.mem_cons_self
      obtain rfl := Except.ok.inj ((h c hmem).toReal?.symm.trans hv)
      rw [hshown, hsplit, lastNumber?_of_last hc hafter]
  refine List.ext_getElem (hshows.rows.trans (List.length_map _).symm) fun j hj _ => ?_
  have hrow := hshows.columns matrix[j] (List.getElem_mem hj)
  have hys : j < ys.length := hshows.rows ▸ hj
  have htable : (tabulated xs ys (lastNumber? cells))[j]? =
      some (xs.map fun x => lastNumber? cells x ys[j]) := by
    rw [tabulated, List.getElem?_map, List.getElem?_eq_getElem hys, Option.map_some]
  rw [(List.getElem?_eq_some_iff.1 htable).2]
  refine List.ext_getElem (hrow.trans (List.length_map _).symm) fun i hi _ => ?_
  have hxs : i < xs.length := hrow ▸ hi
  have hshown := hcell i j _ _ (List.getElem?_eq_getElem hxs) (List.getElem?_eq_getElem hys)
  rw [cellAt?, List.getElem?_eq_getElem hj, Option.bind_some, List.getElem?_eq_getElem hi] at hshown
  rw [List.getElem_map]
  exact Option.some.inj hshown

/-! ## Cells that count -/

/-- The cell is for keys that the table has. -/
def Cell.isKnown (xs ys : List Value) (c : Cell) : Bool :=
  xs.any (·.equals c.x) && ys.any (·.equals c.y)

/-- Cells for other keys do not show. -/
theorem tabulated_known (xs ys : List Value) (cells : List Cell) :
    tabulated xs ys (lastNumber? (cells.filter (·.isKnown xs ys))) =
      tabulated xs ys (lastNumber? cells) := by
  refine tabulated_congr fun x hx y hy => ?_
  rw [lastNumber?, List.filter_filter, lastNumber?]
  congr 2
  refine List.filter_congr fun c _ => ?_
  cases hfor : c.isFor x y with
  | false => rfl
  | true =>
    rw [Cell.isFor, Bool.and_eq_true] at hfor
    rw [Bool.true_and, Cell.isKnown, Bool.and_eq_true]
    exact ⟨List.any_eq_true.2 ⟨x, hx, hfor.1⟩, List.any_eq_true.2 ⟨y, hy, hfor.2⟩⟩

/-- Cells for the same keys are for each other's keys. -/
theorem isFor_of_isFor {x y : Value} (hx : x.isKey = true) (hy : y.isKey = true) {c d : Cell}
    (hd : IsReadable d) (hcFor : c.isFor x y = true) (hdFor : d.isFor x y = true) :
    c.isFor d.x d.y = true := by
  rw [Cell.isFor, Bool.and_eq_true] at hcFor hdFor ⊢
  constructor
  · exact Value.equals_trans hd.1 hx (Value.equals_comm hx hd.1 ▸ hdFor.1) hcFor.1
  · exact Value.equals_trans hd.2.1 hy (Value.equals_comm hy hd.2.1 ▸ hdFor.2) hcFor.2

/-- The cells are for different keys. -/
def Differ (cells : List Cell) : Prop :=
  cells.Pairwise fun c d => c.isFor d.x d.y = false

/-- The order of cells for different keys does not show. -/
theorem tabulated_perm (hxs : ∀ x ∈ xs, x.isKey = true) (hys : ∀ y ∈ ys, y.isKey = true)
    {cells others : List Cell} (hcells : ∀ c ∈ cells, IsReadable c) (hdiffer : Differ cells)
    (hperm : others.Perm cells) :
    tabulated xs ys (lastNumber? others) = tabulated xs ys (lastNumber? cells) := by
  refine tabulated_congr fun x hx y hy => ?_
  have hsame : others.filter (·.isFor x y) = cells.filter (·.isFor x y) := by
    have hfilter := hperm.filter (·.isFor x y)
    cases hfor : cells.filter (·.isFor x y) with
    | nil => exact List.perm_nil.1 (hfor ▸ hfilter)
    | cons c rest =>
      cases rest with
      | nil => exact List.perm_singleton.1 (hfor ▸ hfilter)
      | cons d rest =>
        -- two cells for the same keys would not differ
        have hmem : ∀ e ∈ [c, d], e ∈ cells ∧ e.isFor x y = true := fun e he =>
          List.mem_filter.1 (hfor ▸ List.mem_append_left rest he)
        have hpair := (List.pairwise_cons.1 (hfor ▸ hdiffer.filter _)).1 d List.mem_cons_self
        have hboth := isFor_of_isFor (hxs x hx) (hys y hy) (hcells d (hmem d (by simp)).1)
          (hmem c (by simp)).2 (hmem d (by simp)).2
        rw [hboth] at hpair
        cases hpair
  rw [lastNumber?, lastNumber?, hsame]

end Crosstab.View
