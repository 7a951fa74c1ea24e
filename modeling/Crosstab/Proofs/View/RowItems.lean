import Crosstab.Proofs.View.TableCells
import Crosstab.Proofs.Walk

/-!
# Pages of the items of a group

A walk over the items of a group asks for one page after the other, each behind the items that are
shown already. Without a sort a page is a part of the keys that the channel orders; with one it is a
part of all keys, sorted by their cells. Either way the pages show every key once, in the order that
is asked for.
-/

namespace Crosstab.View

open Number Pivot Sql
open Session (Reply)

/-! ## The queries of a page -/

/-- The fields, the metrics and the filters of the request can be put into statements. -/
structure IsAccepted (c : Context) (r : TableRequest) (rowField : String) : Prop where
  row : ∃ key, c.key (.text rowField) = .ok key
  column : ∀ f ∈ r.columnField?, ∃ key, c.key (.text f) = .ok key
  metrics : ∀ m ∈ r.metrics, ∃ value, m.expr c.schema = .ok value
  filters : ∃ base, c.baseWhere = .ok base

/-- The largest page and the number of columns are positive numbers of a fair length. -/
structure TableBounded (settings : Settings) : Prop where
  most_pos : 1 ≤ settings.pivotMaxLimit
  most_fits : isWritable settings.pivotMaxLimit = true
  columns_pos : 1 ≤ settings.pivotMaxColumns
  columns_fits : isWritable settings.pivotMaxColumns = true

/-- The channel holds the keys of a field in their order. It gives all of them or a part, and their
number. -/
structure HoldsKeys (answer : Fragment → Reply) (c : Context) (field : String)
    (keys : List String) : Prop where
  count : ∀ q, c.keyCount (.text field) [] = .ok q →
    ∃ rows, answer q = .ok rows ∧ rows.scalar = .ok (.int keys.length)
  all : ∀ q, c.sortedKeys (.text field) .null .null = .ok q →
    ∃ rows, answer q = .ok rows ∧ columnOf keyColumn rows.records = .ok (keys.map .text)
  part : ∀ (o n : Nat) q, c.sortedKeys (.text field) (.int o) (.int n) = .ok q →
    ∃ rows, answer q = .ok rows ∧
      columnOf keyColumn rows.records = .ok (((keys.drop o).take n).map .text)

/-- The query for the column values of a field. -/
def columnQuery (w : Workspace) (c : Context) (field : String) : Outcome Fragment :=
  c.topKeys (.text field) (.countOf field) (.int w.settings.pivotMaxColumns) [] .top .null

/-- The channel gives the column values of a field, and the groups by the keys of the row field and
of this one. -/
structure HoldsCells (answer : Fragment → Reply) (w : Workspace) (c : Context)
    (metrics : List Metric) (rowField field : String) (columns : List String)
    (groups : List TableGroup) : Prop where
  values : ∀ q, columnQuery w c field = .ok q →
    ∃ rows, answer q = .ok rows ∧ columnOf keyColumn rows.records = .ok (columns.map .text)
  cells : ∀ q, c.grouped [.text rowField, .text field] metrics = .ok q →
    ∃ rows, answer q = .ok rows ∧ List.Forall₂ (TableGroup.On metrics) rows.records groups

/-- The context of a table asks for rankings only, and is sound. -/
theorem tableContext_within (w : Workspace) (r : TableRequest) :
    (tableContext w r).Within IsRanking Context.Sound := by
  refine (w.context_within r.toRequest r.metrics).bind fun c hc => ?_
  have hfields := Session.Within.checks (Q := IsRanking) (fun _ => true)
    (fun f => c.schema.require (.text f))
    (r.columnField?.toList ++ r.rowField?.toList ++ r.rowFields)
  have hmetrics := Session.Within.checks (Q := IsRanking) (fun m : Metric => m.agg != .count)
    (fun m => c.schema.require (.text m.field)) r.metrics
  exact hfields.bind fun _ _ => hmetrics.bind fun _ _ => hc

/-- The request for the items from a place on. -/
def itemsAt (r : TableRequest) (offset : Nat) : TableRequest :=
  { r with offset := .int offset }

/-- The column values that items show. -/
def shownColumns (r : TableRequest) (columns : List String) : List String :=
  if r.columnField?.isNone || r.metrics.isEmpty then [] else columns

/-- The sort that counts. -/
def effectiveSort? (r : TableRequest) (columns : List String) : Option ItemSort :=
  if (shownColumns r columns).isEmpty then none else r.sort?

section Page

variable {answer : Fragment → Reply} {w : Workspace} {r : TableRequest} {c : Context}
  {rowField : String} {columns : List String} {groups : List TableGroup} {keys : List String}

theorem IsAccepted.where_builds (h : IsAccepted c r rowField) (hc : c.Sound) :
    ∃ f, c.whereWith [] = .ok f := by
  obtain ⟨base, hbase⟩ := h.filters
  have hnone : ∀ s ∈ ([] : List Restriction), s.Sound := nofun
  have hentries : c.scope.entries (Context.parts []).1 .null = .ok none := rfl
  obtain ⟨f, hf, -⟩ := Context.whereWith_builds hc hnone hbase hentries
  exact ⟨f, hf⟩

/-- The query for the column values comes together. -/
theorem columnQuery_builds (hbounded : TableBounded w.settings) (hc : c.Sound) {field key : String}
    (hkey : c.key (.text field) = .ok key) {f : Fragment} (hf : c.whereWith [] = .ok f) :
    ∃ q, columnQuery w c field = .ok q := by
  have hzero : isWritable 0 = true := isWritable_digit (by decide) (by decide)
  have hhead : ∃ head, c.rankHead (.text field) (.countOf field) = .ok head :=
    ⟨_, Outcome.bind_eq_ok.2 ⟨key, hkey, Outcome.bind_eq_ok.2 ⟨"COUNT(*)", rfl,
      Outcome.bind_eq_ok.2 ⟨f, hf, rfl⟩⟩⟩⟩
  obtain ⟨head, hhead⟩ := hhead
  obtain ⟨q, hq, -⟩ := Context.topKeys_builds hc hhead .top hbounded.columns_pos
    hbounded.columns_fits (Int.le_refl 0) hzero
  exact ⟨q, hq⟩

/-- Items show the column values of the channel and the cells of its groups, unless there is no
column field or no metric. -/
theorem itemHead_runs (hbounded : TableBounded w.settings) (hc : c.Sound)
    (haccepted : IsAccepted c r rowField) (hlabels : HasLabels r.metrics)
    (hcells : ∀ f ∈ r.columnField?, HoldsCells answer w c r.metrics rowField f columns groups) :
    ∃ cells qs,
      Runs answer (itemHead w c r rowField) ((shownColumns r columns).map .text, cells) qs ∧
      (shownColumns r columns ≠ [] → cells = groupCells r.metrics groups) := by
  obtain ⟨f, hf⟩ := haccepted.where_builds hc
  unfold itemHead shownColumns
  cases hfield : r.columnField? with
  | none => exact ⟨[], [], Runs.done _, fun h => absurd rfl h⟩
  | some field =>
    cases hmetrics : r.metrics.isEmpty with
    | true => exact ⟨[], [], Runs.done _, fun h => absurd rfl h⟩
    | false =>
      obtain ⟨key, hkey⟩ := haccepted.column field hfield
      have hheld := hcells field hfield
      obtain ⟨valuesQuery, hvaluesQuery⟩ := columnQuery_builds hbounded hc hkey hf
      obtain ⟨valueRows, hvalueRows, hcolumn⟩ := hheld.values valuesQuery hvaluesQuery
      have hvalues : Runs answer (columnValues w c field) (columns.map .text) [valuesQuery] :=
        Runs.lift_bind hvaluesQuery ((Runs.records hvalueRows).bind (Runs.lift hcolumn))
      have hkeys : ∀ x ∈ [Value.text rowField, .text field], ∃ key, c.key x = .ok key :=
        List.forall_mem_cons.2 ⟨haccepted.row, List.forall_mem_singleton.2 ⟨key, hkey⟩⟩
      obtain ⟨q, hq⟩ := Context.combinations_build hc hkeys haccepted.metrics hf
      obtain ⟨rows, hrows, hgroups⟩ := hheld.cells q hq
      have hmap := cellMap_groups hlabels hgroups
      have hquery : Runs answer (queryCells c [rowField, field] r.metrics)
          (groupCells r.metrics groups) [q] :=
        Runs.lift_bind hq ((Runs.records hrows).bind (Runs.lift hmap))
      exact ⟨_, _, hvalues.bind (hquery.bind (Runs.done _)), fun _ => rfl⟩

/-- The keys in the order of the items: as the channel has them, or by the sort that counts. -/
def IsItemOrder (r : TableRequest) (columns : List String) (groups : List TableGroup)
    (keys ordered : List String) : Prop :=
  match effectiveSort? r columns with
  | none => ordered = keys
  | some sort => ∃ sorted, Sorts sort.descending (sortNumber? r.metrics groups sort) keys sorted ∧
      ordered = sorted ++ keys.filter (sortNumber? r.metrics groups sort · == none)

/-- The part of a list on a page. -/
theorem slice_eq {α : Type} (o n : Nat) (xs : List α) :
    Page.slice ⟨o, n⟩ xs = (xs.drop o).take n := by
  have hsum : ((o : Int) + n) = ((o + n : Nat) : Int) := (Int.natCast_add o n).symm
  rw [Page.slice, takeCount, hsum, if_pos (Int.natCast_nonneg _), Int.toNat_natCast,
    Int.toNat_natCast, List.drop_take, Nat.add_sub_cancel_left]

/-- The items are in one order, and every page takes its part of it. -/
theorem exists_order (hc : c.Sound) (haccepted : IsAccepted c r rowField)
    (hlabels : HasLabels r.metrics) (hsort : ∀ s ∈ r.sort?, s.metric ∈ r.metrics)
    (hkeys : keys.Nodup) (hfits : isWritable keys.length = true)
    (hholds : HoldsKeys answer c rowField keys) (hnumbers : ∀ g ∈ groups, g.Fits) {cells : CellMap}
    (hcells : shownColumns r columns ≠ [] → cells = groupCells r.metrics groups) :
    ∃ ordered, IsItemOrder r columns groups keys ordered ∧ ordered.Perm keys ∧
      ∀ o n : Nat, o = 0 ∨ o < keys.length → 1 ≤ n → isWritable n = true →
        ∃ qs, Runs answer (pageKeys c rowField ⟨o, n⟩ cells (effectiveSort? r columns))
          (((ordered.drop o).take n).map .text) qs := by
  obtain ⟨f, hf⟩ := haccepted.where_builds hc
  obtain ⟨key, hkey⟩ := haccepted.row
  unfold IsItemOrder
  cases heffective : effectiveSort? r columns with
  | none =>
    refine ⟨keys, rfl, .refl keys, fun o n ho hn hnfits => ?_⟩
    have hofits : isWritable o = true :=
      isWritable_of_le (Int.natCast_nonneg o) (by omega) hfits
    obtain ⟨q, hq, -⟩ := Context.sortedKeys_page_builds hc hkey hf (Int.ofNat_le.2 hn) hnfits
      (Int.natCast_nonneg o) hofits
    obtain ⟨rows, hrows, hcolumn⟩ := hholds.part o n q hq
    exact ⟨_, Runs.lift_bind hq ((Runs.records hrows).bind (Runs.lift hcolumn))⟩
  | some sort =>
    have hshown : shownColumns r columns ≠ [] ∧ r.sort? = some sort := by
      unfold effectiveSort? at heffective
      cases hempty : (shownColumns r columns).isEmpty with
      | true => simp [hempty] at heffective
      | false =>
        rw [hempty] at heffective
        exact ⟨List.isEmpty_eq_false_iff.1 hempty, heffective⟩
    obtain ⟨sorted, hsorts, hsorted⟩ :=
      sortKeys_groups hlabels (hsort sort hshown.2) hnumbers hkeys
    rw [← hcells hshown.1] at hsorted
    obtain ⟨q, hq, -⟩ := Context.sortedKeys_builds hc hkey hf
    obtain ⟨rows, hrows, hcolumn⟩ := hholds.all q hq
    refine ⟨_, ⟨sorted, hsorts, rfl⟩, hsorts.perm_append, fun o n _ _ _ => ?_⟩
    rw [List.map_take, List.map_drop, ← slice_eq]
    exact ⟨_, Runs.lift_bind hq ((Runs.records hrows).bind
      (Runs.lift_bind hcolumn (Runs.lift_bind hsorted (Runs.done _))))⟩

/-- The item of a key. -/
def itemOf (values : List Value) (cells : CellMap) (key : Value) : Outcome RowItem := do
  return ⟨key, ← columnCells values [key] cells⟩

/-- Every key has an item. -/
theorem items_of_keys {cells : CellMap}
    (hcells : shownColumns r columns ≠ [] → cells = groupCells r.metrics groups)
    (pageKeys : List String) :
    ∃ items, (pageKeys.map Value.text).mapM
        (itemOf ((shownColumns r columns).map .text) cells) = .ok items ∧
      items.map RowItem.key = pageKeys.map Value.text := by
  have hcell : ∀ k : String, ∃ shown,
      columnCells ((shownColumns r columns).map .text) [.text k] cells = .ok shown := by
    intro k
    have hpairs : ∃ pairs, ((shownColumns r columns).map Value.text).mapM (fun v => do
        return (v, ← cellAt ([Value.text k] ++ [v]) cells)) = .ok pairs := by
      refine Outcome.mapM_isOk fun v hv => ?_
      obtain ⟨column, hcolumn, rfl⟩ := List.mem_map.1 hv
      rw [hcells (List.ne_nil_of_mem hcolumn)]
      exact ⟨_, Outcome.bind_eq_ok.2 ⟨_, cellAt_groups r.metrics groups k column, rfl⟩⟩
    obtain ⟨pairs, hpairs⟩ := hpairs
    exact ⟨_, Outcome.bind_eq_ok.2 ⟨pairs, hpairs, rfl⟩⟩
  choose shown hshown using hcell
  refine ⟨pageKeys.map fun k => (⟨.text k, shown k⟩ : RowItem), ?_, ?_⟩
  · exact Outcome.mapM_map_eq fun k _ => Outcome.bind_eq_ok.2 ⟨_, hshown k, rfl⟩
  · rw [List.map_map]
    rfl

/-- A page of a request for items. -/
theorem page_of_request {settings : Settings} (hbounded : TableBounded settings) {asked : Int}
    (hasked : r.limit.toWhole "limit" settings.pivotDefaultLimit .invalidPagination = .ok asked)
    (hpos : 1 ≤ asked) :
    ∃ n : Nat, 1 ≤ n ∧ isWritable n = true ∧ ∀ o : Nat,
      Page.ofRequest (itemsAt r o).offset r.limit settings.pivotDefaultLimit
        settings.pivotMaxLimit = .ok ⟨o, n⟩ := by
  have hleast : 1 ≤ min asked settings.pivotMaxLimit := Int.le_min.2 ⟨hpos, hbounded.most_pos⟩
  obtain ⟨n, hn⟩ := Int.eq_ofNat_of_zero_le (Int.le_trans (by decide) hleast)
  have hfits : isWritable n = true :=
    isWritable_of_le (Int.natCast_nonneg n) (hn ▸ Int.min_le_right _ _) hbounded.most_fits
  refine ⟨n, by omega, hfits, fun o => ?_⟩
  have hoffset : (Value.int o).toWhole "offset" 0 .invalidPagination = .ok (o : Int) := rfl
  have hstart : ¬(o : Int) < 0 := Int.not_lt.2 (Int.natCast_nonneg o)
  have hlimit : ¬asked < 1 := Int.not_lt.2 hpos
  show Page.ofRequest (.int o) _ _ _ = _
  unfold Page.ofRequest
  rw [hoffset, hasked]
  simp only [bind, Except.bind, hstart, hlimit, if_false, hn]
  rfl

/-- The page of items from a place on. -/
theorem rowItems_runs {qs : List Fragment} (hcontext : Runs answer (tableContext w r) c qs)
    (hsound : c.Sound) (hrow : r.rowField? = some rowField) (haccepted : IsAccepted c r rowField)
    (hfits : isWritable keys.length = true) (hholds : HoldsKeys answer c rowField keys)
    {cells : CellMap} {headQueries : List Fragment}
    (hhead : Runs answer (itemHead w c r rowField) ((shownColumns r columns).map .text, cells)
      headQueries)
    (hcells : shownColumns r columns ≠ [] → cells = groupCells r.metrics groups) {o n : Nat}
    (hpage : Page.ofRequest (itemsAt r o).offset r.limit w.settings.pivotDefaultLimit
      w.settings.pivotMaxLimit = .ok ⟨o, n⟩) {shown : List String} {keyQueries : List Fragment}
    (hshown : Runs answer (pageKeys c rowField ⟨o, n⟩ cells (effectiveSort? r columns))
      (shown.map .text) keyQueries) :
    ∃ v : Visit RowItems, v.Of answer (rowItems w (itemsAt r o)) ∧
      v.page.items.map (·.key) = shown.map .text ∧ v.page.total = keys.length ∧
      v.page.page = ⟨o, n⟩ := by
  obtain ⟨f, hf⟩ := haccepted.where_builds hsound
  obtain ⟨key, hkey⟩ := haccepted.row
  obtain ⟨countQuery, -, hcount, -⟩ := Context.keyCount_builds hsound hkey hf
  obtain ⟨rows, hrows, hscalar⟩ := hholds.count countQuery hcount
  obtain ⟨items, hitems, hkeys⟩ := items_of_keys hcells shown
  have hlabel : countedLabel rowField keys.length =
      .ok (rowField ++ " (" ++ intText keys.length ++ ")") := by
    unfold countedLabel Value.wholeText
    rw [writeInt_eq hfits]
    rfl
  have hsort : (if ((shownColumns r columns).map Value.text).isEmpty then none
      else (itemsAt r o).sort?) = effectiveSort? r columns := by
    rw [List.isEmpty_map]
    rfl
  have hrun : Runs answer (rowItems w (itemsAt r o))
      ⟨rowField, rowField ++ " (" ++ intText keys.length ++ ")", items, keys.length, ⟨o, n⟩⟩
      (qs ++ (headQueries ++ ([countQuery] ++ (keyQueries ++ [])))) := by
    unfold rowItems
    rw [show (itemsAt r o).rowField? = some rowField from hrow]
    refine Runs.lift_bind hpage (hcontext.bind (hhead.bind (Runs.lift_bind hcount
      ((Runs.count hrows hscalar (Value.toCount_int _)).bind ?_))))
    rw [hsort]
    exact hshown.bind (Runs.lift_bind hitems (Runs.lift_bind hlabel (Runs.done _)))
  exact ⟨⟨_, _⟩, hrun, hkeys, rfl, rfl⟩

/-! ## Walks over items -/

/-- The walk of requests from a place on, each behind the items that are shown already. -/
def ItemWalk (w : Workspace) (answer : Fragment → Reply) (r : TableRequest) :
    Nat → List (Visit RowItems) → Prop :=
  Walk (fun o v => v.Of answer (rowItems w (itemsAt r o)))
    (fun o v => if v.page.hasMore then some (o + v.page.items.length) else none)

/-- Behind a page the walk goes on at the next place, as long as that is one of a key. -/
theorem next_of_page {v : RowItems} {total o n : Nat} (htotal : v.total = total)
    (hpage : v.page = ⟨o, n⟩) (hlength : v.items.length = min n (total - o)) :
    (if v.hasMore then some (o + v.items.length) else none) =
      if o + n < total then some (o + n) else none := by
  have hmore : v.hasMore = decide (o + n < total) := by
    rw [RowItems.hasMore, htotal, hpage, hlength, decide_eq_decide]
    show (o : Int) + (min n (total - o) : Nat) < total ↔ _
    omega
  rw [hmore, hlength]
  by_cases h : o + n < total
  · have hall : min n (total - o) = n := by omega
    simp only [h, decide_true, if_true, hall]
  · simp only [h, decide_false, if_false, Bool.false_eq_true]

/-- The walk from the first items on ends, and its pages show every key once in the order of the
items: without a sort that counts as the channel has the keys, and with one first those that have a
number under the column value, in the direction of the sort and equal ones as the channel has them,
and then the others as the channel has them. -/
theorem items_show_every_key {qs : List Fragment} (hbounded : TableBounded w.settings)
    (hcontext : Runs answer (tableContext w r) c qs) (hrow : r.rowField? = some rowField)
    (haccepted : IsAccepted c r rowField) {asked : Int}
    (hasked : r.limit.toWhole "limit" w.settings.pivotDefaultLimit .invalidPagination = .ok asked)
    (hpos : 1 ≤ asked) (hlabels : HasLabels r.metrics)
    (hsort : ∀ s ∈ r.sort?, s.metric ∈ r.metrics) (hkeys : keys.Nodup)
    (hfits : isWritable keys.length = true) (hholds : HoldsKeys answer c rowField keys)
    (hcells : ∀ f ∈ r.columnField?, HoldsCells answer w c r.metrics rowField f columns groups)
    (hnumbers : ∀ g ∈ groups, g.Fits) :
    ∃ visits ordered, (∀ vs, ItemWalk w answer r 0 vs ↔ vs = visits) ∧
      visits.flatMap (·.page.items.map (·.key)) = ordered.map .text ∧ ordered.Perm keys ∧
      (effectiveSort? r columns = none → ordered = keys) ∧
      ∀ sort ∈ effectiveSort? r columns, ∃ sorted,
        Sorts sort.descending (sortNumber? r.metrics groups sort) keys sorted ∧
        ordered = sorted ++ keys.filter (sortNumber? r.metrics groups sort · == none) := by
  have hc : c.Sound := (tableContext_within w r).of_runs hcontext
  obtain ⟨cells, headQueries, hhead, hcellsEq⟩ :=
    itemHead_runs hbounded hc haccepted hlabels hcells
  obtain ⟨n, hn, hnfits, hpage⟩ := page_of_request hbounded hasked hpos
  obtain ⟨ordered, horder, hperm, hpages⟩ :=
    exists_order hc haccepted hlabels hsort hkeys hfits hholds hnumbers hcellsEq
  have hlength : ordered.length = keys.length := hperm.length_eq
  have hvisit : ∀ o, o = 0 ∨ o < (ordered.map Value.text).length → ∃ v : Visit RowItems,
      v.Of answer (rowItems w (itemsAt r o)) ∧
      v.page.items.map (·.key) = ((ordered.map Value.text).drop o).take n ∧
      (if v.page.hasMore then some (o + v.page.items.length) else none) =
        if o + n < (ordered.map Value.text).length then some (o + n) else none := by
    intro o ho
    rw [List.length_map, hlength] at ho
    obtain ⟨keyQueries, hshown⟩ := hpages o n ho hn hnfits
    obtain ⟨v, hv, hitems, htotal, hat⟩ :=
      rowItems_runs hcontext hc hrow haccepted hfits hholds hhead hcellsEq (hpage o) hshown
    have hcount : v.page.items.length = min n (keys.length - o) := by
      have hlengths := congrArg List.length hitems
      rwa [List.length_map, List.length_map, List.length_take, List.length_drop,
        hlength] at hlengths
    refine ⟨v, hv, ?_, ?_⟩
    · rw [hitems, List.map_take, List.map_drop]
    · rw [List.length_map, hlength]
      exact next_of_page htotal hat hcount
  obtain ⟨visits, hwalk, hshown⟩ := Walk.exists_of_slices hn hvisit (.inl rfl)
  refine ⟨visits, ordered, fun vs => ⟨fun h => ?_, fun h => h ▸ hwalk⟩, hshown, hperm, ?_, ?_⟩
  · exact Walk.unique h hwalk fun _ _ _ => Visit.Of.unique
  · intro hnone
    unfold IsItemOrder at horder
    rwa [hnone] at horder
  · intro sort hsome
    unfold IsItemOrder at horder
    rwa [Option.mem_def.1 hsome] at horder

end Page

/-! ## A channel that holds a table -/

/-- The query asks for keys in their order, with a limit and an offset. -/
def AsksKeys (q : Fragment) (limit? offset? : Option Int) : Prop :=
  ∃ head, head ≠ [] ∧
    q.filled = lines (Select.pagedLines head (keyColumn ++ " ASC") limit? offset?)

/-- A channel that gives keys in their order, and known rows to other queries. -/
noncomputable def keeper (keys : List String) (known : List (Fragment × Rows)) (q : Fragment) :
    Reply :=
  open Classical in
  if h : ∃ asked : Option Int × Option Int, AsksKeys q asked.1 asked.2 then
    .ok (Rows.ofColumn keyColumn ((pageOf h.choose.1 h.choose.2 keys).map .text))
  else (known.lookup q).elim (.error "unknown query") .ok

section Keeper

variable {keys : List String} {known : List (Fragment × Rows)} {q : Fragment}

theorem keeper_keys {limit? offset? : Option Int} (h : AsksKeys q limit? offset?) :
    keeper keys known q =
      .ok (Rows.ofColumn keyColumn ((pageOf limit? offset? keys).map .text)) := by
  have hasked : ∃ asked : Option Int × Option Int, AsksKeys q asked.1 asked.2 := ⟨(_, _), h⟩
  obtain ⟨head, hhead, hq⟩ := h
  obtain ⟨head', hhead', hq'⟩ := hasked.choose_spec
  obtain ⟨-, -, hlimit, hoffset⟩ :=
    Select.pagedLines_inj hhead' hhead (by decide) (by decide) (hq'.symm.trans hq)
  rw [keeper, dif_pos hasked, hlimit, hoffset]

theorem keeper_known (h : ∀ limit? offset?, ¬AsksKeys q limit? offset?) {rows : Rows}
    (hrows : known.lookup q = some rows) : keeper keys known q = .ok rows := by
  rw [keeper, dif_neg (fun ⟨asked, hasked⟩ => h _ _ hasked), hrows]
  rfl

/-- The query asks for a page of rows in an order. -/
def IsPaged (q : Fragment) : Prop :=
  ∃ head order limit? offset?, head ≠ [] ∧ '\n' ∉ order.toList ∧
    q.filled = lines (Select.pagedLines head order limit? offset?)

theorem AsksKeys.isPaged {limit? offset? : Option Int} (h : AsksKeys q limit? offset?) :
    IsPaged q := by
  obtain ⟨head, hhead, hq⟩ := h
  exact ⟨head, _, _, _, hhead, by decide, hq⟩

theorem isPaged_ranking (h : IsRanking q) : IsPaged q := by
  obtain ⟨head, ranking, _, _, hhead, hq⟩ := h
  exact ⟨head, _, _, _, hhead, newline_not_mem_orderText _, hq⟩

/-- A query with another last line is no page. -/
theorem not_isPaged {rs : List (List Symbol)} (hrs : rs ≠ []) {keyword text : String}
    (hline : OnLine (clause keyword text)) (hother : ∀ k ∈ ["ORDER BY", "LIMIT", "OFFSET"],
      keyword.toList.take 2 ≠ k.toList.take 2) (hlength : 2 ≤ keyword.toList.length)
    (hq : q.filled = lines (rs ++ [clause keyword text])) : ¬IsPaged q := by
  rintro ⟨head, order, _, _, hhead, horder, hpage⟩
  exact Select.lines_ne_pagedLines hrs hline (Select.clause_ne_paged hother hlength text) hhead
    horder _ _ (hq.symm.trans hpage)

/-- A ranking does not ask for keys in their order. -/
theorem not_asksKeys_ranking (h : IsRanking q) (limit? offset? : Option Int) :
    ¬AsksKeys q limit? offset? := by
  obtain ⟨head, ranking, _, _, hhead, hq⟩ := h
  rintro ⟨head', hhead', hpage⟩
  obtain ⟨-, horder, -, -⟩ := Select.pagedLines_inj hhead hhead' (newline_not_mem_orderText _)
    (by decide) (hq.symm.trans hpage)
  cases ranking with
  | top => exact absurd horder (by decide)
  | bottom => exact absurd horder (by decide)

/-- A channel that knows the number of keys, the column values and the groups of a table. -/
noncomputable def tableKeeper (keys : List String) (countQuery valuesQuery cellsQuery : Fragment)
    (valueRows cellRows : Rows) : Fragment → Reply :=
  keeper keys [(countQuery, Rows.ofColumn "pv_count" [.int keys.length]), (valuesQuery, valueRows),
    (cellsQuery, cellRows)]

section Table

variable {w : Workspace} {c : Context} {metrics : List Metric} {rowField field : String}
  {columns : List String} {groups : List TableGroup} {rowKey columnKey : String}
  {countQuery valuesQuery cellsQuery : Fragment} {valueRows cellRows : Rows}

/-- The number of keys and the groups are asked for by different queries, and neither by one for a
page. -/
theorem not_isPaged_table (hc : c.Sound) (hrow : c.key (.text rowField) = .ok rowKey)
    (hcolumn : c.key (.text field) = .ok columnKey)
    (hsome : ∀ k ∈ [rowKey, columnKey], k.isEmpty = false)
    (hplain : '\n' ∉ (", ".intercalate [rowKey, columnKey]).toList) {f : Fragment}
    (hf : c.whereWith [] = .ok f) (hcount : c.keyCount (.text rowField) [] = .ok countQuery)
    (hcells : c.grouped [.text rowField, .text field] metrics = .ok cellsQuery) :
    ¬IsPaged countQuery ∧ ¬IsPaged cellsQuery ∧ cellsQuery ≠ countQuery := by
  obtain ⟨_, countGroups, hcount', hcountReads⟩ := Context.keyCount_builds hc hrow hf
  obtain rfl := Except.ok.inj (hcount.symm.trans hcount')
  have hgroupKeys : [Value.text rowField, .text field].mapM c.key = .ok [rowKey, columnKey] := by
    rw [List.mapM_cons, List.mapM_cons, hrow, hcolumn]
    rfl
  obtain ⟨rs, hrs, hcellsRead⟩ :=
    Context.combinations_read hc hgroupKeys (List.cons_ne_nil _ _) hsome hcells
  have hcountLine : OnLine (clause "FROM" "pv_groups") :=
    Select.onLine_clause (by decide) (by decide)
  have hcellsLine : OnLine (clause "GROUP BY" (", ".intercalate [rowKey, columnKey])) :=
    Select.onLine_clause (by decide) hplain
  refine ⟨not_isPaged (List.cons_ne_nil _ _) hcountLine (by decide) (by decide) hcountReads,
    not_isPaged hrs hcellsLine (by decide) (by decide) hcellsRead, ?_⟩
  rintro rfl
  have hlast := (lines_concat_inj hrs (List.cons_ne_nil _ _) hcellsLine hcountLine
    (hcellsRead.symm.trans hcountReads)).2
  exact Select.clause_ne (by decide) (by decide) (by decide) _ _ hlast

/-- The queries of a table are told apart by what they read as. -/
theorem holds_tableKeeper (keys : List String) (hc : c.Sound)
    (hrow : c.key (.text rowField) = .ok rowKey) (hcolumn : c.key (.text field) = .ok columnKey)
    (hsome : ∀ k ∈ [rowKey, columnKey], k.isEmpty = false)
    (hplain : '\n' ∉ (", ".intercalate [rowKey, columnKey]).toList) {f : Fragment}
    (hf : c.whereWith [] = .ok f) (hcount : c.keyCount (.text rowField) [] = .ok countQuery)
    (hvalues : columnQuery w c field = .ok valuesQuery)
    (hcells : c.grouped [.text rowField, .text field] metrics = .ok cellsQuery)
    (hvalueRows : columnOf keyColumn valueRows.records = .ok (columns.map .text))
    (hcellRows : List.Forall₂ (TableGroup.On metrics) cellRows.records groups) :
    HoldsKeys (tableKeeper keys countQuery valuesQuery cellsQuery valueRows cellRows) c rowField
        keys ∧
      HoldsCells (tableKeeper keys countQuery valuesQuery cellsQuery valueRows cellRows) w c metrics
        rowField field columns groups := by
  obtain ⟨hcountPage, hcellsPage, hcellsCount⟩ :=
    not_isPaged_table hc hrow hcolumn hsome hplain hf hcount hcells
  have hranking : IsRanking valuesQuery := Context.isRanking_topKeys hc hvalues
  have hvaluesCount : valuesQuery ≠ countQuery := fun h => hcountPage (h ▸ isPaged_ranking hranking)
  have hcellsValues : cellsQuery ≠ valuesQuery := fun h => hcellsPage (h ▸ isPaged_ranking hranking)
  refine ⟨⟨?_, ?_, ?_⟩, ⟨?_, ?_⟩⟩
  · intro q hq
    obtain rfl := Except.ok.inj (hcount.symm.trans hq)
    refine ⟨_, keeper_known (fun _ _ h => hcountPage h.isPaged) ?_,
      Rows.scalar_ofColumn "pv_count" (.int keys.length)⟩
    exact List.lookup_cons_self
  · intro q hq
    obtain ⟨_, hq', hreads⟩ := Context.sortedKeys_builds hc hrow hf
    obtain rfl := Except.ok.inj (hq.symm.trans hq')
    have hasked : AsksKeys q none none := ⟨_, Select.headLines_ne_nil _ _, hreads⟩
    exact ⟨_, keeper_keys hasked, columnOf_ofColumn _ _⟩
  · intro o n q hq
    obtain ⟨head, hhead, hreads⟩ := Context.sortedKeys_reads hc (Int.natCast_nonneg o) hq
    refine ⟨_, keeper_keys ⟨head, hhead, hreads⟩, ?_⟩
    rw [columnOf_ofColumn, Context.pageOf_startOf]
    rfl
  · intro q hq
    obtain rfl := Except.ok.inj (hvalues.symm.trans hq)
    refine ⟨_, keeper_known (not_asksKeys_ranking hranking) ?_, hvalueRows⟩
    rw [List.lookup_cons, beq_eq_false_iff_ne.2 hvaluesCount]
    exact List.lookup_cons_self
  · intro q hq
    obtain rfl := Except.ok.inj (hcells.symm.trans hq)
    refine ⟨_, keeper_known (fun _ _ h => hcellsPage h.isPaged) ?_, hcellRows⟩
    rw [List.lookup_cons, beq_eq_false_iff_ne.2 hcellsCount]
    show List.lookup cellsQuery _ = _
    rw [List.lookup_cons, beq_eq_false_iff_ne.2 hcellsValues]
    exact List.lookup_cons_self

end Table

end Keeper

/-- The ports of packets by their flags, three to a page. Those come first that have the most
packets with the flag. -/
def portsByFlag : TableRequest where
  layer := .text "TCP"
  time := .null
  filters := .null
  timeField := .null
  columnField? := some "syn"
  rowFields := []
  metrics := [.countOf "size"]
  sort? := some ⟨"true", .countOf "size", true⟩
  rowField? := some "port"
  offset := .null
  limit := .int 3

/-- The ports in their order as texts. -/
def portKeys : List String := ["22", "443", "80", "8080"]

/-- The numbers of packets; one port has none with the flag, and two have as many. -/
def portGroups : List TableGroup :=
  [⟨"22", "true", fun _ => some 5⟩, ⟨"443", "true", fun _ => some 7⟩,
    ⟨"80", "false", fun _ => some 4⟩, ⟨"8080", "true", fun _ => some 5⟩]

/-- The rows of these numbers. -/
def portCells : Rows :=
  ⟨["pv_k0", "pv_k1", "pv_m0"],
    portGroups.map fun g => [.text g.row, .text g.column, g.value 0]⟩

/-- The flags by their numbers of packets. -/
def flagRows : Rows :=
  groupRows [⟨"true", .int 17, 0⟩, ⟨"false", .int 4, 2⟩]

theorem on_portCells :
    List.Forall₂ (TableGroup.On portsByFlag.metrics) portCells.records portGroups := by
  have hrecords : portCells.records = portGroups.map fun g =>
      [("pv_k0", .text g.row), ("pv_k1", .text g.column), ("pv_m0", g.value 0)] := by
    rw [Rows.records, portCells, List.map_map]
    rfl
  rw [hrecords]
  refine List.forall₂_map_left_iff.2 (List.forall₂_same.2 fun g _ => ⟨rfl, rfl, fun i hi => ?_⟩)
  obtain rfl : i = 0 := Nat.lt_one_iff.1 hi
  rfl

theorem context_portsByFlag (answer : Fragment → Reply) :
    Runs answer (tableContext Workspace.ofPackets portsByFlag) allPackets [] := by
  have hschema : Workspace.ofPackets.schema portsByFlag.layer = .ok allPackets.schema := by
    decide +kernel
  have hsplit : TopN.split portsByFlag.filters = .ok ([], []) := by decide +kernel
  have hmake : Context.make allPackets.schema .standard .null .null [] = .ok allPackets := by
    decide +kernel
  have hcontext : Runs answer
      (Workspace.ofPackets.context portsByFlag.toRequest portsByFlag.metrics) allPackets [] :=
    Runs.lift_bind hschema (Runs.lift_bind hsplit (Runs.lift_bind hmake (.done _)))
  have hsyn : allPackets.schema.require (.text "syn") = .ok "syn" := by decide +kernel
  have hport : allPackets.schema.require (.text "port") = .ok "port" := by decide +kernel
  have hsize : allPackets.schema.require (.text "size") = .ok "size" := by decide +kernel
  have hfields : Runs answer (["syn", "port"].forM fun f => if true then
      discard (Session.ofOutcome (allPackets.schema.require (.text f))) else pure ())
      PUnit.unit [] :=
    Runs.checks (fun _ => true)
      (List.forall_mem_cons.2 ⟨⟨_, hsyn⟩, List.forall_mem_singleton.2 ⟨_, hport⟩⟩)
  have hmetrics : Runs answer ([Metric.countOf "size"].forM fun m => if m.agg != .count then
      discard (Session.ofOutcome (allPackets.schema.require (.text m.field))) else pure ())
      PUnit.unit [] :=
    Runs.checks (fun m : Metric => m.agg != .count) (List.forall_mem_singleton.2 ⟨_, hsize⟩)
  exact hcontext.bind (hfields.bind (hmetrics.bind (Runs.done _)))

theorem items_of_ports_show_every_key : ∃ answer visits,
    HoldsKeys answer allPackets "port" portKeys ∧
      HoldsCells answer Workspace.ofPackets allPackets portsByFlag.metrics "port" "syn"
        ["true", "false"] portGroups ∧
      (∀ vs, ItemWalk Workspace.ofPackets answer portsByFlag 0 vs ↔ vs = visits) ∧
      visits.flatMap (·.page.items.map (·.key)) = ["443", "22", "8080", "80"].map .text := by
  have hc : allPackets.Sound := nofun
  have hport : allPackets.key (.text "port") = .ok (keyExpr "t.\"port\"") := by decide +kernel
  have hsyn : allPackets.key (.text "syn") = .ok (keyExpr "t.\"syn\"") := by decide +kernel
  have hmetric : ∀ m ∈ portsByFlag.metrics, ∃ value, m.expr allPackets.schema = .ok value :=
    List.forall_mem_singleton.2 ⟨_, rfl⟩
  obtain ⟨base, hbase⟩ : ∃ base, allPackets.baseWhere = .ok base :=
    Outcome.isOk_iff.1 (by decide +kernel)
  have haccepted : IsAccepted allPackets portsByFlag "port" := by
    refine ⟨⟨_, hport⟩, ?_, hmetric, ⟨base, hbase⟩⟩
    rintro f ⟨⟩
    exact ⟨_, hsyn⟩
  have hbounded : TableBounded Workspace.ofPackets.settings :=
    ⟨by decide, by decide +kernel, by decide, by decide +kernel⟩
  obtain ⟨f, hf⟩ := haccepted.where_builds hc
  obtain ⟨countQuery, -, hcount, -⟩ := Context.keyCount_builds hc hport hf
  obtain ⟨valuesQuery, hvalues⟩ := columnQuery_builds hbounded hc hsyn hf
  have hkeys : ∀ x ∈ [Value.text "port", .text "syn"], ∃ key, allPackets.key x = .ok key :=
    List.forall_mem_cons.2 ⟨⟨_, hport⟩, List.forall_mem_singleton.2 ⟨_, hsyn⟩⟩
  obtain ⟨cellsQuery, hcells⟩ := Context.combinations_build hc hkeys hmetric hf
  have hflags : columnOf keyColumn flagRows.records = .ok (["true", "false"].map .text) := by
    decide +kernel
  obtain ⟨hholdsKeys, hholdsCells⟩ := holds_tableKeeper portKeys hc hport hsyn (by decide)
    (by decide) hf hcount hvalues hcells hflags on_portCells
  have hlabels : HasLabels portsByFlag.metrics :=
    ⟨List.forall_mem_singleton.2 (by decide +kernel), List.pairwise_singleton _ _⟩
  have hfits : isWritable portKeys.length = true := by decide +kernel
  have hnumbers : ∀ g ∈ portGroups, g.Fits := by
    have hsmall : ∀ n : Nat, n ≤ 7 → n ≤ twoTo 53 := fun n hn => Nat.le_trans hn (by decide +kernel)
    simp only [portGroups, List.forall_mem_cons]
    refine ⟨?_, ?_, ?_, ?_, nofun⟩ <;> rintro _ _ ⟨⟩ <;> exact hsmall _ (by decide)
  obtain ⟨visits, ordered, hwalk, hitems, -, -, hsorted⟩ :=
    items_show_every_key hbounded (context_portsByFlag _) rfl haccepted rfl (by decide) hlabels
      (by rintro _ ⟨⟩; exact List.mem_singleton_self _) (by decide) hfits hholdsKeys
      (by rintro _ ⟨⟩; exact hholdsCells) hnumbers
  obtain ⟨sorted, hsorts, hordered⟩ := hsorted ⟨"true", .countOf "size", true⟩ rfl
  have hnumber : ∀ k ∈ [("22", some 5), ("443", some 7), ("80", none), ("8080", some 5)],
      sortNumber? portsByFlag.metrics portGroups ⟨"true", .countOf "size", true⟩ k.1 = k.2 := by
    decide +kernel
  have hexpected : Sorts true
      (sortNumber? portsByFlag.metrics portGroups ⟨"true", .countOf "size", true⟩) portKeys
      ["443", "22", "8080"] := by
    refine ⟨by decide +kernel, ?_⟩
    simp only [List.forall_mem_cons] at hnumber
    obtain ⟨h22, h443, -, h8080, -⟩ := hnumber
    refine .cons ?_ (.cons ?_ (List.pairwise_singleton _ _))
    · exact List.forall_mem_cons.2 ⟨⟨7, 5, h443, h22, .inl rfl⟩,
        List.forall_mem_singleton.2 ⟨7, 5, h443, h8080, .inl rfl⟩⟩
    · exact List.forall_mem_singleton.2 ⟨5, 5, h22, h8080, .inr ⟨rfl, by decide⟩⟩
  have hrest : portKeys.filter (sortNumber? portsByFlag.metrics portGroups
      ⟨"true", .countOf "size", true⟩ · == none) = ["80"] := by
    decide +kernel
  obtain rfl := hsorts.unique (by decide) hexpected
  rw [hordered] at hitems
  refine ⟨_, visits, hholdsKeys, hholdsCells, hwalk, hitems.trans ?_⟩
  exact congrArg (fun rest => (["443", "22", "8080"] ++ rest).map Value.text) hrest

end Crosstab.View
