import Crosstab.Proofs.View.Series
import Crosstab.Proofs.View.Tabulated

/-!
# Cells of a chart

A chart finds the keys of its axes first, by queries that may be answered one way or the other. No
two keys of an axis are equal. The cells are then the table of the rows of one more query: each
shows the last row for its keys. Rows for other keys do not show, and neither does the order of rows
for different keys.
-/

namespace Crosstab.View

open Crosstab.Filter Number Pivot Sql
open Session (Reply)

/-! ## Keys of axes -/

/-- The keys are those of an axis under a cap: no two of them are equal, and an axis of selected
items has these, each once, as many as the cap allows. -/
structure IsAxis (axis : Axis) (cap : Int) (keys : List Value) : Prop where
  distinct : keys.Pairwise fun a b => a.equals b = false
  selected : axis.manual = true →
    keys = (takeUpTo (some cap) (axis.selected.map normalizeKey).eraseDups).map .text
  capped : axis.manual = true → 0 ≤ cap → keys.length ≤ cap

/-- Selected items under a cap are the keys of their axis. -/
theorem isAxis_manual (axis : Axis) (cap : Int) :
    IsAxis axis cap ((axis.manualKeys (some cap)).map .text) where
  distinct := by
    rw [manualKeys_eq]
    exact pairwise_texts ((nodup_eraseDups _).sublist (List.take_sublist _ _))
  selected _ := by rw [manualKeys_eq]
  capped _ hcap := by
    rw [manualKeys_eq, List.length_map, takeUpTo, takeCount, if_pos hcap, List.length_take]
    omega

/-- Whatever is answered, the keys that an axis comes to are those of an axis. -/
theorem axisKeys_isAxis (w : Workspace) (c : Context) (axis : Axis) (metric : Metric) (cap : Int) :
    (w.axisKeys c axis metric cap).Yields (fun _ => True) (fun _ => True) (IsAxis axis cap) := by
  refine (Session.Yields.any _).bind fun _ _ => ?_
  cases hmanual : axis.manual with
  | true => exact .done (isAxis_manual axis cap)
  | false =>
    have hranked : ∀ found, IsAxis axis cap (distinctKeys found) := fun found =>
      ⟨distinctKeys_pairwise found, fun h => absurd (hmanual.symm.trans h) nofun,
        fun h => absurd (hmanual.symm.trans h) nofun⟩
    refine (Session.Yields.any _).bind fun q _ => (Session.Yields.any _).bind fun records _ => ?_
    exact (Session.Yields.any _).bind fun found _ => .done (hranked found)

/-- The context of a chart and the keys of its axes. -/
def chartKeys (w : Workspace) (r : ChartRequest) :
    Session (Context × List Value × List Value) := do
  let c ← w.context r.toRequest [r.metric]
  let xKeys ← w.axisKeys c r.col r.metric (maxColumns w.settings r.chartType)
  let yKeys ← w.axisKeys c r.row r.metric w.settings.chartMaxRows
  return (c, xKeys, yKeys)

/-- A chart goes on with the keys of its axes. -/
theorem chart_eq (w : Workspace) (r : ChartRequest) :
    chart w r = chartKeys w r >>= fun (c, xKeys, yKeys) => chartOf r c xKeys yKeys := by
  unfold chartKeys
  simp only [Session.bind_assoc]
  rfl

theorem chartKeys_isAxis (w : Workspace) (r : ChartRequest) :
    (chartKeys w r).Yields (fun _ => True) (fun _ => True) fun (_, xKeys, yKeys) =>
      IsAxis r.col (maxColumns w.settings r.chartType) xKeys ∧
        IsAxis r.row w.settings.chartMaxRows yKeys := by
  refine (Session.Yields.any _).bind fun c _ => ?_
  refine (axisKeys_isAxis w c r.col r.metric _).bind fun xKeys hx => ?_
  exact (axisKeys_isAxis w c r.row r.metric _).bind fun yKeys hy => .done ⟨hx, hy⟩

/-! ## Cells of rows -/

section Cells

variable {w : Workspace} {r : ChartRequest} {c : Context} {replies : List Reply}
  {qs : List Fragment} {q : Fragment} {xs ys : List Value} {cells : List Cell}

/-- The chart of cells for the keys of its axes. -/
def chartFor (r : ChartRequest) (xs ys : List Value) (cells : List Cell) : Chart :=
  ⟨r.col.field, r.row.field, xs, ys, [⟨r.metric, tabulated xs ys (lastNumber? cells)⟩]⟩

/-- A chart asks for the rows of its keys and shows them. -/
theorem chartOf_replay (hxs : xs ≠ []) (hys : ys ≠ []) (hxLabels : AreLabels xs)
    (hyLabels : AreLabels ys)
    (hq : c.matrix (.text r.col.field) (.text r.row.field) r.metric xs ys = .ok q)
    (hcells : ∀ cell ∈ cells, IsReadable cell) (more : List Reply) :
    (chartOf r c xs ys).replay (.ok (cellRows cells) :: more) =
      (.ok (chartFor r xs ys cells), [q]) := by
  have hplaced : placeRows xs ys (cellRows cells).records =
      .ok (tabulated xs ys (lastNumber? cells)) := by
    rw [records_cellRows]
    exact placeRows_tabulated hxLabels hyLabels hcells
  have hruns : Runs (fun _ => .ok (cellRows cells)) (chartOf r c xs ys)
      (chartFor r xs ys cells) [q] := chartOf_keys_runs hxs hys
    (checkKeys_of_isKey hxLabels.isKey) (checkKeys_of_isKey hyLabels.isKey) hq rfl hplaced
  exact Session.replay_append hruns.replay more

/-- The axes of the chart come to keys, which are some on either axis and can all be looked up by;
the replies are those to the queries that this takes. -/
structure Resolves (w : Workspace) (r : ChartRequest) (replies : List Reply) (qs : List Fragment)
    (c : Context) (xs ys : List Value) : Prop where
  keys : (chartKeys w r).replay replies = (.ok (c, xs, ys), qs)
  length : replies.length = qs.length
  xSome : xs ≠ []
  ySome : ys ≠ []
  isKey : ∀ k ∈ xs ++ ys, k.isKey = true

theorem Resolves.labels (h : Resolves w r replies qs c xs ys) : AreLabels xs ∧ AreLabels ys := by
  obtain ⟨hx, hy⟩ := (chartKeys_isAxis w r).replay_ok h.keys
  obtain ⟨hxKeys, hyKeys⟩ := List.forall_mem_append.1 h.isKey
  exact ⟨⟨hxKeys, hx.distinct⟩, ⟨hyKeys, hy.distinct⟩⟩

/-- Where the axes come to keys and the query for cells comes together, the chart is that of the
rows that come back. -/
theorem Resolves.chart_replay (h : Resolves w r replies qs c xs ys)
    (hq : c.matrix (.text r.col.field) (.text r.row.field) r.metric xs ys = .ok q)
    (hcells : ∀ cell ∈ cells, IsReadable cell) (more : List Reply) :
    (chart w r).replay (replies ++ .ok (cellRows cells) :: more) =
      (.ok (chartFor r xs ys cells), qs ++ [q]) := by
  obtain ⟨hx, hy⟩ := h.labels
  have hkeys := Session.replay_append h.keys (.ok (cellRows cells) :: more)
  rw [chart_eq, Session.replay_bind hkeys, ← h.length, List.drop_left]
  dsimp only
  rw [chartOf_replay h.xSome h.ySome hx hy hq hcells more]

/-- The categories of a chart are the keys of its axes, no two of them equal, and for selected items
under a cap no more than it allows. Its values are a matrix of a cell for each two keys, which shows
the last row for them, whatever rows come back. Rows for other keys change nothing, and neither does
another order of rows for different keys. -/
theorem chart_shows_last_rows (h : Resolves w r replies qs c xs ys)
    (hq : c.matrix (.text r.col.field) (.text r.row.field) r.metric xs ys = .ok q)
    (hcells : ∀ cell ∈ cells, IsReadable cell) (more : List Reply) :
    IsAxis r.col (maxColumns w.settings r.chartType) xs ∧ IsAxis r.row w.settings.chartMaxRows ys ∧
    (∃ values, ShowsLast xs ys cells values ∧
      (chart w r).replay (replies ++ .ok (cellRows cells) :: more) =
        (.ok ⟨r.col.field, r.row.field, xs, ys, [⟨r.metric, values⟩]⟩, qs ++ [q])) ∧
    (∀ others, (∀ cell ∈ others, IsReadable cell) →
      others.filter (·.isKnown xs ys) = cells.filter (·.isKnown xs ys) →
      (chart w r).replay (replies ++ .ok (cellRows others) :: more) =
        (chart w r).replay (replies ++ .ok (cellRows cells) :: more)) ∧
    ∀ others, others.Perm cells → Differ cells →
      (chart w r).replay (replies ++ .ok (cellRows others) :: more) =
        (chart w r).replay (replies ++ .ok (cellRows cells) :: more) := by
  obtain ⟨hxAxis, hyAxis⟩ := (chartKeys_isAxis w r).replay_ok h.keys
  obtain ⟨hxKeys, hyKeys⟩ := List.forall_mem_append.1 h.isKey
  refine ⟨hxAxis, hyAxis, ?_, fun others hothers hknown => ?_, fun others hperm hdiffer => ?_⟩
  · exact ⟨_, showsLast_tabulated xs ys hcells, h.chart_replay hq hcells more⟩
  · rw [h.chart_replay hq hothers more, h.chart_replay hq hcells more, chartFor, chartFor,
      ← tabulated_known xs ys others, hknown, tabulated_known]
  · have hothers : ∀ cell ∈ others, IsReadable cell := fun cell hcell =>
      hcells cell (hperm.mem_iff.1 hcell)
    rw [h.chart_replay hq hothers more, h.chart_replay hq hcells more, chartFor, chartFor,
      tabulated_perm hxKeys hyKeys hcells hdiffer hperm]

end Cells

/-! ### Repeated flags and sizes -/

/-- Rows for flags and sizes: two for the same, one without a number and one for another size. -/
def repeatedPackets : List Cell :=
  [⟨.text "true", .text "1500", .int 7⟩, ⟨.text "false", .text "40", .null⟩,
    ⟨.text "true", .text "1500", .int 9⟩, ⟨.text "true", .text "64", .int 5⟩]

theorem isReadable_repeatedPackets : ∀ cell ∈ repeatedPackets, IsReadable cell := by
  have hvalue : ∀ n : Int, (Value.int n).toReal.isOk = true →
      Value.int n = .null ∨ ∃ x, (Value.int n).toReal = .ok x := fun n h =>
    .inr (Outcome.isOk_iff.1 h)
  simp only [repeatedPackets, List.forall_mem_cons]
  refine ⟨⟨rfl, rfl, hvalue 7 ?_⟩, ⟨rfl, rfl, .inl rfl⟩, ⟨rfl, rfl, hvalue 9 ?_⟩,
    ⟨rfl, rfl, hvalue 5 ?_⟩, nofun⟩
  all_goals decide +kernel

/-- The items of both axes are found without a query. -/
theorem resolves_packetChart : Resolves Workspace.ofPackets (packetChart flagItems sizeItems) [] []
    allPackets [.text "true", .text "false"] [.text "1500", .text "40"] := by
  have hx : ((packetChart flagItems sizeItems).col.manualKeys
      (some (maxColumns Workspace.ofPackets.settings .null))).map Value.text =
      [.text "true", .text "false"] := by decide +kernel
  have hy : ((packetChart flagItems sizeItems).row.manualKeys
      (some Workspace.ofPackets.settings.chartMaxRows)).map Value.text =
      [.text "1500", .text "40"] := by decide +kernel
  have hsynName : allPackets.schema.require (.text "syn") = .ok "syn" := by decide +kernel
  have hsizeName : allPackets.schema.require (.text "size") = .ok "size" := by decide +kernel
  let silent : Fragment → Reply := fun _ => Session.exhausted
  have hxKeys := axisKeys_manual silent Workspace.ofPackets
    (rfl : (packetChart flagItems sizeItems).col.manual = true) hsynName (.countOf "size")
    (maxColumns Workspace.ofPackets.settings .null)
  have hyKeys := axisKeys_manual silent Workspace.ofPackets
    (rfl : (packetChart flagItems sizeItems).row.manual = true) hsizeName (.countOf "size")
    Workspace.ofPackets.settings.chartMaxRows
  rw [hx] at hxKeys
  rw [hy] at hyKeys
  have hruns : Runs silent (chartKeys Workspace.ofPackets (packetChart flagItems sizeItems))
      (allPackets, [.text "true", .text "false"], [.text "1500", .text "40"]) [] :=
    (context_packetChart silent flagItems sizeItems).bind (hxKeys.bind (hyKeys.bind (Runs.done _)))
  exact ⟨hruns.replay, rfl, nofun, nofun, by decide⟩

/-- The last of two rows for a flag and a size is shown, and nothing for keys without a number. -/
theorem last_packets_are_shown :
    Resolves Workspace.ofPackets (packetChart flagItems sizeItems) [] [] allPackets
      [.text "true", .text "false"] [.text "1500", .text "40"] ∧
    (∀ cell ∈ repeatedPackets, IsReadable cell) ∧
    ∃ q, allPackets.matrix (.text "syn") (.text "size") (.countOf "size")
        [.text "true", .text "false"] [.text "1500", .text "40"] = .ok q ∧
      (chart Workspace.ofPackets (packetChart flagItems sizeItems)).replay
        [.ok (cellRows repeatedPackets)] =
        (.ok ⟨"syn", "size", [.text "true", .text "false"], [.text "1500", .text "40"],
          [⟨.countOf "size", [[some (.ofWhole 9), none], [none, none]]⟩]⟩, [q]) := by
  have hc : allPackets.Sound := nofun
  obtain ⟨base, hbase⟩ : ∃ base, allPackets.baseWhere = .ok base :=
    Outcome.isOk_iff.1 (by decide +kernel)
  have hmetric : (Metric.countOf "size").expr allPackets.schema = .ok "COUNT(*)" := by
    decide +kernel
  obtain ⟨q, hq⟩ : ∃ q, allPackets.matrix (.text "syn") (.text "size") (.countOf "size")
      [.text "true", .text "false"] [.text "1500", .text "40"] = .ok q := by
    have hflag : ∀ b : Bool, IsWord (allPackets.schema.fieldType (.text "syn"))
        (if b then "true" else "false") := fun b => type_syn ▸ .flag b
    have hsize : ∀ n : Int, Number.isWritable n = true →
        IsWord (allPackets.schema.fieldType (.text "size")) (intText n) := fun n hn =>
      type_size ▸ .number hn
    refine Context.matrix_builds hc column_syn column_size hmetric hbase ?_ ?_
    · exact List.forall_mem_cons.2 ⟨Context.takes_of_isWord (hflag true),
        List.forall_mem_singleton.2 (Context.takes_of_isWord (hflag false))⟩
    · exact List.forall_mem_cons.2 ⟨Context.takes_of_isWord (hsize 1500 (by decide +kernel)),
        List.forall_mem_singleton.2 (Context.takes_of_isWord (hsize 40 (by decide +kernel)))⟩
  obtain ⟨-, -, ⟨values, hvalues, hchart⟩, -⟩ :=
    chart_shows_last_rows resolves_packetChart hq isReadable_repeatedPackets []
  have htable : tabulated [.text "true", .text "false"] [.text "1500", .text "40"]
      (lastNumber? repeatedPackets) = [[some (.ofWhole 9), none], [none, none]] := by
    decide +kernel
  obtain rfl := (hvalues.eq_tabulated isReadable_repeatedPackets).trans htable
  exact ⟨resolves_packetChart, isReadable_repeatedPackets, q, hq, hchart⟩

end Crosstab.View
