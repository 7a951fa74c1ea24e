import Crosstab.Proofs.View.Chart
import Crosstab.View.Breakdown
import Mathlib.Data.List.Perm.Basic

/-!
# Charts of a breakdown are independent

The chart of a column key comes from one query, which ranks the rows behind that key alone: its
restriction is put together from the context anew for each key. So a key has the same query and the
same chart whatever the other keys are, and another order of the keys is another order of the charts
and of their queries, and nothing else.
-/

namespace Crosstab.View

open Crosstab.Filter Number Pivot Sql
open Session (Reply)

section Charts

variable {answer : Fragment → Reply} {w : Workspace} {c : Context} {r : ChartRequest}

/-! ## The chart of a key -/

/-- The request with other items selected for its columns. -/
def selecting (r : ChartRequest) (items : List Value) : ChartRequest :=
  { r with col := { r.col with selected := items } }

/-- The most rows that the chart of a key ranks. -/
def rankedRows (w : Workspace) (r : ChartRequest) : Int :=
  min (r.row.topN?.getD w.settings.defaultTopN) w.settings.chartMaxRows

/-- The query for the chart of a column key: a ranking of the rows behind that key. -/
def chartQuery (w : Workspace) (c : Context) (r : ChartRequest) (colKey : Value) :
    Outcome Fragment := do
  let restriction ← c.axisFilter (.text r.col.field) [colKey]
  c.topKeys (.text r.row.field) r.metric (.int (rankedRows w r)) [restriction] r.row.ranking .null

/-- The query for a key that the type of its field reads comes together. -/
theorem chartQuery_builds (hc : c.Sound) {colColumn rowKey value : String} {base : Fragment}
    (hcol : c.schema.column (.text r.col.field) = .ok colColumn)
    (hrow : c.key (.text r.row.field) = .ok rowKey) (hvalue : r.metric.expr c.schema = .ok value)
    (hbase : c.baseWhere = .ok base) (hn : 1 ≤ rankedRows w r)
    (hfits : isWritable (rankedRows w r) = true) {k : Value}
    (htakes : c.Takes (.text r.col.field) k) : ∃ q, chartQuery w c r k = .ok q := by
  obtain ⟨restriction, hrestriction, hentry⟩ :=
    Context.axisFilter_of_takes hcol (List.forall_mem_singleton.2 htakes)
  have hentries : ∀ e ∈ (Context.parts [restriction]).1, ∃ p?, c.scope.entry e = .ok p? := by
    intro e he
    obtain ⟨t, ht, hpart⟩ := List.mem_filterMap.1 he
    obtain rfl := List.mem_singleton.1 ht
    exact hentry e hpart
  obtain ⟨p?, hp⟩ := Context.entries_builds hentries
  obtain ⟨f, hf, hbalanced⟩ := Context.whereWith_builds hc
    (List.forall_mem_singleton.2 (Context.axisFilter_sound hrestriction)) hbase hp
  have hzero : isWritable 0 = true := isWritable_digit (by decide) (by decide)
  obtain ⟨q, hq, -⟩ := Context.topKeys_where_builds hrow hvalue hf hbalanced r.row.ranking hn hfits
    (Int.le_refl 0) hzero
  exact ⟨q, Outcome.bind_eq_ok.2 ⟨restriction, hrestriction, hq⟩⟩

/-- The query is the one for the column key, and the chart is that of the rows that come back: a
category and a value for each of them, in their order. -/
structure IsChartOf (answer : Fragment → Reply) (w : Workspace) (c : Context) (r : ChartRequest)
    (colKey : Value) (asked : Fragment × ColumnChart) : Prop where
  query : chartQuery w c r colKey = .ok asked.1
  colKey : asked.2.colKey = colKey
  paired : asked.2.rowCategories.length = asked.2.values.length
  rows : ∃ rows, answer asked.1 = .ok rows ∧
    List.Forall₂ (fun row k => row.get keyColumn = .ok k) rows.records asked.2.rowCategories ∧
    List.Forall₂ (fun (row : Row) x? => (do (← row.get metricColumn).toReal?) = .ok x?)
      rows.records asked.2.values

namespace IsChartOf

/-- The channel and the key determine the query and the chart. -/
theorem rightUnique : Relator.RightUnique (IsChartOf answer w c r) := by
  rintro k ⟨q, chart⟩ ⟨q', chart'⟩ h h'
  obtain rfl : q = q' := Except.ok.inj (h.query.symm.trans h'.query)
  obtain ⟨rows, hrows, hkeys, hvalues⟩ := h.rows
  obtain ⟨rows', hrows', hkeys', hvalues'⟩ := h'.rows
  obtain rfl : rows = rows' := Except.ok.inj (hrows.symm.trans hrows')
  have hcategories : chart.rowCategories = chart'.rowCategories :=
    Except.ok.inj ((Outcome.mapM_of_forall₂ hkeys).symm.trans (Outcome.mapM_of_forall₂ hkeys'))
  have hsame : chart.values = chart'.values :=
    Except.ok.inj ((Outcome.mapM_of_forall₂ hvalues).symm.trans (Outcome.mapM_of_forall₂ hvalues'))
  have hkey : chart.colKey = chart'.colKey := h.colKey.trans h'.colKey.symm
  cases chart
  cases chart'
  simp_all

theorem selecting_iff {items : List Value} {k : Value} {asked : Fragment × ColumnChart} :
    IsChartOf answer w c (selecting r items) k asked ↔ IsChartOf answer w c r k asked :=
  ⟨fun h => ⟨h.query, h.colKey, h.paired, h.rows⟩, fun h => ⟨h.query, h.colKey, h.paired, h.rows⟩⟩

end IsChartOf

/-- The chart of a key asks its query, and nothing else. -/
theorem columnChart_runs_iff {k : Value} {chart : ColumnChart} {qs : List Fragment} :
    Runs answer (columnChart w c r k) chart qs ↔
      ∃ q, qs = [q] ∧ IsChartOf answer w c r k (q, chart) := by
  constructor
  · intro h
    obtain ⟨restriction, hrestriction, h⟩ := Runs.of_lift_bind h
    obtain ⟨q, hq, h⟩ := Runs.of_lift_bind h
    obtain ⟨records, first, later, hasked, hranked, rfl⟩ := Runs.of_bind h
    obtain ⟨rows, hanswer, rfl, rfl⟩ := Runs.of_records hasked
    obtain ⟨hchart, rfl⟩ := Runs.of_lift hranked
    obtain ⟨categories, hcategories, hchart⟩ :=
      Outcome.bind_eq_ok.1 (show rankedChart k rows.records = .ok chart from hchart)
    obtain ⟨values, hvalues, hchart⟩ := Outcome.bind_eq_ok.1 hchart
    obtain rfl := Outcome.pure_eq_ok.1 hchart
    have hkeys := Outcome.forall₂_of_mapM hcategories
    have hmetrics := Outcome.forall₂_of_mapM hvalues
    exact ⟨q, rfl, Outcome.bind_eq_ok.2 ⟨restriction, hrestriction, hq⟩, rfl,
      hkeys.length_eq.symm.trans hmetrics.length_eq, rows, hanswer, hkeys, hmetrics⟩
  · rintro ⟨q, rfl, hquery, hkey, -, rows, hanswer, hkeys, hvalues⟩
    obtain ⟨restriction, hrestriction, hq⟩ := Outcome.bind_eq_ok.1 hquery
    have hchart : rankedChart k rows.records = .ok chart :=
      Outcome.bind_eq_ok.2 ⟨_, Outcome.mapM_of_forall₂ hkeys,
        Outcome.bind_eq_ok.2 ⟨_, Outcome.mapM_of_forall₂ hvalues, by rw [← hkey]; rfl⟩⟩
    exact Runs.lift_bind hrestriction
      (Runs.lift_bind hq ((Runs.records hanswer).bind (Runs.lift hchart)))

/-- The charts of keys come one for each key, in the order of the keys. -/
theorem columnCharts_runs_iff {keys : List Value} {charts : List ColumnChart}
    {qs : List Fragment} :
    Runs answer (columnCharts w c r keys) charts qs ↔
      ∃ asked, charts = asked.map Prod.snd ∧ qs = asked.map Prod.fst ∧
        List.Forall₂ (IsChartOf answer w c r) keys asked := by
  induction keys generalizing charts qs with
  | nil =>
    constructor
    · intro h
      obtain ⟨rfl, rfl⟩ := Runs.of_done h
      exact ⟨[], rfl, rfl, .nil⟩
    · rintro ⟨asked, rfl, rfl, hcharts⟩
      cases hcharts
      exact Runs.done _
  | cons k keys ih =>
    constructor
    · intro h
      obtain ⟨chart, first, later, hchart, hlater, rfl⟩ := Runs.of_bind h
      obtain ⟨q, rfl, hof⟩ := columnChart_runs_iff.1 hchart
      obtain ⟨rest, rfl, hrest⟩ := Runs.bind_pure_iff.1 hlater
      obtain ⟨asked, rfl, rfl, hcharts⟩ := ih.1 hrest
      exact ⟨(q, chart) :: asked, rfl, rfl, .cons hof hcharts⟩
    · rintro ⟨asked, rfl, rfl, hcharts⟩
      cases hcharts with
      | @cons _ p _ asked hof hcharts =>
        have hrest := ih.2 ⟨asked, rfl, rfl, hcharts⟩
        exact (columnChart_runs_iff.2 ⟨p.1, rfl, hof⟩).bind (Runs.bind_pure_iff.2 ⟨_, rfl, hrest⟩)

/-! ## Breakdowns -/

/-- The keys of a breakdown of selected items. -/
def breakdownKeys (w : Workspace) (r : ChartRequest) : List Value :=
  (r.col.manualKeys (some (maxCharts w.settings r.chartsPerRow))).map .text

/-- The breakdown consists of the charts that were asked for. -/
def charted (r : ChartRequest) (asked : List (Fragment × ColumnChart)) : Breakdown :=
  ⟨r.col.field, r.row.field, r.metric, asked.map Prod.snd⟩

/-- A breakdown of selected items asks one query for each key when it has its context. -/
theorem breakdown_runs_iff (hmanual : r.col.manual = true) {b : Breakdown} {qs : List Fragment} :
    Runs answer (breakdown w r) b qs ↔ ∃ c before name asked,
      Runs answer (w.context r.toRequest [r.metric]) c before ∧
      c.schema.require (.text r.col.field) = .ok name ∧
      List.Forall₂ (IsChartOf answer w c r) (breakdownKeys w r) asked ∧
      b = charted r asked ∧ qs = before ++ asked.map Prod.fst := by
  constructor
  · intro h
    obtain ⟨c, before, later, hcontext, hlater, rfl⟩ := Runs.of_bind h
    obtain ⟨keys, first, last, hkeys, hdrawn, rfl⟩ := Runs.of_bind hlater
    obtain ⟨name, hname, hkeys⟩ := Runs.of_lift_bind hkeys
    rw [hmanual] at hkeys
    obtain ⟨rfl, rfl⟩ := Runs.of_done hkeys
    obtain ⟨charts, rfl, hcharts⟩ := Runs.bind_pure_iff.1 hdrawn
    obtain ⟨asked, rfl, rfl, hasked⟩ := columnCharts_runs_iff.1 hcharts
    exact ⟨c, before, name, asked, hcontext, hname, hasked, rfl, rfl⟩
  · rintro ⟨c, before, name, asked, hcontext, hname, hasked, rfl, rfl⟩
    have hkeys := axisKeys_manual answer w hmanual hname r.metric
      (maxCharts w.settings r.chartsPerRow)
    have hcharts := columnCharts_runs_iff.2 ⟨asked, rfl, rfl, hasked⟩
    exact hcontext.bind (hkeys.bind (Runs.bind_pure_iff.2 ⟨_, rfl, hcharts⟩))

/-- Selected items in another order, no more than are shown, stand for the same keys in another
order. -/
theorem breakdownKeys_perm {items : List Value} (hperm : items.Perm r.col.selected)
    (hfits : ((r.col.selected.map normalizeKey).eraseDups.length : Int) ≤
      maxCharts w.settings r.chartsPerRow) :
    (breakdownKeys w (selecting r items)).Perm (breakdownKeys w r) := by
  have hkeys : (items.map normalizeKey).eraseDups.Perm
      (r.col.selected.map normalizeKey).eraseDups := by
    refine (List.perm_ext_iff_of_nodup (nodup_eraseDups _) (nodup_eraseDups _)).2 fun k => ?_
    rw [List.mem_eraseDups, List.mem_eraseDups]
    exact (hperm.map normalizeKey).mem_iff
  -- none of the keys is cut off
  have hall : ∀ keys : List String, keys.Perm (r.col.selected.map normalizeKey).eraseDups →
      takeUpTo (some (maxCharts w.settings r.chartsPerRow)) keys = keys := by
    intro keys hsame
    have hlength := hsame.length_eq
    rw [takeUpTo, takeCount, if_pos (by omega)]
    exact List.take_of_length_le (by omega)
  refine List.Perm.map _ ?_
  rw [manualKeys_eq, manualKeys_eq]
  exact (hall _ hkeys).symm ▸ (hall _ (.refl _)).symm ▸ hkeys

/-- Charts of column keys are independent. A breakdown of selected items asks for its context first,
and then one query for each key of the items, which is the query for that key alone; its charts come
one for each key, in the order of the keys. If other items are selected, a key of both has the same
query and the same chart. Items in another order that are no more than are shown come to a breakdown
with the same charts in another order, by the same queries in that order, and nothing else changes.
-/
theorem charts_are_independent (hmanual : r.col.manual = true) {b : Breakdown} {qs : List Fragment}
    (h : Runs answer (breakdown w r) b qs) :
    ∃ c before asked, Runs answer (w.context r.toRequest [r.metric]) c before ∧
      List.Forall₂ (IsChartOf answer w c r) (breakdownKeys w r) asked ∧
      b = charted r asked ∧ qs = before ++ asked.map Prod.fst ∧
      (∀ items b' qs', Runs answer (breakdown w (selecting r items)) b' qs' → ∃ asked',
        List.Forall₂ (IsChartOf answer w c r) (breakdownKeys w (selecting r items)) asked' ∧
        b' = charted r asked' ∧ qs' = before ++ asked'.map Prod.fst ∧
        ∀ k p p', (k, p) ∈ (breakdownKeys w r).zip asked →
          (k, p') ∈ (breakdownKeys w (selecting r items)).zip asked' → p' = p) ∧
      ∀ items, items.Perm r.col.selected →
        ((r.col.selected.map normalizeKey).eraseDups.length : Int) ≤
          maxCharts w.settings r.chartsPerRow →
        ∃ asked', asked'.Perm asked ∧ Runs answer (breakdown w (selecting r items))
          (charted r asked') (before ++ asked'.map Prod.fst) := by
  obtain ⟨c, before, name, asked, hcontext, hname, hcharts, rfl, rfl⟩ :=
    (breakdown_runs_iff hmanual).1 h
  have hselecting : ∀ items, IsChartOf answer w c (selecting r items) = IsChartOf answer w c r :=
    fun items => funext fun k => funext fun p => propext IsChartOf.selecting_iff
  refine ⟨c, before, asked, hcontext, hcharts, rfl, rfl, ?_, ?_⟩
  · intro items b' qs' h'
    obtain ⟨c', before', name', asked', hcontext', -, hcharts', rfl, rfl⟩ :=
      (breakdown_runs_iff (r := selecting r items) hmanual).1 h'
    -- the context does not depend on the items
    obtain ⟨rfl, rfl⟩ : c = c' ∧ before = before' := by
      have hsame := hcontext.symm.trans hcontext'
      simpa using hsame
    rw [hselecting] at hcharts'
    refine ⟨asked', hcharts', rfl, rfl, fun k p p' hp hp' => ?_⟩
    exact IsChartOf.rightUnique (List.forall₂_zip hcharts' hp') (List.forall₂_zip hcharts hp)
  · intro items hperm hfits
    obtain ⟨asked', hcharts', hasked⟩ :=
      List.perm_comp_forall₂ (breakdownKeys_perm hperm hfits) hcharts
    exact ⟨asked', hasked, (breakdown_runs_iff (r := selecting r items) hmanual).2
      ⟨c, before, name, asked', hcontext, hname, (hselecting items).symm ▸ hcharts', rfl, rfl⟩⟩

end Charts

/-! ## Flags of packets -/

/-- Large and small packets, of which the small ones have no number. -/
def rankedSizes : Rows :=
  ⟨[keyColumn, metricColumn], [[.text "1500", .int 7], [.text "40", .null]]⟩

/-- A channel that knows of the same sizes for any flag. -/
def sizesChannel (_ : Fragment) : Reply :=
  .ok rankedSizes

/-- The chart of a flag. -/
def flagChart (flag : String) : ColumnChart :=
  ⟨.text flag, [.text "1500", .text "40"], [some (.ofWhole 7), none]⟩

/-- Each flag has its query, and with it its chart. -/
theorem flagChart_isChartOf (flag : Bool) :
    ∃ q, IsChartOf sizesChannel .ofPackets allPackets (packetChart flagItems sizeItems)
      (.text (if flag then "true" else "false"))
      (q, flagChart (if flag then "true" else "false")) := by
  have hc : allPackets.Sound := nofun
  obtain ⟨base, hbase⟩ : ∃ base, allPackets.baseWhere = .ok base :=
    Outcome.isOk_iff.1 (by decide +kernel)
  have hmetric : (Metric.countOf "size").expr allPackets.schema = .ok "COUNT(*)" := by
    decide +kernel
  have hword : IsWord (allPackets.schema.fieldType (.text "syn"))
      (if flag then "true" else "false") := type_syn ▸ .flag flag
  obtain ⟨q, hq⟩ := chartQuery_builds (w := .ofPackets) (r := packetChart flagItems sizeItems) hc
    column_syn (Context.key_of_column column_size) hmetric hbase (by decide) (by decide +kernel)
    (Context.takes_of_isWord hword)
  have hkeys : columnOf keyColumn rankedSizes.records = .ok [.text "1500", .text "40"] := by
    decide +kernel
  have hvalues : rankedSizes.records.mapM (fun row => do (← row.get metricColumn).toReal?) =
      .ok [some (.ofWhole 7), none] := by
    decide +kernel
  exact ⟨q, hq, rfl, rfl, rankedSizes, rfl, Outcome.forall₂_of_mapM hkeys,
    Outcome.forall₂_of_mapM hvalues⟩

theorem flags_in_another_order :
    (packetChart flagItems sizeItems).col.manual = true ∧ flagItems.reverse.Perm flagItems ∧
    ∃ p q,
      Runs sizesChannel (breakdown .ofPackets (packetChart flagItems sizeItems))
        ⟨"syn", "size", .countOf "size", [flagChart "true", flagChart "false"]⟩ [p, q] ∧
      Runs sizesChannel
        (breakdown .ofPackets (selecting (packetChart flagItems sizeItems) flagItems.reverse))
        ⟨"syn", "size", .countOf "size", [flagChart "false", flagChart "true"]⟩ [q, p] := by
  have hmanual : (packetChart flagItems sizeItems).col.manual = true := rfl
  have hsyn : allPackets.schema.require (.text "syn") = .ok "syn" := by decide +kernel
  obtain ⟨p, hp⟩ := flagChart_isChartOf true
  obtain ⟨q, hq⟩ := flagChart_isChartOf false
  have hkeys : breakdownKeys .ofPackets (packetChart flagItems sizeItems) =
      [.text "true", .text "false"] := by decide +kernel
  have hruns : Runs sizesChannel (breakdown .ofPackets (packetChart flagItems sizeItems))
      ⟨"syn", "size", .countOf "size", [flagChart "true", flagChart "false"]⟩ [p, q] :=
    (breakdown_runs_iff hmanual).2 ⟨allPackets, [], "syn", [(p, _), (q, _)],
      context_packetChart sizesChannel flagItems sizeItems, hsyn, hkeys ▸ .cons hp (.cons hq .nil),
      rfl, rfl⟩
  have hperm : flagItems.reverse.Perm flagItems := flagItems.reverse_perm
  obtain ⟨c, before, asked, hcontext, -, hcharts, hqueries, hindependent, hreordered⟩ :=
    charts_are_independent hmanual hruns
  obtain ⟨-, rfl⟩ : allPackets = c ∧ [] = before := by
    have hsame := (context_packetChart sizesChannel flagItems sizeItems).symm.trans hcontext
    simpa using hsame
  have hknown : asked = [(p, flagChart "true"), (q, flagChart "false")] := by
    have hdrawn := congrArg Breakdown.charts hcharts
    rw [← List.zip_unzip asked, List.unzip_eq_map]
    simp only [List.nil_append] at hqueries
    simp only [← hqueries, ← show _ = asked.map Prod.snd from hdrawn]
    rfl
  subst hknown
  obtain ⟨asked', -, hruns'⟩ := hreordered _ hperm (by decide +kernel)
  obtain ⟨asked, hasked, hsame, hqueries', hshared⟩ := hindependent _ _ _ hruns'
  rw [hsame, hqueries'] at hruns'
  have hkeys' : breakdownKeys .ofPackets
      (selecting (packetChart flagItems sizeItems) flagItems.reverse) =
        [.text "false", .text "true"] := by decide +kernel
  rw [hkeys, hkeys'] at hshared
  rw [hkeys'] at hasked
  -- each flag keeps its query and its chart
  cases hasked with
  | @cons _ first _ rest _ hrest =>
    cases hrest with
    | @cons _ second _ rest _ hrest =>
      cases hrest
      obtain rfl := hshared (.text "false") (q, flagChart "false") first (by simp) (by simp)
      obtain rfl := hshared (.text "true") (p, flagChart "true") second (by simp) (by simp)
      exact ⟨hmanual, hperm, p, q, hruns, hruns'⟩

end Crosstab.View
