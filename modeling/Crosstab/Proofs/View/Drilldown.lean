import Crosstab.Proofs.Number.Bounded
import Crosstab.Proofs.View.Median
import Crosstab.Proofs.View.Series
import Mathlib.Order.Bounds.Basic

/-!
# Rows of a drilldown

The rows that come back for a drilldown are parted into series by their keys: each row is one point
of the one series of its key, and the points of a series are in the order of their rows. The medians
are those of the values of each series and of all of them, and the range of times is that of all
points.
-/

namespace Crosstab.View

open Number Pivot Sql
open Session (Reply)

/-! ## Summaries -/

/-- The value of the point is finite if there is one. -/
def Point.HasFinite (p : Point) : Prop :=
  ∀ x, p.value? = some x → ∃ s u, x = .finite s u

/-- The point has a time, and its value is finite if there is one. -/
structure Point.IsPlotted (p : Point) : Prop where
  time : ∃ t, p.time? = some t
  value : ∀ x, p.value? = some x → ∃ s u, x = .finite s u

/-- The times of all points. -/
def timesOf (series : List TimeSeries) : List (Option Int) :=
  series.flatMap fun s => s.points.map (·.time?)

/-- The medians are those of the values of each series and of all series, and the range of times is
that of all points. -/
structure Drilldown.Summarizes (d : Drilldown) : Prop where
  medians : ∀ s ∈ d.series, median s.values = .ok s.median?
  median : median (d.series.flatMap (·.values)) = .ok d.median?
  low : ∃ t, d.minTime? = some t ∧ IsLeast {t | some t ∈ timesOf d.series} t
  high : ∃ t, d.maxTime? = some t ∧ IsGreatest {t | some t ∈ timesOf d.series} t

theorem values_finite {s : TimeSeries} (h : ∀ p ∈ s.points, p.HasFinite) :
    ∀ v ∈ s.values, IsFinite v := by
  intro v hv
  obtain ⟨p, hp, hvalue⟩ := List.mem_filterMap.1 hv
  obtain ⟨x, hx, rfl⟩ := Option.map_eq_some_iff.1 hvalue
  obtain ⟨sign, u, rfl⟩ := h p hp x hx
  exact ⟨sign, u, rfl⟩

/-- Series of finite values come to a drilldown with their medians if the range of their times is
found. -/
theorem ofSeries_finite (timeField : String) (metric : Metric) {series : List TimeSeries}
    (hfinite : ∀ s ∈ series, ∀ p ∈ s.points, p.HasFinite) :
    ∃ (medianOf : TimeSeries → Option Binary64) (x? : Option Binary64),
      (∀ s ∈ series, median s.values = .ok (medianOf s)) ∧
      median (series.flatMap (·.values)) = .ok x? ∧
      Drilldown.ofSeries timeField metric series = (do
        let minTime? ← extremeTime min (timesOf series)
        let maxTime? ← extremeTime max (timesOf series)
        return ⟨timeField, metric, minTime?, maxTime?, x?,
          series.map fun s => { s with median? := medianOf s }⟩) := by
  have hmedians : ∀ s ∈ series, ∃ x?, median s.values = .ok x? := fun s hs =>
    median_of_finite (values_finite (hfinite s hs))
  choose! medianOf hmedianOf using hmedians
  have hseries : series.mapM TimeSeries.withMedian =
      .ok (series.map fun s => { s with median? := medianOf s }) :=
    Outcome.mapM_eq_map fun s hs => by
      rw [TimeSeries.withMedian, hmedianOf s hs]
      rfl
  obtain ⟨x?, hmedian⟩ : ∃ x?, median (series.flatMap (·.values)) = .ok x? := by
    refine median_of_finite fun v hv => ?_
    obtain ⟨s, hs, hv⟩ := List.mem_flatMap.1 hv
    exact values_finite (hfinite s hs) v hv
  -- a median changes neither the values of a series nor its times
  have hvalues : (series.map fun s => { s with median? := medianOf s }).flatMap (·.values) =
      series.flatMap (·.values) := List.flatMap_map ..
  have htimes : timesOf (series.map fun s => { s with median? := medianOf s }) = timesOf series :=
    List.flatMap_map ..
  refine ⟨medianOf, x?, hmedianOf, hmedian, ?_⟩
  unfold Drilldown.ofSeries
  rw [hseries]
  show (do
    let minTime? ← extremeTime min (timesOf _)
    let maxTime? ← extremeTime max (timesOf _)
    return Drilldown.mk timeField metric minTime? maxTime? (← median _) _) = _
  rw [htimes, hvalues, hmedian]
  rfl

/-- Series of plotted points come to a drilldown, which adds their medians and sums them up. -/
theorem ofSeries_plotted (timeField : String) (metric : Metric) {series : List TimeSeries}
    (hplotted : ∀ s ∈ series, ∀ p ∈ s.points, p.IsPlotted)
    (hsome : ∃ s ∈ series, s.points ≠ []) :
    ∃ d, Drilldown.ofSeries timeField metric series = .ok d ∧ d.Summarizes ∧
      ∃ medianOf : TimeSeries → Option Binary64,
        d.series = series.map fun s => { s with median? := medianOf s } := by
  obtain ⟨medianOf, x?, hmedianOf, hmedian, hofSeries⟩ :=
    ofSeries_finite timeField metric fun s hs p hp => (hplotted s hs p hp).value
  obtain ⟨low, high, hlow, hhigh, hleast, hgreatest⟩ :
      ∃ low high, extremeTime min (timesOf series) = .ok (some low) ∧
        extremeTime max (timesOf series) = .ok (some high) ∧
        IsLeast {t | some t ∈ timesOf series} low ∧
        IsGreatest {t | some t ∈ timesOf series} high := by
    refine extremeTimes (fun t? ht => ?_) fun hnone => ?_
    · obtain ⟨s, hs, ht⟩ := List.mem_flatMap.1 ht
      obtain ⟨p, hp, rfl⟩ := List.mem_map.1 ht
      exact (hplotted s hs p hp).time
    · obtain ⟨s, hs, hpoints⟩ := hsome
      exact hpoints (List.map_eq_nil_iff.1 (List.flatMap_eq_nil_iff.1 hnone s hs))
  rw [hlow, hhigh] at hofSeries
  have hvalues : (series.map fun s => { s with median? := medianOf s }).flatMap (·.values) =
      series.flatMap (·.values) := List.flatMap_map ..
  have htimes : timesOf (series.map fun s => { s with median? := medianOf s }) = timesOf series :=
    List.flatMap_map ..
  refine ⟨⟨timeField, metric, some low, some high, x?, _⟩, hofSeries, ⟨?_, ?_, ?_, ?_⟩, medianOf,
    rfl⟩
  · exact List.forall_mem_map.2 hmedianOf
  · exact (congrArg median hvalues).trans hmedian
  · exact ⟨low, rfl, htimes ▸ hleast⟩
  · exact ⟨high, rfl, htimes ▸ hgreatest⟩

/-! ## Rows and their points -/

/-- What a row of the query for series has. -/
structure SeriesRow where
  key : Value
  time : Value
  value : Value

/-- The row of a query for series. -/
def SeriesRow.toRow (row : SeriesRow) : Row :=
  [(rowColumn, row.key), (timeColumn, row.time), (metricColumn, row.value)]

/-- The rows that a query for series returns. -/
def seriesRows (rows : List SeriesRow) : Rows :=
  ⟨[rowColumn, timeColumn, metricColumn], rows.map fun row => [row.key, row.time, row.value]⟩

theorem records_seriesRows (rows : List SeriesRow) :
    (seriesRows rows).records = rows.map SeriesRow.toRow := by
  simp only [Rows.records, seriesRows, List.map_map]
  refine List.map_congr_left fun row _ => ?_
  rfl

namespace SeriesRow

/-- The row has a key, a number of seconds for its time, and a finite number for its metric if it
has one. -/
structure IsPlottable (row : SeriesRow) : Prop where
  key : row.key.IsProperKey
  time : row.time.IsSeconds
  value : row.value = .null ∨ ∃ s u, row.value.toReal = .ok (.finite s u)

/-- The point has the time of the row in milliseconds and its metric. -/
structure ShownAs (row : SeriesRow) (p : Point) : Prop where
  time : row.time.epochMillis = .ok p.time?
  value : row.value.toReal? = .ok p.value?

variable {row : SeriesRow} {p : Point}

theorem IsPlottable.exists_point (h : row.IsPlottable) : ∃ p, row.ShownAs p := by
  obtain ⟨t, ht⟩ := h.time.epochMillis
  rcases h.value with hnull | ⟨s, u, hreal⟩
  · exact ⟨⟨some t, none⟩, ht, Value.toReal?_eq_none_iff.2 hnull⟩
  · exact ⟨⟨some t, some (.finite s u)⟩, ht, Value.toReal?_of_toReal hreal⟩

theorem ShownAs.isPlotted (h : row.ShownAs p) (hrow : row.IsPlottable) : p.IsPlotted where
  time := by
    obtain ⟨t, ht⟩ := hrow.time.epochMillis
    exact ⟨t, Except.ok.inj (h.time.symm.trans ht)⟩
  value x hx := by
    have hvalue := h.value
    rw [hx] at hvalue
    rcases hrow.value with hnull | ⟨s, u, hreal⟩
    · rw [hnull] at hvalue
      cases hvalue
    · rw [Value.toReal?_of_toReal hreal] at hvalue
      exact ⟨s, u, (Option.some.inj (Except.ok.inj hvalue)).symm⟩

theorem ShownAs.pointOf_eq (h : row.ShownAs p) (hkey : row.key.isKey = true) :
    pointOf row.toRow = .ok (row.key, p) := by
  have hcolumn : row.toRow.get rowColumn = .ok row.key := rfl
  have htime : row.toRow.get timeColumn = .ok row.time := rfl
  have hmetric : row.toRow.get metricColumn = .ok row.value := rfl
  have hasKey : asKey row.key = .ok row.key := if_pos hkey
  unfold pointOf
  rw [hcolumn, htime, hmetric]
  simp only [bind, Except.bind, pure, Except.pure, hasKey, h.time, h.value]

end SeriesRow

/-! ## Drilldowns of rows -/

section Rows

variable {answer : Fragment → Reply} {w : Workspace} {r : DrilldownRequest} {c : Context}
  {qs : List Fragment} {q : Fragment} {rows : List SeriesRow}

/-- The request comes to its query for series, after the queries of its context. -/
structure AsksFor (answer : Fragment → Reply) (w : Workspace) (r : DrilldownRequest)
    (qs : List Fragment) (c : Context) (q : Fragment) : Prop where
  bucket : checkBucket r.timeBucket = .ok ()
  context : Runs answer (w.context r.toRequest [r.metric]) c qs
  column : ∃ name, c.schema.require r.colField = .ok name
  series : ∃ extra, selection c r = .ok extra ∧
    c.timeSeries r.rowField r.metric r.timeBucket extra = .ok q

/-- What a drilldown does with the rows of its series. -/
def drilldownOf (r : DrilldownRequest) (c : Context) (records : List Row) : Outcome Drilldown := do
  let series ← seriesOf records
  Drilldown.ofSeries c.timeField r.metric
    (orderSeries (r.rowKeys.map Filter.normalizeKey) series)

/-- A drilldown asks its query and makes of the rows what it can. -/
theorem AsksFor.leads (h : AsksFor answer w r qs c q) {rows : Rows} (hrows : answer q = .ok rows) :
    Leads answer (drilldown w r) (qs ++ [q])
      (Session.ofOutcome (drilldownOf r c rows.records)) := by
  obtain ⟨name, hcolumn⟩ := h.column
  obtain ⟨extra, hextra, hq⟩ := h.series
  refine (Runs.lift h.bucket).leads (h.context.leads ?_)
  refine (Runs.lift hcolumn).leads ((Runs.lift hextra).leads ((Runs.lift hq).leads ?_))
  show Leads answer (Session.records q >>= _) ([q] ++ []) _
  refine (Runs.records hrows).leads ?_
  rw [drilldownOf, ← Session.lift_bind_lift]
  exact Leads.refl _

theorem AsksFor.runs (h : AsksFor answer w r qs c q) {rows : Rows} (hrows : answer q = .ok rows)
    {d : Drilldown} (hd : drilldownOf r c rows.records = .ok d) :
    Runs answer (drilldown w r) d (qs ++ [q]) := by
  rw [← List.append_nil (qs ++ [q])]
  exact (h.leads hrows).runs (Runs.lift hd)

/-- The series are those of the rows by their keys: one for each distinct key, in the order of the
selected keys and then as the keys come up, and each with the points of the rows of its key in their
order. -/
structure Parts (selected : List String) (rows : List SeriesRow) (series : List TimeSeries) :
    Prop where
  order : series.map (·.rowKey) = inSelectedOrder selected (distinctKeys (rows.map (·.key)))
  distinct : series.Pairwise fun s t => s.rowKey.equals t.rowKey = false
  covers : ∀ row ∈ rows, ∃ s ∈ series, s.rowKey.equals row.key = true
  points : ∀ s ∈ series, s.rowKey ∈ rows.map (·.key) ∧
    List.Forall₂ SeriesRow.ShownAs (rows.filter fun row => s.rowKey.equals row.key) s.points

/-- The medians of series have no part in it. -/
theorem Parts.withMedians {selected : List String} {series : List TimeSeries}
    (h : Parts selected rows series) (medianOf : TimeSeries → Option Binary64) :
    Parts selected rows (series.map fun s => { s with median? := medianOf s }) where
  order := by
    rw [List.map_map]
    exact h.order
  distinct := List.pairwise_map.2 h.distinct
  covers row hrow := by
    obtain ⟨s, hs, hequal⟩ := h.covers row hrow
    exact ⟨_, List.mem_map_of_mem hs, hequal⟩
  points := List.forall_mem_map.2 h.points

/-- The series of points are parted by the keys of their rows. -/
theorem parts_gathered {selected : List String} (hselected : selected.Nodup)
    (hrows : ∀ row ∈ rows, row.IsPlottable) {pointAt : SeriesRow → Point}
    (hshown : ∀ row ∈ rows, row.ShownAs (pointAt row)) :
    Parts selected rows (orderSeries selected
      (gathered (rows.map fun row => (row.key, pointAt row)))) := by
  have hkeys : (rows.map fun row => (row.key, pointAt row)).map (·.1) = rows.map (·.key) := by
    rw [List.map_map]
    rfl
  have hproper : ∀ k ∈ rows.map (·.key), k.IsProperKey :=
    List.forall_mem_map.2 fun row hrow => (hrows row hrow).key
  have hpoints : ∀ k, pointsOf (rows.map fun row => (row.key, pointAt row)) k =
      (rows.filter fun row => k.equals row.key).map pointAt := fun k => by
    rw [pointsOf, List.filter_map, List.map_map]
    rfl
  have hperm := inSelectedOrder_perm hselected (nodup_distinctKeys hproper)
  rw [orderSeries_gathered hselected (hkeys.symm ▸ hproper), hkeys]
  refine ⟨?_, ?_, fun row hrow => ?_, List.forall_mem_map.2 fun k hk => ⟨?_, ?_⟩⟩
  · rw [List.map_map]
    exact List.map_id _
  · exact List.pairwise_map.2 (inSelectedOrder_pairwise hselected hproper)
  · obtain ⟨k, hk, hequal⟩ := isIn_iff.1 (isIn_distinctKeys hproper (List.mem_map_of_mem hrow))
    exact ⟨_, List.mem_map_of_mem (hperm.mem_iff.2 hk), hequal⟩
  · exact mem_of_mem_distinctKeys (hperm.mem_iff.1 hk)
  · show List.Forall₂ _ _ (pointsOf _ k)
    rw [hpoints]
    refine List.forall₂_map_right_iff.2 (List.forall₂_same.2 fun row hrow => ?_)
    exact hshown row (List.mem_filter.1 hrow).1

/-- The points of parted rows are plotted, and if there are rows there are points. -/
theorem Parts.isPlotted {selected : List String} {series : List TimeSeries}
    (h : Parts selected rows series) (hrows : ∀ row ∈ rows, row.IsPlottable) :
    ∀ s ∈ series, ∀ p ∈ s.points, p.IsPlotted := by
  intro s hs p hp
  have hshown := (h.points s hs).2
  obtain ⟨i, hi, rfl⟩ := List.getElem_of_mem hp
  have hplace : i < (rows.filter fun row => s.rowKey.equals row.key).length :=
    hshown.length_eq ▸ hi
  exact (hshown.get hplace hi).isPlotted
    (hrows _ (List.mem_filter.1 (List.get_mem _ ⟨i, hplace⟩)).1)

theorem Parts.exists_points {selected : List String} {series : List TimeSeries}
    (h : Parts selected rows series) (hnonempty : rows ≠ []) : ∃ s ∈ series, s.points ≠ [] := by
  obtain ⟨row, hrow⟩ := List.exists_mem_of_ne_nil rows hnonempty
  obtain ⟨s, hs, hequal⟩ := h.covers row hrow
  refine ⟨s, hs, fun hnone => ?_⟩
  have hshown := (h.points s hs).2
  rw [hnone, List.forall₂_nil_right_iff, List.filter_eq_nil_iff] at hshown
  exact hshown row hrow hequal

/-- The rows of a drilldown are parted into series by their keys: no row is lost, doubled or out of
its place. The medians and the range of times are those of the points of these series. -/
theorem rows_are_parted_into_series (hasks : AsksFor answer w r qs c q)
    (hselected : (r.rowKeys.map Filter.normalizeKey).Nodup)
    (hanswer : answer q = .ok (seriesRows rows)) (hnonempty : rows ≠ [])
    (hrows : ∀ row ∈ rows, row.IsPlottable) :
    ∃ d, Runs answer (drilldown w r) d (qs ++ [q]) ∧
      Parts (r.rowKeys.map Filter.normalizeKey) rows d.series ∧ d.Summarizes := by
  have hexists : ∀ row ∈ rows, ∃ p, row.ShownAs p := fun row hrow => (hrows row hrow).exists_point
  have hpoint : Nonempty Point := ⟨⟨none, none⟩⟩
  choose! pointAt hshown using hexists
  have hparts := parts_gathered hselected hrows hshown
  have hseries : seriesOf (seriesRows rows).records =
      .ok (gathered (rows.map fun row => (row.key, pointAt row))) := by
    rw [records_seriesRows]
    refine seriesOf_points ?_ ?_
    · refine List.forall₂_map_left_iff.2 (List.forall₂_map_right_iff.2 (List.forall₂_same.2 ?_))
      exact fun row hrow => (hshown row hrow).pointOf_eq (hrows row hrow).key.1
    · rw [List.map_map]
      exact List.forall_mem_map.2 fun row hrow => (hrows row hrow).key
  obtain ⟨d, hd, hsummarizes, medianOf, hmedians⟩ := ofSeries_plotted c.timeField r.metric
    (hparts.isPlotted hrows) (hparts.exists_points hnonempty)
  refine ⟨d, hasks.runs hanswer ?_, ?_, hsummarizes⟩
  · exact Outcome.bind_eq_ok.2 ⟨_, hseries, hd⟩
  · rw [hmedians]
    exact hparts.withMedians medianOf

end Rows

/-! ### Packets of two ports -/

/-- A drilldown to the numbers of packets of two ports by the minute. -/
def packetsByPort : DrilldownRequest where
  layer := .text "TCP"
  time := .null
  filters := .null
  timeField := .text "time"
  colField := .text "syn"
  rowField := .text "port"
  selectedColKey := .text "true"
  rowKeys := [.int 80, .text "443"]
  metric := .countOf "size"
  timeBucket := .text "minute"

/-- All packets by their time. -/
def timedPackets : Context :=
  { allPackets with timeField := "time" }

/-- The restrictions to packets with the flag and of the two ports. -/
def flaggedPorts : List Restriction :=
  [.entry (.checkbox (.text "syn") [.text "true"]),
    .entry (.checkbox (.text "port") [.text "80", .text "443"])]

/-- The packets of two ports in turn; one count is missing. -/
def portMinutes : List SeriesRow :=
  [⟨.text "443", .int 60, .int 7⟩, ⟨.text "80", .int 60, .null⟩, ⟨.text "443", .int 120, .int 5⟩,
    ⟨.text "80", .int 180, .int 2⟩]

theorem isPlottable_portMinutes : ∀ row ∈ portMinutes, row.IsPlottable := by
  have hkey : ∀ s : String, (Value.text s).IsProperKey := fun s =>
    ⟨rfl, (Value.equals_text s _).2 rfl⟩
  have htime : ∀ n : Int, n.natAbs < 1000 → (Value.int n).IsSeconds := fun n hn =>
    ⟨n, 1, rfl, Nat.lt_of_lt_of_le hn (by decide)⟩
  simp only [portMinutes, List.forall_mem_cons]
  refine ⟨?_, ?_, ?_, ?_, nofun⟩
  · exact ⟨hkey _, htime _ (by decide), .inr (Value.toReal_int_finite (by decide))⟩
  · exact ⟨hkey _, htime _ (by decide), .inl rfl⟩
  · exact ⟨hkey _, htime _ (by decide), .inr (Value.toReal_int_finite (by decide))⟩
  · exact ⟨hkey _, htime _ (by decide), .inr (Value.toReal_int_finite (by decide))⟩

/-- The request comes to its query on any channel. -/
theorem packetsByPort_asks (answer : Fragment → Reply) :
    ∃ q, AsksFor answer Workspace.ofPackets packetsByPort [] timedPackets q := by
  obtain ⟨q, hq⟩ : ∃ q, timedPackets.timeSeries packetsByPort.rowField packetsByPort.metric
      packetsByPort.timeBucket flaggedPorts = .ok q := by
    have hsound : timedPackets.Sound := nofun
    have hentries : ∀ e ∈ flaggedPorts, e.Sound :=
      List.forall_mem_cons.2 ⟨trivial, List.forall_mem_singleton.2 trivial⟩
    obtain ⟨base, hbase⟩ : ∃ base, timedPackets.baseWhere = .ok base :=
      Outcome.isOk_iff.1 (by decide +kernel)
    obtain ⟨p?, hp⟩ : ∃ p?, timedPackets.scope.entries (Context.parts flaggedPorts).1 .null =
        .ok p? := Outcome.isOk_iff.1 (by decide +kernel)
    obtain ⟨f, hf, hbalanced⟩ := Context.whereWith_builds hsound hentries hbase hp
    have htime : timedPackets.schema.column (.text "time") = .ok "t.\"time\"" := by decide +kernel
    have hport : timedPackets.schema.column (.text "port") = .ok "t.\"port\"" := by decide +kernel
    have hstart : bucketExpr "t.\"time\"" (timedPackets.schema.temporalKind? (.text "time"))
        (.text "minute") = .ok "FLOOR(epoch(t.\"time\") / 60) * 60" := by decide +kernel
    have hcount : (Metric.countOf "size").expr timedPackets.schema = .ok "COUNT(*)" := by
      decide +kernel
    exact Context.timeSeries_builds htime hstart (Context.key_of_column hport) hcount hf hbalanced
  have hplain : Workspace.ofPackets.plainContext packetsByPort.toRequest =
      .ok (timedPackets, []) := by
    show Workspace.ofPackets.plainContext ⟨.text "TCP", .null, .null, .text "time"⟩ = _
    decide +kernel
  refine ⟨q, by decide +kernel, ?_, ⟨"syn", by decide +kernel⟩, flaggedPorts, by decide +kernel, hq⟩
  rw [Workspace.context_eq, hplain]
  exact Runs.done _

/-- The series of the two ports, by the order of the selected keys. -/
def portSeries : Drilldown where
  timeField := "time"
  metric := .countOf "size"
  minTime? := some 60000
  maxTime? := some 180000
  median? := some (.ofWhole 5)
  series := [
    ⟨.text "80", [⟨some 60000, none⟩, ⟨some 180000, some (.ofWhole 2)⟩], some (.ofWhole 2)⟩,
    ⟨.text "443", [⟨some 60000, some (.ofWhole 7)⟩, ⟨some 120000, some (.ofWhole 5)⟩],
      some (.ofWhole 6)⟩]

/-- The series of the two ports as their points come up. -/
def portPoints : List TimeSeries :=
  [⟨.text "443", [⟨some 60000, some (.ofWhole 7)⟩, ⟨some 120000, some (.ofWhole 5)⟩], none⟩,
    ⟨.text "80", [⟨some 60000, none⟩, ⟨some 180000, some (.ofWhole 2)⟩], none⟩]

theorem orderSeries_portPoints : orderSeries ["80", "443"] portPoints = portPoints.reverse := by
  have hfirst : rankOf ["80", "443"] portPoints[0] = 1 := by decide +kernel
  have hsecond : rankOf ["80", "443"] portPoints[1] = 0 := by decide +kernel
  show [portPoints[0], portPoints[1]].mergeSort _ = [portPoints[1], portPoints[0]]
  simp [List.mergeSort, hfirst, hsecond]

/-- The one value of a series is its median, the midpoint of two is theirs. -/
theorem withMedian_portPoints :
    portPoints.reverse.mapM TimeSeries.withMedian = .ok portSeries.series := by
  have hone : median [.real (.ofWhole 2)] = .ok (some (.ofWhole 2)) := by
    have hperm : ([] ++ 2 :: [] : List Int).Perm [2] := .refl _
    exact median_integers_of_one (.cons (.binary 2) .nil) hperm (by decide) rfl (by decide)
  have htwo : median [.real (.ofWhole 7), .real (.ofWhole 5)] = .ok (some (.ofWhole 6)) := by
    have hperm : ([] ++ 5 :: 7 :: [] : List Int).Perm [7, 5] := by decide
    have hhalf : Binary64.halfOf (5 + 7) = .ofWhole 6 := by decide +kernel
    rw [← hhalf]
    exact median_integers_of_two (.cons (.binary 7) (.cons (.binary 5) .nil)) hperm (by decide) rfl
      (by decide) (by decide)
  have hfirst : portPoints[1].withMedian = .ok portSeries.series[0] := by
    show (do return TimeSeries.mk _ _ (← median [.real (.ofWhole 2)])) = _
    rw [hone]
    rfl
  have hsecond : portPoints[0].withMedian = .ok portSeries.series[1] := by
    show (do return TimeSeries.mk _ _ (← median [.real (.ofWhole 7), .real (.ofWhole 5)])) = _
    rw [htwo]
    rfl
  exact Outcome.mapM_of_forall₂ (.cons hfirst (.cons hsecond .nil))

theorem drilldownOf_portMinutes :
    drilldownOf packetsByPort timedPackets (seriesRows portMinutes).records = .ok portSeries := by
  have hpoints : seriesOf (seriesRows portMinutes).records = .ok portPoints := by decide +kernel
  have hkeys : packetsByPort.rowKeys.map Filter.normalizeKey = ["80", "443"] := by decide +kernel
  have hmedian : median [.real (.ofWhole 2), .real (.ofWhole 7), .real (.ofWhole 5)] =
      .ok (some (.ofWhole 5)) := by
    have hperm : ([2] ++ 5 :: [7] : List Int).Perm [2, 7, 5] := by decide
    exact median_integers_of_one (.cons (.binary 2) (.cons (.binary 7) (.cons (.binary 5) .nil)))
      hperm (by decide) rfl (by decide)
  rw [drilldownOf, hpoints, hkeys]
  show Drilldown.ofSeries "time" _ (orderSeries _ portPoints) = _
  rw [orderSeries_portPoints, Drilldown.ofSeries, withMedian_portPoints]
  show (do
    return Drilldown.mk "time" _ (some 60000) (some 180000)
      (← median [.real (.ofWhole 2), .real (.ofWhole 7), .real (.ofWhole 5)]) _) = _
  rw [hmedian]
  rfl

theorem packets_of_ports_are_parted :
    ∃ q, AsksFor (fun _ => .ok (seriesRows portMinutes)) Workspace.ofPackets packetsByPort []
        timedPackets q ∧
      (packetsByPort.rowKeys.map Filter.normalizeKey).Nodup ∧
      Runs (fun _ => .ok (seriesRows portMinutes)) (drilldown Workspace.ofPackets packetsByPort)
        portSeries [q] ∧
      Parts ["80", "443"] portMinutes portSeries.series ∧ portSeries.Summarizes := by
  have hkeys : packetsByPort.rowKeys.map Filter.normalizeKey = ["80", "443"] := by decide +kernel
  have hnodup : (packetsByPort.rowKeys.map Filter.normalizeKey).Nodup := by
    rw [hkeys]
    decide
  obtain ⟨q, hasks⟩ := packetsByPort_asks fun _ => .ok (seriesRows portMinutes)
  obtain ⟨d, hruns, hparts, hsummarizes⟩ :=
    rows_are_parted_into_series hasks hnodup rfl (List.cons_ne_nil _ _) isPlottable_portMinutes
  obtain rfl : d = portSeries := by
    simpa using hruns.symm.trans (hasks.runs rfl drilldownOf_portMinutes)
  rw [hkeys] at hparts
  exact ⟨q, hasks, hnodup, hruns, hparts, hsummarizes⟩

end Crosstab.View
