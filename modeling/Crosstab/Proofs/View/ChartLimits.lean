import Crosstab.Catalog
import Crosstab.Proofs.Pivot.Limits
import Crosstab.Proofs.View.TopN
import Crosstab.View.Run

/-!
# Limits of charts

Whatever a request for charts asks for and whatever the channel answers, every statement comes
together, with one exception: an axis that ranks its keys and asks for a negative number of them.
All other numbers are read or refused before anything is asked, and every limit in a query is at
least one.
-/

namespace Crosstab

open Crosstab.Filter Pivot Sql
open Session (Reply)

variable {limits : List Int} {c : Context}

/-! ## Values of rows -/

theorem Value.toReal?_yields (v : Value) :
    Outcome.Yields NotMiscompiled (fun _ => True) v.toReal? := by
  have hreal : Outcome.Yields NotMiscompiled (fun _ => True) v.toReal := by
    cases v with
    | int n =>
      rw [toReal]
      cases Number.Binary64.ofInt? n with
      | none => exact .error nofun
      | some x => exact .ok trivial
    | text s =>
      rw [toReal]
      cases Number.readReal s with
      | error f => exact .error nofun
      | ok x => exact .ok trivial
    | bool b => exact .ok trivial
    | real x => exact .ok trivial
    | decimal d => exact .ok trivial
    | _ => exact .error nofun
  cases v with
  | null => exact .ok trivial
  | _ => exact hreal.map fun _ _ => trivial

theorem Row.get_yields (column : String) (row : Row) :
    Outcome.Yields NotMiscompiled (fun _ => True) (row.get column) := by
  unfold Row.get
  split
  · exact .ok trivial
  · exact .error nofun

theorem columnOf_yields (column : String) (records : List Row) :
    Outcome.Yields NotMiscompiled (fun _ => True) (columnOf column records) :=
  (Outcome.Yields.mapM fun row _ => Row.get_yields column row).mono fun _ _ => trivial

theorem asKey_yields (v : Value) : Outcome.Yields NotMiscompiled (fun _ => True) (asKey v) := by
  unfold asKey
  split
  · exact .ok trivial
  · exact .error nofun

namespace Workspace

/-! ## Contexts -/

/-- The query of a ranking to one of the limits. -/
theorem topKeys_limited (hc : c.Sound) {extra : List Restriction} (hextra : ∀ r ∈ extra, r.Sound)
    (field : Value) (metric : Metric) {n : Int} (hn : n ∈ limits) (ranking : Ranking) :
    Outcome.Yields (LimitFault limits) (Limited limits)
      (c.topKeys field metric (.int n) extra ranking .null) := by
  have hsub : [n] ⊆ limits := List.cons_subset.2 ⟨hn, List.nil_subset _⟩
  refine ((Context.topKeys_yields hc hextra field metric n ranking).weaken fun _ he =>
    he.mono hsub).mono fun q hq => ?_
  exact .inr ⟨n, hn, hq⟩

theorem keys_yields {q : Fragment} (hq : Limited limits q) :
    (keys q).Yields (LimitFault limits) (Limited limits) fun _ => True :=
  (Session.Yields.records hq).bind fun records _ =>
    (Session.Yields.lift ((columnOf_yields keyColumn records).limited limits)).bind fun _ _ =>
      .done trivial

theorem metricIn_yields (metrics : List Metric) (t : TopN) :
    Outcome.Yields IsRejection (fun _ => True) (t.metricIn metrics) := by
  unfold TopN.metricIn
  split
  · exact reject_yields _ _
  · split
    · exact .ok trivial
    · dsimp only
      split
      · exact .ok trivial
      · exact reject_yields _ _

/-- A top-n filter asks for a ranking to its number. -/
theorem resolveTopN_yields (hc : c.Sound) (metrics : List Metric) {t : TopN} (ht : t.n ∈ limits) :
    (resolveTopN c metrics t).Yields (LimitFault limits) (Limited limits) Restriction.Sound := by
  have hmetric := (metricIn_yields metrics t).limited_of_rejection limits
  refine (Session.Yields.lift hmetric).bind fun metric _ => ?_
  have hquery := topKeys_limited hc (List.forall_mem_nil _) t.field metric ht t.ranking
  refine (Session.Yields.lift hquery).bind fun q hq => (keys_yields hq).bind fun found _ =>
    Session.Yields.lift ?_
  exact (Context.axisFilter_yields t.field found).limited_of_refuses limits

theorem resolveAll_yields (hc : c.Sound) (metrics : List Metric) {ts : List TopN}
    (hts : ∀ t ∈ ts, t.n ∈ limits) :
    (resolveAll c metrics ts).Yields (LimitFault limits) (Limited limits)
      fun rs => ∀ r ∈ rs, r.Sound := by
  induction ts with
  | nil => exact .done (List.forall_mem_nil _)
  | cons t ts ih =>
    obtain ⟨ht, hrest⟩ := List.forall_mem_cons.1 hts
    refine (resolveTopN_yields hc metrics ht).bind fun r hr => (ih hrest).bind fun rs hrs => ?_
    exact .done (List.forall_mem_cons.2 ⟨hr, hrs⟩)

/-- The top-n filters of a request. -/
def settingsOf (filters : Value) : List TopN :=
  match TopN.split filters with
  | .ok parts => parts.2
  | .error _ => []

/-- The failure is one of reading a request, or of a schema. -/
def IsRefused (w : Workspace) (e : Failure) : Prop :=
  IsUnread e ∨ ∃ layer, w.schemaOf layer = .error e

/-- The plain filters of a request come to a sound context, and its top-n filters are those of its
filter. -/
theorem plainContext_yields (w : Workspace) (r : Request) :
    Outcome.Yields w.IsRefused (fun p => p.1.Sound ∧ p.2 = settingsOf r.filters)
      (w.plainContext r) := by
  have hlayer : Outcome.Yields w.IsRefused (fun _ => True)
      (Layer.resolve r.layer ((w.settings.defaultLayer?.map .text).getD .null)) :=
    (Layer.resolve_unread _ _).weaken fun _ => .inl
  have hschema : Outcome.Yields w.IsRefused (fun _ => True) (w.schema r.layer) := by
    refine hlayer.bind fun layer _ => ?_
    cases hs : w.schemaOf layer with
    | ok schema => exact .ok trivial
    | error e => exact .error (.inr ⟨layer, hs⟩)
  refine hschema.bind fun schema _ => ?_
  have hsplit := (TopN.split_unread r.filters).weaken fun _ he => (.inl he : w.IsRefused _)
  refine hsplit.known.bind fun (entries, ts) hparts => ?_
  have hentries : ∀ s ∈ entries.map Restriction.entry, s.Sound := by
    intro s hs
    obtain ⟨e, -, rfl⟩ := List.mem_map.1 hs
    trivial
  have hmake := (make_yields schema w.settings r.time r.timeField hentries).unread.weaken
    fun _ he => (.inl he : w.IsRefused _)
  refine hmake.bind fun c hc => .ok ⟨hc, ?_⟩
  rw [settingsOf, hparts]

/-- No schema fails for a statement. -/
def HasSchemas (w : Workspace) : Prop :=
  ∀ layer e, w.schemaOf layer = .error e → NotMiscompiled e

/-- The schemas that tables tell are there or the layer is rejected. -/
theorem hasSchemas_of_tables (settings : Settings) (tables : Tables) :
    HasSchemas ⟨settings, tables.schema⟩ := by
  intro layer e he
  have hschema : Outcome.Yields IsRejection (fun _ => True) (tables.schema layer) := by
    unfold Tables.schema
    split
    · exact .ok trivial
    · exact reject_yields _ _
  exact IsUnread.notMiscompiled (.inl (hschema.of_error he))

theorem IsRefused.notMiscompiled {w : Workspace} (hw : w.HasSchemas) {e : Failure}
    (h : w.IsRefused e) : NotMiscompiled e :=
  h.elim IsUnread.notMiscompiled fun ⟨layer, hlayer⟩ => hw layer e hlayer

/-- The context of a request asks for the rankings of its top-n filters. -/
theorem context_yields {w : Workspace} (hw : w.HasSchemas) {r : Request} (metrics : List Metric)
    (hlimits : (settingsOf r.filters).map (·.n) ⊆ limits) :
    (w.context r metrics).Yields (LimitFault limits) (Limited limits) Context.Sound := by
  have hplain := (plainContext_yields w r).weaken fun _ he =>
    LimitFault.of_not (he.notMiscompiled hw) limits
  rw [context_eq]
  refine (Session.Yields.lift hplain).bind fun (c, ts) hparts => ?_
  obtain ⟨hc, rfl⟩ : c.Sound ∧ ts = settingsOf r.filters := hparts
  dsimp only
  split
  · exact .done hc
  · have hts : ∀ t ∈ settingsOf r.filters, t.n ∈ limits := fun t ht =>
      hlimits (List.mem_map_of_mem ht)
    refine (resolveAll_yields hc metrics hts).bind fun rs hrs => Session.Yields.lift ?_
    exact (withFilters_yields hc hrs).limited_of_rejection limits

/-- The number of keys that an axis asks for, no more than a bound. -/
def keyLimit (w : Workspace) (axis : Axis) (bound : Int) : Int :=
  min (axis.topN?.getD w.settings.defaultTopN) bound

/-- The keys of an axis that ranks them are asked for by their number. -/
theorem axisKeys_yields (w : Workspace) (hc : c.Sound) (axis : Axis) (metric : Metric)
    {bound : Int} (hlimit : axis.manual = false → w.keyLimit axis bound ∈ limits) :
    (w.axisKeys c axis metric bound).Yields (LimitFault limits) (Limited limits)
      fun _ => True := by
  have hfield := (c.schema.require_yields (.text axis.field)).limited_of_rejection limits
  refine (Session.Yields.lift hfield).bind fun _ _ => ?_
  cases hmanual : axis.manual with
  | true => exact .done trivial
  | false =>
    have hquery := topKeys_limited hc (List.forall_mem_nil _) (.text axis.field) metric
      (hlimit hmanual) axis.ranking
    exact (Session.Yields.lift hquery).bind fun q hq => keys_yields hq

/-- Where the ranking of an axis fails, so do its keys. -/
theorem axisKeys_of_error {w : Workspace} {axis : Axis} {metric : Metric} {bound : Int}
    {name : String} {e : Failure} (hname : c.schema.require (.text axis.field) = .ok name)
    (hranked : axis.manual = false)
    (hquery : c.topKeys (.text axis.field) metric (.int (w.keyLimit axis bound)) [] axis.ranking
      .null = .error e) : w.axisKeys c axis metric bound = .fail e := by
  show (Session.ofOutcome (c.schema.require (.text axis.field)) >>= fun _ =>
    if axis.manual then pure ((axis.manualKeys (some bound)).map .text) else
      Session.ofOutcome (c.topKeys (.text axis.field) metric (.int (w.keyLimit axis bound)) []
        axis.ranking .null) >>= keys) = _
  rw [hname, hranked, hquery]
  rfl

end Workspace

namespace View

open Workspace

/-! ## Cells -/

theorem checkKeys_yields (keys : List Value) :
    Outcome.Yields NotMiscompiled (fun _ => True) (checkKeys keys) := by
  induction keys with
  | nil => exact .ok trivial
  | cons k ks ih =>
    have hkey : Outcome.Yields NotMiscompiled (fun _ => True) (discard (asKey k)) :=
      (asKey_yields k).map fun _ _ => trivial
    exact hkey.bind fun _ _ => ih

theorem placeRow_yields (xKeys yKeys : List Value) (cells : Cells) (row : Row) :
    Outcome.Yields NotMiscompiled (fun _ => True) (placeRow xKeys yKeys cells row) := by
  have hplace : ∀ keys key, Outcome.Yields NotMiscompiled (fun _ => True) (placeIn keys key) :=
    fun _ key => (asKey_yields key).bind fun _ _ => .ok trivial
  refine (Row.get_yields _ row).bind fun x _ => (hplace xKeys x).bind fun x? _ => ?_
  refine (Row.get_yields _ row).bind fun y _ => (hplace yKeys y).bind fun y? _ => ?_
  split
  · refine (Row.get_yields _ row).bind fun v _ => ?_
    exact (Value.toReal?_yields v).bind fun _ _ => .ok trivial
  · exact .ok trivial

theorem placeRows_yields (xKeys yKeys : List Value) (records : List Row) :
    Outcome.Yields NotMiscompiled (fun _ => True) (placeRows xKeys yKeys records) :=
  Outcome.Yields.foldlM trivial fun cells _ row _ => placeRow_yields xKeys yKeys cells row

theorem rankedChart_yields (colKey : Value) (ranked : List Row) :
    Outcome.Yields NotMiscompiled (fun _ => True) (rankedChart colKey ranked) := by
  have hvalue : ∀ row ∈ ranked, Outcome.Yields NotMiscompiled (fun _ => True)
      (do (← Row.get metricColumn row).toReal?) := fun row _ =>
    (Row.get_yields _ row).bind fun v _ => Value.toReal?_yields v
  refine (columnOf_yields keyColumn ranked).bind fun categories _ => ?_
  exact (Outcome.Yields.mapM hvalue).bind fun values _ => .ok trivial

/-! ## Rankings of axes -/

/-- An axis with the most keys that are wanted of it, if its keys are ranked. -/
def rankedAxis (axis : Axis) (bound : Int) : List (Axis × Int) :=
  if axis.manual then [] else [(axis, bound)]

/-- A view of charts: one chart, or one for each column key. -/
inductive ChartView where
  | chart
  | breakdown

/-- The name of the view. -/
def ChartView.name : ChartView → ViewName
  | .chart => .chart
  | .breakdown => .breakdown

/-- The axes that a view ranks, with the most keys that are wanted of each. A breakdown ranks the
rows of each column key even if its row axis selects items. -/
def rankedAxes (w : Workspace) (r : ChartRequest) : ChartView → List (Axis × Int)
  | .chart => rankedAxis r.col (maxColumns w.settings r.chartType) ++
      rankedAxis r.row w.settings.chartMaxRows
  | .breakdown => rankedAxis r.col (maxCharts w.settings r.chartsPerRow) ++
      [(r.row, w.settings.chartMaxRows)]

/-- The limits of the rankings behind a view: the numbers of the top-n filters, and those of the
axes. -/
def limitsOf (w : Workspace) (r : ChartRequest) (view : ChartView) : List Int :=
  (settingsOf r.filters).map (·.n) ++ (rankedAxes w r view).map fun p => w.keyLimit p.1 p.2

theorem topN_mem_limits (w : Workspace) (r : ChartRequest) (view : ChartView) :
    (settingsOf r.filters).map (·.n) ⊆ limitsOf w r view :=
  List.subset_append_left _ _

theorem axis_mem_limits {w : Workspace} {r : ChartRequest} {view : ChartView} {axis : Axis}
    {bound : Int} (h : (axis, bound) ∈ rankedAxes w r view) :
    w.keyLimit axis bound ∈ limitsOf w r view :=
  List.mem_append_right _ (List.mem_map.2 ⟨(axis, bound), h, rfl⟩)

theorem mem_rankedAxis {axis : Axis} {bound : Int} (h : axis.manual = false) :
    (axis, bound) ∈ rankedAxis axis bound := by
  rw [rankedAxis, h]
  exact List.mem_cons_self

/-- Both axes are those of the request. -/
theorem axis_of_ranked {w : Workspace} {r : ChartRequest} {view : ChartView} {p : Axis × Int}
    (h : p ∈ rankedAxes w r view) : p.1 = r.col ∨ p.1 = r.row := by
  have hranked : ∀ {axis : Axis} {bound : Int}, p ∈ rankedAxis axis bound → p.1 = axis := by
    intro axis bound hp
    unfold rankedAxis at hp
    split at hp
    · cases hp
    · rw [List.mem_singleton.1 hp]
  cases view with
  | chart => exact (List.mem_append.1 h).imp hranked hranked
  | breakdown =>
    rcases List.mem_append.1 h with h | h
    · exact .inl (hranked h)
    · exact .inr (by rw [List.mem_singleton.1 h])

/-! ## Charts -/

theorem chart_yields {w : Workspace} (hw : w.HasSchemas) (r : ChartRequest) :
    (chart w r).Yields (LimitFault (limitsOf w r .chart)) (Limited (limitsOf w r .chart))
      fun _ => True := by
  refine (context_yields hw [r.metric] (topN_mem_limits w r .chart)).bind fun c hc => ?_
  refine (axisKeys_yields w hc r.col r.metric fun h => ?_).bind fun xKeys _ => ?_
  · exact axis_mem_limits (List.mem_append_left _ (mem_rankedAxis h))
  refine (axisKeys_yields w hc r.row r.metric fun h => ?_).bind fun yKeys _ => ?_
  · exact axis_mem_limits (List.mem_append_right _ (mem_rankedAxis h))
  split
  · exact .done trivial
  have hmatrix := (Context.matrix_yields hc (.text r.col.field) (.text r.row.field) r.metric xKeys
    yKeys).limited_of_refuses (limitsOf w r .chart)
  refine (Session.Yields.lift hmatrix).bind fun q hq => ?_
  refine (Session.Yields.lift ((checkKeys_yields xKeys).limited _)).bind fun _ _ => ?_
  refine (Session.Yields.lift ((checkKeys_yields yKeys).limited _)).bind fun _ _ => ?_
  refine (Session.Yields.records (.inl hq)).bind fun records _ => ?_
  exact (Session.Yields.lift ((placeRows_yields xKeys yKeys records).limited _)).bind fun _ _ =>
    .done trivial

/-- Where the column keys fail, so does a chart. -/
theorem chart_of_error {w : Workspace} {r : ChartRequest} {c : Context} {e : Failure}
    (hcontext : w.context r.toRequest [r.metric] = .done c)
    (hkeys : w.axisKeys c r.col r.metric (maxColumns w.settings r.chartType) = .fail e) :
    chart w r = .fail e := by
  rw [chart, hcontext, Session.done_bind, hkeys, Session.fail_bind]

/-! ## Breakdowns -/

theorem columnChart_yields (w : Workspace) {c : Context} (hc : c.Sound) (r : ChartRequest)
    (colKey : Value) :
    (columnChart w c r colKey).Yields (LimitFault (limitsOf w r .breakdown))
      (Limited (limitsOf w r .breakdown)) fun _ => True := by
  have hrow : w.keyLimit r.row w.settings.chartMaxRows ∈ limitsOf w r .breakdown :=
    axis_mem_limits (List.mem_append_right _ List.mem_cons_self)
  have hfilter := (Context.axisFilter_yields (c := c) (.text r.col.field)
    [colKey]).limited_of_refuses (limitsOf w r .breakdown)
  refine (Session.Yields.lift hfilter).bind fun restriction hr => ?_
  refine (Session.Yields.lift (topKeys_limited hc (List.forall_mem_singleton.2 hr)
    (.text r.row.field) r.metric hrow r.row.ranking)).bind fun q hq => ?_
  refine (Session.Yields.records hq).bind fun ranked _ => ?_
  exact Session.Yields.lift ((rankedChart_yields colKey ranked).limited _)

theorem columnCharts_yields (w : Workspace) {c : Context} (hc : c.Sound) (r : ChartRequest)
    (keys : List Value) :
    (columnCharts w c r keys).Yields (LimitFault (limitsOf w r .breakdown))
      (Limited (limitsOf w r .breakdown)) fun _ => True := by
  induction keys with
  | nil => exact .done trivial
  | cons key keys ih =>
    exact (columnChart_yields w hc r key).bind fun _ _ => ih.bind fun _ _ => .done trivial

theorem breakdown_yields {w : Workspace} (hw : w.HasSchemas) (r : ChartRequest) :
    (breakdown w r).Yields (LimitFault (limitsOf w r .breakdown))
      (Limited (limitsOf w r .breakdown)) fun _ => True := by
  refine (context_yields hw [r.metric] (topN_mem_limits w r .breakdown)).bind fun c hc => ?_
  refine (axisKeys_yields w hc r.col r.metric fun h => ?_).bind fun colKeys _ => ?_
  · exact axis_mem_limits (List.mem_append_left _ (mem_rankedAxis h))
  exact (columnCharts_yields w hc r colKeys).bind fun _ _ => .done trivial

/-! ## Numbers -/

/-- The limits and defaults of charts are at least one. -/
structure HasPositiveLimits (s : Settings) : Prop where
  columns : 1 ≤ s.chartMaxColumns
  pieColumns : 1 ≤ s.chartMaxColumnsMultiplePie
  rows : 1 ≤ s.chartMaxRows
  topN : 1 ≤ s.defaultTopN

/-- At least one key is wanted of each axis. -/
theorem bounds_pos {w : Workspace} (hpositive : HasPositiveLimits w.settings) (r : ChartRequest)
    (view : ChartView) : ∀ p ∈ rankedAxes w r view, 1 ≤ p.2 := by
  have hranked : ∀ {axis : Axis} {bound : Int}, 1 ≤ bound →
      ∀ p ∈ rankedAxis axis bound, 1 ≤ p.2 := by
    intro axis bound hbound p hp
    unfold rankedAxis at hp
    split at hp
    · cases hp
    · obtain rfl := List.mem_singleton.1 hp
      exact hbound
  have hcolumns : 1 ≤ maxColumns w.settings r.chartType := by
    unfold maxColumns
    split
    · exact hpositive.pieColumns
    · exact hpositive.columns
  have hcharts : 1 ≤ maxCharts w.settings r.chartsPerRow := by
    have hfull := hpositive.columns
    unfold maxCharts
    split <;> omega
  have hrows : 1 ≤ w.settings.chartMaxRows := hpositive.rows
  cases view with
  | chart => exact List.forall_mem_append.2 ⟨hranked hcolumns, hranked hrows⟩
  | breakdown =>
    exact List.forall_mem_append.2 ⟨hranked hcharts, List.forall_mem_singleton.2 hrows⟩

/-- A limit below one is a negative number of keys that an axis asks for. -/
theorem negative_of_keyLimit {w : Workspace} (hpositive : HasPositiveLimits w.settings)
    {axis : Axis} {bound : Int} (hbound : 1 ≤ bound) (hzero : axis.topN? ≠ some 0)
    (h : w.keyLimit axis bound < 1) :
    ∃ n < 0, axis.topN? = some n ∧ w.keyLimit axis bound = n := by
  have hdefault := hpositive.topN
  unfold keyLimit at h ⊢
  cases hn : axis.topN? with
  | none =>
    rw [hn, Option.getD_none] at h
    omega
  | some n =>
    rw [hn, Option.getD_some] at h
    have hne : n ≠ 0 := fun hn0 => hzero (hn0 ▸ hn)
    exact ⟨n, by omega, rfl, by rw [Option.getD_some]; omega⟩

/-- The numbers of a request as they are read: those of both axes, the number of charts in a row and
those of its enabled top-n filters. -/
def numbersOf (request : Value) : List (Outcome Int) :=
  match request with
  | .record members =>
    [Axis.numberIn "col" (memberOf members "col"), Axis.numberIn "row" (memberOf members "row"),
      ChartRequest.perRowIn members] ++
      TopN.numbersIn (memberOr members "filters" "filterModel")
  | _ => []

theorem numbersOf_yields (request : Value) : ∀ x ∈ numbersOf request,
    Outcome.Yields (fun e => IsRejection e ∨ IsNumeralFault e) (fun _ => True) x := by
  cases request with
  | record members =>
    simp only [numbersOf, List.cons_append, List.nil_append, List.forall_mem_cons]
    refine ⟨Axis.numberIn_yields _ _, Axis.numberIn_yields _ _, Value.toWhole_yields _ _ _ _, ?_⟩
    exact TopN.numbersIn_yields _
  | _ => exact nofun

/-! ## Views of charts -/

/-- The response of a view of charts to a request that is read. -/
def drawn (w : Workspace) (r : ChartRequest) : ChartView → Session Response
  | .chart => chart w r >>= fun c => pure (.chart c)
  | .breakdown => breakdown w r >>= fun b => pure (.breakdown b)

section Views

variable {w : Workspace} {r : ChartRequest} {view : ChartView} {request : Value}

theorem run_eq (w : Workspace) (view : ChartView) (request : Value) :
    view.name.run w request = (Session.ofOutcome (ViewName.recordOf request) >>= fun v =>
      Session.ofOutcome (ChartRequest.ofRequest v) >>= fun r => drawn w r view) := by
  cases view with
  | chart => rfl
  | breakdown => rfl

theorem drawn_yields (hw : w.HasSchemas) (r : ChartRequest) (view : ChartView) :
    (drawn w r view).Yields (LimitFault (limitsOf w r view)) (Limited (limitsOf w r view))
      fun _ => True := by
  cases view with
  | chart => exact (chart_yields hw r).bind fun _ _ => .done trivial
  | breakdown => exact (breakdown_yields hw r).bind fun _ _ => .done trivial

/-- Without a context, nothing is drawn. -/
theorem drawn_of_error {e : Failure} (h : w.plainContext r.toRequest = .error e) :
    drawn w r view = .fail e := by
  have hcontext : w.context r.toRequest [r.metric] = .fail e := by
    rw [context_eq, h]
    rfl
  cases view with
  | chart => rw [drawn, chart, hcontext, Session.fail_bind, Session.fail_bind]
  | breakdown => rw [drawn, breakdown, hcontext, Session.fail_bind, Session.fail_bind]

/-- The failures and the queries of a view of charts are those of a request that is read. -/
theorem run_yields (hw : w.HasSchemas) (view : ChartView) (request : Value) :
    (view.name.run w request).Yields
      (fun e => ∀ cause, e = .miscompiled cause → ∃ r, ChartRequest.ofRequest request = .ok r ∧
        ∃ n ∈ limitsOf w r view, n < 1 ∧ cause = .limit (Value.int n).display)
      (fun q => ∃ r, ChartRequest.ofRequest request = .ok r ∧ Limited (limitsOf w r view) q)
      fun _ => True := by
  rw [run_eq]
  cases request with
  | record members =>
    have hread := (ChartRequest.ofRequest_unread members)
    show (Session.ofOutcome (ChartRequest.ofRequest (.record members)) >>= fun r =>
      drawn w r view).Yields _ _ _
    cases hr : ChartRequest.ofRequest (.record members) with
    | error e => exact .fail fun cause he => absurd he ((hread.of_error hr).notMiscompiled cause)
    | ok r =>
      exact (drawn_yields hw r view).mono (fun e he cause hcause => ⟨r, rfl, he cause hcause⟩)
        (fun q hq => ⟨r, rfl, hq⟩) fun _ _ => trivial
  | _ => exact .fail fun cause he => nomatch he

/-- A number that cannot be read keeps everything from being asked. -/
theorem refused_of_number (w : Workspace) (view : ChartView) {x : Outcome Int}
    (hx : x ∈ numbersOf request) {e : Failure} (he : x = .error e) :
    ∃ d, view.name.run w request = .fail d ∧ w.IsRefused d := by
  rw [run_eq]
  cases request with
  | record members =>
    have hread := ChartRequest.ofRequest_unread members
    show ∃ d, (Session.ofOutcome (ChartRequest.ofRequest (.record members)) >>= fun r =>
      drawn w r view) = .fail d ∧ w.IsRefused d
    cases hr : ChartRequest.ofRequest (.record members) with
    | error d => exact ⟨d, rfl, .inl (hread.of_error hr)⟩
    | ok r =>
      have hnumbers := hread.of_ok hr
      have hplain := plainContext_yields w r.toRequest
      cases hcontext : w.plainContext r.toRequest with
      | error d => exact ⟨d, drawn_of_error hcontext, hplain.of_error hcontext⟩
      | ok p =>
        obtain ⟨_, -, hcontext⟩ := Outcome.bind_eq_ok.1 hcontext
        obtain ⟨parts, hparts, -⟩ := Outcome.bind_eq_ok.1 hcontext
        have hfilters := ((TopN.split_unread _).of_ok hparts).2
        rw [hnumbers.base] at hfilters
        obtain ⟨n, hn⟩ : ∃ n, x = .ok n := by
          rcases List.mem_append.1 hx with hx | hx
          · simp only [List.mem_cons, List.not_mem_nil, or_false] at hx
            rcases hx with rfl | rfl | rfl
            · exact hnumbers.col.imp fun _ h => h.1
            · exact hnumbers.row.imp fun _ h => h.1
            · exact ⟨_, hnumbers.perRow⟩
          · exact hfilters x hx
        exact nomatch hn.symm.trans he
  | _ => exact nomatch hx

/-- The limit that a statement fails for is the negative number of an axis that is ranked. -/
theorem negative_of_limit (hpositive : HasPositiveLimits w.settings)
    (hr : ChartRequest.ofRequest request = .ok r) {n : Int} (hn : n ∈ limitsOf w r view)
    (hleast : n < 1) : ∃ p ∈ rankedAxes w r view, n < 0 ∧ p.1.topN? = some n := by
  rcases List.mem_append.1 hn with hn | hn
  · -- the number of a top-n filter is at least one
    obtain ⟨t, ht, rfl⟩ := List.mem_map.1 hn
    unfold settingsOf at ht
    split at ht
    · next parts hparts =>
      have hkeeps := ((TopN.split_unread _).of_ok hparts).1 t ht
      omega
    · cases ht
  · obtain ⟨p, hp, rfl⟩ := List.mem_map.1 hn
    obtain ⟨members, -, hnumbers⟩ := ChartRequest.isRead_of_ofRequest hr
    have hzero : p.1.topN? ≠ some 0 := by
      rcases axis_of_ranked hp with h | h
      · exact h ▸ hnumbers.col.ne_zero
      · exact h ▸ hnumbers.row.ne_zero
    obtain ⟨n, hneg, htopN, hlimit⟩ :=
      negative_of_keyLimit hpositive (bounds_pos hpositive r view p hp) hzero hleast
    exact ⟨p, hp, hlimit ▸ hneg, hlimit ▸ htopN⟩

end Views

/-- A view of charts with positive limits fails for a statement only if it ranks the keys of an axis
whose number is negative, and it is the statement with that number. Every query it asks is without a
limit, or a ranking to a number of a top-n filter or of an axis, no more than its bound, that is at
least one. A number that cannot be read is rejected, unless it is a text that only looks like one;
either way nothing is asked. -/
theorem only_negative_numbers_miscompile (w : Workspace) (hw : w.HasSchemas)
    (hpositive : HasPositiveLimits w.settings) (view : ChartView) (request : Value)
    (replies : List Reply) :
    (∀ cause, ((view.name.run w request).replay replies).1 = .error (.miscompiled cause) →
      ∃ r, ChartRequest.ofRequest request = .ok r ∧ ∃ p ∈ rankedAxes w r view, ∃ n < 0,
        p.1.topN? = some n ∧ cause = .limit (Value.int n).display) ∧
    (∀ q ∈ ((view.name.run w request).replay replies).2,
      ∃ r, ChartRequest.ofRequest request = .ok r ∧ Limited (limitsOf w r view) q) ∧
    ∀ x ∈ numbersOf request, ∀ e, x = .error e → (IsRejection e ∨ IsNumeralFault e) ∧
      ∃ d, (view.name.run w request).replay replies = (.error d, []) ∧ w.IsRefused d := by
  have hrun := run_yields hw view request
  refine ⟨fun cause hcause => ?_, hrun.replay_queries replies, fun x hx e he => ?_⟩
  · rcases hrun.replay_error hcause with hlimit | ⟨_, _, hchannel⟩
    · obtain ⟨r, hr, n, hn, hleast, rfl⟩ := hlimit cause rfl
      obtain ⟨p, hp, hneg, htopN⟩ := negative_of_limit hpositive hr hn hleast
      exact ⟨r, hr, p, hp, n, hneg, htopN, rfl⟩
    · cases hchannel
  · obtain ⟨d, hfail, hrefused⟩ := refused_of_number w view hx he
    refine ⟨(numbersOf_yields request x hx).of_error he, d, ?_, hrefused⟩
    rw [hfail]
    rfl

/-! ## Packets -/

/-- A request for packets by port and size, with a number for each axis. -/
def byPortAndSize (ports sizes : Value) : Value :=
  .record [("layer", .text "TCP"),
    ("metric", .record [("agg", .text "count"), ("field", .text "size")]),
    ("col", .record [("field", .text "port"), ("topN", ports)]),
    ("row", .record [("field", .text "size"), ("topN", sizes)])]

/-- The same request as it is read. -/
def portsAndSizes (ports? sizes? : Option Int) : ChartRequest where
  layer := .text "TCP"
  time := .null
  filters := .null
  timeField := .null
  col := ⟨"port", false, ports?, .top, []⟩
  row := ⟨"size", false, sizes?, .top, []⟩
  metric := .countOf "size"
  chartType := .null
  chartsPerRow := 0

theorem hasSchemas_ofPackets : ofPackets.HasSchemas := nofun

theorem hasPositiveLimits_standard : HasPositiveLimits .standard where
  columns := by decide
  pieColumns := by decide
  rows := by decide
  topN := by decide

/-- The port that comes first, and its sizes. -/
def firstPort : List Reply :=
  [.ok (Rows.ofColumn keyColumn [.text "443"]),
    .ok ⟨[keyColumn, metricColumn], [[.text "40", .int 7]]⟩]

theorem packets_by_port_come_together :
    ofPackets.HasSchemas ∧ HasPositiveLimits ofPackets.settings ∧
    (∀ cause, ((ChartView.breakdown.name.run ofPackets (byPortAndSize (.text "2") (.int 7))).replay
      firstPort).1 ≠ .error (.miscompiled cause)) ∧
    ∀ q ∈ ((ChartView.breakdown.name.run ofPackets (byPortAndSize (.text "2") (.int 7))).replay
      firstPort).2, Limited [2, 5] q := by
  have hread : ChartRequest.ofRequest (byPortAndSize (.text "2") (.int 7)) =
      .ok (portsAndSizes (some 2) (some 7)) := by decide +kernel
  have hlimits : limitsOf ofPackets (portsAndSizes (some 2) (some 7)) .breakdown = [2, 5] := by
    decide +kernel
  have hnumbers : ∀ p ∈ rankedAxes ofPackets (portsAndSizes (some 2) (some 7)) .breakdown,
      ∀ n ∈ p.1.topN?, 0 ≤ n := by decide +kernel
  obtain ⟨hcauses, hqueries, -⟩ := only_negative_numbers_miscompile ofPackets hasSchemas_ofPackets
    hasPositiveLimits_standard .breakdown (byPortAndSize (.text "2") (.int 7)) firstPort
  refine ⟨hasSchemas_ofPackets, hasPositiveLimits_standard, fun cause hcause => ?_, fun q hq => ?_⟩
  · obtain ⟨r, hr, p, hp, n, hneg, htopN, -⟩ := hcauses cause hcause
    obtain rfl := Except.ok.inj (hr.symm.trans hread)
    exact absurd (hnumbers p hp n htopN) (Int.not_le.2 hneg)
  · obtain ⟨r, hr, hlimited⟩ := hqueries q hq
    obtain rfl := Except.ok.inj (hr.symm.trans hread)
    exact hlimits ▸ hlimited

/-- Minus one port is the statement that fails. -/
theorem negative_number_miscompiles :
    ofPackets.HasSchemas ∧ HasPositiveLimits ofPackets.settings ∧
    ∀ replies,
      (ChartView.chart.name.run ofPackets (byPortAndSize (.int (-1)) .null)).replay replies =
        (.error (.miscompiled (.limit "-1")), []) := by
  have hread : ChartRequest.ofRequest (byPortAndSize (.int (-1)) .null) =
      .ok (portsAndSizes (some (-1)) none) := by decide +kernel
  have hplain : ofPackets.plainContext (portsAndSizes (some (-1)) none).toRequest =
      .ok (allPackets, []) := by decide +kernel
  have hport : allPackets.schema.require (.text "port") = .ok "port" := by decide +kernel
  have hquery : allPackets.topKeys (.text "port") (.countOf "size") (.int (-1)) [] .top .null =
      .error (.miscompiled (.limit "-1")) := by decide +kernel
  have hcontext : ofPackets.context (portsAndSizes (some (-1)) none).toRequest [.countOf "size"] =
      .done allPackets := by
    rw [context_eq, hplain]
    rfl
  have hchart : chart ofPackets (portsAndSizes (some (-1)) none) =
      .fail (.miscompiled (.limit "-1")) :=
    chart_of_error hcontext (axisKeys_of_error hport rfl hquery)
  have hrun : ChartView.chart.name.run ofPackets (byPortAndSize (.int (-1)) .null) =
      .fail (.miscompiled (.limit "-1")) := by
    rw [run_eq]
    show (Session.ofOutcome (ChartRequest.ofRequest (byPortAndSize (.int (-1)) .null)) >>= fun r =>
      drawn ofPackets r .chart) = _
    rw [Session.lift_bind_ok hread, drawn, hchart, Session.fail_bind]
  refine ⟨hasSchemas_ofPackets, hasPositiveLimits_standard, fun replies => ?_⟩
  rw [hrun]
  rfl

end View

end Crosstab
