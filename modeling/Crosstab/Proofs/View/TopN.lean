import Crosstab.Proofs.Pivot.Conjuncts
import Crosstab.Proofs.View.Workspace

/-!
# Top-n filters are independent

Each top-n filter of a request is answered by a query over the plain filters alone. So its query is
the one that is asked when all other top-n filters are disabled, and the context that comes of them
keeps the plain conditions and holds one restriction more for each of them.
-/

namespace Crosstab

open Crosstab.Filter Pivot Sql
open Session (Reply)

/-! ## Filter lists -/

namespace Pivot.TopN

/-- The plain filter in an item of a filter list. -/
def plainPart (item : Value) : Option Value :=
  match splitItem item with
  | .ok parts => parts.1
  | .error _ => none

/-- The enabled setting in an item of a filter list. -/
def setting? (item : Value) : Option TopN :=
  match splitItem item with
  | .ok parts => parts.2
  | .error _ => none

/-- The setting in the item is valid if it is enabled. -/
def IsValid (item : Value) : Prop :=
  (splitItem item).isOk = true

instance (item : Value) : Decidable (IsValid item) :=
  inferInstanceAs (Decidable ((splitItem item).isOk = true))

/-- The item with its setting disabled. -/
def disable (item : Value) : Value :=
  match item with
  | .record members =>
    match (valueOf? "topN" members).getD .null with
    | .record setting =>
      .record (setNamed "topN" (.record (setNamed "enabled" (.bool false) setting)) members)
    | _ => item
  | _ => item

theorem splitItem_of_valid {item : Value} (h : IsValid item) :
    splitItem item = .ok (plainPart item, setting? item) := by
  obtain ⟨parts, hparts⟩ := Outcome.isOk_iff.1 h
  rw [plainPart, setting?, hparts]

/-- A list with valid settings is split into the plain filters and the settings. -/
theorem split_list {items : List Value} (h : ∀ item ∈ items, IsValid item) :
    split (.list items) = (do
      return (← readEntries (.list (items.filterMap plainPart)), items.filterMap setting?)) := by
  have hparts : items.mapM splitItem =
      .ok (items.map fun item => (plainPart item, setting? item)) :=
    Outcome.mapM_eq_map fun item hitem => splitItem_of_valid (h item hitem)
  unfold split
  simp only [hparts, bind, Except.bind, List.filterMap_map]
  rfl

/-- An item holds a setting, or it is a plain filter. -/
theorem item_cases (item : Value) :
    (∃ members setting, item = .record members ∧
      (valueOf? "topN" members).getD .null = .record setting) ∨
    (disable item = item ∧ splitItem item = .ok (some item, none)) := by
  cases item with
  | record members =>
    cases hsetting : (valueOf? "topN" members).getD .null with
    | record setting => exact .inl ⟨members, setting, rfl, hsetting⟩
    | _ => exact .inr ⟨by simp only [disable, hsetting], by simp only [splitItem, hsetting]⟩
  | _ => exact .inr ⟨rfl, rfl⟩

/-- Without its setting the item is a plain filter, if it is one at all. -/
theorem plainPart_of_split {members setting : List (String × Value)} {plain? : Option Value}
    {topN? : Option TopN} (hsetting : (valueOf? "topN" members).getD .null = .record setting)
    (h : splitItem (.record members) = .ok (plain?, topN?)) :
    plain? = if isPlain (members.filter (·.1 != "topN")) then
      some (.record (members.filter (·.1 != "topN"))) else none := by
  unfold splitItem at h
  simp only [hsetting] at h
  split at h
  · obtain ⟨t?, -, hpure⟩ := Outcome.bind_eq_ok.1 h
    exact (congrArg Prod.fst (Outcome.pure_eq_ok.1 hpure)).symm
  · obtain ⟨t?, -, hpure⟩ := Outcome.bind_eq_ok.1 h
    exact (congrArg Prod.fst (Outcome.pure_eq_ok.1 hpure)).symm

/-- A disabled setting is none, and leaves the plain filter as it is. -/
theorem splitItem_disable {item : Value} (h : IsValid item) :
    splitItem (disable item) = .ok (plainPart item, none) := by
  rcases item_cases item with ⟨members, setting, rfl, hsetting⟩ | ⟨hsame, hplain⟩
  · rw [plainPart_of_split hsetting (splitItem_of_valid h)]
    unfold disable splitItem
    simp only [hsetting, valueOf?_setNamed, filter_setNamed, Option.getD_some, Value.truthy,
      Bool.false_eq_true, if_false]
    rfl
  · have hpart : plainPart item = some item := by rw [plainPart, hplain]
    rw [hsame, hplain, hpart]

end Pivot.TopN

/-- The request with a filter list. -/
def Pivot.Request.withItems (r : Request) (items : List Value) : Request :=
  { r with filters := .list items }

namespace Workspace

variable {c : Context} {metrics : List Metric}

/-! ## Queries of settings -/

/-- The query of a setting over the rows of a context. -/
def ranking (c : Context) (metrics : List Metric) (t : TopN) : Outcome Fragment := do
  let metric ← t.metricIn metrics
  c.topKeys t.field metric (.int t.n) [] t.ranking .null

/-- A setting with a metric and a number that can be written has a query where its groups are
known. -/
theorem ranking_builds (hc : c.Sound) {t : TopN} {metric : Metric} {head : List (List Symbol)}
    (hmetric : t.metricIn metrics = .ok metric) (hhead : c.rankHead t.field metric = .ok head)
    (hn : 1 ≤ t.n) (hfits : Number.isWritable t.n = true) : ∃ q, ranking c metrics t = .ok q := by
  have hzero : Number.isWritable 0 = true := Number.isWritable_digit (by decide) (by decide)
  obtain ⟨q, hq, -⟩ :=
    Context.topKeys_builds hc hhead t.ranking hn hfits (Int.le_refl 0) hzero
  exact ⟨q, Outcome.bind_eq_ok.2 ⟨metric, hmetric, hq⟩⟩

/-- The setting has the query, and the restriction is to the keys that came back, each once and in
their order. -/
structure Resolves (c : Context) (metrics : List Metric) (t : TopN) (q : Fragment) (reply : Reply)
    (r : Restriction) : Prop where
  query : ranking c metrics t = .ok q
  kept : ∃ rows found, reply = .ok rows ∧ columnOf keyColumn rows.records = .ok found ∧
    c.axisFilter t.field (distinctKeys found) = .ok r

/-- Each setting has its query, its reply and its restriction, in their order. -/
inductive AllResolve (c : Context) (metrics : List Metric) :
    List TopN → List Fragment → List Reply → List Restriction → Prop where
  | nil (replies : List Reply) : AllResolve c metrics [] [] replies []
  | cons {t : TopN} {q : Fragment} {r : Restriction} {ts : List TopN} {qs : List Fragment}
      {replies : List Reply} {rs : List Restriction}
      (head : Resolves c metrics t q (replies.headD Session.exhausted) r)
      (tail : AllResolve c metrics ts qs replies.tail rs) :
      AllResolve c metrics (t :: ts) (q :: qs) replies (r :: rs)

/-- The restriction of a setting to the keys in rows. -/
def keptIn (c : Context) (t : TopN) (rows : Rows) : Outcome Restriction := do
  c.axisFilter t.field (distinctKeys (← columnOf keyColumn rows.records))

/-- What a setting does with the rows of its query needs no other query. -/
theorem keys_axisFilter (c : Context) (t : TopN) (q : Fragment) :
    (keys q >>= fun found => Session.ofOutcome (c.axisFilter t.field found)) =
      .ask q fun rows => Session.ofOutcome (keptIn c t rows) := by
  refine congrArg (Session.ask q) (funext fun rows => ?_)
  show ((Session.ofOutcome (columnOf keyColumn rows.records) >>= fun found =>
    pure (distinctKeys found)) >>= fun found => Session.ofOutcome (c.axisFilter t.field found)) = _
  unfold keptIn
  cases columnOf keyColumn rows.records with
  | error e => rfl
  | ok found => rfl

theorem resolveTopN_eq (c : Context) (metrics : List Metric) (t : TopN) :
    resolveTopN c metrics t = (Session.ofOutcome (ranking c metrics t) >>= fun q =>
      .ask q fun rows => Session.ofOutcome (keptIn c t rows)) := by
  simp only [← keys_axisFilter]
  unfold resolveTopN ranking
  cases t.metricIn metrics with
  | error e => rfl
  | ok metric => rfl

/-- A setting asks its query and nothing else. -/
theorem resolveTopN_replay (c : Context) (metrics : List Metric) (t : TopN) (replies : List Reply) :
    (∃ e, ranking c metrics t = .error e ∧
      (resolveTopN c metrics t).replay replies = (.error e, [])) ∨
    ∃ q, ranking c metrics t = .ok q ∧ ((resolveTopN c metrics t).replay replies).2 = [q] ∧
      ∀ r, ((resolveTopN c metrics t).replay replies).1 = .ok r →
        Resolves c metrics t q (replies.headD Session.exhausted) r := by
  rw [resolveTopN_eq]
  cases hranking : ranking c metrics t with
  | error e => exact .inl ⟨e, rfl, rfl⟩
  | ok q =>
    have hask : (Session.ofOutcome (.ok q) >>= fun q =>
        Session.ask q fun rows => Session.ofOutcome (keptIn c t rows)) =
        Session.ask q fun rows => Session.ofOutcome (keptIn c t rows) := rfl
    rw [hask, Session.replay_ask]
    refine .inr ⟨q, rfl, rfl, fun r hr => ?_⟩
    cases hreply : replies.headD Session.exhausted with
    | error detail =>
      rw [hreply] at hr
      exact nomatch hr
    | ok rows =>
      rw [hreply] at hr
      obtain ⟨found, hfound, hfilter⟩ := Outcome.bind_eq_ok.1 hr
      exact ⟨hranking, rows, found, rfl, hfound, hfilter⟩

/-- Settings ask their queries in their order, as far as they get, and come to their
restrictions. -/
theorem resolveAll_replay (ts : List TopN) (replies : List Reply) :
    (∃ k, (ts.take k).mapM (ranking c metrics) =
      .ok ((resolveAll c metrics ts).replay replies).2) ∧
    ∀ rs, ((resolveAll c metrics ts).replay replies).1 = .ok rs →
      AllResolve c metrics ts ((resolveAll c metrics ts).replay replies).2 replies rs := by
  induction ts generalizing replies with
  | nil =>
    refine ⟨⟨0, rfl⟩, fun rs hrs => ?_⟩
    obtain rfl := Except.ok.inj hrs
    exact .nil replies
  | cons t ts ih =>
    have hstep : resolveAll c metrics (t :: ts) = (resolveTopN c metrics t >>= fun r =>
        resolveAll c metrics ts >>= fun rs => pure (r :: rs)) := rfl
    rw [hstep]
    cases hfirst : (resolveTopN c metrics t).replay replies with
    | mk outcome qs =>
      rcases resolveTopN_replay c metrics t replies with
        ⟨e, -, hnone⟩ | ⟨q, hranking, hasked, hresolves⟩
      · rw [Session.replay_bind_error hnone]
        exact ⟨⟨0, rfl⟩, fun rs hrs => nomatch hrs⟩
      · rw [hfirst] at hasked hresolves
        obtain rfl : qs = [q] := hasked
        cases outcome with
        | error e =>
          rw [Session.replay_bind_error hfirst]
          refine ⟨⟨1, ?_⟩, fun rs hrs => nomatch hrs⟩
          rw [List.take_succ_cons, List.take_zero, List.mapM_cons, hranking]
          rfl
        | ok r =>
          have hresolved := hresolves r rfl
          obtain ⟨⟨k, hk⟩, hrest⟩ := ih (replies.drop 1)
          rw [Session.replay_bind hfirst, List.length_singleton, Session.replay_bind_pure]
          constructor
          · refine ⟨k + 1, ?_⟩
            rw [List.take_succ_cons, List.mapM_cons, hranking, hk]
            rfl
          · intro rs hrs
            cases hlater : ((resolveAll c metrics ts).replay (replies.drop 1)).1 with
            | error e =>
              rw [hlater] at hrs
              exact nomatch hrs
            | ok later =>
              rw [hlater] at hrs
              obtain rfl := Except.ok.inj hrs
              have htail := hrest later hlater
              rw [List.drop_one] at htail ⊢
              exact .cons hresolved htail

namespace AllResolve

variable {ts : List TopN} {qs : List Fragment} {replies : List Reply} {rs : List Restriction}

/-- Every restriction is one to keys. -/
theorem kept (h : AllResolve c metrics ts qs replies rs) :
    ∀ r ∈ rs, ∃ field keys, c.axisFilter field keys = .ok r := by
  induction h with
  | nil => exact nofun
  | cons head _ ih =>
    obtain ⟨rows, found, -, -, hfilter⟩ := head.kept
    exact List.forall_mem_cons.2 ⟨⟨_, _, hfilter⟩, ih⟩

/-- Where no row came back, no row is kept. -/
theorem noRows (h : AllResolve c metrics ts qs replies rs) {i : Nat} {rows : Rows}
    (hreply : replies[i]? = some (.ok rows)) (hempty : rows.rows = []) :
    ∀ r ∈ rs[i]?, r.condition c.scope = .ok Context.noRow := by
  induction h generalizing i with
  | nil => exact nofun
  | @cons t q r ts qs replies rs head tail ih =>
    cases i with
    | succ i =>
      rw [← List.getElem?_tail] at hreply
      exact ih hreply
    | zero =>
      obtain ⟨rows', found, hrows, hfound, hfilter⟩ := head.kept
      have hhead : replies.headD Session.exhausted = .ok rows := by
        rw [List.headD_eq_head?_getD, List.head?_eq_getElem?, hreply]
        rfl
      obtain rfl := Except.ok.inj (hhead.symm.trans hrows)
      have hnone : rows.records = [] := by rw [Rows.records, hempty, List.map_nil]
      rw [hnone] at hfound
      obtain rfl := Except.ok.inj hfound
      obtain ⟨metric, -, hquery⟩ := Outcome.bind_eq_ok.1 head.query
      obtain ⟨key, hkey, -⟩ := Outcome.bind_eq_ok.1 hquery
      obtain ⟨column, hcolumn, -⟩ := Outcome.bind_eq_ok.1 hkey
      rintro _ ⟨⟩
      exact Context.axisFilter_none hcolumn hfilter

/-- Settings that all have their query and a good reply come to their restrictions. -/
theorem replay (h : AllResolve c metrics ts qs replies rs) :
    (resolveAll c metrics ts).replay replies = (.ok rs, qs) := by
  induction h with
  | nil => rfl
  | @cons t q r ts qs replies rs head tail ih =>
    obtain ⟨rows, found, hreply, hfound, hfilter⟩ := head.kept
    have hkept : keptIn c t rows = .ok r := Outcome.bind_eq_ok.2 ⟨found, hfound, hfilter⟩
    have hfirst : (resolveTopN c metrics t).replay replies = (.ok r, [q]) := by
      rw [resolveTopN_eq, head.query]
      refine (Session.replay_ask q (keptIn c t) replies).trans ?_
      rw [hreply]
      exact congrArg (·, [q]) hkept
    show (resolveTopN c metrics t >>= fun r =>
      resolveAll c metrics ts >>= fun rs => pure (r :: rs)).replay replies = _
    rw [Session.replay_bind hfirst, List.length_singleton, List.drop_one,
      Session.replay_bind_pure, ih]
    rfl

/-- The queries are those of the settings. -/
theorem queries (h : AllResolve c metrics ts qs replies rs) :
    ts.mapM (ranking c metrics) = .ok qs := by
  induction h with
  | nil => rfl
  | cons head _ ih =>
    rw [List.mapM_cons, head.query, ih]
    rfl

/-- Every restriction is a condition of its own. -/
theorem conditions_not_blank (h : AllResolve c metrics ts qs replies rs) {kept : List Fragment}
    (hkept : rs.mapM (Restriction.condition c.scope) = .ok kept) :
    ∀ g ∈ kept, g.isBlank = false := by
  intro g hg
  rw [← Outcome.filterMap_of_mapM hkept] at hg
  obtain ⟨r, hr, hg⟩ := List.mem_filterMap.1 hg
  obtain ⟨field, keys, hfilter⟩ := h.kept r hr
  cases hcondition : r.condition c.scope with
  | error e =>
    rw [hcondition] at hg
    exact nomatch hg
  | ok f =>
    rw [hcondition] at hg
    obtain rfl := Option.some.inj hg
    exact Context.axisFilter_condition hfilter hcondition

theorem conditions_noRow (h : AllResolve c metrics ts qs replies rs) {kept : List Fragment}
    (hkept : rs.mapM (Restriction.condition c.scope) = .ok kept) (i : Nat) (rows : Rows)
    (hreply : replies[i]? = some (.ok rows)) (hempty : rows.rows = []) :
    ∀ g ∈ kept[i]?, g = Context.noRow := by
  intro g hg
  obtain ⟨r, hr, hcondition⟩ := Outcome.getElem?_of_mapM hkept hg
  exact Except.ok.inj (hcondition.symm.trans (h.noRows hreply hempty r hr))

end AllResolve

/-! ## Contexts of filter lists -/

/-- The context of the plain filters of a request, and its settings. -/
def plainContext (w : Workspace) (r : Request) : Outcome (Context × List TopN) := do
  let schema ← w.schema r.layer
  let (entries, ts) ← TopN.split r.filters
  return (← Context.make schema w.settings r.time r.timeField (entries.map .entry), ts)

theorem context_eq (w : Workspace) (r : Request) (metrics : List Metric) :
    w.context r metrics = (Session.ofOutcome (w.plainContext r) >>= fun (c, ts) =>
      if ts.isEmpty then pure c else
        resolveAll c metrics ts >>= fun rs => Session.ofOutcome (c.withFilters rs)) := by
  unfold context plainContext
  cases w.schema r.layer with
  | error e => rfl
  | ok schema =>
    cases TopN.split r.filters with
    | error e => rfl
    | ok parts =>
      obtain ⟨entries, ts⟩ := parts
      show (Session.ofOutcome (Context.make schema w.settings r.time r.timeField
          (entries.map .entry)) >>= fun c => if ts.isEmpty then pure c else
            resolveAll c metrics ts >>= fun rs => Session.ofOutcome (c.withFilters rs)) =
        (Session.ofOutcome ((Context.make schema w.settings r.time r.timeField
          (entries.map .entry)) >>= fun c => .ok (c, ts)) >>= fun (c, ts) =>
            if ts.isEmpty then pure c else
              resolveAll c metrics ts >>= fun rs => Session.ofOutcome (c.withFilters rs))
      cases Context.make schema w.settings r.time r.timeField (entries.map .entry) with
      | error e => rfl
      | ok c => rfl

/-- Where the plain filters come to no context, nothing is asked. -/
theorem context_of_error {w : Workspace} {r : Request} {e : Failure}
    (h : w.plainContext r = .error e) (metrics : List Metric) (replies : List Reply) :
    (w.context r metrics).replay replies = (.error e, []) := by
  rw [context_eq, h]
  rfl

/-- The context with the restrictions of its settings. -/
def extended (c : Context) (ts : List TopN) (rs : List Restriction) : Outcome Context :=
  if ts.isEmpty then .ok c else c.withFilters rs

/-- Where they do, the settings are answered over that context. -/
theorem context_of_plain {w : Workspace} {r : Request} {c : Context} {ts : List TopN}
    (h : w.plainContext r = .ok (c, ts)) (metrics : List Metric) (replies : List Reply) :
    (w.context r metrics).replay replies =
      (((resolveAll c metrics ts).replay replies).1 >>= extended c ts,
        ((resolveAll c metrics ts).replay replies).2) := by
  have hrun : w.context r metrics = (if ts.isEmpty then pure c else
      resolveAll c metrics ts >>= fun rs => Session.ofOutcome (c.withFilters rs)) := by
    rw [context_eq, h]
    rfl
  rw [hrun]
  cases ts with
  | nil => rfl
  | cons t ts =>
    simp only [List.isEmpty_cons, Bool.false_eq_true, if_false]
    cases hrs : (resolveAll c metrics (t :: ts)).replay replies with
    | mk outcome qs =>
      cases outcome with
      | error e => exact Session.replay_bind_error hrs _
      | ok rs =>
        rw [Session.replay_bind hrs]
        show _ = (c.withFilters rs, qs)
        cases c.withFilters rs with
        | error e => exact congrArg (Prod.mk _) (List.append_nil qs)
        | ok d => exact congrArg (Prod.mk _) (List.append_nil qs)

/-- The queries of a request are those of its settings in their order, as far as they are asked. -/
theorem context_asks {w : Workspace} {r : Request} {c : Context} {ts : List TopN}
    (h : w.plainContext r = .ok (c, ts)) (metrics : List Metric) (replies : List Reply) :
    ∃ k, (ts.take k).mapM (ranking c metrics) =
      .ok ((w.context r metrics).replay replies).2 := by
  rw [context_of_plain h]
  exact (resolveAll_replay ts replies).1

/-! ## Filter lists that agree on the plain filters -/

/-- The context of plain filters. -/
def contextOf (w : Workspace) (r : Request) (plain : List Value) : Outcome Context := do
  let schema ← w.schema r.layer
  let entries ← readEntries (.list plain)
  Context.make schema w.settings r.time r.timeField (entries.map .entry)

/-- The plain filters of a list decide the context, and the settings are those in the list. -/
theorem plainContext_list {items : List Value} (hvalid : ∀ item ∈ items, TopN.IsValid item)
    (w : Workspace) (r : Request) : w.plainContext (r.withItems items) =
      (w.contextOf r (items.filterMap TopN.plainPart)).map fun c =>
        (c, items.filterMap TopN.setting?) := by
  unfold plainContext contextOf Request.withItems
  simp only [TopN.split_list hvalid]
  cases w.schema r.layer with
  | error e => rfl
  | ok schema =>
    cases readEntries (.list (items.filterMap TopN.plainPart)) with
    | error e => rfl
    | ok entries =>
      show (Context.make schema w.settings r.time r.timeField (entries.map .entry) >>= fun c =>
        .ok (c, items.filterMap TopN.setting?)) =
        (Context.make schema w.settings r.time r.timeField (entries.map .entry)).map fun c =>
          (c, items.filterMap TopN.setting?)
      cases Context.make schema w.settings r.time r.timeField (entries.map .entry) with
      | error e => rfl
      | ok c => rfl

/-- Lists with the same plain filters come to the same context, or to none for the same reason. -/
theorem plainContext_congr {w : Workspace} {r : Request} {items items' : List Value}
    (hvalid : ∀ item ∈ items, TopN.IsValid item) (hvalid' : ∀ item ∈ items', TopN.IsValid item)
    (hplain : items'.filterMap TopN.plainPart = items.filterMap TopN.plainPart) :
    (∃ e, w.plainContext (r.withItems items) = .error e ∧
      w.plainContext (r.withItems items') = .error e) ∨
    ∃ c, w.plainContext (r.withItems items) = .ok (c, items.filterMap TopN.setting?) ∧
      w.plainContext (r.withItems items') = .ok (c, items'.filterMap TopN.setting?) := by
  rw [plainContext_list hvalid, plainContext_list hvalid', hplain]
  cases w.contextOf r (items.filterMap TopN.plainPart) with
  | error e => exact .inl ⟨e, rfl, rfl⟩
  | ok c => exact .inr ⟨c, rfl, rfl⟩

/-- The items with all settings disabled but that of one item. -/
def onlyAt (before : List Value) (item : Value) (after : List Value) : List Value :=
  before.map TopN.disable ++ item :: after.map TopN.disable

/-- Disabled settings leave the plain filters and the one setting. -/
theorem onlyAt_parts {before after : List Value} {item : Value}
    (hvalid : ∀ x ∈ before ++ item :: after, TopN.IsValid x) :
    (∀ x ∈ onlyAt before item after, TopN.IsValid x) ∧
    (onlyAt before item after).filterMap TopN.plainPart =
      (before ++ item :: after).filterMap TopN.plainPart ∧
    (onlyAt before item after).filterMap TopN.setting? = (TopN.setting? item).toList := by
  rw [List.forall_mem_append, List.forall_mem_cons] at hvalid
  obtain ⟨hbefore, hitem, hafter⟩ := hvalid
  have hdisabled : ∀ x, TopN.IsValid x → TopN.IsValid (TopN.disable x) ∧
      TopN.plainPart (TopN.disable x) = TopN.plainPart x ∧
      TopN.setting? (TopN.disable x) = none := by
    intro x hx
    have hsplit := TopN.splitItem_disable hx
    refine ⟨Outcome.isOk_iff.2 ⟨_, hsplit⟩, ?_, ?_⟩
    · rw [TopN.plainPart, hsplit]
    · rw [TopN.setting?, hsplit]
  have hlist : ∀ {xs : List Value}, (∀ x ∈ xs, TopN.IsValid x) →
      (∀ x ∈ xs.map TopN.disable, TopN.IsValid x) ∧
      (xs.map TopN.disable).filterMap TopN.plainPart = xs.filterMap TopN.plainPart ∧
      (xs.map TopN.disable).filterMap TopN.setting? = [] := by
    intro xs hxs
    refine ⟨List.forall_mem_map.2 fun x hx => (hdisabled x (hxs x hx)).1, ?_, ?_⟩
    · rw [List.filterMap_map]
      exact List.filterMap_congr fun x hx => (hdisabled x (hxs x hx)).2.1
    · rw [List.filterMap_map, List.filterMap_eq_nil_iff]
      exact fun x hx => (hdisabled x (hxs x hx)).2.2
  obtain ⟨hbv, hbp, hbs⟩ := hlist hbefore
  obtain ⟨hav, hap, has⟩ := hlist hafter
  refine ⟨?_, ?_, ?_⟩
  · exact List.forall_mem_append.2 ⟨hbv, List.forall_mem_cons.2 ⟨hitem, hav⟩⟩
  · rw [onlyAt, List.filterMap_append, List.filterMap_append, List.filterMap_cons,
      List.filterMap_cons, hbp, hap]
  · rw [onlyAt, List.filterMap_append, List.filterMap_cons, hbs, has]
    cases TopN.setting? item with
    | none => rfl
    | some t => rfl

/-- Alone, a setting asks the query that it asks among others. -/
theorem asks_alone {w : Workspace} {r : Request} {metrics : List Metric}
    {before after : List Value} {item : Value} {t : TopN}
    (hvalid : ∀ x ∈ before ++ item :: after, TopN.IsValid x)
    (hsetting : TopN.setting? item = some t) (replies others : List Reply) {q : Fragment}
    (hq : ((w.context (r.withItems (before ++ item :: after)) metrics).replay
      replies).2[(before.filterMap TopN.setting?).length]? = some q) :
    ((w.context (r.withItems (onlyAt before item after)) metrics).replay
      others).2 = [q] := by
  obtain ⟨honlyValid, honlyPlain, honly⟩ := onlyAt_parts hvalid
  rcases plainContext_congr (w := w) (r := r) hvalid honlyValid honlyPlain with
    ⟨e, hcontext, -⟩ | ⟨c, hcontext, hcontext'⟩
  · rw [context_of_error hcontext] at hq
    exact nomatch hq
  · rw [honly, hsetting] at hcontext'
    obtain ⟨k, hk⟩ := context_asks hcontext metrics replies
    -- the query at the place of the setting is the ranking of the setting
    have hplace : ((before ++ item :: after).filterMap TopN.setting?)[
        (before.filterMap TopN.setting?).length]? = some t := by
      rw [List.filterMap_append, List.getElem?_append_right (Nat.le_refl _), Nat.sub_self,
        List.filterMap_cons, hsetting]
      rfl
    obtain ⟨t', ht', hranking⟩ := Outcome.getElem?_of_mapM hk hq
    rw [List.getElem?_take] at ht'
    split at ht'
    swap
    · exact nomatch ht'
    obtain rfl := Option.some.inj (hplace.symm.trans ht')
    have hone : resolveAll c metrics [t] = (resolveTopN c metrics t >>= fun r => pure [r]) := rfl
    have hasks := congrArg Prod.snd (context_of_plain hcontext' metrics others)
    rw [Option.toList_some, hone, Session.replay_bind_pure] at hasks
    rw [hasks]
    rcases resolveTopN_replay c metrics t others with ⟨e, he, -⟩ | ⟨q', hq', hasked, -⟩
    · exact nomatch he.symm.trans hranking
    · obtain rfl := Except.ok.inj (hq'.symm.trans hranking)
      exact hasked

/-- The context that comes of a request holds the plain filters and one restriction for each
setting. -/
theorem context_parts {w : Workspace} {r : Request} {c d : Context} {ts : List TopN}
    {metrics : List Metric} {replies : List Reply} (hplain : w.plainContext r = .ok (c, ts))
    (hd : ((w.context r metrics).replay replies).1 = .ok d) :
    ∃ rs, AllResolve c metrics ts ((w.context r metrics).replay replies).2 replies rs ∧
      d.scope = c.scope ∧ d.restrictions = c.restrictions ++ rs ∧ d.Sound ∧
      (c.schema.HasPlainNames → d = { c with restrictions := c.restrictions ++ rs }) := by
  rw [context_of_plain hplain] at hd ⊢
  obtain ⟨rs, hrs, hfilters⟩ := Outcome.bind_eq_ok.1 hd
  have hall := (resolveAll_replay ts replies).2 rs hrs
  obtain ⟨schema, -, hmake⟩ := Outcome.bind_eq_ok.1 hplain
  obtain ⟨⟨entries, ts'⟩, -, hparts⟩ := Outcome.bind_eq_ok.1 hmake
  obtain ⟨c', hcontext, hpure⟩ := Outcome.bind_eq_ok.1 hparts
  obtain ⟨rfl, rfl⟩ := Prod.mk.inj (Outcome.pure_eq_ok.1 hpure)
  obtain ⟨hschema, -, -, hrestrictions⟩ := Context.make_parts hcontext
  have hsound : ∀ x ∈ c'.restrictions ++ rs, x.Sound := by
    refine List.forall_mem_append.2 ⟨?_, fun x hx => ?_⟩
    · rw [hrestrictions]
      exact List.forall_mem_map.2 fun _ _ => trivial
    · obtain ⟨field, keys, hfilter⟩ := hall.kept x hx
      exact Context.axisFilter_sound hfilter
  unfold extended at hfilters
  split at hfilters
  · next hempty =>
    obtain rfl := List.isEmpty_iff.1 hempty
    obtain rfl := Except.ok.inj hrs
    obtain rfl := Except.ok.inj hfilters
    refine ⟨[], hall, rfl, (List.append_nil _).symm, ?_, fun _ => ?_⟩
    · rwa [List.append_nil] at hsound
    · rw [List.append_nil]
  · obtain ⟨hsame, hsettings, -, hparts⟩ := Context.make_parts hfilters
    have hscope : d.scope = c'.scope := by rw [Context.scope, hsame, hsettings, Context.scope]
    refine ⟨rs, hall, hscope, hparts, ?_, fun hnames => ?_⟩
    · rw [Context.Sound, hparts]
      exact hsound
    · rw [hschema] at hnames
      rcases Context.withFilters_cases hnames hcontext with htakes | ⟨e, hrefuses⟩
      · exact Except.ok.inj (hfilters.symm.trans (htakes c'.restrictions rs))
      · exact nomatch hfilters.symm.trans (hrefuses rs)

/-- Lists with the same plain filters and the same settings in another order ask the same queries,
each in its own order. -/
theorem asks_reordered {w : Workspace} {r : Request} {metrics : List Metric}
    {items items' : List Value} (hvalid : ∀ item ∈ items, TopN.IsValid item)
    (hvalid' : ∀ item ∈ items', TopN.IsValid item) (hperm : items.Perm items')
    (hplain : items'.filterMap TopN.plainPart = items.filterMap TopN.plainPart)
    (replies others : List Reply) :
    (∃ (rank : TopN → Outcome Fragment) (k k' : Nat),
      ((items.filterMap TopN.setting?).take k).mapM rank =
        .ok ((w.context (r.withItems items) metrics).replay replies).2 ∧
      ((items'.filterMap TopN.setting?).take k').mapM rank =
        .ok ((w.context (r.withItems items') metrics).replay others).2) ∧
    ∀ d d', ((w.context (r.withItems items) metrics).replay replies).1 = .ok d →
      ((w.context (r.withItems items') metrics).replay others).1 = .ok d' →
      ((w.context (r.withItems items') metrics).replay others).2.Perm
        ((w.context (r.withItems items) metrics).replay replies).2 := by
  rcases plainContext_congr (w := w) (r := r) hvalid hvalid' hplain with
    ⟨e, hcontext, hcontext'⟩ | ⟨c, hcontext, hcontext'⟩
  · rw [context_of_error hcontext, context_of_error hcontext']
    exact ⟨⟨fun _ => .error e, 0, 0, rfl, rfl⟩, fun d d' hd => nomatch hd⟩
  · obtain ⟨k, hk⟩ := context_asks hcontext metrics replies
    obtain ⟨k', hk'⟩ := context_asks hcontext' metrics others
    refine ⟨⟨ranking c metrics, k, k', hk, hk'⟩, fun d d' hd hd' => ?_⟩
    obtain ⟨rs, hall, -⟩ := context_parts hcontext hd
    obtain ⟨rs', hall', -⟩ := context_parts hcontext' hd'
    exact (Outcome.mapM_perm (hperm.filterMap _) hall.queries hall'.queries).symm

/-- The condition of a context is made of its window, of the plain filters and of one condition for
each setting; where no row came back, that is the one that no row meets. -/
def Narrows (d : Context) (plain kept : List Restriction) (replies : List Reply) (f : Fragment) :
    Prop :=
  ∃ window own more parts, d.scope.windowCondition d.time = .ok window ∧
    plain.mapM (Restriction.condition d.scope) = .ok own ∧
    kept.mapM (Restriction.condition d.scope) = .ok more ∧
    parts.Perm (window :: (own ++ more)) ∧ IsConjunction f parts ∧
    (∀ g ∈ more, g.isBlank = false) ∧
    ∀ (i : Nat) (rows : Rows), replies[i]? = some (.ok rows) → rows.rows = [] →
      ∀ g ∈ more[i]?, g = Context.noRow

/-- The condition of the context that comes of a request. -/
theorem narrows {c d : Context} {metrics : List Metric} {ts : List TopN} {qs : List Fragment}
    {replies : List Reply} {rs : List Restriction} (hall : AllResolve c metrics ts qs replies rs)
    (hscope : d.scope = c.scope) (hrestrictions : d.restrictions = c.restrictions ++ rs)
    {f : Fragment} (hf : d.baseWhere = .ok f) : Narrows d c.restrictions rs replies f := by
  obtain ⟨window, ordered, hwindow, hordered, hconjunction⟩ := Context.baseWhere_parts hf
  obtain ⟨all, hconditions, hperm⟩ := Context.conditions_perm hordered
  rw [hrestrictions, List.mapM_append] at hconditions
  obtain ⟨own, hown, hconditions⟩ := Outcome.bind_eq_ok.1 hconditions
  obtain ⟨more, hmore, hconditions⟩ := Outcome.bind_eq_ok.1 hconditions
  obtain rfl := Outcome.pure_eq_ok.1 hconditions
  refine ⟨window, own, more, window :: ordered, hwindow, hown, hmore, hperm.cons window,
    hconjunction, ?_, ?_⟩
  · exact hall.conditions_not_blank (hscope ▸ hmore)
  · exact hall.conditions_noRow (hscope ▸ hmore)

/-- The top-n filters of a request do not depend on each other. With all others disabled a setting
asks the query that it asks among them, and in another order they ask the same queries in another
order. The context that comes of them has the conditions of the plain filters and of the window and,
for each setting, one condition more, the restriction to the keys that came back, each once and in
their order; it comes together where all of these do. -/
theorem settings_are_independent (w : Workspace) (r : Request) (metrics : List Metric)
    {items : List Value} (hvalid : ∀ item ∈ items, TopN.IsValid item) (replies : List Reply) :
    (∀ before item after t, items = before ++ item :: after → TopN.setting? item = some t →
      ∀ q, ((w.context (r.withItems items) metrics).replay replies).2[
        (before.filterMap TopN.setting?).length]? = some q →
      ∀ others, ((w.context (r.withItems (onlyAt before item after)) metrics).replay others).2 =
        [q]) ∧
    (∀ items', items.Perm items' →
      items'.filterMap TopN.plainPart = items.filterMap TopN.plainPart → ∀ others,
      (∃ (rank : TopN → Outcome Fragment) (k k' : Nat),
        ((items.filterMap TopN.setting?).take k).mapM rank =
          .ok ((w.context (r.withItems items) metrics).replay replies).2 ∧
        ((items'.filterMap TopN.setting?).take k').mapM rank =
          .ok ((w.context (r.withItems items') metrics).replay others).2) ∧
      ∀ d d', ((w.context (r.withItems items) metrics).replay replies).1 = .ok d →
        ((w.context (r.withItems items') metrics).replay others).1 = .ok d' →
        ((w.context (r.withItems items') metrics).replay others).2.Perm
          ((w.context (r.withItems items) metrics).replay replies).2) ∧
    ∀ d, ((w.context (r.withItems items) metrics).replay replies).1 = .ok d →
      ∃ c rs, w.plainContext (r.withItems items) = .ok (c, items.filterMap TopN.setting?) ∧
        AllResolve c metrics (items.filterMap TopN.setting?)
          ((w.context (r.withItems items) metrics).replay replies).2 replies rs ∧
        (c.schema.HasPlainNames → d = { c with restrictions := c.restrictions ++ rs }) ∧
        (∀ f, d.baseWhere = .ok f → Narrows d c.restrictions rs replies f) ∧
        ((∃ window own, d.scope.windowCondition d.time = .ok window ∧
          (c.restrictions ++ rs).mapM (Restriction.condition d.scope) = .ok own) →
          ∃ f, d.baseWhere = .ok f) := by
  refine ⟨?_, ?_, ?_⟩
  · rintro before item after t rfl hsetting q hq others
    exact asks_alone hvalid hsetting replies others hq
  · intro items' hperm hplain others
    have hvalid' : ∀ item ∈ items', TopN.IsValid item := fun item hitem =>
      hvalid item (hperm.mem_iff.2 hitem)
    exact asks_reordered hvalid hvalid' hperm hplain replies others
  · intro d hd
    rcases plainContext_congr (w := w) (r := r) hvalid hvalid rfl with ⟨e, he, -⟩ | ⟨c, hc, -⟩
    · rw [context_of_error he] at hd
      exact nomatch hd
    · obtain ⟨rs, hall, hscope, hrestrictions, hsound, hsame⟩ := context_parts hc hd
      refine ⟨c, rs, hc, hall, hsame, ?_, ?_⟩
      · intro f hf
        exact narrows hall hscope hrestrictions hf
      · rintro ⟨window, own, hwindow, hown⟩
        rw [← hrestrictions] at hown
        exact Context.baseWhere_builds hsound hwindow hown

/-! ## Packets -/

/-- A request for packets. -/
def forPackets : Request where
  layer := .text "TCP"
  time := .record [("fromEpoch", .int 10), ("field", .text "time")]
  filters := .null
  timeField := .null

/-- The two ports with the most packets. -/
def topPorts : Value :=
  .record [("field", .text "port"), ("topN", .record [("enabled", .bool true), ("n", .int 2)])]

/-- The large packets, and of their sizes the one with the fewest packets. -/
def rareSize : Value :=
  .record [("field", .text "size"), ("op", .text ">"), ("value", .int 1000),
    ("topN", .record [("enabled", .int 1), ("n", .int 1), ("mode", .text "bottom")])]

/-- A disabled setting. -/
def anyFlag : Value :=
  .record [("field", .text "syn"), ("topN", .record [("enabled", .bool false)])]

/-- Two ports of which one comes twice, and no size. -/
def portReplies : List Reply :=
  [.ok (Rows.ofColumn keyColumn [.text "443", .text "80", .text "443"]),
    .ok (Rows.ofColumn keyColumn [])]

/-- The large packets from a time on. -/
def largePackets : Context where
  schema := Scope.packets.schema
  settings := .standard
  timeField := "time"
  time := .record [("fromEpoch", .int 10), ("field", .text "time")]
  restrictions := [.entry ⟨.text "size", .conditions [⟨.gt, [.int 1000]⟩] [], none, false⟩]

/-- The settings of the items. -/
def packetSettings : List TopN :=
  [⟨.text "port", 2, .top, .null⟩, ⟨.text "size", 1, .bottom, .null⟩]

/-- The restrictions to the two ports, and to no size. -/
def packetKept : List Restriction :=
  [.entry (.checkbox (.text "port") [.text "443", .text "80"]),
    .entry (.checkbox (.text "size") [])]

theorem packet_settings_are_independent :
    (∀ item ∈ [topPorts, rareSize, anyFlag], TopN.IsValid item) ∧
    ∃ p q c d rs f, ((ofPackets.context (forPackets.withItems [topPorts, rareSize, anyFlag])
        [.countOf "size"]).replay portReplies) = (.ok d, [p, q]) ∧
      ((ofPackets.context (forPackets.withItems (onlyAt [topPorts] rareSize [anyFlag]))
        [.countOf "size"]).replay []).2 = [q] ∧
      ofPackets.plainContext (forPackets.withItems [topPorts, rareSize, anyFlag]) =
        .ok (c, [topPorts, rareSize, anyFlag].filterMap TopN.setting?) ∧
      d.baseWhere = .ok f ∧ Narrows d c.restrictions rs portReplies f := by
  have hvalid : ∀ item ∈ [topPorts, rareSize, anyFlag], TopN.IsValid item := by
    simp only [List.forall_mem_cons]
    exact ⟨by decide +kernel, by decide +kernel, by decide +kernel, List.forall_mem_nil _⟩
  obtain ⟨halone, -, hcontext⟩ := settings_are_independent ofPackets forPackets [.countOf "size"]
    hvalid portReplies
  have hplain : ofPackets.plainContext (forPackets.withItems [topPorts, rareSize, anyFlag]) =
      .ok (largePackets, packetSettings) := by decide +kernel
  -- the queries come together, without their texts
  have hsound : largePackets.Sound := List.forall_mem_singleton.2 trivial
  have hquery : ∀ t ∈ packetSettings, ∃ q, ranking largePackets [.countOf "size"] t = .ok q := by
    have hhead : ∀ t ∈ packetSettings,
        (largePackets.rankHead t.field (.countOf "size")).isOk = true := by decide +kernel
    have hfits : ∀ t ∈ packetSettings,
        t.valueKey = .null ∧ 1 ≤ t.n ∧ Number.isWritable t.n = true := by
      decide +kernel
    intro t ht
    obtain ⟨head, hhead⟩ := Outcome.isOk_iff.1 (hhead t ht)
    obtain ⟨hkey, hn, hfits⟩ := hfits t ht
    have hmetric : t.metricIn [.countOf "size"] = .ok (.countOf "size") := by
      rw [TopN.metricIn, hkey]
      rfl
    exact ranking_builds hsound hmetric hhead hn hfits
  obtain ⟨⟨p, hp⟩, hlater⟩ := List.forall_mem_cons.1 hquery
  obtain ⟨⟨q, hq⟩, -⟩ := List.forall_mem_cons.1 hlater
  have hall : AllResolve largePackets [.countOf "size"] packetSettings [p, q] portReplies
      packetKept :=
    .cons ⟨hp, _, _, rfl, columnOf_ofColumn _ _, by decide +kernel⟩
      (.cons ⟨hq, _, _, rfl, columnOf_ofColumn _ _, by decide +kernel⟩ (.nil _))
  have hextended : extended largePackets packetSettings packetKept =
      .ok { largePackets with restrictions := largePackets.restrictions ++ packetKept } := by
    decide +kernel
  have hrun : (ofPackets.context (forPackets.withItems [topPorts, rareSize, anyFlag])
      [.countOf "size"]).replay portReplies =
        (.ok { largePackets with restrictions := largePackets.restrictions ++ packetKept },
          [p, q]) := by
    rw [context_of_plain hplain, hall.replay]
    exact congrArg (·, [p, q]) hextended
  obtain ⟨c, rs, hc, -, -, hnarrows, -⟩ := hcontext _ (congrArg Prod.fst hrun)
  obtain ⟨f, hf⟩ : ∃ f, Context.baseWhere
      { largePackets with restrictions := largePackets.restrictions ++ packetKept } = .ok f :=
    Outcome.isOk_iff.1 (by decide +kernel)
  refine ⟨hvalid, p, q, c, _, rs, f, hrun, ?_, hc, hf, hnarrows f hf⟩
  have hsetting : ∃ t, TopN.setting? rareSize = some t :=
    Option.isSome_iff_exists.1 (by decide +kernel)
  obtain ⟨t, ht⟩ := hsetting
  refine halone [topPorts] rareSize [anyFlag] t rfl ht q ?_ []
  have hplace : ([topPorts].filterMap TopN.setting?).length = 1 := by decide +kernel
  rw [hplace, hrun]
  rfl

end Workspace

end Crosstab
