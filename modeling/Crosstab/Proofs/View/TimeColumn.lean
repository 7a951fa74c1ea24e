import Crosstab.Proofs.OwnNames
import Crosstab.Proofs.View.TopN

/-!
# Further filters and the column of times

A context that takes further filters looks up its column of times again, now by name. A request that
names neither such a column nor a window may do without one, so its context can be made and still
takes no further filter. The restrictions of top-n filters are such filters: a request that has some
asks their queries and is rejected after that.
-/

namespace Crosstab

open Crosstab.Filter Pivot Sql Text
open Session (Reply)

/-- The column of times of a layer has a plain name. -/
theorem Layer.defaultTimeField_plain (layer : Layer) :
    ∀ c ∈ layer.defaultTimeField.toList, isIdentifierChar c = true := by
  cases layer <;> exact List.all_eq_true.1 (by decide)

theorem Layer.isIdentifier_defaultTimeField (layer : Layer) :
    isIdentifier layer.defaultTimeField = true := by
  cases layer <;> decide

/-- A column is the one that its name resolves to just if the name is an identifier that is not
shortened. -/
theorem Schema.resolve?_self_iff {schema : Schema} {column : String}
    (hcolumn : schema.IsColumn column) : schema.resolve? (.text column) = some column ↔
      isIdentifier column = true ∧ fieldName (.text column) = column := by
  constructor
  · intro h
    have hown := fieldName_of_resolve h
    have hname := (agrees_of_resolve h).1
    rw [hown] at hname
    exact ⟨hname, hown⟩
  · rintro ⟨hname, hown⟩
    rw [resolve?_eq_some, hown]
    exact ⟨hname, lookup?_of_isColumn hcolumn⟩

/-- The words in which a name that is no column is rejected. -/
def Schema.refusal (name : Value) (schema : Schema) : String :=
  s!"{name.shown} is not a column of {schema.layer.code}"

theorem Schema.require_of_none {schema : Schema} {name : Value} (h : schema.resolve? name = none) :
    schema.require name = reject .fieldNotAllowed (schema.refusal name) := by
  rw [require, h, refusal]

namespace Pivot.Context

variable {schema : Schema} {settings : Settings} {time timeField : Value}
  {rs extra : List Restriction} {c : Context}

/-! ## The column of a request -/

/-- There is a column of times: the request names one or has a window, or the table has that of the
layer. -/
def HasTimes (schema : Schema) (time timeField : Value) : Prop :=
  timeField.truthy = true ∨ time ≠ .null ∨
    schema.has (.text schema.layer.defaultTimeField) = true

instance (schema : Schema) (time timeField : Value) : Decidable (HasTimes schema time timeField) :=
  inferInstanceAs (Decidable (_ ∨ _ ∨ _))

/-- Where there is a column of times, some name resolves to that of the context. -/
theorem timeField_of_hasTimes (hc : make schema settings time timeField rs = .ok c)
    (h : HasTimes schema time timeField) : ∃ name, schema.resolve? name = some c.timeField := by
  unfold make at hc
  simp only at hc
  split at hc
  · obtain ⟨column, hcolumn, hc⟩ := Outcome.bind_eq_ok.1 hc
    obtain rfl := Outcome.pure_eq_ok.1 hc
    exact ⟨_, Schema.require_eq_ok.1 hcolumn⟩
  · next hgiven =>
    obtain rfl := Outcome.pure_eq_ok.1 hc
    rw [Bool.or_eq_true, not_or] at hgiven
    obtain rfl : time = .null := by simpa using hgiven.2
    have hfalse : ¬timeField.truthy = true := by
      intro htruthy
      rw [Value.orElse, if_pos htruthy] at hgiven
      exact hgiven.1 htruthy
    rcases h with htruthy | htime | hhas
    · exact absurd htruthy hfalse
    · exact absurd rfl htime
    · obtain ⟨column, hcolumn⟩ := Option.isSome_iff_exists.1 hhas
      refine ⟨.text schema.layer.defaultTimeField, ?_⟩
      rw [hcolumn]
      rfl

/-- Where there is none, the context has the name of the layer's column for that of a column. -/
theorem timeField_of_not_hasTimes (hc : make schema settings time timeField rs = .ok c)
    (h : ¬HasTimes schema time timeField) :
    c.timeField = schema.layer.defaultTimeField ∧ schema.resolve? (.text c.timeField) = none := by
  rw [HasTimes, not_or, not_or, not_not] at h
  obtain ⟨hfalse, rfl, hhas⟩ := h
  have hnone : schema.resolve? (.text schema.layer.defaultTimeField) = none := by
    simpa [Schema.has] using hhas
  have hgiven : (timeField.orElse (windowField .null)).truthy = false := by
    rw [Value.orElse, if_neg hfalse]
    rfl
  unfold make at hc
  simp only [hgiven, hnone, bne_self_eq_false, Bool.or_self, Bool.false_eq_true, if_false] at hc
  obtain rfl := Outcome.pure_eq_ok.1 hc
  exact ⟨rfl, hnone⟩

theorem timeField_ne_empty (hc : make schema settings time timeField rs = .ok c) :
    c.timeField ≠ "" := by
  intro hempty
  by_cases h : HasTimes schema time timeField
  · obtain ⟨name, hname⟩ := timeField_of_hasTimes hc h
    obtain ⟨hidentifier, hlower, -⟩ := Schema.agrees_of_resolve hname
    have hname : fieldName name = "" := by
      by_contra hne
      rw [hempty] at hlower
      exact lower_ne_empty hne hlower.symm
    rw [hname] at hidentifier
    exact absurd hidentifier (by decide)
  · have hdefault := schema.layer.isIdentifier_defaultTimeField
    rw [← (timeField_of_not_hasTimes hc h).1, hempty] at hdefault
    exact absurd hdefault (by decide)

/-! ## Further filters -/

/-- Further filters come with another look at the column of times. -/
theorem withFilters_eq (hc : make schema settings time timeField rs = .ok c)
    (extra : List Restriction) : c.withFilters extra = do
      let column ← c.schema.require (.text c.timeField)
      return { c with
        timeField := column
        time := windowOn column c.time
        restrictions := c.restrictions ++ extra } := by
  have htruthy := Value.truthy_text (timeField_ne_empty hc)
  unfold withFilters make
  simp only [Value.orElse, htruthy, if_true, Bool.true_or]

/-- A context takes a further filter and stays the same otherwise just if its column of times is
the one that its name resolves to. -/
theorem withFilters_eq_ok_iff (hc : make schema settings time timeField rs = .ok c) :
    c.withFilters extra = .ok { c with restrictions := c.restrictions ++ extra } ↔
      c.schema.resolve? (.text c.timeField) = some c.timeField := by
  rw [withFilters_eq hc]
  constructor
  · intro h
    obtain ⟨column, hcolumn, h⟩ := Outcome.bind_eq_ok.1 h
    have hsame : column = c.timeField := congrArg Context.timeField (Outcome.pure_eq_ok.1 h)
    rw [← Schema.require_eq_ok, hcolumn, hsame]
  · intro h
    obtain ⟨-, -, htime, -⟩ := make_parts hc
    have hwindow : windowOn c.timeField c.time = c.time := by
      rw [htime, windowOn_windowOn]
    rw [Schema.require_eq_ok.2 h]
    show Except.ok _ = Except.ok _
    rw [hwindow]

/-- A context without a column of times refuses all filters. -/
theorem withFilters_refused (hc : make schema settings time timeField rs = .ok c)
    (h : ¬HasTimes schema time timeField) (extra : List Restriction) :
    c.withFilters extra =
      reject .fieldNotAllowed (schema.refusal (.text schema.layer.defaultTimeField)) := by
  obtain ⟨hschema, -⟩ := make_parts hc
  obtain ⟨hname, hnone⟩ := timeField_of_not_hasTimes hc h
  rw [withFilters_eq hc, hschema, Schema.require_of_none hnone, hname]
  rfl

/-- Where it has one, it takes them if the name of the column is an identifier that is not
shortened. -/
theorem resolve?_timeField_iff (hc : make schema settings time timeField rs = .ok c) :
    c.schema.resolve? (.text c.timeField) = some c.timeField ↔
      HasTimes schema time timeField ∧ isIdentifier c.timeField = true ∧
        fieldName (.text c.timeField) = c.timeField := by
  obtain ⟨hschema, -⟩ := make_parts hc
  rw [hschema]
  by_cases h : HasTimes schema time timeField
  · obtain ⟨name, hname⟩ := timeField_of_hasTimes hc h
    rw [Schema.resolve?_self_iff (Schema.agrees_of_resolve hname).2.2]
    exact (and_iff_right h).symm
  · rw [(timeField_of_not_hasTimes hc h).2]
    exact ⟨nofun, fun hboth => absurd hboth.1 h⟩

/-- Plain names are identifiers that are not shortened. -/
theorem timeField_of_plain (hc : make schema settings time timeField rs = .ok c)
    (hplain : schema.HasPlainNames) :
    isIdentifier c.timeField = true ∧ fieldName (.text c.timeField) = c.timeField := by
  by_cases h : HasTimes schema time timeField
  · obtain ⟨name, hname⟩ := timeField_of_hasTimes hc h
    have hself := Schema.resolve?_resolved hplain hname
    exact (Schema.resolve?_self_iff (Schema.agrees_of_resolve hself).2.2).1 hself
  · rw [(timeField_of_not_hasTimes hc h).1]
    exact ⟨schema.layer.isIdentifier_defaultTimeField,
      fieldName_of_plain schema.layer.defaultTimeField_plain⟩

/-- The restriction of a column to keys comes together. -/
theorem axisFilter_isOk {field : Value} {column : String}
    (hcolumn : c.schema.column field = .ok column) (keys : List Value) :
    ∃ r, c.axisFilter field keys = .ok r := by
  unfold axisFilter
  split
  · exact ⟨_, rfl⟩
  · split
    · exact ⟨_, rfl⟩
    · have hplain : IsPlain column := (c.schema.column_yields field).of_ok hcolumn
      have hsound : (Predicate.atom (.member (.asKey column) false keys)).Sound := hplain
      obtain ⟨f, hf, -⟩ := hsound.fragment
      exact ⟨.fragment f, Outcome.bind_eq_ok.2 ⟨column, hcolumn, Outcome.bind_eq_ok.2 ⟨f, hf, rfl⟩⟩⟩

end Pivot.Context

namespace Workspace

variable {c : Context} {metrics : List Metric} {ts : List TopN} {qs : List Fragment}
  {replies : List Reply}

/-! ## Answered settings -/

/-- The rows hold the keys that a setting asks for. -/
def HoldsKeys (reply : Reply) : Prop :=
  ∃ rows found, reply = .ok rows ∧ columnOf keyColumn rows.records = .ok found

/-- A setting whose query is answered with keys has its restriction. -/
theorem exists_resolves {t : TopN} {q : Fragment} {reply : Reply}
    (hquery : ranking c metrics t = .ok q) (hreply : HoldsKeys reply) :
    ∃ r, Resolves c metrics t q reply r := by
  obtain ⟨rows, found, hrows, hfound⟩ := hreply
  obtain ⟨metric, -, hkeys⟩ := Outcome.bind_eq_ok.1 hquery
  obtain ⟨key, hkey, -⟩ := Outcome.bind_eq_ok.1 hkeys
  obtain ⟨column, hcolumn, -⟩ := Outcome.bind_eq_ok.1 hkey
  obtain ⟨r, hr⟩ := Context.axisFilter_isOk hcolumn (distinctKeys found)
  exact ⟨r, hquery, rows, found, hrows, hfound, hr⟩

/-- So do all settings whose queries are. -/
theorem exists_allResolve (hqueries : ts.mapM (ranking c metrics) = .ok qs)
    (hreplies : List.Forall₂ (fun _ reply => HoldsKeys reply) qs replies) :
    ∃ kept, AllResolve c metrics ts qs replies kept := by
  have hranked := Outcome.forall₂_of_mapM hqueries
  clear hqueries
  induction hranked generalizing replies with
  | nil => exact ⟨[], .nil replies⟩
  | cons hquery _ ih =>
    cases hreplies with
    | cons hreply hrest =>
      obtain ⟨r, hr⟩ := exists_resolves hquery hreply
      obtain ⟨kept, hkept⟩ := ih hrest
      exact ⟨r :: kept, .cons hr hkept⟩

/-- A context that is made of a request takes a further filter, and stays the same otherwise, just
if there is a column of times and its name is an identifier that is not shortened, as plain names
are. A context without such a column is rejected with each filter. When all queries of the top-n
filters of a request are answered, all that is left to do is to add their restrictions. -/
theorem filters_are_taken_with_a_time_column {schema : Schema} {settings : Settings}
    {time timeField : Value} {rs : List Restriction}
    (hc : Context.make schema settings time timeField rs = .ok c) :
    (∀ extra, c.withFilters extra = .ok { c with restrictions := c.restrictions ++ extra } ↔
      Context.HasTimes schema time timeField ∧ isIdentifier c.timeField = true ∧
        fieldName (.text c.timeField) = c.timeField) ∧
    (schema.HasPlainNames →
      isIdentifier c.timeField = true ∧ fieldName (.text c.timeField) = c.timeField) ∧
    (¬Context.HasTimes schema time timeField → ∀ extra, c.withFilters extra =
      reject .fieldNotAllowed (schema.refusal (.text schema.layer.defaultTimeField))) ∧
    ∀ (w : Workspace) (r : Request) (metrics : List Metric) (t : TopN) (ts : List TopN),
      w.plainContext r = .ok (c, t :: ts) →
      ∀ qs, (t :: ts).mapM (ranking c metrics) = .ok qs →
      ∀ replies, List.Forall₂ (fun _ reply => HoldsKeys reply) qs replies →
      ∃ kept, AllResolve c metrics (t :: ts) qs replies kept ∧
        (w.context r metrics).replay replies = (c.withFilters kept, qs) := by
  refine ⟨fun extra => ?_, Context.timeField_of_plain hc, Context.withFilters_refused hc, ?_⟩
  · rw [Context.withFilters_eq_ok_iff hc, Context.resolve?_timeField_iff hc]
  · intro w r metrics t ts hplain qs hqueries replies hreplies
    obtain ⟨kept, hkept⟩ := exists_allResolve hqueries hreplies
    refine ⟨kept, hkept, ?_⟩
    rw [context_of_plain hplain, hkept.replay]
    rfl

/-! ## Packets -/

/-- Packets in a window of times can be restricted further. -/
theorem timed_packets_take_filters :
    Context.make Scope.packets.schema .standard forPackets.time .null largePackets.restrictions =
      .ok largePackets ∧
    largePackets.withFilters packetKept =
      .ok { largePackets with restrictions := largePackets.restrictions ++ packetKept } := by
  have hmake : Context.make Scope.packets.schema .standard forPackets.time .null
      largePackets.restrictions = .ok largePackets := by decide +kernel
  obtain ⟨htakes, hplain, -⟩ := filters_are_taken_with_a_time_column hmake
  exact ⟨hmake, (htakes packetKept).2 ⟨by decide, hplain (by decide)⟩⟩

/-- A request for packets of any time. -/
def anyTime : Request :=
  { forPackets with time := .null }

/-- Packets without a column of times cannot, so a request with a top-n filter is rejected when its
query is answered, while the same request is fine when the filter is disabled. -/
theorem packets_of_any_time_take_no_filter :
    Context.make Scope.packets.schema .standard .null .null [] = .ok View.allPackets ∧
    (∀ extra, View.allPackets.withFilters extra =
      .error (.rejected .fieldNotAllowed "'ts_server_nsec' is not a column of TCP")) ∧
    (ofPackets.context (anyTime.withItems [TopN.disable topPorts]) [.countOf "size"]).replay [] =
      (.ok View.allPackets, []) ∧
    ∃ q, (ofPackets.context (anyTime.withItems [topPorts]) [.countOf "size"]).replay
      (portReplies.take 1) =
        (.error (.rejected .fieldNotAllowed "'ts_server_nsec' is not a column of TCP"), [q]) := by
  have hmake : Context.make Scope.packets.schema .standard .null .null [] =
      .ok View.allPackets := by decide +kernel
  have hrefused : ∀ extra, View.allPackets.withFilters extra =
      .error (.rejected .fieldNotAllowed "'ts_server_nsec' is not a column of TCP") := by
    intro extra
    have hdetail : Scope.packets.schema.refusal (.text "ts_server_nsec") =
        "'ts_server_nsec' is not a column of TCP" := by decide +kernel
    rw [← hdetail]
    exact Context.withFilters_refused hmake (by decide +kernel) extra
  have hdisabled : ofPackets.plainContext (anyTime.withItems [TopN.disable topPorts]) =
      .ok (View.allPackets, []) := by decide +kernel
  have hplain : ofPackets.plainContext (anyTime.withItems [topPorts]) =
      .ok (View.allPackets, [⟨.text "port", 2, .top, .null⟩]) := by decide +kernel
  obtain ⟨q, hq⟩ : ∃ q, ranking View.allPackets [.countOf "size"] ⟨.text "port", 2, .top, .null⟩ =
      .ok q := by
    have hsound : View.allPackets.Sound := List.forall_mem_nil _
    have hhead : (View.allPackets.rankHead (.text "port") (.countOf "size")).isOk = true := by
      decide +kernel
    obtain ⟨head, hhead⟩ := Outcome.isOk_iff.1 hhead
    exact ranking_builds hsound rfl hhead (by decide) (by decide +kernel)
  have hqueries : [⟨.text "port", 2, .top, .null⟩].mapM
      (ranking View.allPackets [.countOf "size"]) = .ok [q] :=
    Outcome.mapM_of_forall₂ (.cons hq .nil)
  have hreplies : List.Forall₂ (fun _ reply => HoldsKeys reply) [q] (portReplies.take 1) :=
    .cons ⟨_, _, rfl, columnOf_ofColumn _ _⟩ .nil
  obtain ⟨kept, hkept⟩ := exists_allResolve hqueries hreplies
  refine ⟨hmake, hrefused, ?_, q, ?_⟩
  · rw [context_of_plain hdisabled]
    rfl
  · rw [context_of_plain hplain, hkept.replay]
    exact congrArg (·, [q]) (hrefused kept)

end Workspace

end Crosstab
