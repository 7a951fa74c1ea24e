import Crosstab.Proofs.Pivot.Ranking
import Crosstab.Proofs.Session
import Crosstab.View.Chart

/-!
# The context of a pivot view

While the context of a request is put together only rankings are asked for. So channels that rank
the same groups agree on it, and the conditions it holds ready are balanced.
-/

namespace Crosstab

open Pivot Sql
open Session (Reply)

/-! ## Keys -/

/-- Different texts are kept as they are. -/
theorem distinctKeys_texts {keys : List String} (h : keys.Nodup) :
    distinctKeys (keys.map .text) = keys.map .text := by
  have hfold : ∀ ks seen : List String, (seen ++ ks).Nodup →
      (ks.map Value.text).foldl (fun acc k => if k.isIn acc then acc else acc ++ [k])
        (seen.map .text) = (seen ++ ks).map .text := by
    intro ks
    induction ks with
    | nil => simp
    | cons k ks ih =>
      intro seen hnodup
      have hfresh : (Value.text k).isIn (seen.map .text) = false := by
        have hk : k ∉ seen := fun hmem =>
          (List.nodup_append.1 hnodup).2.2 k hmem k List.mem_cons_self rfl
        rw [Value.isIn, List.any_eq_false]
        intro v hv
        obtain ⟨s, hs, rfl⟩ := List.mem_map.1 hv
        have hne : s ≠ k := fun heq => hk (heq ▸ hs)
        simp [Value.equals, hne]
      have hnext : (seen ++ [k] ++ ks).Nodup := by simpa using hnodup
      have hstep := ih (seen ++ [k]) hnext
      rw [List.map_cons, List.foldl_cons, hfresh]
      simpa using hstep
  exact hfold keys [] h

theorem View.checkKeys_of_isKey {keys : List Value} (h : ∀ k ∈ keys, k.isKey = true) :
    View.checkKeys keys = .ok () := by
  induction keys with
  | nil => rfl
  | cons k ks ih =>
    obtain ⟨hk, hks⟩ := List.forall_mem_cons.1 h
    show (discard (asKey k) >>= fun _ => checkKeys ks) = _
    rw [asKey, if_pos hk]
    exact ih hks

/-- Things can be looked up by texts. -/
theorem View.checkKeys_texts (keys : List String) : View.checkKeys (keys.map .text) = .ok () :=
  checkKeys_of_isKey (List.forall_mem_map.2 fun _ _ => rfl)

namespace Workspace

variable {answer : Fragment → Reply}

/-- The keys of groups are read from their rows. -/
theorem keys_runs {q : Fragment} {groups : List Group} (h : answer q = .ok (groupRows groups))
    (hkeys : (groups.map (·.key)).Nodup) :
    Runs answer (keys q) (groups.map fun g => .text g.key) [q] := by
  have hcolumn : columnOf keyColumn (groupRows groups).records =
      .ok (groups.map fun g => .text g.key) := by
    simp only [Rows.records, groupRows, List.map_map, columnOf]
    exact Outcome.mapM_map_eq fun g _ => rfl
  refine (Runs.records h).bind (Runs.lift_bind hcolumn ?_)
  have htexts : (groups.map fun g => Value.text g.key) = (groups.map (·.key)).map .text := by
    rw [List.map_map]
    rfl
  rw [htexts, distinctKeys_texts hkeys]
  exact .done _

/-! ## Contexts -/

theorem keys_within {Q : Fragment → Prop} {q : Fragment} (h : Q q) :
    (keys q).Within Q fun _ => True :=
  (Session.Within.records h).bind fun _ _ =>
    (Session.Within.lift (.any _)).bind fun _ _ => trivial

/-- A top-n filter asks for a ranking and comes to a sound restriction. -/
theorem resolveTopN_within {c : Context} (hc : c.Sound) (metrics : List Metric) (t : TopN) :
    (resolveTopN c metrics t).Within IsRanking Restriction.Sound := by
  refine (Session.Within.lift (.any _)).bind fun metric _ => ?_
  have hquery : Outcome.Yields (fun _ => True) IsRanking
      (c.topKeys t.field metric (.int t.n) [] t.ranking .null) := by
    cases hq : c.topKeys t.field metric (.int t.n) [] t.ranking .null with
    | ok q => exact .ok (Context.isRanking_topKeys hc hq)
    | error e => exact .error trivial
  refine (Session.Within.lift hquery).bind fun q hq => (keys_within hq).bind fun found _ => ?_
  cases hfilter : c.axisFilter t.field found with
  | ok r => exact Context.axisFilter_sound hfilter
  | error e => exact trivial

theorem resolveAll_within {c : Context} (hc : c.Sound) (metrics : List Metric) (ts : List TopN) :
    (resolveAll c metrics ts).Within IsRanking fun rs => ∀ r ∈ rs, r.Sound := by
  induction ts with
  | nil => exact List.forall_mem_nil _
  | cons t ts ih =>
    refine (resolveTopN_within hc metrics t).bind fun r hr => ih.bind fun rs hrs => ?_
    exact List.forall_mem_cons.2 ⟨hr, hrs⟩

/-- A context holds the restrictions that it is made of. -/
theorem make_yields (schema : Schema) (settings : Settings) (time timeField : Value)
    {rs : List Restriction} (h : ∀ r ∈ rs, r.Sound) :
    Outcome.Yields IsRejection Context.Sound
      (Context.make schema settings time timeField rs) := by
  have hsound : ∀ column, Context.Sound
      ⟨schema, settings, column, Context.windowOn column time, rs⟩ := fun _ => h
  unfold Context.make
  dsimp only
  split
  · exact (schema.require_yields _).bind fun column _ => .ok (hsound column)
  · exact .ok (hsound _)

theorem withFilters_yields {c : Context} (hc : c.Sound) {rs : List Restriction}
    (h : ∀ r ∈ rs, r.Sound) : Outcome.Yields IsRejection Context.Sound (c.withFilters rs) :=
  make_yields _ _ _ _ (List.forall_mem_append.2 ⟨hc, h⟩)

/-- The context of a request asks for rankings only, and is sound. -/
theorem context_within (w : Workspace) (r : Request) (metrics : List Metric) :
    (w.context r metrics).Within IsRanking Context.Sound := by
  refine (Session.Within.lift (.any _)).bind fun schema _ => ?_
  refine (Session.Within.lift (.any _)).bind fun (entries, topNs) _ => ?_
  have hentries : ∀ s ∈ entries.map Restriction.entry, s.Sound := by
    intro s hs
    obtain ⟨e, -, rfl⟩ := List.mem_map.1 hs
    trivial
  have hmake := (make_yields schema w.settings r.time r.timeField hentries).weaken
    fun _ _ => trivial
  refine (Session.Within.lift hmake).bind fun c hc => ?_
  split
  · exact hc
  · refine (resolveAll_within hc metrics topNs).bind fun rs hrs => Session.Within.lift ?_
    exact (withFilters_yields hc hrs).weaken fun _ _ => trivial

/-- A workspace in which every layer has the columns of packets. -/
def ofPackets : Workspace where
  settings := .standard
  schemaOf _ := .ok Filter.Scope.packets.schema

end Workspace

/-- All packets. -/
def View.allPackets : Context where
  schema := Filter.Scope.packets.schema
  settings := .standard
  timeField := "ts_server_nsec"
  time := .null
  restrictions := []

end Crosstab
