import Crosstab.Pivot.Query
import Crosstab.Proofs.Filter.Conditions
import Crosstab.Proofs.Sql.Built

/-!
# The condition of a pivot request

The condition of a context is balanced if the conditions that it holds ready are, and it comes
together with further restrictions if their entries do.
-/

namespace Crosstab.Pivot

open Crosstab.Filter Sql

/-- A condition that is put together is balanced. -/
def Restriction.Sound : Restriction → Prop
  | .entry _ => True
  | .fragment f => Balanced f.sql

/-- The conditions that a context holds ready are balanced. -/
def Context.Sound (c : Context) : Prop :=
  ∀ r ∈ c.restrictions, r.Sound

namespace Context

variable {c : Context} {extra : List Restriction}

theorem balanced_parts (h : ∀ r ∈ extra, r.Sound) :
    ∀ f ∈ (parts extra).2, Balanced f.sql := by
  intro f hf
  obtain ⟨r, hr, hpart⟩ := List.mem_filterMap.1 hf
  have hsound := h r hr
  cases r with
  | entry e => cases hpart
  | fragment g =>
    obtain rfl := Option.some.inj hpart
    exact hsound

/-- Balanced conditions behind another one. -/
theorem joined_builds {p? : Option Predicate} (hp : Scope.Conjunctive p?)
    (before after : List Fragment) (hbefore : ∀ f ∈ before, Balanced f.sql)
    (hafter : ∀ f ∈ after, Balanced f.sql) :
    ∃ f, (do Fragment.join " AND " (before ++ (← Predicate.fragment? p?) :: after)) = .ok f ∧
      Balanced f.sql := by
  obtain ⟨g, hg, hbalanced⟩ := hp.fragment
  have hall : ∀ f ∈ before ++ g :: after, Balanced f.sql := by
    rw [List.forall_mem_append, List.forall_mem_cons]
    exact ⟨hbefore, hbalanced, hafter⟩
  obtain ⟨f, hf, hfbalanced, -⟩ := join_carries (by decide : Inert " AND ") hall
  refine ⟨f, ?_, hfbalanced⟩
  rw [hg]
  exact hf

theorem joined_yields {E : Failure → Prop} {p? : Option Predicate} (hp : Scope.Conjunctive p?)
    (before after : List Fragment) (hbefore : ∀ f ∈ before, Balanced f.sql)
    (hafter : ∀ f ∈ after, Balanced f.sql) :
    Outcome.Yields E (fun f : Fragment => Balanced f.sql) (do
      Fragment.join " AND " (before ++ (← Predicate.fragment? p?) :: after)) := by
  obtain ⟨f, hf, hbalanced⟩ := joined_builds hp before after hbefore hafter
  rw [hf]
  exact .ok hbalanced

/-- The condition of a sound context is balanced, or refused. -/
theorem baseWhere_yields (hc : c.Sound) :
    Outcome.Yields c.scope.Refuses (fun f => Balanced f.sql) c.baseWhere :=
  (Scope.whereEntries_yields _ _ _).bind fun _ hp =>
    joined_yields hp [] _ (List.forall_mem_nil _) (balanced_parts hc)

/-- So is the condition with further restrictions. -/
theorem whereWith_yields (hc : c.Sound) (hextra : ∀ r ∈ extra, r.Sound) :
    Outcome.Yields c.scope.Refuses (fun f => Balanced f.sql) (c.whereWith extra) := by
  refine (baseWhere_yields hc).bind fun base hbase => (Scope.entries_yields _ .null).bind
    fun p? hp => ?_
  have hbefore : ∀ f ∈ [base], Balanced f.sql := List.forall_mem_singleton.2 hbase
  exact joined_yields hp [base] _ hbefore (balanced_parts hextra)

theorem baseWhere_balanced (hc : c.Sound) {f : Fragment} (h : c.baseWhere = .ok f) :
    Balanced f.sql :=
  (baseWhere_yields hc).of_ok h

theorem whereWith_balanced (hc : c.Sound) (hextra : ∀ r ∈ extra, r.Sound) {f : Fragment}
    (h : c.whereWith extra = .ok f) : Balanced f.sql :=
  (whereWith_yields hc hextra).of_ok h

/-- Further restrictions come together if their entries do. -/
theorem whereWith_builds (hc : c.Sound) (hextra : ∀ r ∈ extra, r.Sound) {base : Fragment}
    (hbase : c.baseWhere = .ok base) {p? : Option Predicate}
    (hp : c.scope.entries (parts extra).1 .null = .ok p?) :
    ∃ f, c.whereWith extra = .ok f ∧ Balanced f.sql := by
  have hbefore : ∀ f ∈ [base], Balanced f.sql :=
    List.forall_mem_singleton.2 (baseWhere_balanced hc hbase)
  have hconjunctive := (Scope.entries_yields _ .null).of_ok hp
  obtain ⟨f, hf, hbalanced⟩ := joined_builds hconjunctive [base] _ hbefore (balanced_parts hextra)
  refine ⟨f, ?_, hbalanced⟩
  unfold whereWith
  simp only [hbase, hp, bind, Except.bind] at hf ⊢
  exact hf

theorem where_balanced (hc : c.Sound) {f : Fragment} (h : c.whereWith [] = .ok f) :
    Balanced f.sql :=
  whereWith_balanced hc (List.forall_mem_nil _) h

/-- The restriction of a field to keys is balanced, or refused. -/
theorem axisFilter_yields (field : Value) (keys : List Value) :
    Outcome.Yields c.scope.Refuses Restriction.Sound (c.axisFilter field keys) := by
  unfold axisFilter
  split
  · exact .ok trivial
  · split
    · exact .ok (by decide : Balanced "1=0")
    · refine (Scope.column_yields field).bind fun column hcolumn => ?_
      have hsound : (Predicate.atom (.member (.asKey column) false keys)).Sound := hcolumn
      obtain ⟨f, hf, -, -, hbalanced⟩ := hsound.fragment
      rw [hf]
      exact .ok hbalanced

theorem axisFilter_sound {field : Value} {keys : List Value} {r : Restriction}
    (h : c.axisFilter field keys = .ok r) : r.Sound :=
  (axisFilter_yields field keys).of_ok h

/-- A restriction to keys that is an entry is the one that keeps them. -/
theorem axisFilter_entry {field : Value} {keys : List Value} {e : Entry}
    (h : c.axisFilter field keys = .ok (.entry e)) : e = .checkbox field keys := by
  unfold axisFilter at h
  split at h
  · exact (Restriction.entry.inj (Except.ok.inj h)).symm
  · split at h
    · exact nomatch Except.ok.inj h
    · obtain ⟨column, -, h⟩ := Outcome.bind_eq_ok.1 h
      obtain ⟨f, -, h⟩ := Outcome.bind_eq_ok.1 h
      exact nomatch Except.ok.inj h

end Context

end Crosstab.Pivot
