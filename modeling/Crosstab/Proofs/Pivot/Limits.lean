import Crosstab.Proofs.Pivot.Ranking
import Crosstab.Proofs.Pivot.Requests

/-!
# Limits of pivot queries

The queries of a sound context come together unless the request is refused, with one exception: a
ranking whose limit is below one. All other numbers of a ranking stand in its query as they are.
-/

namespace Crosstab

open Crosstab.Filter Pivot Sql

namespace Pivot

/-! ## Failures -/

/-- If the failure is that of a statement, it is that of one of the limits, which is below one. -/
def LimitFault (limits : List Int) (e : Failure) : Prop :=
  ∀ cause, e = .miscompiled cause → ∃ n ∈ limits, n < 1 ∧ cause = .limit (Value.int n).display

theorem LimitFault.of_not {e : Failure} (h : NotMiscompiled e) (limits : List Int) :
    LimitFault limits e :=
  fun cause he => absurd he (h cause)

theorem LimitFault.mono {limits limits' : List Int} (h : limits ⊆ limits') {e : Failure}
    (he : LimitFault limits e) : LimitFault limits' e := by
  intro cause hcause
  obtain ⟨n, hn, hleast⟩ := he cause hcause
  exact ⟨n, h hn, hleast⟩

/-- A rejection is not that of a statement, nor is a time zone that cannot be used. -/
theorem notMiscompiled_of_refuses {scope : Scope} {e : Failure} (h : scope.Refuses e) :
    NotMiscompiled e := by
  rintro cause rfl
  rcases h with ⟨_, _, h⟩ | ⟨h, -⟩ <;> cases h

end Pivot

variable {α : Type} {P : α → Prop} {x : Outcome α}

namespace Outcome.Yields

/-- What says nothing of statements fails for no limit. -/
theorem limited (h : Outcome.Yields NotMiscompiled P x) (limits : List Int) :
    Outcome.Yields (LimitFault limits) P x :=
  h.weaken fun _ he => .of_not he limits

theorem limited_of_rejection (h : Outcome.Yields IsRejection P x) (limits : List Int) :
    Outcome.Yields (LimitFault limits) P x :=
  h.weaken fun _ he => .of_not (IsUnread.notMiscompiled (.inl he)) limits

theorem limited_of_refuses {scope : Scope} (h : Outcome.Yields scope.Refuses P x)
    (limits : List Int) : Outcome.Yields (LimitFault limits) P x :=
  h.weaken fun _ he => .of_not (notMiscompiled_of_refuses he) limits

end Outcome.Yields

namespace Pivot

/-! ## Queries -/

/-- The query is that of a ranking with the limit. -/
def IsRankingTo (n : Int) (q : Fragment) : Prop :=
  ∃ head ranking, head ≠ [] ∧
    q.filled = lines (Select.pagedLines head (orderText (rankTerms ranking)) (some n) none)

/-- The query ends in what it is grouped by, without an order and a limit. -/
def IsUnlimited (q : Fragment) : Prop :=
  ∃ rs keys, rs ≠ [] ∧ q.filled = lines (rs ++ [clause "GROUP BY" keys])

/-- The query is without limit, or a ranking to one of the limits, which is at least one. -/
def Limited (limits : List Int) (q : Fragment) : Prop :=
  IsUnlimited q ∨ ∃ n ∈ limits, 1 ≤ n ∧ IsRankingTo n q

namespace Context

variable {c : Context} {extra : List Restriction}

/-! ### Parts -/

theorem key_yields (field : Value) :
    Outcome.Yields IsRejection (fun k => Inert k ∧ k.isEmpty = false) (c.key field) := by
  refine (c.schema.column_yields field).known.bind fun column hcolumn => .ok ⟨?_, ?_⟩
  · exact inert_key (key_of_column hcolumn)
  · rw [keyExpr_eq]
    simp

theorem expr_yields (metric : Metric) :
    Outcome.Yields IsRejection Inert (metric.expr c.schema) := by
  have hcomes : Outcome.Yields IsRejection (fun _ => True) (metric.expr c.schema) := by
    unfold Metric.expr
    split
    · exact .ok trivial
    · exact (c.schema.column_yields _).bind fun _ _ => .ok trivial
  exact hcomes.known.mono fun _ h => inert_expr h

/-! ### Statements -/

/-- A page of a statement comes together if its limit is one. -/
theorem page_yields {s : Select} {table order : String} (hs : s.Sound)
    (htable : s.table? = some table) (hblank : Text.isBlank table = false)
    (horders : s.orders = [order]) (hoffset : s.offset? = none) (n : Int) :
    Outcome.Yields (LimitFault [n])
      (fun q : Fragment => 1 ≤ n ∧
        q.filled = lines (Select.pagedLines (s.headLines table) order (some n) none))
      (do (← paged (.int n) .null s).build) := by
  by_cases hn : 1 ≤ n
  · have hpaged : paged (.int n) .null s = .ok (onPage s (some n) none) := by
      have hlimit : ((Value.int n) == .null) = false := rfl
      have hnone : Value.null.truthy = false := rfl
      simp only [paged, hlimit, hnone, Bool.false_eq_true, if_false, Select.limitTo_int hn, bind,
        Except.bind, pure, Except.pure, onPage, ← hoffset]
    rw [hpaged]
    have hbuild := Select.build_yields (sound_onPage hs (some n) none)
    show Outcome.Yields _ _ (onPage s (some n) none).build
    refine (hbuild.weaken fun e he => ?_).mono fun q hq => ⟨hn, ?_⟩
    · rintro cause rfl
      rcases he with ⟨-, htables⟩ | ⟨h, -⟩
      · exact absurd (htables table htable) (Bool.eq_false_iff.1 hblank)
      · cases h
    · obtain ⟨-, table', htable', hfilled⟩ := hq
      obtain rfl := Option.some.inj ((Option.mem_def.1 htable').symm.trans htable)
      exact hfilled.trans (filled_onPage horders _ _)
  · have hpaged :
        paged (.int n) .null s = .error (.miscompiled (.limit (Value.int n).display)) := by
      have hlimit : ((Value.int n) == .null) = false := rfl
      have hless : n < 1 := Int.not_le.1 hn
      simp only [paged, hlimit, Bool.false_eq_true, if_false, Select.limitTo, Value.toInt, hless,
        if_true, bind, Except.bind]
      rfl
    rw [hpaged]
    refine .error fun cause hcause => ?_
    obtain rfl := Failure.miscompiled.inj hcause
    exact ⟨n, List.mem_cons_self, Int.not_le.1 hn, rfl⟩

/-- The query for the keys that come first is a ranking to its limit, unless that is below one. -/
theorem topKeys_yields (hc : c.Sound) (hextra : ∀ r ∈ extra, r.Sound) (field : Value)
    (metric : Metric) (n : Int) (ranking : Ranking) :
    Outcome.Yields (LimitFault [n]) (fun q => 1 ≤ n ∧ IsRankingTo n q)
      (c.topKeys field metric (.int n) extra ranking .null) := by
  rw [topKeys_eq]
  refine ((key_yields field).limited_of_rejection [n]).known.bind fun key hkey => ?_
  refine ((expr_yields metric).limited_of_rejection [n]).known.bind fun value hvalue => ?_
  refine ((whereWith_yields hc hextra).limited_of_refuses [n]).bind fun f hf => ?_
  have hpage := page_yields (sound_ranked hkey hvalue hf ranking) (table_ranked key value f ranking)
    c.schema.fromClause_not_blank rfl (c.grouped_parts _ [key] f).2.2.2 n
  exact hpage.mono fun q hq => ⟨hq.1, _, ranking, Select.headLines_ne_nil _ _, hq.2⟩

/-- Groups of rows come together, without an order and a limit. -/
theorem grouped_yields {E : Failure → Prop} {columns keys : List String} {f : Fragment}
    (hcolumns : ∀ x ∈ columns, Inert x) (hf : Balanced f.sql) (hsome : keys ≠ [])
    (hkeys : ∀ k ∈ keys, Inert k ∧ k.isEmpty = false) :
    Outcome.Yields E IsUnlimited ((c.selectWhere columns f).groupBy keys).build := by
  have hinert : ∀ k ∈ keys, Inert k := fun k hk => (hkeys k hk).1
  obtain ⟨q, hq⟩ := grouped_builds (c := c) hcolumns hf hinert
  obtain ⟨rs, hrs, hfilled⟩ := grouped_reads (sound_grouped hcolumns hf hinert) hsome
    (fun k hk => (hkeys k hk).2) hq
  rw [hq]
  exact .ok ⟨rs, _, hrs, hfilled⟩

/-- The query for a matrix comes together without a limit, or is refused. -/
theorem matrix_yields (hc : c.Sound) (colField rowField : Value) (metric : Metric)
    (colKeys rowKeys : List Value) :
    Outcome.Yields c.scope.Refuses IsUnlimited
      (c.matrix colField rowField metric colKeys rowKeys) := by
  have hrejected : ∀ e, IsRejection e → c.scope.Refuses e := fun e he => .inl he
  refine ((key_yields colField).weaken hrejected).bind fun colKey hcol => ?_
  refine ((key_yields rowField).weaken hrejected).bind fun rowKey hrow => ?_
  refine (axisFilter_yields colField colKeys).bind fun r hr => ?_
  refine (axisFilter_yields rowField rowKeys).bind fun s hs => ?_
  refine ((expr_yields metric).weaken hrejected).bind fun value hvalue => ?_
  have hextra : ∀ t ∈ [r, s], t.Sound :=
    List.forall_mem_cons.2 ⟨hr, List.forall_mem_singleton.2 hs⟩
  refine (whereWith_yields hc hextra).bind fun f hf => ?_
  have hcolumns : ∀ x ∈ [colKey ++ " AS " ++ colColumn, rowKey ++ " AS " ++ rowColumn,
      value ++ " AS " ++ metricColumn], Inert x := by
    simp only [List.forall_mem_cons]
    exact ⟨inert_named hcol.1 (by decide), inert_named hrow.1 (by decide),
      inert_named hvalue (by decide), nofun⟩
  have hkeys : ∀ k ∈ [colKey, rowKey], Inert k ∧ k.isEmpty = false :=
    List.forall_mem_cons.2 ⟨hcol, List.forall_mem_singleton.2 hrow⟩
  exact grouped_yields hcolumns hf (List.cons_ne_nil _ _) hkeys

end Context

end Pivot

end Crosstab
