import Crosstab.Proofs.Value.Equality
import Crosstab.Proofs.View.Workspace
import Crosstab.View.Table
import Mathlib.Data.List.Induction
import Mathlib.Data.List.Pairwise

/-!
# Cells of a pivot table

The cells of a table are found again under the keys of their groups and the labels of their metrics.
A sort by a metric takes the keys that have a number in the order of their numbers, equal ones as
they came, and leaves the others behind them as they were.
-/

namespace Crosstab.View

open Number Pivot

/-! ## Values by keys -/

section Keyed

variable {α β : Type} {same : α → α → Bool}

theorem setKeyed_of_new {key : α} (v : β) {acc : List (α × β)}
    (h : ∀ p ∈ acc, same p.1 key = false) : setKeyed same key v acc = acc ++ [(key, v)] := by
  induction acc with
  | nil => rfl
  | cons p acc ih =>
    obtain ⟨hp, hacc⟩ := List.forall_mem_cons.1 h
    rw [setKeyed, hp, if_neg Bool.false_ne_true, ih hacc]
    rfl

/-- Values of different keys are kept as they are. -/
theorem keyed_of_pairwise {pairs : List (α × β)}
    (h : pairs.Pairwise fun p q => same p.1 q.1 = false) : keyed same pairs = pairs := by
  induction pairs using List.reverseRecOn with
  | nil => rfl
  | append_singleton pairs p ih =>
    obtain ⟨hpairs, -, hlast⟩ := List.pairwise_append.1 h
    have hnew : ∀ q ∈ pairs, same q.1 p.1 = false := fun q hq => hlast q hq p List.mem_cons_self
    rw [keyed, List.foldl_append]
    show setKeyed same p.1 p.2 (keyed same pairs) = _
    rw [ih hpairs, setKeyed_of_new p.2 hnew]

/-- The key is the same as itself and as no other. -/
def IsExact (same : α → α → Bool) (key : α) : Prop :=
  ∀ other, same key other = true ↔ key = other

theorem forall_setKeyed {P : α → Prop} {key : α} (hkey : P key) (v : β) {acc : List (α × β)}
    (hacc : ∀ p ∈ acc, P p.1) : ∀ p ∈ setKeyed same key v acc, P p.1 := by
  induction acc with
  | nil => exact List.forall_mem_singleton.2 hkey
  | cons q acc ih =>
    obtain ⟨hq, hacc⟩ := List.forall_mem_cons.1 hacc
    unfold setKeyed
    split
    · exact List.forall_mem_cons.2 ⟨hq, hacc⟩
    · exact List.forall_mem_cons.2 ⟨hq, ih hacc⟩

theorem find?_setKeyed {key : α} (hkey : IsExact same key) (v : β) {acc : List (α × β)}
    (hacc : ∀ p ∈ acc, IsExact same p.1) (wanted : α) :
    ((setKeyed same key v acc).find? fun p => same p.1 wanted).map (·.2) =
      if same key wanted then some v else (acc.find? fun p => same p.1 wanted).map (·.2) := by
  induction acc with
  | nil =>
    cases hwanted : same key wanted with
    | true => simp [setKeyed, hwanted]
    | false => simp [setKeyed, hwanted]
  | cons q acc ih =>
    obtain ⟨hq, hacc⟩ := List.forall_mem_cons.1 hacc
    by_cases hsame : same q.1 key = true
    · have heq : q.1 = key := (hq key).1 hsame
      rw [setKeyed, if_pos hsame]
      cases hwanted : same key wanted with
      | true => simp [heq, hwanted]
      | false => simp [heq, hwanted]
    · rw [setKeyed, if_neg hsame]
      cases hwanted : same q.1 wanted with
      | false => simpa [hwanted] using ih hacc
      | true =>
        have hother : ¬same key wanted = true := by
          intro h
          have heq : key = q.1 := ((hkey wanted).1 h).trans ((hq wanted).1 hwanted).symm
          exact hsame ((hq key).2 heq.symm)
        simp [hwanted, hother]

/-- Under a key the value is found that was given for it last. -/
theorem find?_keyed {pairs : List (α × β)} (h : ∀ p ∈ pairs, IsExact same p.1) (wanted : α) :
    ((keyed same pairs).find? fun p => same p.1 wanted).map (·.2) =
      (pairs.reverse.find? fun p => same p.1 wanted).map (·.2) := by
  have hall : (∀ p ∈ keyed same pairs, IsExact same p.1) ∧
      ((keyed same pairs).find? fun p => same p.1 wanted).map (·.2) =
        (pairs.reverse.find? fun p => same p.1 wanted).map (·.2) := by
    induction pairs using List.reverseRecOn with
    | nil => exact ⟨nofun, rfl⟩
    | append_singleton pairs p ih =>
      obtain ⟨hpairs, hlast⟩ := List.forall_mem_append.1 h
      have hp := hlast p List.mem_cons_self
      obtain ⟨hkeys, hfind⟩ := ih hpairs
      have hstep : keyed same (pairs ++ [p]) = setKeyed same p.1 p.2 (keyed same pairs) := by
        rw [keyed, List.foldl_append]
        rfl
      rw [hstep]
      refine ⟨forall_setKeyed hp p.2 hkeys, ?_⟩
      rw [find?_setKeyed hp p.2 hkeys, hfind, List.reverse_append]
      cases hwanted : same p.1 wanted with
      | true => simp [hwanted]
      | false => simp [hwanted]
  exact hall.2

end Keyed

/-! ## Stable sorting -/

/-- Two elements of a list without repetitions come in one order only. -/
theorem sublist_asymm {α : Type} {xs : List α} (hxs : xs.Nodup) {a b : α}
    (hab : [a, b].Sublist xs) : ¬[b, a].Sublist xs := by
  intro hba
  induction xs with
  | nil => cases hab
  | cons x xs ih =>
    obtain ⟨hx, hxs⟩ := List.nodup_cons.1 hxs
    rcases List.sublist_cons_iff.1 hab with hrest | ⟨_, hhead, hb⟩
    · rcases List.sublist_cons_iff.1 hba with hback | ⟨_, hhead, -⟩
      · exact ih hxs hrest hback
      · obtain ⟨rfl, -⟩ := List.cons.inj hhead
        exact hx (hrest.subset (List.mem_cons_of_mem _ List.mem_cons_self))
    · obtain ⟨rfl, rfl⟩ := List.cons.inj hhead
      rcases List.sublist_cons_iff.1 hba with hback | ⟨_, hhead, -⟩
      · exact hx (hback.subset (List.mem_cons_of_mem _ List.mem_cons_self))
      · obtain ⟨rfl, -⟩ := List.cons.inj hhead
        exact hx (hb.subset List.mem_cons_self)

/-- A sorted list has its elements in order, and those that are equal in the order as they came. -/
theorem pairwise_stable {α : Type} {le : α → α → Bool}
    (htrans : ∀ a b c, le a b = true → le b c = true → le a c = true)
    (htotal : ∀ a b, (le a b || le b a) = true) {xs : List α} (hxs : xs.Nodup) :
    (xs.mergeSort le).Pairwise fun a b => le a b = true ∧ (le b a = true → [a, b].Sublist xs) := by
  have hsorted := List.pairwise_mergeSort htrans htotal xs
  have hnodup : (xs.mergeSort le).Nodup := (xs.mergeSort_perm le).nodup_iff.2 hxs
  have hsome : ∀ a ∈ xs, ∀ b ∈ xs, a ≠ b → [a, b].Sublist xs ∨ [b, a].Sublist xs := by
    have hpairs : xs.Pairwise fun a b => [a, b].Sublist xs ∨ [b, a].Sublist xs :=
      List.pairwise_iff_forall_sublist.2 fun h => .inl h
    have hsymm : Std.Symm fun a b => [a, b].Sublist xs ∨ [b, a].Sublist xs := ⟨fun _ _ => Or.symm⟩
    exact fun a ha b hb => hpairs.forall ha hb
  refine List.pairwise_iff_forall_sublist.2 fun {a b} hab => ?_
  refine ⟨List.pairwise_iff_forall_sublist.1 hsorted hab, fun hback => ?_⟩
  have hmem : ∀ c ∈ [a, b], c ∈ xs := fun c hc =>
    (xs.mergeSort_perm le).mem_iff.1 (hab.subset hc)
  have hne : a ≠ b := List.pairwise_iff_forall_sublist.1 hnodup hab
  rcases hsome a (hmem a (by simp)) b (hmem b (by simp)) hne with h | h
  · exact h
  · exact absurd (List.pair_sublist_mergeSort htrans htotal hback h) (sublist_asymm hnodup hab)

/-! ## Cells of groups -/

/-- Things can be looked up by the labels of the metrics, which are all different. -/
structure HasLabels (metrics : List Metric) : Prop where
  keys : ∀ m ∈ metrics, m.label.isKey = true
  distinct : metrics.Pairwise fun m n => m.label ≠ n.label ∧ m.label.equals n.label = false

/-- A group of rows by the keys of two fields, with its metrics by their places: whole numbers, or
none where a metric is null. -/
structure TableGroup where
  row : String
  column : String
  number? : Nat → Option Int

namespace TableGroup

/-- The metric at a place. -/
def value (i : Nat) (g : TableGroup) : Value :=
  (g.number? i).elim .null .int

/-- The metrics by their labels. -/
def cell (metrics : List Metric) (g : TableGroup) : Metrics :=
  metrics.zipIdx.map fun (m, i) => (m.label, g.value i)

/-- The row gives the keys and the metrics of the group. -/
structure On (metrics : List Metric) (row : Row) (g : TableGroup) : Prop where
  rowKey : row.get (groupKeyColumn 0) = .ok (.text g.row)
  columnKey : row.get (groupKeyColumn 1) = .ok (.text g.column)
  metric : ∀ i < metrics.length, row.get (groupMetricColumn i) = .ok (g.value i)

/-- The metric of the group at a place that can be compared without loss. -/
def Fits (g : TableGroup) : Prop :=
  ∀ i, ∀ n ∈ g.number? i, n.natAbs ≤ twoTo 53

variable {metrics : List Metric} {g : TableGroup}

/-- The row gives the cell of the group. -/
theorem On.metricsOf_eq {row : Row} (h : g.On metrics row) (hlabels : HasLabels metrics) :
    metricsOf metrics row = .ok (g.cell metrics) := by
  have hpairs : metrics.zipIdx.mapM (fun (m, i) => do
      let v ← row.get (groupMetricColumn i)
      return (← asKey m.label, v)) = .ok (g.cell metrics) := by
    refine Outcome.mapM_eq_map ?_
    rintro ⟨m, i⟩ hmem
    have hkey : asKey m.label = .ok m.label :=
      if_pos (hlabels.keys m (List.fst_mem_of_mem_zipIdx hmem))
    show (do
      let v ← row.get (groupMetricColumn i)
      return (← asKey m.label, v)) = _
    rw [h.metric i (List.snd_lt_of_mem_zipIdx hmem), hkey]
    rfl
  have hdistinct : (g.cell metrics).Pairwise fun p q => p.1.equals q.1 = false := by
    refine List.pairwise_map.2 ?_
    have hlabel := hlabels.distinct
    rw [← List.zipIdx_map_fst 0 metrics, List.pairwise_map] at hlabel
    exact hlabel.imp fun h => h.2
  unfold metricsOf
  rw [hpairs]
  exact congrArg Except.ok (keyed_of_pairwise hdistinct)

/-- Under its label a metric is found. -/
theorem metricAt_cell (hlabels : HasLabels metrics) {m : Metric} (hm : m ∈ metrics) :
    metricAt m.label (g.cell metrics) = g.value (metrics.idxOf m) := by
  have hplace : metrics.idxOf m < metrics.length := List.idxOf_lt_length_iff.2 hm
  have hself : metrics[metrics.idxOf m] = m := List.getElem_idxOf hplace
  have hfind : (g.cell metrics).find? (fun p => p.1 == m.label || p.1.equals m.label) =
      some (m.label, g.value (metrics.idxOf m)) := by
    refine List.find?_eq_some_iff_getElem.2 ⟨by simp, metrics.idxOf m, ?_, ?_, fun j hj => ?_⟩
    · simpa [cell] using hplace
    · simp [cell, hself]
    · have hbefore := List.pairwise_iff_getElem.1 hlabels.distinct j (metrics.idxOf m)
        (Nat.lt_trans hj hplace) hplace hj
      rw [hself] at hbefore
      simp [cell, hbefore.1, hbefore.2]
  rw [metricAt, hfind]
  rfl

end TableGroup

theorem isExact_texts (a b : String) : IsExact Value.equalItems [.text a, .text b] := by
  intro other
  rcases other with _ | ⟨v, _ | ⟨w, _ | ⟨x, rest⟩⟩⟩
  · simp [Value.equalItems]
  · simp [Value.equalItems]
  · simp [Value.equalItems, Value.equals_text]
  · simp [Value.equalItems]

section Cells

variable {metrics : List Metric} {groups : List TableGroup} {records : List Row}

/-- The cells of groups by their keys. -/
def groupCells (metrics : List Metric) (groups : List TableGroup) : CellMap :=
  keyed Value.equalItems (groups.map fun g => ([.text g.row, .text g.column], g.cell metrics))

/-- Rows that give groups give the cells of these. -/
theorem cellMap_groups (hlabels : HasLabels metrics)
    (h : List.Forall₂ (TableGroup.On metrics) records groups) :
    cellMap 2 metrics records = .ok (groupCells metrics groups) := by
  have hgroups : records.mapM (groupOf 2 metrics) =
      .ok (groups.map fun g => ([.text g.row, .text g.column], g.cell metrics)) := by
    refine Outcome.mapM_of_forall₂ (List.forall₂_map_right_iff.2 (h.imp fun row g hon => ?_))
    have hkeys : (List.range 2).mapM (fun i => row.get (groupKeyColumn i)) =
        .ok [.text g.row, .text g.column] := by
      rw [show List.range 2 = [0, 1] from rfl, List.mapM_cons, List.mapM_cons, hon.rowKey,
        hon.columnKey]
      rfl
    unfold groupOf
    rw [hkeys, hon.metricsOf_eq hlabels]
    exact congrArg (fun x : Outcome Unit => x >>= fun _ => .ok _)
      (checkKeys_texts [g.row, g.column])
  unfold cellMap
  rw [hgroups]
  rfl

/-- The cell of two keys is that of the last group with them. -/
def lastCell (metrics : List Metric) (groups : List TableGroup) (row column : String) : Metrics :=
  ((groups.reverse.find? fun g => g.row == row && g.column == column).map (·.cell metrics)).getD []

theorem cellAt_groups (metrics : List Metric) (groups : List TableGroup) (row column : String) :
    cellAt [.text row, .text column] (groupCells metrics groups) =
      .ok (lastCell metrics groups row column) := by
  have hexact : ∀ p ∈ groups.map fun g => ([Value.text g.row, .text g.column], g.cell metrics),
      IsExact Value.equalItems p.1 := by
    intro p hp
    obtain ⟨g, -, rfl⟩ := List.mem_map.1 hp
    exact isExact_texts g.row g.column
  have hsame : ∀ g : TableGroup, Value.equalItems [.text g.row, .text g.column]
      [.text row, .text column] = (g.row == row && g.column == column) := by
    intro g
    simp [Value.equalItems, Value.equals]
  have hfind : ((groupCells metrics groups).find? fun c =>
      Value.equalItems c.1 [.text row, .text column]).map (·.2) =
      (groups.reverse.find? fun g => g.row == row && g.column == column).map (·.cell metrics) := by
    rw [groupCells, find?_keyed hexact, ← List.map_reverse, List.find?_map, Option.map_map]
    simp only [Function.comp_def, hsame]
  have hkeys : checkKeys [.text row, .text column] = .ok () := checkKeys_texts [row, column]
  unfold cellAt
  rw [hkeys, hfind]
  rfl

/-! ## Sorting by a metric -/

/-- The number that a key is sorted by: that of the metric in the last group of the key and the
column value. -/
def sortNumber? (metrics : List Metric) (groups : List TableGroup) (sort : ItemSort)
    (key : String) : Option Int :=
  (groups.reverse.find? fun g => g.row == key && g.column == sort.columnValue).bind fun g =>
    g.number? (metrics.idxOf sort.metric)

theorem sortValue_groups (hlabels : HasLabels metrics) {sort : ItemSort}
    (hsort : sort.metric ∈ metrics) (hfits : ∀ g ∈ groups, g.Fits) (key : String) :
    sortValue (groupCells metrics groups) sort (.text key) =
      .ok ((sortNumber? metrics groups sort key).map Binary64.ofWhole) := by
  have hkey : asKey sort.metric.label = .ok sort.metric.label := if_pos (hlabels.keys _ hsort)
  unfold sortValue
  rw [cellAt_groups, hkey]
  show (metricAt sort.metric.label (lastCell metrics groups key sort.columnValue)).toReal? = _
  unfold lastCell sortNumber?
  cases hfind : groups.reverse.find? fun g => g.row == key && g.column == sort.columnValue with
  | none => rfl
  | some g =>
    have hg : g ∈ groups := List.mem_reverse.1 (List.mem_of_find?_eq_some hfind)
    show (metricAt sort.metric.label (g.cell metrics)).toReal? = _
    rw [TableGroup.metricAt_cell hlabels hsort, TableGroup.value, Option.bind_some]
    cases hn : g.number? (metrics.idxOf sort.metric) with
    | none => rfl
    | some n => exact Value.toReal?_int (hfits g hg _ n hn)

end Cells

/-- Whether the first number comes before the second in the direction of a sort. -/
def isAhead (descending : Bool) (m n : Int) : Bool :=
  if descending then n < m else m < n

/-- The sorted keys are those that have a number, in the order of their numbers and equal ones as
they came. -/
structure Sorts (descending : Bool) (number? : String → Option Int) (keys sorted : List String) :
    Prop where
  perm : sorted.Perm (keys.filter (number? · != none))
  ordered : sorted.Pairwise fun a b => ∃ m n, number? a = some m ∧ number? b = some n ∧
    (isAhead descending m n = true ∨ m = n ∧ [a, b].Sublist keys)

section Sorted

variable {descending : Bool} {number? : String → Option Int} {keys : List String}

/-- The sorted keys and those that have no number are all keys. -/
theorem Sorts.perm_append {sorted : List String} (h : Sorts descending number? keys sorted) :
    (sorted ++ keys.filter (number? · == none)).Perm keys := by
  have hothers : (keys.filter fun k => !(number? k != none)) = keys.filter (number? · == none) :=
    List.filter_congr fun k _ => Bool.not_not _
  have hall := List.filter_append_perm (number? · != none) keys
  rw [hothers] at hall
  exact (h.perm.append_right _).trans hall

/-- There is one order of the sorted keys. -/
theorem Sorts.unique (hkeys : keys.Nodup) {as bs : List String}
    (ha : Sorts descending number? keys as) (hb : Sorts descending number? keys bs) : as = bs := by
  refine List.Perm.eq_of_pairwise ?_ ha.ordered hb.ordered (ha.perm.trans hb.perm.symm)
  rintro a b - - ⟨m, n, hm, hn, hab⟩ ⟨n', m', hn', hm', hba⟩
  obtain rfl := Option.some.inj (hn.symm.trans hn')
  obtain rfl := Option.some.inj (hm.symm.trans hm')
  rcases hab with hab | ⟨rfl, hab⟩
  · rcases hba with hba | ⟨rfl, -⟩
    · cases descending <;> simp [isAhead] at hab hba <;> omega
    · cases descending <;> simp [isAhead] at hab
  · rcases hba with hba | ⟨-, hba⟩
    · cases descending <;> simp [isAhead] at hba
    · exact absurd hba (sublist_asymm hkeys hab)

/-- The number of a key by which it is compared. -/
def sortRank (descending : Bool) (n : Int) : Binary64 :=
  if descending then (Binary64.ofWhole n).neg else .ofWhole n

theorem lt_sortRank (descending : Bool) (m n : Int) :
    (sortRank descending m).lt (sortRank descending n) = isAhead descending m n := by
  cases descending with
  | true => exact (Binary64.lt_neg _ _).trans (Binary64.lt_ofWhole n m)
  | false => exact Binary64.lt_ofWhole m n

theorem isNaN_sortRank (descending : Bool) (n : Int) : (sortRank descending n).isNaN = false := by
  cases descending with
  | true => exact (Binary64.isNaN_neg (.ofWhole n)).trans rfl
  | false => rfl

/-- Of keys with their numbers, those that have one and those that have none. -/
theorem filterMap_ranked (descending : Bool) (number? : String → Option Int) (keys : List String) :
    ((keys.map fun k => (Value.text k, (number? k).map Binary64.ofWhole)).filterMap fun (k, x?) =>
        x?.map fun x => (k, if descending then x.neg else x)) =
      ((keys.filter (number? · != none)).map fun k =>
        (.text k, sortRank descending ((number? k).getD 0))) ∧
    ((keys.map fun k => (Value.text k, (number? k).map Binary64.ofWhole)).filterMap fun (k, x?) =>
        if x?.isNone then some k else none) =
      (keys.filter (number? · == none)).map .text := by
  induction keys with
  | nil => exact ⟨rfl, rfl⟩
  | cons k keys ih =>
    obtain ⟨hpresent, hmissing⟩ := ih
    cases hn : number? k with
    | none =>
      constructor
      · simpa [hn] using hpresent
      · simpa [hn] using hmissing
    | some n =>
      constructor
      · simpa [hn, sortRank] using hpresent
      · simpa [hn] using hmissing

/-- Whether the first key may stand before the second: its number does not come behind. -/
def mayPrecede (descending : Bool) (number? : String → Option Int) (a b : String) : Bool :=
  !isAhead descending ((number? b).getD 0) ((number? a).getD 0)

theorem mayPrecede_trans (descending : Bool) (number? : String → Option Int) (a b c : String)
    (hab : mayPrecede descending number? a b = true)
    (hbc : mayPrecede descending number? b c = true) :
    mayPrecede descending number? a c = true := by
  cases descending <;> simp [mayPrecede, isAhead] at hab hbc ⊢ <;> omega

theorem mayPrecede_total (descending : Bool) (number? : String → Option Int) (a b : String) :
    (mayPrecede descending number? a b || mayPrecede descending number? b a) = true := by
  cases descending <;> simp [mayPrecede, isAhead] <;> omega

/-- A stable sort of the keys that have a number. -/
theorem sorts_mergeSort (descending : Bool) (number? : String → Option Int) (hkeys : keys.Nodup) :
    Sorts descending number? keys
      ((keys.filter (number? · != none)).mergeSort (mayPrecede descending number?)) := by
  set present := keys.filter (number? · != none) with hpresent
  have hperm := present.mergeSort_perm (mayPrecede descending number?)
  have hsome : ∀ k ∈ present, ∃ n, number? k = some n := by
    intro k hk
    have hnumber := (List.mem_filter.1 hk).2
    exact Option.ne_none_iff_exists'.1 (bne_iff_ne.1 hnumber)
  refine ⟨hperm, ?_⟩
  refine (pairwise_stable (mayPrecede_trans _ _) (mayPrecede_total _ _)
    (hkeys.filter _)).imp_of_mem ?_
  rintro a b ha hb ⟨hab, hties⟩
  obtain ⟨m, hm⟩ := hsome a (hperm.mem_iff.1 ha)
  obtain ⟨n, hn⟩ := hsome b (hperm.mem_iff.1 hb)
  simp only [mayPrecede, hm, hn, Option.getD_some, Bool.not_eq_true'] at hab hties
  refine ⟨m, n, hm, hn, ?_⟩
  cases hahead : isAhead descending m n with
  | true => exact .inl rfl
  | false =>
    have hequal : m = n := by
      cases descending <;> simp [isAhead] at hab hahead <;> omega
    exact .inr ⟨hequal, (hties hahead).trans List.filter_sublist⟩

/-- Sorting by the numbers of keys that have one. -/
theorem exists_sorts (descending : Bool) (number? : String → Option Int) {keys : List String}
    (hkeys : keys.Nodup) :
    ∃ sorted, Sorts descending number? keys sorted ∧
      sortedBy (fun p : Value × Binary64 => !p.2.isNaN) (fun p q => p.2.lt q.2)
          ((keys.filter (number? · != none)).map fun k =>
            (.text k, sortRank descending ((number? k).getD 0))) =
        sorted.map fun k => (.text k, sortRank descending ((number? k).getD 0)) := by
  refine ⟨_, sorts_mergeSort descending number? hkeys, ?_⟩
  rw [sortedBy, if_pos]
  · refine (List.map_mergeSort fun a _ b _ => ?_).symm
    simp [mayPrecede, lt_sortRank]
  · rw [List.all_map, List.all_eq_true]
    intro k _
    simp [isNaN_sortRank]

end Sorted

section Cells

variable {metrics : List Metric} {groups : List TableGroup}

/-- The keys are sorted by their numbers, and those without one come last. -/
theorem sortKeys_groups (hlabels : HasLabels metrics) {sort : ItemSort}
    (hsort : sort.metric ∈ metrics) (hfits : ∀ g ∈ groups, g.Fits) {keys : List String}
    (hkeys : keys.Nodup) :
    ∃ sorted, Sorts sort.descending (sortNumber? metrics groups sort) keys sorted ∧
      sortKeys (groupCells metrics groups) sort (keys.map .text) =
        .ok ((sorted ++ keys.filter (sortNumber? metrics groups sort · == none)).map .text) := by
  set number? := sortNumber? metrics groups sort with hnumber
  obtain ⟨sorted, hsorts, hsorted⟩ := exists_sorts sort.descending number? hkeys
  refine ⟨sorted, hsorts, ?_⟩
  have hranked : (keys.map Value.text).mapM (fun k => do
      return (k, ← sortValue (groupCells metrics groups) sort k)) =
      .ok (keys.map fun k => (Value.text k, (number? k).map Binary64.ofWhole)) := by
    refine Outcome.mapM_map_eq fun k _ => ?_
    rw [sortValue_groups hlabels hsort hfits]
    rfl
  obtain ⟨hpresent, hmissing⟩ := filterMap_ranked sort.descending number? keys
  unfold sortKeys
  rw [hranked]
  simp only [bind, Except.bind, pure, Except.pure, hpresent, hmissing, hsorted, List.map_map,
    List.map_append]
  rfl

end Cells

end Crosstab.View
