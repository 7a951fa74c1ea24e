import Mathlib.Data.Set.List
import Crosstab.Proofs.Firsts
import Crosstab.Proofs.View.Chart
import Crosstab.Proofs.View.Median
import Crosstab.Proofs.View.TableCells
import Crosstab.View.Drilldown

/-!
# Points in their series

The points that come back one after the other are gathered by their keys: each key has one series,
at the place where it comes up first, and its points stay in their order. Then the series of
selected keys are brought to the front, in the order of the selection, by a stable sort.
-/

namespace Crosstab.View

open Number Pivot

/-! ## Distinct keys -/

theorem distinctKeys_concat (keys : List Value) (key : Value) :
    distinctKeys (keys ++ [key]) =
      if key.isIn (distinctKeys keys) then distinctKeys keys else distinctKeys keys ++ [key] := by
  rw [distinctKeys, List.foldl_append]
  rfl

theorem isIn_iff {v : Value} {ws : List Value} :
    v.isIn ws = true ↔ ∃ w ∈ ws, w.equals v = true :=
  List.any_eq_true

section Distinct

variable {keys : List Value}

theorem mem_of_mem_distinctKeys {key : Value} (h : key ∈ distinctKeys keys) : key ∈ keys := by
  induction keys using List.reverseRecOn with
  | nil => exact h
  | append_singleton keys k ih =>
    rw [distinctKeys_concat] at h
    split at h
    · exact List.mem_append_left _ (ih h)
    · exact (List.mem_append.1 h).elim (fun h => List.mem_append_left _ (ih h))
        (List.mem_append_right _)

/-- No two distinct keys are equal. -/
theorem distinctKeys_pairwise (keys : List Value) :
    (distinctKeys keys).Pairwise fun a b => a.equals b = false := by
  induction keys using List.reverseRecOn with
  | nil => exact .nil
  | append_singleton keys key ih =>
    rw [distinctKeys_concat]
    split
    · exact ih
    · next hnew =>
      refine List.pairwise_append.2 ⟨ih, List.pairwise_singleton _ _, fun a ha b hb => ?_⟩
      obtain rfl := List.mem_singleton.1 hb
      exact Bool.eq_false_iff.2 fun hequal => hnew (isIn_iff.2 ⟨a, ha, hequal⟩)

/-- Each key equals a distinct one. -/
theorem isIn_distinctKeys (hkeys : ∀ k ∈ keys, k.IsProperKey) {key : Value} (h : key ∈ keys) :
    key.isIn (distinctKeys keys) = true := by
  induction keys using List.reverseRecOn with
  | nil => cases h
  | append_singleton keys k ih =>
    obtain ⟨hbefore, hlast⟩ := List.forall_mem_append.1 hkeys
    obtain ⟨-, hself⟩ := hlast k (List.mem_singleton_self k)
    rw [distinctKeys_concat]
    rcases List.mem_append.1 h with hold | hnew
    · obtain ⟨w, hw, hequal⟩ := isIn_iff.1 (ih hbefore hold)
      split
      · exact isIn_iff.2 ⟨w, hw, hequal⟩
      · exact isIn_iff.2 ⟨w, List.mem_append_left _ hw, hequal⟩
    · obtain rfl := List.mem_singleton.1 hnew
      split
      · assumption
      · exact isIn_iff.2 ⟨key, List.mem_append_right _ (List.mem_singleton_self key), hself⟩

theorem nodup_distinctKeys (hkeys : ∀ k ∈ keys, k.IsProperKey) : (distinctKeys keys).Nodup := by
  refine (distinctKeys_pairwise keys).imp_of_mem ?_
  rintro a b ha - hdiffer rfl
  rw [(hkeys a (mem_of_mem_distinctKeys ha)).2] at hdiffer
  cases hdiffer

end Distinct

/-! ## Gathering points -/

/-- The points of a key among points with their keys, in their order. -/
def pointsOf (points : List (Value × Point)) (key : Value) : List Point :=
  (points.filter fun p => key.equals p.1).map (·.2)

/-- The series of a key. -/
def seriesFor (points : List (Value × Point)) (key : Value) : TimeSeries :=
  ⟨key, pointsOf points key, none⟩

/-- One series for each distinct key, in the order in which the keys come up. -/
def gathered (points : List (Value × Point)) : List TimeSeries :=
  (distinctKeys (points.map (·.1))).map (seriesFor points)

theorem pointsOf_concat (points : List (Value × Point)) (key : Value) (p : Point) (k : Value) :
    pointsOf (points ++ [(key, p)]) k =
      pointsOf points k ++ if k.equals key then [p] else [] := by
  rw [pointsOf, List.filter_append, List.map_append, List.filter_singleton]
  cases k.equals key with
  | true => simp [pointsOf]
  | false => simp [pointsOf]

/-- A point goes to the end of the series of its key, or into a new series behind all others. -/
theorem addPoint_seriesFor (points : List (Value × Point)) {key : Value} (hkey : key.IsProperKey)
    (p : Point) {keys : List Value} (hkeys : ∀ k ∈ keys, k.IsProperKey)
    (hdistinct : keys.Pairwise fun a b => a.equals b = false) :
    addPoint (keys.map (seriesFor points)) key p =
      keys.map (seriesFor (points ++ [(key, p)])) ++
        if key.isIn keys then [] else [⟨key, [p], none⟩] := by
  induction keys with
  | nil => rfl
  | cons k keys ih =>
    obtain ⟨hk, hrest⟩ := List.forall_mem_cons.1 hkeys
    obtain ⟨hothers, hdistinct⟩ := List.pairwise_cons.1 hdistinct
    rw [List.map_cons, List.map_cons, addPoint]
    show (if k.equals key then _ else _) = _
    cases hequal : k.equals key with
    | true =>
      -- another key that equals the one of the point would equal this one
      have hkept : ∀ l ∈ keys, seriesFor points l = seriesFor (points ++ [(key, p)]) l := by
        intro l hl
        have hno : l.equals key = false := Bool.eq_false_iff.2 fun h => by
          rw [Value.equals_comm (hrest l hl).1 hkey.1] at h
          have hsame := Value.equals_trans hk.1 hkey.1 hequal h
          rw [hothers l hl] at hsame
          cases hsame
        rw [seriesFor, seriesFor, pointsOf_concat, hno, if_neg Bool.false_ne_true, List.append_nil]
      have hin : key.isIn (k :: keys) = true := isIn_iff.2 ⟨k, List.mem_cons_self, hequal⟩
      rw [if_pos rfl, if_pos hin, List.append_nil, List.map_congr_left hkept]
      refine congrArg (· :: _) ?_
      rw [seriesFor, seriesFor, pointsOf_concat, hequal, if_pos rfl]
    | false =>
      have hin : key.isIn (k :: keys) = key.isIn keys := by
        rw [Value.isIn, List.any_cons, hequal]
        rfl
      rw [if_neg Bool.false_ne_true, ih hrest hdistinct, hin]
      refine congrArg (· :: _) ?_
      rw [seriesFor, seriesFor, pointsOf_concat, hequal, if_neg Bool.false_ne_true,
        List.append_nil]

/-- One more point goes to the series of its key. -/
theorem addPoint_gathered {points : List (Value × Point)} {key : Value} (p : Point)
    (hkeys : ∀ k ∈ points.map (·.1), k.IsProperKey) (hkey : key.IsProperKey) :
    addPoint (gathered points) key p = gathered (points ++ [(key, p)]) := by
  have hproper : ∀ k ∈ distinctKeys (points.map (·.1)), k.IsProperKey := fun k hk =>
    hkeys k (mem_of_mem_distinctKeys hk)
  have hafter : gathered (points ++ [(key, p)]) =
      (distinctKeys (points.map (·.1) ++ [key])).map (seriesFor (points ++ [(key, p)])) := by
    rw [gathered, List.map_append]
    rfl
  rw [hafter, gathered, addPoint_seriesFor points hkey p hproper (distinctKeys_pairwise _),
    distinctKeys_concat]
  cases hin : key.isIn (distinctKeys (points.map (·.1))) with
  | true => rw [if_pos rfl, if_pos rfl, List.append_nil]
  | false =>
    have hnone : pointsOf points key = [] := by
      rw [pointsOf, List.map_eq_nil_iff, List.filter_eq_nil_iff]
      intro q hq hequal
      have hmem : q.1 ∈ points.map (·.1) := List.mem_map_of_mem hq
      obtain ⟨k, hk, hkq⟩ := isIn_iff.1 (isIn_distinctKeys hkeys hmem)
      have hqk := (Value.equals_comm hkey.1 (hkeys _ hmem).1).symm.trans hequal
      have hknown := Value.equals_trans (hproper k hk).1 (hkeys _ hmem).1 hkq hqk
      rw [isIn_iff.2 ⟨k, hk, hknown⟩] at hin
      cases hin
    have hlast : seriesFor (points ++ [(key, p)]) key = ⟨key, [p], none⟩ := by
      rw [seriesFor, pointsOf_concat, hnone, hkey.2]
      rfl
    rw [if_neg Bool.false_ne_true, if_neg Bool.false_ne_true, List.map_append, List.map_singleton,
      hlast]

/-- Rows whose points are known give the series that these points go to one after the other. -/
theorem seriesOf_eq_foldl {records : List Row} {points : List (Value × Point)}
    (h : List.Forall₂ (fun row p => pointOf row = .ok p) records points) :
    seriesOf records = .ok (points.foldl (fun series q => addPoint series q.1 q.2) []) := by
  unfold seriesOf
  generalize [] = before
  induction h generalizing before with
  | nil => rfl
  | @cons row q records points hrow _ ih =>
    rw [List.foldlM_cons, hrow, List.foldl_cons]
    exact ih (addPoint before q.1 q.2)

theorem foldl_addPoint_gathered (before : List (Value × Point)) {points : List (Value × Point)}
    (hkeys : ∀ k ∈ (before ++ points).map (·.1), k.IsProperKey) :
    points.foldl (fun series q => addPoint series q.1 q.2) (gathered before) =
      gathered (before ++ points) := by
  induction points generalizing before with
  | nil => rw [List.append_nil, List.foldl_nil]
  | cons q points ih =>
    have hboth := hkeys
    rw [List.map_append, List.forall_mem_append] at hboth
    have hstep := addPoint_gathered q.2 hboth.1 (hboth.2 q.1 List.mem_cons_self)
    rw [List.append_cons] at hkeys ⊢
    rw [List.foldl_cons, hstep]
    exact ih (before ++ [q]) hkeys

/-- Rows whose points are known give one series for each key, with the points of the key. -/
theorem seriesOf_points {records : List Row} {points : List (Value × Point)}
    (h : List.Forall₂ (fun row p => pointOf row = .ok p) records points)
    (hkeys : ∀ k ∈ points.map (·.1), k.IsProperKey) : seriesOf records = .ok (gathered points) := by
  rw [seriesOf_eq_foldl h]
  exact congrArg Except.ok (foldl_addPoint_gathered [] hkeys)

/-! ## The order of series -/

/-- The rank of a key among selected ones. -/
def keyRank (selected : List String) (key : Value) : Nat :=
  (placeOf? key (selected.map .text)).getD selected.eraseDups.length

/-- The keys in the order of a selection, those that are not selected behind them as they are. -/
def inSelectedOrder (selected : List String) (keys : List Value) : List Value :=
  (selected.map .text).filter (· ∈ keys) ++ keys.filter (· ∉ selected.map .text)

/-- A key that is not selected has the rank behind all that are. -/
theorem keyRank_of_notMem {selected : List String} (hnodup : selected.Nodup) {key : Value}
    (h : key ∉ selected.map .text) : keyRank selected key = selected.length := by
  have hnone : placeOf? key (selected.map .text) = none := by
    rw [placeOf?, Option.map_eq_none_iff, List.findIdx?_eq_none_iff]
    intro k hk
    have hmem : k ∈ selected.map Value.text := List.mem_reverse.1 hk
    obtain ⟨s, -, rfl⟩ := List.mem_map.1 hmem
    rw [Bool.eq_false_iff]
    intro hequal
    exact h ((Value.equals_text s key).1 hequal ▸ hmem)
  rw [keyRank, hnone, eraseDups_of_nodup hnodup]
  rfl

/-- The rank of a selected key is its place. -/
theorem keyRank_of_getElem {selected : List String} (hnodup : selected.Nodup) {i : Nat}
    (hi : i < selected.length) : keyRank selected (.text selected[i]) = i := by
  rcases placeOf?_text selected[i] selected with ⟨j, hplace, hj⟩ | ⟨-, hnot⟩
  · obtain ⟨hlt, hsame⟩ := List.getElem?_eq_some_iff.1 hj
    rw [keyRank, hplace, Option.getD_some]
    exact (hnodup.getElem_inj_iff).1 hsame
  · exact absurd (List.getElem_mem hi) hnot

theorem inSelectedOrder_perm {selected : List String} (hselected : selected.Nodup)
    {keys : List Value} (hkeys : keys.Nodup) : (inSelectedOrder selected keys).Perm keys := by
  have hnodup : (selected.map Value.text).Nodup :=
    hselected.map fun _ _ => Value.text.inj
  have hfront : ((selected.map Value.text).filter (· ∈ keys)).Perm
      (keys.filter (· ∈ selected.map .text)) := by
    rw [List.perm_ext_iff_of_nodup (hnodup.filter _) (hkeys.filter _)]
    intro k
    simp only [List.mem_filter, decide_eq_true_eq]
    exact and_comm
  have hnot : (fun k => !decide (k ∈ selected.map Value.text)) =
      fun k => decide (k ∉ selected.map Value.text) := by
    funext k
    exact (decide_not).symm
  have hall := List.filter_append_perm (· ∈ selected.map Value.text) keys
  rw [hnot] at hall
  exact (hfront.append_right _).trans hall

theorem inSelectedOrder_pairwise {selected : List String} (hselected : selected.Nodup)
    {keys : List Value} (hkeys : ∀ k ∈ keys, k.IsProperKey) :
    (inSelectedOrder selected (distinctKeys keys)).Pairwise fun a b => a.equals b = false := by
  have hdiffer : (distinctKeys keys).Pairwise fun a b => a.equals b = false ∧ b.equals a = false :=
    (distinctKeys_pairwise keys).imp_of_mem fun {a b} ha hb hab => by
      have hcomm := Value.equals_comm (hkeys a (mem_of_mem_distinctKeys ha)).1
        (hkeys b (mem_of_mem_distinctKeys hb)).1
      exact ⟨hab, hcomm ▸ hab⟩
  have hperm := inSelectedOrder_perm hselected (nodup_distinctKeys hkeys)
  -- keys that differ in either direction do so in any order
  exact (hdiffer.perm hperm.symm fun h => h.symm).imp And.left

/-- A stable sort brings keys into the only order in which ranks rise and keys of one rank are as
they were. -/
theorem mergeSort_keyRank {selected : List String} (hselected : selected.Nodup)
    {keys : List Value} (hkeys : keys.Nodup) :
    keys.mergeSort (fun a b => keyRank selected a ≤ keyRank selected b) =
      inSelectedOrder selected keys := by
  let le : Value → Value → Bool := fun a b => keyRank selected a ≤ keyRank selected b
  have htrans : ∀ a b c, le a b = true → le b c = true → le a c = true := fun a b c hab hbc => by
    simp only [le, decide_eq_true_eq] at hab hbc ⊢
    omega
  have htotal : ∀ a b, (le a b || le b a) = true := fun a b => by
    simp only [le, Bool.or_eq_true, decide_eq_true_eq]
    omega
  have hsorted := pairwise_stable htrans htotal hkeys
  have hperm := (keys.mergeSort_perm le).trans (inSelectedOrder_perm hselected hkeys).symm
  refine List.Perm.eq_of_pairwise ?_ hsorted ?_ hperm
  · rintro a b - - ⟨hab, hsub⟩ ⟨hba, hback⟩
    exact absurd (hback hab) (sublist_asymm hkeys (hsub hba))
  · have hfront : (selected.map Value.text).Pairwise fun a b =>
        keyRank selected a < keyRank selected b := by
      refine List.pairwise_map.2 (List.pairwise_iff_getElem.2 fun i j hi hj hij => ?_)
      rwa [keyRank_of_getElem hselected hi, keyRank_of_getElem hselected hj]
    have hless : ∀ a b, keyRank selected a < keyRank selected b →
        le a b = true ∧ (le b a = true → [a, b].Sublist keys) := fun a b hab => by
      simp only [le, decide_eq_true_eq]
      exact ⟨Nat.le_of_lt hab, fun hba => absurd hab (Nat.not_lt.2 hba)⟩
    refine List.pairwise_append.2 ⟨(hfront.filter _).imp (hless _ _), ?_, fun a ha b hb => ?_⟩
    · refine List.pairwise_iff_forall_sublist.2 fun {a b} hab => ?_
      have hrank : ∀ k ∈ [a, b], keyRank selected k = selected.length := fun k hk =>
        keyRank_of_notMem hselected (of_decide_eq_true (List.mem_filter.1 (hab.subset hk)).2)
      have hle : le a b = true := by
        simp only [le, decide_eq_true_eq]
        rw [hrank a (by simp), hrank b (by simp)]
      exact ⟨hle, fun _ => hab.trans List.filter_sublist⟩
    · obtain ⟨s, hs, rfl⟩ := List.mem_map.1 (List.mem_filter.1 ha).1
      obtain ⟨i, hi, rfl⟩ := List.getElem_of_mem hs
      refine hless _ _ ?_
      rw [keyRank_of_getElem hselected hi,
        keyRank_of_notMem hselected (of_decide_eq_true (List.mem_filter.1 hb).2)]
      exact hi

/-- Gathered series in the order of a selection. -/
theorem orderSeries_gathered {selected : List String} (hselected : selected.Nodup)
    {points : List (Value × Point)} (hkeys : ∀ k ∈ points.map (·.1), k.IsProperKey) :
    orderSeries selected (gathered points) =
      (inSelectedOrder selected (distinctKeys (points.map (·.1)))).map (seriesFor points) := by
  unfold orderSeries
  cases selected with
  | nil =>
    have hall : inSelectedOrder [] (distinctKeys (points.map (·.1))) =
        distinctKeys (points.map (·.1)) := by
      simp [inSelectedOrder]
    rw [hall]
    rfl
  | cons first rest =>
    have hmap := List.map_mergeSort (l := distinctKeys (points.map (·.1))) (f := seriesFor points)
      (r := fun a b => keyRank (first :: rest) a ≤ keyRank (first :: rest) b)
      (s := fun a b => rankOf (first :: rest) a ≤ rankOf (first :: rest) b) fun _ _ _ _ => rfl
    rw [← mergeSort_keyRank hselected (nodup_distinctKeys hkeys), hmap]
    rfl

/-! ## The range of times -/

theorem mapM_some (ts : List Int) : (ts.map some).mapM id = some ts := by
  induction ts with
  | nil => rfl
  | cons t ts ih =>
    rw [List.map_cons, List.mapM_cons, ih]
    rfl

/-- Times that are all there are chosen from one after the other. -/
theorem extremeTime_cons (choose : Int → Int → Int) (t : Int) (ts : List Int) :
    extremeTime choose ((t :: ts).map some) = .ok (some (ts.foldl choose t)) := by
  cases ts with
  | nil => rfl
  | cons t' ts =>
    have hall := mapM_some (t :: t' :: ts)
    simp only [List.map_cons] at hall
    simp only [extremeTime, List.map_cons, hall]

/-- Of times that are all there the least one and the greatest one are found. -/
theorem extremeTimes {times : List (Option Int)} (hsome : ∀ t? ∈ times, ∃ t, t? = some t)
    (hnonempty : times ≠ []) :
    ∃ low high, extremeTime min times = .ok (some low) ∧
      extremeTime max times = .ok (some high) ∧
      IsLeast {t | some t ∈ times} low ∧ IsGreatest {t | some t ∈ times} high := by
  obtain ⟨ts, rfl⟩ : ∃ ts : List Int, ts.map some = times := by
    rw [← Set.mem_range, Set.range_list_map]
    exact fun t? h => (hsome t? h).imp fun _ => Eq.symm
  have hmem : {t | some t ∈ ts.map some} = {t | t ∈ ts} :=
    Set.ext fun t => List.mem_map_of_injective (Option.some_injective Int)
  rw [hmem]
  cases ts with
  | nil => exact absurd rfl hnonempty
  | cons t ts =>
    refine ⟨_, _, extremeTime_cons min t ts, extremeTime_cons max t ts, ?_, ?_⟩
    · exact List.min?_eq_some_iff.1 rfl
    · exact List.max?_eq_some_iff.1 rfl

end Crosstab.View
