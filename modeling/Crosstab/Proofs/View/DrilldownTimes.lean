import Crosstab.Proofs.View.Drilldown

/-!
# Rows without a time

A query for series without a window of time returns rows whose time is missing. Their points have no
time. The range of times of a drilldown is found as long as no such point comes together with
another one; one among several makes the drilldown fail, whatever series the points are in.
-/

namespace Crosstab.View

open Number Pivot Sql
open Session (Reply)

/-! ## All points -/

/-- The points of all series. -/
def allPoints (series : List TimeSeries) : List Point :=
  series.flatMap (·.points)

theorem timesOf_eq (series : List TimeSeries) :
    timesOf series = (allPoints series).map (·.time?) :=
  List.map_flatMap.symm

/-- Whichever series a point goes to, it is one more point. -/
theorem allPoints_addPoint (series : List TimeSeries) (key : Value) (p : Point) :
    (allPoints (addPoint series key p)).Perm (p :: allPoints series) := by
  induction series with
  | nil => exact .refl _
  | cons s rest ih =>
    unfold addPoint
    split
    · show ((s.points ++ [p]) ++ allPoints rest).Perm (p :: (s.points ++ allPoints rest))
      rw [List.append_assoc]
      exact List.perm_middle
    · show (s.points ++ allPoints (addPoint rest key p)).Perm (p :: (s.points ++ allPoints rest))
      exact (ih.append_left _).trans List.perm_middle

theorem allPoints_foldl (points : List (Value × Point)) (before : List TimeSeries) :
    (allPoints (points.foldl (fun series q => addPoint series q.1 q.2) before)).Perm
      (allPoints before ++ points.map (·.2)) := by
  induction points generalizing before with
  | nil => rw [List.map_nil, List.append_nil, List.foldl_nil]
  | cons q points ih =>
    rw [List.foldl_cons, List.map_cons]
    refine (ih (addPoint before q.1 q.2)).trans ?_
    exact ((allPoints_addPoint before q.1 q.2).append_right _).trans List.perm_middle.symm

/-- The series of rows whose points are known have just these points. -/
theorem seriesOf_perm {records : List Row} {points : List (Value × Point)}
    (h : List.Forall₂ (fun row p => pointOf row = .ok p) records points) :
    ∃ series, seriesOf records = .ok series ∧ (allPoints series).Perm (points.map (·.2)) :=
  ⟨_, seriesOf_eq_foldl h, allPoints_foldl points []⟩

theorem allPoints_orderSeries (selected : List String) (series : List TimeSeries) :
    (allPoints (orderSeries selected series)).Perm (allPoints series) := by
  unfold orderSeries
  split
  · exact .refl _
  · exact (series.mergeSort_perm _).flatMap_right _

/-! ## The range of times -/

/-- The range of times is known if there is at most one point, or if each has its time. -/
def HaveRange (times : List (Option Int)) : Prop :=
  times.length ≤ 1 ∨ none ∉ times

/-- What is found of times whose range is known: their least one and their greatest one, or none if
there is no time. -/
theorem HaveRange.extremeTimes {times : List (Option Int)} (h : HaveRange times) :
    ∃ low? high?, extremeTime min times = .ok low? ∧ extremeTime max times = .ok high? ∧
      (∀ t, low? = some t ↔ IsLeast {t | some t ∈ times} t) ∧
      ∀ t, high? = some t ↔ IsGreatest {t | some t ∈ times} t := by
  by_cases hnone : times = [] ∨ times = [none]
  · have hempty : {t | some t ∈ times} = ∅ := by
      refine Set.eq_empty_iff_forall_notMem.2 fun t (ht : some t ∈ times) => ?_
      rcases hnone with rfl | rfl
      · cases ht
      · cases List.mem_singleton.1 ht
    refine ⟨none, none, ?_, ?_, fun t => ?_, fun t => ?_⟩
    · rcases hnone with rfl | rfl <;> rfl
    · rcases hnone with rfl | rfl <;> rfl
    · simp [hempty, IsLeast]
    · simp [hempty, IsGreatest]
  · rw [not_or] at hnone
    have hsome : ∀ t? ∈ times, ∃ t, t? = some t := by
      refine fun t? ht => Option.ne_none_iff_exists'.1 ?_
      rintro rfl
      rcases h with hlength | hnot
      · obtain ⟨t?, rfl⟩ := List.length_eq_one_iff.1
          (Nat.le_antisymm hlength (List.length_pos_iff.2 hnone.1))
        exact hnone.2 (by rw [List.mem_singleton.1 ht])
      · exact hnot ht
    obtain ⟨low, high, hlow, hhigh, hleast, hgreatest⟩ := View.extremeTimes hsome hnone.1
    refine ⟨some low, some high, hlow, hhigh, fun t => ?_, fun t => ?_⟩
    · rw [Option.some_inj]
      exact ⟨fun heq => heq ▸ hleast, hleast.unique⟩
    · rw [Option.some_inj]
      exact ⟨fun heq => heq ▸ hgreatest, hgreatest.unique⟩

/-- Of several times none may be missing. -/
theorem extremeTime_of_missing {times : List (Option Int)} (h : ¬HaveRange times)
    (choose : Int → Int → Int) : extremeTime choose times = .error (.mismatch .kind) := by
  rw [HaveRange, not_or, not_le, not_not] at h
  obtain ⟨hlength, hnone⟩ := h
  have hmapM : ∀ ts : List (Option Int), none ∈ ts → ts.mapM id = none := by
    intro ts hts
    induction ts with
    | nil => cases hts
    | cons t? ts ih =>
      rw [List.mapM_cons]
      cases t? with
      | none => rfl
      | some t => rw [ih ((List.mem_cons.1 hts).resolve_left nofun)]; rfl
  match times, hlength with
  | t? :: u? :: ts, _ => simp only [extremeTime, hmapM _ hnone]; rfl

theorem HaveRange.perm {times others : List (Option Int)} (h : times.Perm others) :
    HaveRange times ↔ HaveRange others := by
  rw [HaveRange, HaveRange, h.length_eq, h.mem_iff]

/-! ## Rows that may lack a time -/

namespace SeriesRow

/-- The row has a key, and a number of seconds and a finite number for its time and its metric if it
has them. -/
structure IsTold (row : SeriesRow) : Prop where
  key : row.key.isKey = true
  time : row.time = .null ∨ row.time.IsSeconds
  value : row.value = .null ∨ ∃ s u, row.value.toReal = .ok (.finite s u)

/-- The milliseconds of the times that rows have. -/
def timesIn (rows : List SeriesRow) : Set Int :=
  {t | ∃ row ∈ rows, row.time.epochMillis = .ok (some t)}

variable {row : SeriesRow}

/-- A row comes to a point that has a time if the row has one. -/
theorem IsTold.exists_point (h : row.IsTold) :
    ∃ p, row.ShownAs p ∧ p.HasFinite ∧ (p.time? = none ↔ row.time = .null) := by
  obtain ⟨t?, htime, hnone⟩ : ∃ t?, row.time.epochMillis = .ok t? ∧
      (t? = none ↔ row.time = .null) := by
    rcases h.time with hnull | hseconds
    · exact ⟨none, by rw [hnull]; rfl, fun _ => hnull, fun _ => rfl⟩
    · obtain ⟨t, ht⟩ := hseconds.epochMillis
      exact ⟨some t, ht, nofun, fun hnull => absurd hnull hseconds.finite.1⟩
  rcases h.value with hnull | ⟨s, u, hreal⟩
  · exact ⟨⟨t?, none⟩, ⟨htime, by rw [hnull]; rfl⟩, nofun, hnone⟩
  · refine ⟨⟨t?, some (.finite s u)⟩, ⟨htime, Value.toReal?_of_toReal hreal⟩, ?_, hnone⟩
    intro x hx
    exact ⟨s, u, (Option.some.inj hx).symm⟩

end SeriesRow

/-! ## Drilldowns -/

/-- The range of times of a drilldown is that of the given ones; it is missing without any. -/
structure Drilldown.Spans (d : Drilldown) (times : Set Int) : Prop where
  low : ∀ t, d.minTime? = some t ↔ IsLeast times t
  high : ∀ t, d.maxTime? = some t ↔ IsGreatest times t

section Rows

variable {answer : Fragment → Reply} {w : Workspace} {r : DrilldownRequest} {c : Context}
  {qs : List Fragment} {q : Fragment} {rows : List SeriesRow}

/-- What a drilldown does with rows is to look for the range of the times of their points; all else
goes through. -/
theorem drilldownOf_told (hrows : ∀ row ∈ rows, row.IsTold) :
    ∃ times : List (Option Int), (HaveRange times ↔
        rows.length ≤ 1 ∨ ∀ row ∈ rows, row.time ≠ .null) ∧
      {t | some t ∈ times} = SeriesRow.timesIn rows ∧
      ∃ d : Drilldown, drilldownOf r c (seriesRows rows).records = (do
        let low? ← extremeTime min times
        let high? ← extremeTime max times
        return { d with minTime? := low?, maxTime? := high? }) := by
  have hexists := fun row hrow => (hrows row hrow).exists_point
  have hpoint : Nonempty Point := ⟨⟨none, none⟩⟩
  choose! pointAt hshown hfinite hnone using hexists
  have hpoints : List.Forall₂ (fun row p => pointOf row = .ok p) (seriesRows rows).records
      (rows.map fun row => (row.key, pointAt row)) := by
    rw [records_seriesRows]
    refine List.forall₂_map_left_iff.2 (List.forall₂_map_right_iff.2 (List.forall₂_same.2 ?_))
    exact fun row hrow => (hshown row hrow).pointOf_eq (hrows row hrow).key
  obtain ⟨series, hseries, hperm⟩ := seriesOf_perm hpoints
  rw [List.map_map] at hperm
  let ordered := orderSeries (r.rowKeys.map Filter.normalizeKey) series
  have hall : (allPoints ordered).Perm (rows.map pointAt) :=
    (allPoints_orderSeries _ series).trans hperm
  have htimes : (timesOf ordered).Perm (rows.map fun row => (pointAt row).time?) := by
    rw [timesOf_eq]
    have hmap := hall.map (·.time?)
    rwa [List.map_map] at hmap
  have hfinitePoints : ∀ s ∈ ordered, ∀ p ∈ s.points, p.HasFinite := fun s hs p hp => by
    obtain ⟨row, hrow, rfl⟩ := List.mem_map.1
      (hall.mem_iff.1 (List.mem_flatMap.2 ⟨s, hs, hp⟩))
    exact hfinite row hrow
  obtain ⟨medianOf, x?, -, -, hofSeries⟩ := ofSeries_finite c.timeField r.metric hfinitePoints
  refine ⟨timesOf ordered, ?_, ?_, ⟨c.timeField, r.metric, none, none, x?,
    ordered.map fun s => { s with median? := medianOf s }⟩, ?_⟩
  · rw [HaveRange.perm htimes, HaveRange, List.length_map, List.mem_map]
    refine or_congr Iff.rfl ⟨fun h row hrow hnull => ?_, ?_⟩
    · exact h ⟨row, hrow, (hnone row hrow).2 hnull⟩
    · rintro h ⟨row, hrow, hmissing⟩
      exact h row hrow ((hnone row hrow).1 hmissing)
  · ext t
    show some t ∈ timesOf ordered ↔ ∃ row ∈ rows, row.time.epochMillis = .ok (some t)
    rw [htimes.mem_iff, List.mem_map]
    refine exists_congr fun row => and_congr_right fun hrow => ?_
    rw [(hshown row hrow).time, Except.ok.injEq]
  · rw [drilldownOf, hseries]
    exact hofSeries

/-- A drilldown of rows one of which has no time, while there are others, fails when its query is
answered. -/
theorem fails_without_time (hasks : AsksFor answer w r qs c q)
    (hanswer : answer q = .ok (seriesRows rows)) (hrows : ∀ row ∈ rows, row.IsTold)
    (hlength : 1 < rows.length) (hmissing : ∃ row ∈ rows, row.time = .null) :
    (drilldown w r).against answer = (.error (.mismatch .kind), qs ++ [q]) := by
  obtain ⟨times, hrange, -, d, hd⟩ := drilldownOf_told (r := r) (c := c) hrows
  have hnot : ¬HaveRange times := by
    rw [hrange, not_or, not_le]
    refine ⟨hlength, fun hall => ?_⟩
    obtain ⟨row, hrow, hnull⟩ := hmissing
    exact hall row hrow hnull
  rw [extremeTime_of_missing hnot min] at hd
  have hleads := hasks.leads hanswer
  rw [hd] at hleads
  exact hleads.fails

/-- A drilldown comes back with the range of the times that its rows have, missing if they have
none, as long as no row without a time comes together with another row. One that does makes it
fail. -/
theorem drilldown_comes_unless_time_is_missing (hasks : AsksFor answer w r qs c q)
    (hanswer : answer q = .ok (seriesRows rows)) (hrows : ∀ row ∈ rows, row.IsTold) :
    ((rows.length ≤ 1 ∨ ∀ row ∈ rows, row.time ≠ .null) →
      ∃ d, Runs answer (drilldown w r) d (qs ++ [q]) ∧ d.Spans (SeriesRow.timesIn rows)) ∧
    (1 < rows.length → (∃ row ∈ rows, row.time = .null) →
      (drilldown w r).against answer = (.error (.mismatch .kind), qs ++ [q])) := by
  refine ⟨fun hall => ?_, fails_without_time hasks hanswer hrows⟩
  obtain ⟨times, hrange, htimes, d, hd⟩ := drilldownOf_told (r := r) (c := c) hrows
  obtain ⟨low?, high?, hlow, hhigh, hleast, hgreatest⟩ := (hrange.2 hall).extremeTimes
  rw [hlow, hhigh] at hd
  refine ⟨_, hasks.runs hanswer hd, ?_, ?_⟩
  · exact fun t => htimes ▸ hleast t
  · exact fun t => htimes ▸ hgreatest t

end Rows

/-! ### Packets without a time -/

/-- The packets of a port, with a time and without. -/
def untimedPackets : List SeriesRow :=
  [⟨.text "443", .int 60, .int 7⟩, ⟨.text "443", .null, .int 5⟩]

theorem isTold_untimedPackets : ∀ row ∈ untimedPackets, row.IsTold := by
  have hminute : (Value.int 60).IsSeconds := ⟨60, 1, rfl, by decide⟩
  simp only [untimedPackets, List.forall_mem_cons]
  refine ⟨?_, ?_, nofun⟩
  · exact ⟨rfl, .inr hminute, .inr (Value.toReal_int_finite (by decide))⟩
  · exact ⟨rfl, .inl rfl, .inr (Value.toReal_int_finite (by decide))⟩

/-- A packet without a time comes back alone, and then the drilldown has no range of times. -/
theorem untimed_packet_comes_alone :
    (∀ row ∈ untimedPackets.drop 1, row.IsTold) ∧
    ∃ q d, AsksFor (fun _ => .ok (seriesRows (untimedPackets.drop 1))) Workspace.ofPackets
        packetsByPort [] timedPackets q ∧
      Runs (fun _ => .ok (seriesRows (untimedPackets.drop 1)))
        (drilldown Workspace.ofPackets packetsByPort) d [q] ∧
      d.minTime? = none := by
  have hrows : ∀ row ∈ untimedPackets.drop 1, row.IsTold := fun row hrow =>
    isTold_untimedPackets row (List.mem_of_mem_drop hrow)
  obtain ⟨q, hasks⟩ := packetsByPort_asks fun _ => .ok (seriesRows (untimedPackets.drop 1))
  obtain ⟨d, hruns, hspans⟩ :=
    (drilldown_comes_unless_time_is_missing hasks rfl hrows).1 (.inl (by decide))
  refine ⟨hrows, q, d, hasks, hruns, Option.eq_none_iff_forall_not_mem.2 fun t ht => ?_⟩
  obtain ⟨row, hrow, htime⟩ := ((hspans.low t).1 ht).1
  obtain rfl := List.mem_singleton.1 hrow
  cases htime

/-- Beside a packet with a time it makes the drilldown fail. -/
theorem untimed_packet_breaks_drilldown :
    ∃ q, AsksFor (fun _ => .ok (seriesRows untimedPackets)) Workspace.ofPackets packetsByPort []
        timedPackets q ∧
      (∀ row ∈ untimedPackets, row.IsTold) ∧
      (drilldown Workspace.ofPackets packetsByPort).against
        (fun _ => .ok (seriesRows untimedPackets)) = (.error (.mismatch .kind), [q]) := by
  obtain ⟨q, hasks⟩ := packetsByPort_asks fun _ => .ok (seriesRows untimedPackets)
  refine ⟨q, hasks, isTold_untimedPackets, ?_⟩
  exact fails_without_time hasks rfl isTold_untimedPackets (by decide)
    ⟨_, List.mem_cons_of_mem _ List.mem_cons_self, rfl⟩

end Crosstab.View
