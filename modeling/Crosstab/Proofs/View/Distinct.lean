import Crosstab.Proofs.View.DistinctQuery
import Crosstab.Proofs.Walk

/-!
# Pages of distinct values

A channel that holds the values of a column, and answers the query of a page with the first values
behind its bound, shows all of them to requests that go from page to page: each page takes the first
of the values that are left, and its cursor leaves the others.
-/

namespace Crosstab.View

open Crosstab.Filter Sql
open Session (Reply)

/-! ## A channel that holds values -/

/-- The values in the order of a request; they are given upwards. -/
def inOrder (order : String) (values : List Value) : List Value :=
  if order == "ASC" then values else values.reverse

/-- Whether the second value comes behind the first in the order. -/
def isBehind (order : String) (less : Value → Value → Bool) (v w : Value) : Bool :=
  if order == "ASC" then less v w else less w v

/-- The values behind a bound, all of them if there is none. -/
def beyond (order : String) (less : Value → Value → Bool) (values : List Value) :
    Option Value → List Value
  | none => inOrder order values
  | some v => (inOrder order values).filter (isBehind order less v)

/-- The values are given upwards, each once. -/
structure Ascending (less : Value → Value → Bool) (values : List Value) : Prop where
  rising : values.Pairwise fun v w => less v w = true
  asymm : ∀ v ∈ values, ∀ w ∈ values, less v w = true → less w v = false

/-- The channel answers the query of a page with the first of the values that it asks for, and the
query for their number with it. -/
structure Holds (answer : Fragment → Reply) (base : Fragment) (less : Value → Value → Bool)
    (values : List Value) : Prop where
  page : ∀ order after? (n : Nat) (q : Fragment), IsOrder order →
    q.filled = pageFilled base.filled order after? n →
    answer q = .ok (Rows.ofColumn "v" ((beyond order less values after?).take n))
  count : ∀ q : Fragment, q.filled = countFilled base.filled →
    answer q = .ok (Rows.ofColumn "total" [.int values.length])

/-- A channel that holds the values. -/
noncomputable def holding (base : Fragment) (less : Value → Value → Bool) (values : List Value)
    (q : Fragment) : Reply :=
  open Classical in
  if h : ∃ asked : String × Option Value × Nat, IsOrder asked.1 ∧
      q.filled = pageFilled base.filled asked.1 asked.2.1 asked.2.2 then
    .ok (Rows.ofColumn "v" ((beyond h.choose.1 less values h.choose.2.1).take h.choose.2.2))
  else .ok (Rows.ofColumn "total" [.int values.length])

/-- What a query reads as tells what the channel is asked for. -/
theorem holds_holding (base : Fragment) (less : Value → Value → Bool) (values : List Value) :
    Holds (holding base less values) base less values where
  page order after? n q horder hq := by
    have hasked : ∃ asked : String × Option Value × Nat, IsOrder asked.1 ∧
        q.filled = pageFilled base.filled asked.1 asked.2.1 asked.2.2 :=
      ⟨(order, after?, n), horder, hq⟩
    obtain ⟨horder', hq'⟩ := hasked.choose_spec
    obtain ⟨ho, ha, hn⟩ := pageFilled_inj horder' horder (hq'.symm.trans hq)
    rw [holding, dif_pos hasked, ho, ha, hn]
  count q hq := by
    refine dif_neg ?_
    rintro ⟨asked, -, hasked⟩
    exact pageFilled_ne_countFilled _ _ _ _ (hasked.symm.trans hq)

theorem mem_inOrder {order : String} {values : List Value} {v : Value} :
    v ∈ inOrder order values ↔ v ∈ values := by
  unfold inOrder
  split
  · exact Iff.rfl
  · exact List.mem_reverse

/-- In the order of a request each value is behind those before it. -/
theorem pairwise_inOrder {less : Value → Value → Bool} {values : List Value}
    (h : Ascending less values) (order : String) :
    (inOrder order values).Pairwise fun v w =>
      isBehind order less v w = true ∧ isBehind order less w v = false := by
  have hboth : values.Pairwise fun v w => less v w = true ∧ less w v = false :=
    h.rising.imp_of_mem fun hv hw hless => ⟨hless, h.asymm _ hv _ hw hless⟩
  unfold inOrder isBehind
  split
  · exact hboth
  · exact List.pairwise_reverse.2 hboth

/-- Behind a value are exactly the later ones. -/
theorem beyond_some {less : Value → Value → Bool} {values : List Value} (h : Ascending less values)
    {order : String} {pre rest : List Value} {v : Value}
    (hsplit : inOrder order values = pre ++ v :: rest) :
    beyond order less values (some v) = rest := by
  have hpairs := pairwise_inOrder h order
  rw [hsplit, List.pairwise_append, List.pairwise_cons] at hpairs
  obtain ⟨-, ⟨hrest, -⟩, hpre⟩ := hpairs
  have hself : isBehind order less v v = false := by
    have hmem : v ∈ values := mem_inOrder.1 (hsplit ▸ List.mem_append_right pre List.mem_cons_self)
    have hirrefl : less v v = false := by
      cases hless : less v v with
      | false => rfl
      | true => exact hless ▸ h.asymm v hmem v hmem hless
    unfold isBehind
    rw [hirrefl, ite_self]
  have hbefore : pre.filter (isBehind order less v) = [] := by
    rw [List.filter_eq_nil_iff]
    intro w hw
    rw [(hpre w hw v List.mem_cons_self).2]
    exact Bool.false_ne_true
  have hbehind : rest.filter (isBehind order less v) = rest :=
    List.filter_eq_self.2 fun w hw => (hrest w hw).1
  rw [beyond, hsplit, List.filter_append, List.filter_cons, hself, hbefore, hbehind]
  rfl

/-! ## A walk over pages -/

/-- What a cursor leaves of the values in their order. -/
inductive Leaves (target order : String) (ordered : List Value) :
    Value → Option Value → List Value → Prop where
  | all : Leaves target order ordered .null none ordered
  | behind {p rest : List Value} {v : Value} (hsplit : ordered = p ++ v :: rest) :
      Leaves target order ordered (.text (cursorBehind target order v)) (some v) rest

/-- What is left is the end of the values. -/
theorem Leaves.isSuffix {target order : String} {ordered rest : List Value} {cursor : Value}
    {after? : Option Value} (h : Leaves target order ordered cursor after? rest) :
    rest <:+ ordered := by
  cases h with
  | all => exact List.suffix_refl _
  | @behind pre _ v hsplit =>
    rw [hsplit]
    exact (List.suffix_cons v rest).trans (List.suffix_append pre _)

/-- The largest page is one of the settings, which are positive. -/
structure Bounded (settings : Settings) : Prop where
  default_pos : 1 ≤ settings.distinctDefaultLimit
  most_pos : 1 ≤ settings.distinctMaxLimit
  most_fits : Number.isWritable (settings.distinctMaxLimit + 1) = true

/-- The limit of a request is absent or a whole number of at least one. -/
def IsLimit (limit : Value) : Prop :=
  ∃ n?, limit.toWhole? "limit" .invalidPagination = .ok n? ∧ ∀ n ∈ n?, 1 ≤ n

/-- A page holds one value at least and no more than the settings allow. -/
theorem distinctLimit_eq {settings : Settings} (hbounded : Bounded settings) {limit : Value}
    (h : IsLimit limit) : ∃ n : Nat, distinctLimit settings limit = .ok n ∧ 1 ≤ n ∧
      Number.isWritable (n + 1) = true := by
  obtain ⟨n?, hn, hpos⟩ := h
  have hasked : 1 ≤ n?.getD settings.distinctDefaultLimit := by
    cases n? with
    | none => exact hbounded.default_pos
    | some n => exact hpos n rfl
  have hleast : 1 ≤ min (n?.getD settings.distinctDefaultLimit) settings.distinctMaxLimit :=
    Int.le_min.2 ⟨hasked, hbounded.most_pos⟩
  have hmost := Int.min_le_right (n?.getD settings.distinctDefaultLimit) settings.distinctMaxLimit
  obtain ⟨n, hlimit⟩ := Int.eq_ofNat_of_zero_le (Int.le_trans (by decide) hleast)
  have hfits : Number.isWritable (n + 1) = true :=
    Number.isWritable_of_le (by omega) (by omega) hbounded.most_fits
  refine ⟨n, ?_, by omega, hfits⟩
  have hrefused : ¬n?.getD settings.distinctDefaultLimit < 1 := Int.not_lt.2 hasked
  rw [← hlimit]
  simp only [distinctLimit, Value.toWhole, hn, bind, Except.bind, pure, Except.pure, hrefused,
    if_false]

/-- What a page shows of the values that are left, and whether there are more. -/
def shownPage (target order : String) (total n : Nat) (rest : List Value) : DistinctPage where
  items := (rest.take n).map normalizeKey
  nextCursor? :=
    if n < rest.length then (rest.take n).getLast?.map (cursorBehind target order) else none
  hasMore := decide (n < rest.length)
  totalCount := total

section Run

variable {w : Workspace} {r : DistinctRequest} {schema : Schema} {target : String}
  {base count : Fragment} {answer : Fragment → Reply} {less : Value → Value → Bool}
  {values : List Value}

/-- The page behind a cursor. -/
theorem distinct_runs (hschema : w.schema r.layer = .ok schema)
    (hbase : distinctBase ⟨schema, w.settings⟩ r target = .ok base) (horder : IsOrder r.orderWord)
    (hbounded : Bounded w.settings) (hvalues : Ascending less values)
    (hkept : ∀ v ∈ values, IsKept v) (hholds : Holds answer base less values)
    (hcount : count.filled = countFilled base.filled)
    (hfield : schema.resolve? r.field = some target) (hlimit : IsLimit r.limit)
    {cursor : Value} (hcursor : r.cursor = cursor)
    {after? : Option Value} {rest : List Value}
    (hleaves : Leaves target r.orderWord (inOrder r.orderWord values) cursor after? rest) :
    ∃ (n : Nat) (page : Fragment), 1 ≤ n ∧ Runs answer (distinct w r)
      (shownPage target r.orderWord values.length n rest) [page, count] := by
  obtain ⟨n, hn, hpos, hfits⟩ := distinctLimit_eq hbounded hlimit
  have hafter : ∃ after, afterCursor r target r.orderWord = .ok after ∧ Balanced after.sql ∧
      IsAfter r.orderWord after? after := by
    cases hleaves with
    | all => exact ⟨.empty, afterCursor_null hcursor target r.orderWord, rfl, rfl⟩
    | behind hsplit =>
      have hmem := mem_inOrder.1 (hsplit ▸ List.mem_append_right _ List.mem_cons_self)
      exact afterCursor_behind hfield horder (hkept _ hmem) hcursor
  have hbeyond : beyond r.orderWord less values after? = rest := by
    cases hleaves with
    | all => rfl
    | behind hsplit => exact beyond_some hvalues hsplit
  obtain ⟨after, hcompiled, hbalanced, hisAfter⟩ := hafter
  obtain ⟨page, count', hqueries, hpage, hcount'⟩ := distinctQueries_eq hschema hfield hbase horder
    hn (Int.ofNat_le.2 hpos) hfits hcompiled hbalanced hisAfter
  obtain rfl : count' = count := Fragment.eq_of_filled (hcount'.trans hcount.symm)
  have hrows := hholds.page r.orderWord after? (n + 1) page horder hpage
  rw [hbeyond] at hrows
  have htotal := hholds.count count' hcount'
  have hshown : takeCount (n : Int) (rest.take (n + 1)) = rest.take n := by
    simp [takeCount, List.take_take]
  have hmore : decide ((n : Int) < (rest.take (n + 1)).length) = decide (n < rest.length) := by
    rw [decide_eq_decide, List.length_take]
    omega
  refine ⟨n, page, hpos, ?_⟩
  refine .lift_bind hqueries ((Runs.records hrows).bind ?_)
  refine .lift_bind (columnOf_ofColumn "v" _) ?_
  refine (Runs.count htotal (Rows.scalar_ofColumn "total" _) (Value.toCount_int _)).bind ?_
  have hnext : ∀ q : DistinctQueries, q.target = target → q.order = r.orderWord →
      (rest.take n).getLast?.map (cursorAfter q) =
        (rest.take n).getLast?.map (cursorBehind target r.orderWord) := by
    rintro q rfl horderEq
    refine Option.map_congr fun v hv => ?_
    have hmem := mem_inOrder.1
      (hleaves.isSuffix.subset (List.mem_of_mem_take (List.mem_of_getLast? hv)))
    rw [cursorAfter_eq (hkept v hmem), horderEq]
  simp only [hshown, hmore, decide_eq_true_eq, hnext ⟨target, r.orderWord, n, page, count'⟩ rfl rfl]
  exact .done _

/-- The request with another name of the field, another limit and a cursor. -/
def DistinctRequest.at (r : DistinctRequest) (field limit cursor : Value) : DistinctRequest :=
  { r with field := field, limit := limit, cursor := cursor }

/-- The walk of requests from one without a cursor on, each with the cursor of the page before. -/
def CursorWalk (w : Workspace) (answer : Fragment → Reply)
    (request : Nat → Value → DistinctRequest) : Nat × Value → List (Visit DistinctPage) → Prop :=
  Walk (fun at_ v => v.Of answer (distinct w (request at_.1 at_.2)))
    (fun at_ v => v.page.nextCursor?.map fun next => (at_.1 + 1, .text next))

/-- What the visits of a walk show of the values that were left at its start. -/
structure Shows (count : Fragment) (total : Nat) (rest : List Value)
    (visits : List (Visit DistinctPage)) : Prop where
  items : visits.flatMap (·.page.items) = rest.map normalizeKey
  more : ∀ v ∈ visits, v.page.hasMore = v.page.nextCursor?.isSome
  total : ∀ v ∈ visits, v.page.totalCount = total
  count : ∀ v ∈ visits, ∃ page, v.queries = [page, count]

/-- A page that leaves something has a last value. -/
theorem exists_last {n : Nat} {rest : List Value} (hpos : 1 ≤ n) (hn : n < rest.length) :
    ∃ before v, rest.take n = before ++ [v] := by
  have hne : rest.take n ≠ [] := by
    rw [← List.length_pos_iff, List.length_take]
    omega
  exact ⟨_, _, (List.dropLast_append_getLast hne).symm⟩

/-- One page more shows what it takes, if the others show what it leaves. -/
theorem Shows.cons {visits : List (Visit DistinctPage)} {target order : String} {total n : Nat}
    {page : Fragment} {rest : List Value} (hpos : 1 ≤ n)
    (h : Shows count total (rest.drop n) visits) :
    Shows count total rest (⟨shownPage target order total n rest, [page, count]⟩ :: visits) where
  items := by
    rw [List.flatMap_cons, h.items]
    show (rest.take n).map normalizeKey ++ (rest.drop n).map normalizeKey = _
    rw [← List.map_append, List.take_append_drop]
  more := by
    refine List.forall_mem_cons.2 ⟨?_, h.more⟩
    show decide (n < rest.length) = _
    by_cases hn : n < rest.length
    · obtain ⟨before, v, htake⟩ := exists_last hpos hn
      simp [shownPage, hn, htake]
    · simp [shownPage, hn]
  total := List.forall_mem_cons.2 ⟨rfl, h.total⟩
  count := List.forall_mem_cons.2 ⟨⟨page, rfl⟩, h.count⟩

/-- A walk from a cursor shows what it leaves, whatever its length. -/
theorem exists_walk (hschema : w.schema r.layer = .ok schema)
    (hbase : distinctBase ⟨schema, w.settings⟩ r target = .ok base) (horder : IsOrder r.orderWord)
    (hbounded : Bounded w.settings) (hvalues : Ascending less values)
    (hkept : ∀ v ∈ values, IsKept v) (hholds : Holds answer base less values)
    (hcount : count.filled = countFilled base.filled) {fields limits : Nat → Value}
    (hfields : ∀ i, schema.resolve? (fields i) = some target) (hlimits : ∀ i, IsLimit (limits i))
    {rest : List Value} (i : Nat) {cursor : Value} {after? : Option Value}
    (hleaves : Leaves target r.orderWord (inOrder r.orderWord values) cursor after? rest) :
    ∃ visits, CursorWalk w answer (fun i cursor => r.at (fields i) (limits i) cursor) (i, cursor)
        visits ∧
      Shows count values.length rest visits := by
  -- Each page takes one value at least, so less is left for the pages behind it.
  induction hlength : rest.length using Nat.strongRecOn generalizing rest i cursor after? with
  | ind length ih =>
    obtain ⟨n, page, hpos, hrun⟩ := distinct_runs (r := r.at (fields i) (limits i) cursor) hschema
      hbase horder hbounded hvalues hkept hholds hcount (hfields i) (hlimits i) rfl hleaves
    have hvisit : Visit.Of answer (distinct w (r.at (fields i) (limits i) cursor))
        ⟨shownPage target r.orderWord values.length n rest, [page, count]⟩ := hrun
    by_cases hn : n < rest.length
    · obtain ⟨shown, v, hshown⟩ := exists_last hpos hn
      have hbehind : Leaves target r.orderWord (inOrder r.orderWord values)
          (.text (cursorBehind target r.orderWord v)) (some v) (rest.drop n) := by
        obtain ⟨before, hbefore⟩ := hleaves.isSuffix
        refine .behind (p := before ++ shown) ?_
        calc inOrder r.orderWord values = before ++ (rest.take n ++ rest.drop n) := by
              rw [List.take_append_drop, hbefore]
          _ = before ++ shown ++ v :: rest.drop n := by simp [hshown]
      obtain ⟨visits, hwalk, hshows⟩ := ih (rest.drop n).length (by rw [List.length_drop]; omega)
        (i + 1) hbehind rfl
      have hnext : (shownPage target r.orderWord values.length n rest).nextCursor? =
          some (cursorBehind target r.orderWord v) := by
        rw [shownPage, if_pos hn, hshown, List.getLast?_concat]
        rfl
      exact ⟨_, .more hvisit (congrArg (Option.map _) hnext) hwalk, hshows.cons hpos⟩
    · have hnone : Shows count values.length (rest.drop n) [] :=
        ⟨by rw [List.drop_of_length_le (Nat.le_of_not_lt hn)]; rfl, nofun, nofun, nofun⟩
      have hlast : (shownPage target r.orderWord values.length n rest).nextCursor? = none :=
        if_neg hn
      exact ⟨_, .last hvisit (congrArg (Option.map _) hlast), hnone.cons hpos⟩

end Run

/-- Requests whose names of the field resolve to one column, each with the cursor of the page
before, show all values of the column, each once and in the order that is asked for. -/
theorem pages_show_every_value {w : Workspace} {r : DistinctRequest} {schema : Schema}
    {target : String} {base : Fragment} {answer : Fragment → Reply} {less : Value → Value → Bool}
    {values : List Value} {fields limits : Nat → Value} (hschema : w.schema r.layer = .ok schema)
    (hbase : distinctBase ⟨schema, w.settings⟩ r target = .ok base) (horder : IsOrder r.orderWord)
    (hbounded : Bounded w.settings) (hfields : ∀ i, schema.resolve? (fields i) = some target)
    (hlimits : ∀ i, IsLimit (limits i)) (hvalues : Ascending less values)
    (hkept : ∀ v ∈ values, IsKept v) (hholds : Holds answer base less values) :
    ∃ front last count,
      (∀ visits, CursorWalk w answer (fun i cursor => r.at (fields i) (limits i) cursor) (0, .null)
        visits ↔ visits = front ++ [last]) ∧
      (front ++ [last]).flatMap (·.page.items) = (inOrder r.orderWord values).map normalizeKey ∧
      (∀ v ∈ front, v.page.hasMore = true ∧ v.page.nextCursor?.isSome = true) ∧
      (last.page.hasMore = false ∧ last.page.nextCursor? = none) ∧
      ∀ v ∈ front ++ [last], v.page.totalCount = values.length ∧
        ∃ page, v.queries = [page, count] := by
  obtain ⟨count, -, hcount⟩ := count_builds (balanced_distinctBase hbase)
  obtain ⟨visits, hwalk, hshows⟩ := exists_walk hschema hbase horder hbounded hvalues hkept hholds
    hcount hfields hlimits 0 .all
  obtain ⟨front, last, rfl, hfront, at_, hnone⟩ := hwalk.split
  have hlast : last.page.nextCursor? = none := Option.map_eq_none_iff.1 hnone
  have hlastMore := hshows.more last (List.mem_append_right _ List.mem_cons_self)
  rw [hlast] at hlastMore
  have hfrontMore : ∀ v ∈ front, v.page.hasMore = true ∧ v.page.nextCursor?.isSome = true := by
    intro v hv
    obtain ⟨_, _, hnext⟩ := hfront v hv
    obtain ⟨next, hsome, -⟩ := Option.map_eq_some_iff.1 hnext
    rw [hshows.more v (List.mem_append_left _ hv), hsome]
    exact ⟨rfl, rfl⟩
  have hunique : ∀ visits, CursorWalk w answer (fun i cursor => r.at (fields i) (limits i) cursor)
      (0, .null) visits → visits = front ++ [last] :=
    fun _ h => Walk.unique h hwalk fun _ _ _ => Visit.Of.unique
  refine ⟨front, last, count, fun visits => ⟨hunique visits, fun h => h ▸ hwalk⟩, hshows.items,
    hfrontMore, ⟨hlastMore, hlast⟩, ?_⟩
  exact fun v hv => ⟨hshows.total v hv, hshows.count v hv⟩

/-- Packets with their ports. -/
def portSchema : Schema :=
  .of .tcp [("dst_port", "INTEGER")] []

/-- A workspace with the ports of packets. -/
def ports : Workspace where
  settings := .standard
  schemaOf _ := .ok portSchema

/-- A request for the ports from the largest down. -/
def portsDown : DistinctRequest where
  layer := .text "tcp"
  field := .text "dst_port"
  filters := .null
  time := .null
  search := .null
  cursor := .null
  limit := .null
  includeSelf := false
  order := .text "desc"

/-- Whole numbers in their order. -/
def isSmaller : Value → Value → Bool
  | .int m, .int n => decide (m < n)
  | _, _ => false

theorem pages_of_ports_show_every_value :
    ∃ base front last count, distinctBase ⟨portSchema, .standard⟩ portsDown "dst_port" = .ok base ∧
      (∀ visits, CursorWalk ports (holding base isSmaller [.int 22, .int 80, .int 443])
        (fun i cursor => portsDown.at (if i % 2 = 0 then .text "DST_PORT" else .text "dst_port-x")
          (if i = 0 then .int 1 else .int 2) cursor) (0, .null) visits ↔
        visits = front ++ [last]) ∧
      (front ++ [last]).flatMap (·.page.items) = ["443", "80", "22"] ∧
      (∀ v ∈ front, v.page.hasMore = true ∧ v.page.nextCursor?.isSome = true) ∧
      (last.page.hasMore = false ∧ last.page.nextCursor? = none) ∧
      ∀ v ∈ front ++ [last], v.page.totalCount = 3 ∧ ∃ page, v.queries = [page, count] := by
  obtain ⟨base, hbase⟩ :
      ∃ base, distinctBase ⟨portSchema, .standard⟩ portsDown "dst_port" = .ok base := by
    refine Outcome.isOk_iff.1 ?_
    decide +kernel
  have hschema : ports.schema portsDown.layer = .ok portSchema := by decide +kernel
  have horder : portsDown.orderWord = "DESC" := by decide +kernel
  have hbounded : Bounded ports.settings := ⟨by decide, by decide, by decide +kernel⟩
  have hfields : ∀ i, portSchema.resolve?
      (if i % 2 = 0 then .text "DST_PORT" else .text "dst_port-x") = some "dst_port" := by
    intro i
    split
    · decide +kernel
    · decide +kernel
  have hlimits : ∀ i, IsLimit (if i = 0 then .int 1 else .int 2) := by
    intro i
    split
    · exact ⟨some 1, rfl, by decide⟩
    · exact ⟨some 2, rfl, by decide⟩
  have hvalues : Ascending isSmaller [.int 22, .int 80, .int 443] := ⟨by decide, by decide⟩
  have hkept : ∀ v ∈ [Value.int 22, .int 80, .int 443], IsKept v := by
    have hfits : ∀ n ∈ [22, 80, 443], Number.isWritable n = true := by decide +kernel
    intro v hv
    obtain ⟨n, hn, rfl⟩ := List.mem_map.1 (show v ∈ [22, 80, 443].map Value.int from hv)
    exact hfits n hn
  obtain ⟨front, last, count, hwalk, hitems, hrest⟩ := pages_show_every_value hschema hbase
    (.inr horder) hbounded hfields hlimits hvalues hkept (holds_holding base isSmaller _)
  rw [horder] at hitems
  exact ⟨base, front, last, count, hbase, hwalk, hitems.trans (by decide +kernel), hrest⟩

end Crosstab.View
