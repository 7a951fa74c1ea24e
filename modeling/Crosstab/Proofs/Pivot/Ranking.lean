import Crosstab.Proofs.Pivot.Grouped
import Crosstab.Session
import Mathlib.Data.List.Nodup

/-!
# Rankings

A ranking puts groups of rows in an order by their metric and then by their first row. No two groups
have the same first row, so the order leaves nothing open: whatever a channel does with groups that
are equal in an order, it has only one answer to the query of a ranking.
-/

namespace Crosstab.Pivot

open Sql
open Session (Reply)

/-! ## Groups in an order -/

/-- A group of rows: its key, its metric and its first row. -/
structure Group where
  key : String
  metric : Value
  first : Int
  deriving DecidableEq

/-- No two groups have the same key or the same first row. -/
structure Separate (groups : List Group) : Prop where
  keys : (groups.map (·.key)).Nodup
  firsts : (groups.map (·.first)).Nodup

/-- A term of an order of groups. -/
inductive SortTerm where
  | metric (descending : Bool)
  | first (descending : Bool)
  deriving DecidableEq

namespace SortTerm

/-- The word for the direction of a term. -/
def direction (descending : Bool) : String :=
  if descending then "DESC" else "ASC"

/-- The term in a statement. -/
def text : SortTerm → String
  | .metric descending => metricColumn ++ " " ++ direction descending ++ " NULLS LAST"
  | .first descending => firstColumn ++ " " ++ direction descending

/-- The term puts the first group before the second; groups without a metric come last. -/
def Before (less : Value → Value → Prop) : SortTerm → Group → Group → Prop
  | .metric descending, g, h => g.metric ≠ .null ∧
      (h.metric = .null ∨ if descending then less h.metric g.metric else less g.metric h.metric)
  | .first descending, g, h => if descending then h.first < g.first else g.first < h.first

end SortTerm

/-- The terms of an order in a statement. -/
def orderText (terms : List SortTerm) : String :=
  ", ".intercalate (terms.map (·.text))

/-- The first term that tells the groups apart puts the first before the second. -/
def Precedes (less : Value → Value → Prop) : List SortTerm → Group → Group → Prop
  | [], _, _ => False
  | t :: ts, g, h => t.Before less g h ∨ ¬t.Before less h g ∧ Precedes less ts g h

/-- The groups in an order that the terms allow: none stands behind one that it precedes. -/
structure Arranged (less : Value → Value → Prop) (terms : List SortTerm)
    (groups arranged : List Group) : Prop where
  perm : arranged.Perm groups
  sorted : arranged.Pairwise fun g h => ¬Precedes less terms h g

/-- The order of a ranking. -/
def rankTerms (ranking : Ranking) : List SortTerm :=
  [.metric (ranking != .bottom), .first false]

variable {less : Value → Value → Prop} {ranking : Ranking} {groups : List Group}

/-- Of two groups with different first rows the ranking puts one before the other. -/
theorem precedes_or_precedes {g h : Group} (hne : g.first ≠ h.first) :
    Precedes less (rankTerms ranking) g h ∨ Precedes less (rankTerms ranking) h g := by
  by_cases hgh : (SortTerm.metric (ranking != .bottom)).Before less g h
  · exact .inl (.inl hgh)
  · by_cases hhg : (SortTerm.metric (ranking != .bottom)).Before less h g
    · exact .inr (.inl hhg)
    · rcases Int.lt_or_gt_of_ne hne with hlt | hlt
      · exact .inl (.inr ⟨hhg, .inl hlt⟩)
      · exact .inr (.inr ⟨hgh, .inl hlt⟩)

namespace Arranged

variable {as bs : List Group}

theorem separate (h : Arranged less (rankTerms ranking) groups as) (hs : Separate groups) :
    Separate as :=
  ⟨(h.perm.map _).nodup_iff.2 hs.keys, (h.perm.map _).nodup_iff.2 hs.firsts⟩

/-- The order of a ranking is strict. -/
theorem strict (h : Arranged less (rankTerms ranking) groups as) (hs : Separate groups) :
    as.Pairwise (Precedes less (rankTerms ranking)) := by
  have hfirsts : as.Pairwise fun g h => g.first ≠ h.first :=
    List.pairwise_map.1 (h.separate hs).firsts
  exact (h.sorted.and hfirsts).imp fun ⟨hnot, hne⟩ => (precedes_or_precedes hne).resolve_right hnot

/-- There is one arrangement for a ranking. -/
theorem unique (ha : Arranged less (rankTerms ranking) groups as)
    (hb : Arranged less (rankTerms ranking) groups bs) (hs : Separate groups) : as = bs := by
  refine List.Perm.eq_of_pairwise ?_ ha.sorted hb.sorted (ha.perm.trans hb.perm.symm)
  intro g h hg hh hhg hgh
  by_contra hne
  have hfirst : g.first ≠ h.first := fun heq =>
    hne (List.inj_on_of_nodup_map hs.firsts (ha.perm.mem_iff.1 hg) (hb.perm.mem_iff.1 hh) heq)
  exact (precedes_or_precedes hfirst).elim hgh hhg

end Arranged

/-! ## A channel that ranks -/

/-- The part of a list that a statement with these numbers asks for. -/
def pageOf {α : Type} (limit? offset? : Option Int) (xs : List α) : List α :=
  let rest := xs.drop (offset?.getD 0).toNat
  match limit? with
  | some n => rest.take n.toNat
  | none => rest

/-- The rows of groups. -/
def groupRows (groups : List Group) : Rows :=
  ⟨[keyColumn, metricColumn, firstColumn],
    groups.map fun g => [.text g.key, g.metric, .int g.first]⟩

/-- The channel answers the query for groups in an order with a page of any arrangement that the
order allows. What stands before the order in the query tells which groups there are. -/
def Ranks (answer : Fragment → Reply) (less : Value → Value → Prop)
    (groups : List Symbol → List Group) : Prop :=
  ∀ head terms limit? offset? (q : Fragment), head ≠ [] →
    q.filled = lines (Select.pagedLines head (orderText terms) limit? offset?) →
    ∃ arranged, Arranged less terms (groups (lines head)) arranged ∧
      answer q = .ok (groupRows (pageOf limit? offset? arranged))

/-- The query is that of a ranking. -/
def IsRanking (q : Fragment) : Prop :=
  ∃ head ranking limit? offset?, head ≠ [] ∧
    q.filled = lines (Select.pagedLines head (orderText (rankTerms ranking)) limit? offset?)

/-- Channels that rank the same groups agree on rankings. -/
theorem Ranks.agree {a₁ a₂ : Fragment → Reply} {groups : List Symbol → List Group}
    (h₁ : Ranks a₁ less groups) (h₂ : Ranks a₂ less groups) (hs : ∀ head, Separate (groups head))
    (q : Fragment) (hq : IsRanking q) : a₁ q = a₂ q := by
  obtain ⟨head, ranking, limit?, offset?, hhead, hfilled⟩ := hq
  obtain ⟨as, has, hfirst⟩ := h₁ head _ limit? offset? q hhead hfilled
  obtain ⟨bs, hbs, hsecond⟩ := h₂ head _ limit? offset? q hhead hfilled
  rw [hfirst, hsecond, has.unique hbs (hs _)]

/-! ### Orders by their texts -/

namespace SortTerm

theorem text_inj {t u : SortTerm} (h : t.text = u.text) : t = u := by
  have hfind : ∀ t : SortTerm,
      [SortTerm.metric true, .metric false, .first true, .first false].find? (·.text == t.text) =
        some t := by
    intro t
    cases t with
    | metric d => cases d <;> decide
    | first d => cases d <;> decide
  exact Option.some.inj ((hfind t).symm.trans (h ▸ hfind u))

theorem text_plain (t : SortTerm) : ∀ c ∈ t.text.toList, (c != ',') = true ∧ c ≠ '\n' := by
  have hall : (t.text.toList.all fun c => c != ',' && c != '\n') = true := by
    cases t with
    | metric d => cases d <;> decide
    | first d => cases d <;> decide
  intro c hc
  obtain ⟨hcomma, hnewline⟩ := Bool.and_eq_true_iff.1 (List.all_eq_true.1 hall c hc)
  exact ⟨hcomma, bne_iff_ne.1 hnewline⟩

theorem text_ne_nil (t : SortTerm) : t.text.toList ≠ [] := by
  cases t with
  | metric d => cases d <;> decide
  | first d => cases d <;> decide

end SortTerm

/-- What stands in a statement behind the first term of an order. -/
def restText : List SortTerm → List Char
  | [] => []
  | ts => ',' :: ' ' :: (orderText ts).toList

theorem toList_orderText (t : SortTerm) (ts : List SortTerm) :
    (orderText (t :: ts)).toList = t.text.toList ++ restText ts := by
  cases ts with
  | nil => simp [orderText, restText]
  | cons u us =>
    have hcons : orderText (t :: u :: us) = t.text ++ ", " ++ orderText (u :: us) :=
      String.intercalate_cons_cons
    rw [hcons, String.toList_append, String.toList_append, restText]
    · simp
    · exact List.cons_ne_nil u us

theorem newline_not_mem_orderText (terms : List SortTerm) : '\n' ∉ (orderText terms).toList := by
  induction terms with
  | nil => exact nofun
  | cons t ts ih =>
    rw [toList_orderText]
    intro h
    rcases List.mem_append.1 h with h | h
    · exact (t.text_plain _ h).2 rfl
    · cases ts with
      | nil => cases h
      | cons u us =>
        have htail : '\n' ∈ ',' :: ' ' :: (orderText (u :: us)).toList := h
        simp only [List.mem_cons] at htail
        rcases htail with h | h | h
        · exact absurd h (by decide)
        · exact absurd h (by decide)
        · exact ih h

/-- The text of an order tells its terms. -/
theorem orderText_inj {ts us : List SortTerm} (h : orderText ts = orderText us) : ts = us := by
  have hstart : ∀ t ts, orderText (t :: ts) ≠ orderText [] := by
    intro t ts heq
    have hchars := congrArg String.toList heq
    rw [toList_orderText] at hchars
    exact t.text_ne_nil (List.append_eq_nil_iff.1 hchars).1
  have hrest : ∀ ts, (restText ts).takeWhile (· != ',') = [] := by
    intro ts
    cases ts with
    | nil => rfl
    | cons t ts => rfl
  induction ts generalizing us with
  | nil =>
    cases us with
    | nil => rfl
    | cons u us => exact absurd h.symm (hstart u us)
  | cons t ts ih =>
    cases us with
    | nil => exact absurd h (hstart t ts)
    | cons u us =>
      have hchars := congrArg String.toList h
      rw [toList_orderText, toList_orderText] at hchars
      have hfirst := congrArg (List.takeWhile (· != ',')) hchars
      rw [List.takeWhile_append_of_pos fun c hc => (t.text_plain c hc).1,
        List.takeWhile_append_of_pos fun c hc => (u.text_plain c hc).1, hrest, hrest,
        List.append_nil, List.append_nil] at hfirst
      obtain rfl := SortTerm.text_inj (String.toList_inj.1 hfirst)
      have htails := List.append_cancel_left hchars
      cases ts with
      | nil =>
        cases us with
        | nil => rfl
        | cons u us => cases htails
      | cons v vs =>
        cases us with
        | nil => cases htails
        | cons u us =>
          have htexts := (List.cons.inj (List.cons.inj htails).2).2
          rw [ih (String.toList_inj.1 htexts)]

/-! ### Arrangements -/

/-- An order that is strict on metrics puts no two groups before each other. -/
theorem precedes_asymm (hless : ∀ v w, less v w → ¬less w v) (terms : List SortTerm) (g h : Group) :
    Precedes less terms g h → ¬Precedes less terms h g := by
  have hbefore : ∀ t : SortTerm, t.Before less g h → ¬t.Before less h g := by
    intro t hgh hhg
    cases t with
    | metric d =>
      cases d with
      | true => exact hless _ _ (hgh.2.resolve_left hhg.1) (hhg.2.resolve_left hgh.1)
      | false => exact hless _ _ (hgh.2.resolve_left hhg.1) (hhg.2.resolve_left hgh.1)
    | first d =>
      cases d with
      | true => exact Int.lt_asymm (show h.first < g.first from hgh) hhg
      | false => exact Int.lt_asymm (show g.first < h.first from hgh) hhg
  induction terms with
  | nil => exact fun h => h.elim
  | cons t ts ih =>
    rintro (hgh | ⟨hnot, hgh⟩) (hhg | ⟨hnot', hhg⟩)
    · exact hbefore t hgh hhg
    · exact hnot' hgh
    · exact hnot hhg
    · exact ih hgh hhg

/-- Two groups can be arranged. -/
theorem arranged_pair (hless : ∀ v w, less v w → ¬less w v) (terms : List SortTerm) (g h : Group) :
    ∃ arranged, Arranged less terms [g, h] arranged := by
  by_cases hhg : Precedes less terms h g
  · refine ⟨[h, g], List.Perm.swap g h [], ?_⟩
    exact List.pairwise_pair.2 (precedes_asymm hless terms h g hhg)
  · exact ⟨[g, h], .refl _, List.pairwise_pair.2 hhg⟩

/-- What a query for groups in an order asks for, and an arrangement that answers it. -/
structure Asked where
  head : List (List Symbol)
  terms : List SortTerm
  limit? : Option Int
  offset? : Option Int
  arranged : List Group

/-- The query asks for this, and the arrangement is one of the groups. -/
def Asked.By (a : Asked) (less : Value → Value → Prop) (groups : List Group) (q : Fragment) :
    Prop :=
  a.head ≠ [] ∧ q.filled = lines (Select.pagedLines a.head (orderText a.terms) a.limit? a.offset?) ∧
    Arranged less a.terms groups a.arranged

/-- A channel that ranks the same groups for every field, and answers other queries as given. -/
noncomputable def ranker (less : Value → Value → Prop) (groups : List Group)
    (other : Fragment → Reply) (q : Fragment) : Reply :=
  open Classical in
  if h : ∃ a : Asked, a.By less groups q then
    .ok (groupRows (pageOf h.choose.limit? h.choose.offset? h.choose.arranged))
  else other q

theorem ranks_ranker {g h : Group} (hless : ∀ v w, less v w → ¬less w v)
    (other : Fragment → Reply) : Ranks (ranker less [g, h] other) less fun _ => [g, h] := by
  intro head terms limit? offset? q hhead hq
  obtain ⟨arranged, harranged⟩ := arranged_pair hless terms g h
  have hasked : ∃ a : Asked, a.By less [g, h] q :=
    ⟨⟨head, terms, limit?, offset?, arranged⟩, hhead, hq, harranged⟩
  obtain ⟨hhead', hq', harranged'⟩ := hasked.choose_spec
  obtain ⟨-, horder, hlimit, hoffset⟩ := Select.pagedLines_inj hhead' hhead
    (newline_not_mem_orderText _) (newline_not_mem_orderText terms) (hq'.symm.trans hq)
  rw [orderText_inj horder] at harranged'
  refine ⟨hasked.choose.arranged, harranged', ?_⟩
  rw [ranker, dif_pos hasked, hlimit, hoffset]

/-- A query that is no page in an order is answered as given. -/
theorem ranker_other {groups : List Group} {other : Fragment → Reply} {q : Fragment}
    (h : ∀ head order limit? offset?, head ≠ [] → '\n' ∉ order.toList →
      q.filled ≠ lines (Select.pagedLines head order limit? offset?)) :
    ranker less groups other q = other q := by
  refine dif_neg ?_
  rintro ⟨a, hhead, hq, -⟩
  exact h _ _ _ _ hhead (newline_not_mem_orderText _) hq

/-! ## Queries of rankings -/

namespace Context

/-- The groups of a field with their metrics, in no order. -/
def rankSelect (key value : String) (condition : Fragment) (c : Context) : Select :=
  (c.selectWhere [key ++ " AS " ++ keyColumn, value ++ " AS " ++ metricColumn,
    "MIN(t.rowid) AS " ++ firstColumn] condition).groupBy [key]

/-- What the query for the groups of a field reads as before its order. -/
def rankHead (field : Value) (metric : Metric) (c : Context) : Outcome (List (List Symbol)) := do
  let key ← c.key field
  let value ← metric.expr c.schema
  let condition ← c.whereWith []
  return (c.rankSelect key value condition).headLines c.schema.fromClause

variable {c : Context} {field : Value} {metric : Metric} {key value : String} {f : Fragment}

/-- The groups of a field in the order of a ranking. -/
def ranked (key value : String) (condition : Fragment) (ranking : Ranking) (c : Context) : Select :=
  { c.rankSelect key value condition with orders := [orderText (rankTerms ranking)] }

/-- The query for the keys that a ranking puts first, under further restrictions, is a page of
it. -/
theorem topKeys_eq (field : Value) (metric : Metric) (n : Value) (extra : List Restriction)
    (ranking : Ranking) (offset : Value) :
    c.topKeys field metric n extra ranking offset = (do
      let key ← c.key field
      let value ← metric.expr c.schema
      let condition ← c.whereWith extra
      (← paged n offset (c.ranked key value condition ranking)).build) := by
  have horder : ∀ s : Select, s.orders = [] → s.orderByTerms (metricColumn ++ " " ++
      (if ranking == .bottom then "ASC" else "DESC") ++ " NULLS LAST, " ++ firstColumn ++ " ASC") =
      { s with orders := [orderText (rankTerms ranking)] } := by
    intro s hs
    cases ranking with
    | top => rw [Select.orderByTerms, if_neg (by decide), hs]; rfl
    | bottom => rw [Select.orderByTerms, if_neg (by decide), hs]; rfl
  refine bind_congr fun key => bind_congr fun value => bind_congr fun f => ?_
  have hnone := (c.grouped_parts [key ++ " AS " ++ keyColumn, value ++ " AS " ++ metricColumn,
    "MIN(t.rowid) AS " ++ firstColumn] [key] f).2.1
  exact congrArg (fun s => (do (← paged n offset s).build)) (horder _ hnone)

/-- The statement of a ranking is sound and has a table but no page. -/
theorem sound_ranked (hkey : c.key field = .ok key) (hvalue : metric.expr c.schema = .ok value)
    (hf : Balanced f.sql) (ranking : Ranking) : (c.ranked key value f ranking).Sound := by
  have hinert := inert_key hkey
  have hcolumns : ∀ x ∈ [key ++ " AS " ++ keyColumn, value ++ " AS " ++ metricColumn,
      "MIN(t.rowid) AS " ++ firstColumn], Inert x := by
    simp only [List.forall_mem_cons]
    exact ⟨inert_named hinert (by decide), inert_named (inert_expr hvalue) (by decide),
      by decide, nofun⟩
  have hgroups : (c.rankSelect key value f).Sound :=
    sound_grouped hcolumns hf (List.forall_mem_singleton.2 hinert)
  refine ⟨hgroups.columns, hgroups.table, hgroups.condition, hgroups.groups, ?_⟩
  cases ranking with
  | top => exact List.forall_mem_singleton.2 (by decide)
  | bottom => exact List.forall_mem_singleton.2 (by decide)

theorem table_ranked (key value : String) (f : Fragment) (ranking : Ranking) :
    (c.ranked key value f ranking).table? = some c.schema.fromClause :=
  (c.grouped_parts _ [key] f).1

/-- A query of a ranking is one. -/
theorem isRanking_topKeys (hc : c.Sound) {n offset : Value} {q : Fragment}
    (h : c.topKeys field metric n [] ranking offset = .ok q) : IsRanking q := by
  rw [topKeys_eq] at h
  obtain ⟨key, hkey, h⟩ := Outcome.bind_eq_ok.1 h
  obtain ⟨value, hvalue, h⟩ := Outcome.bind_eq_ok.1 h
  obtain ⟨f, hf, h⟩ := Outcome.bind_eq_ok.1 h
  obtain ⟨l?, o?, hfilled⟩ := page_reads
    (sound_ranked hkey hvalue (where_balanced hc hf) ranking) (table_ranked key value f ranking)
    rfl h
  exact ⟨_, ranking, l?, o?, Select.headLines_ne_nil _ _, hfilled⟩

/-- The groups of a field are known from its column, the metric and the condition of the request. -/
theorem rankHead_parts {head : List (List Symbol)} (h : c.rankHead field metric = .ok head) :
    ∃ column value f, c.schema.column field = .ok column ∧ metric.expr c.schema = .ok value ∧
      c.whereWith [] = .ok f ∧
      head = (c.rankSelect (keyExpr column) value f).headLines c.schema.fromClause := by
  obtain ⟨key, hkey, h⟩ := Outcome.bind_eq_ok.1 h
  obtain ⟨value, hvalue, h⟩ := Outcome.bind_eq_ok.1 h
  obtain ⟨f, hf, h⟩ := Outcome.bind_eq_ok.1 h
  obtain ⟨column, hcolumn, hkey⟩ := Outcome.bind_eq_ok.1 hkey
  obtain rfl := Except.ok.inj hkey
  exact ⟨column, value, f, hcolumn, hvalue, hf, (Except.ok.inj h).symm⟩

theorem key_of_column {column : String} (h : c.schema.column field = .ok column) :
    c.key field = .ok (keyExpr column) :=
  Outcome.bind_eq_ok.2 ⟨column, h, rfl⟩

/-- The query of a page of a ranking under further restrictions comes together. -/
theorem topKeys_where_builds (hkey : c.key field = .ok key)
    (hvalue : metric.expr c.schema = .ok value)
    {extra : List Restriction} (hf : c.whereWith extra = .ok f) (hbalanced : Balanced f.sql)
    (ranking : Ranking) {n o : Int} (hn : 1 ≤ n) (hnfits : Number.isWritable n = true) (ho : 0 ≤ o)
    (hofits : Number.isWritable o = true) :
    ∃ q, c.topKeys field metric (.int n) extra ranking (.int o) = .ok q ∧
      q.filled = lines (Select.pagedLines ((c.rankSelect key value f).headLines c.schema.fromClause)
        (orderText (rankTerms ranking)) (some n) (startOf o)) := by
  rw [topKeys_eq, hkey, hvalue, hf]
  exact page_builds (sound_ranked hkey hvalue hbalanced ranking) (table_ranked _ value f ranking)
    c.schema.fromClause_not_blank rfl (c.grouped_parts _ [key] f).2.2.2 hn hnfits ho hofits

/-- The query of a page of a ranking comes together. -/
theorem topKeys_builds (hc : c.Sound) {head : List (List Symbol)}
    (hhead : c.rankHead field metric = .ok head) (ranking : Ranking) {n o : Int} (hn : 1 ≤ n)
    (hnfits : Number.isWritable n = true) (ho : 0 ≤ o) (hofits : Number.isWritable o = true) :
    ∃ q, c.topKeys field metric (.int n) [] ranking (.int o) = .ok q ∧
      q.filled = lines (Select.pagedLines head (orderText (rankTerms ranking)) (some n)
        (startOf o)) := by
  obtain ⟨column, value, f, hcolumn, hvalue, hf, rfl⟩ := rankHead_parts hhead
  exact topKeys_where_builds (key_of_column hcolumn) hvalue hf (where_balanced hc hf) ranking hn
    hnfits ho hofits

theorem rankHead_ne_nil {head : List (List Symbol)} (h : c.rankHead field metric = .ok head) :
    head ≠ [] := by
  obtain ⟨_, _, _, -, -, -, rfl⟩ := rankHead_parts h
  exact Select.headLines_ne_nil _ _

theorem pageOf_startOf {α : Type} (n : Int) (o : Int) (xs : List α) :
    pageOf (some n) (startOf o) xs = (xs.drop o.toNat).take n.toNat := by
  unfold pageOf startOf
  by_cases h : o = 0
  · simp [h]
  · simp [h]

section Answers

variable {groups : List Symbol → List Group} {head : List (List Symbol)}

/-- A channel that ranks has an arrangement of the groups of a field. -/
theorem exists_arranged {answer : Fragment → Reply} (h : Ranks answer less groups) (hc : c.Sound)
    (hhead : c.rankHead field metric = .ok head) (ranking : Ranking) :
    ∃ ordered, Arranged less (rankTerms ranking) (groups (lines head)) ordered := by
  have hone : Number.isWritable 1 = true := Number.isWritable_digit (by decide) (by decide)
  have hzero : Number.isWritable 0 = true := Number.isWritable_digit (by decide) (by decide)
  obtain ⟨q, -, hfilled⟩ :=
    topKeys_builds hc hhead ranking (by decide) hone (Int.le_refl 0) hzero
  obtain ⟨ordered, hordered, -⟩ := h head _ _ _ q (rankHead_ne_nil hhead) hfilled
  exact ⟨ordered, hordered⟩

/-- Every channel that ranks answers a page of a ranking with its part of the arrangement. -/
theorem page_answered (hs : ∀ head, Separate (groups head)) (hc : c.Sound)
    (hhead : c.rankHead field metric = .ok head) {ordered : List Group}
    (hordered : Arranged less (rankTerms ranking) (groups (lines head)) ordered) {n o : Int}
    (hn : 1 ≤ n) (hnfits : Number.isWritable n = true) (ho : 0 ≤ o)
    (hofits : Number.isWritable o = true) :
    ∃ q, c.topKeys field metric (.int n) [] ranking (.int o) = .ok q ∧
      ∀ answer, Ranks answer less groups →
        answer q = .ok (groupRows ((ordered.drop o.toNat).take n.toNat)) := by
  obtain ⟨q, hq, hfilled⟩ := topKeys_builds hc hhead ranking hn hnfits ho hofits
  refine ⟨q, hq, fun answer hranks => ?_⟩
  obtain ⟨arranged, harranged, hanswer⟩ := hranks head _ _ _ q (rankHead_ne_nil hhead) hfilled
  rw [hanswer, pageOf_startOf, harranged.unique hordered (hs _)]

end Answers

end Context

end Crosstab.Pivot
