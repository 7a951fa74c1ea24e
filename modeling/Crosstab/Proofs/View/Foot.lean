import Crosstab.Proofs.View.Grid
import Mathlib.Data.List.Perm.Subperm

/-!
# The foot of a grid

A request for aggregates names metrics, each a field with the aggregates that it wants. What is told
of a field is what a channel knows of its column: numbers as they come, and of other values how many
there are, how many different ones, and which are the most frequent. The latter are passed over
where no value occurs more than once.
-/

namespace Crosstab.View

open Crosstab.Filter Sql
open Session (Reply)

/-! ## Aggregates -/

namespace FootOp

/-- The rank of the value that is asked for, if it is one by frequency. -/
def rank? : FootOp → Option Nat
  | .top rank => some rank
  | _ => none

theorem rank?_eq_some {op : FootOp} {k : Nat} : op.rank? = some k ↔ op = .top k := by
  constructor
  · intro hrank
    cases op <;> cases hrank
    rfl
  · rintro rfl
    rfl

theorem mem_ranks {ops : List FootOp} {k : Nat} : k ∈ ops.filterMap rank? ↔ .top k ∈ ops := by
  simp [rank?_eq_some]

theorem plain_of_texts : ∀ op ∈ ofTexts, op.rank? = none → op = .count ∨ op = .distinct := by
  decide

theorem rank_of_texts {k : Nat} (h : .top k ∈ ofTexts) : 1 ≤ k ∧ k ≤ 3 := by
  simp only [ofTexts, List.mem_cons, List.not_mem_nil, top.injEq, reduceCtorEq, false_or,
    or_false] at h
  omega

/-- The aggregates that there are for fields of a type. -/
def allowed (type : String) : List FootOp :=
  if type == "number" then ofNumbers else ofTexts

theorem numbers_by_name : ∀ a ∈ ofNumbers, ∀ b ∈ ofNumbers, a.name = b.name → a = b := by
  decide

theorem texts_by_name : ∀ a ∈ ofTexts, ∀ b ∈ ofTexts, a.name = b.name → a = b := by
  decide

end FootOp

/-- The entry has a value for each of the aggregates that are shown, once and by its name, and
nothing else. -/
structure ShowsOps (shown : FootOp → Prop) (value : FootOp → Value) (ops : List FootOp)
    (entry : FieldAggregates) : Prop where
  once : (entry.map (·.1)).Nodup
  mem : ∀ p, p ∈ entry ↔ ∃ op ∈ ops, shown op ∧ p = (op.name, value op)

theorem showsOps_of_pairs {ops : List FootOp}
    (hnames : ∀ a ∈ ops, ∀ b ∈ ops, a.name = b.name → a = b) {shown : FootOp → Prop}
    {value : FootOp → Value} {pairs : FieldAggregates}
    (h : ∀ p, p ∈ pairs ↔ ∃ op ∈ ops, shown op ∧ p = (op.name, value op)) :
    ShowsOps shown value ops (namedValues pairs) := by
  have hagree : ∀ p ∈ pairs, ∀ q ∈ pairs, p.1 = q.1 → p = q := by
    intro p hp q hq hname
    obtain ⟨a, ha, -, rfl⟩ := (h p).1 hp
    obtain ⟨b, hb, -, rfl⟩ := (h q).1 hq
    rw [hnames a ha b hb hname]
  obtain ⟨hnodup, hmem⟩ := namedValues_of_agree hagree
  exact ⟨hnodup, fun p => (hmem p).trans (h p)⟩

/-- Where all aggregates are shown, the entry is what they are. -/
theorem ShowsOps.mem_all {shown : FootOp → Prop} {value : FootOp → Value} {ops : List FootOp}
    {entry : FieldAggregates} (h : ShowsOps shown value ops entry) (hall : ∀ op ∈ ops, shown op)
    (p : String × Value) : p ∈ entry ↔ p ∈ ops.map fun op => (op.name, value op) := by
  rw [h.mem, List.mem_map]
  constructor
  · rintro ⟨op, hop, -, rfl⟩
    exact ⟨op, hop, rfl⟩
  · rintro ⟨op, hop, rfl⟩
    exact ⟨op, hop, hall op hop, rfl⟩

/-! ## Rankings -/

/-- The texts by how often each of them occurs, the most frequent first, and of those that occur as
often the smaller first. -/
structure RanksByCount (texts ranked : List String) : Prop where
  mem : ∀ v, v ∈ ranked ↔ v ∈ texts
  falling : ranked.Pairwise fun a b =>
    texts.count b < texts.count a ∨ texts.count a = texts.count b ∧ a < b

namespace RanksByCount

variable {texts ranked : List String}

theorem nodup (h : RanksByCount texts ranked) : ranked.Nodup :=
  h.falling.imp fun hab heq => by
    subst heq
    rcases hab with hlt | ⟨-, hlt⟩
    · exact Nat.lt_irrefl _ hlt
    · exact String.lt_irrefl _ hlt

/-- There are more texts than different ones exactly if one occurs again. -/
theorem length_lt_iff (h : RanksByCount texts ranked) :
    ranked.length < texts.length ↔ ¬texts.Nodup := by
  constructor
  · intro hlt hnodup
    have hperm := (List.perm_ext_iff_of_nodup h.nodup hnodup).2 h.mem
    exact absurd hperm.length_eq (Nat.ne_of_lt hlt)
  · intro hagain
    have hsub : ranked.Subperm texts := List.subperm_of_subset h.nodup fun v hv => (h.mem v).1 hv
    refine Nat.lt_of_le_of_ne hsub.length_le fun heq => hagain ?_
    exact (hsub.perm_of_length_le (Nat.le_of_eq heq.symm)).nodup_iff.1 h.nodup

end RanksByCount

/-- What is known of texts for an aggregate. -/
def textValue (texts ranked : List String) : FootOp → Value
  | .count => .int texts.length
  | .distinct => .int ranked.length
  | .top rank =>
    match ranked[rank - 1]? with
    | some v => .record [("value", .text v), ("count", .int (texts.count v))]
    | none => .null
  | .sum | .avg | .min | .max => .null

/-! ## Channels -/

/-- The columns of the query for aggregates of numbers. -/
def numberColumns (column : String) : List String :=
  FootOp.ofNumbers.map fun op => s!"{op.expr column} AS {op.resultColumn}"

/-- The columns of the query for the numbers of values and of different ones. -/
def countColumns (column : String) : List String :=
  [s!"COUNT({column}) AS cnt", s!"COUNT(DISTINCT {textExpr column}) AS uniq"]

/-- The channel knows the aggregates of every column of numbers, and the values of every column as
texts, with their ranking. -/
structure Knows (answer : Fragment → Reply) (schema : Schema) (condition : Fragment)
    (numbers : String → FootOp → Value) (texts ranked : String → List String) : Prop where
  ranking : ∀ {name column}, schema.column name = .ok column →
    RanksByCount (texts column) (ranked column)
  numbers : ∀ {name column q}, schema.column name = .ok column →
    (footSelect schema (numberColumns column) condition).build = .ok q →
    ∃ rows row rest, answer q = .ok rows ∧ rows.records = row :: rest ∧
      ∀ op ∈ FootOp.ofNumbers, Row.get op.resultColumn row = .ok (numbers column op)
  counts : ∀ {name column q}, schema.column name = .ok column →
    (footSelect schema (countColumns column) condition).build = .ok q →
    ∃ rows row rest, answer q = .ok rows ∧ rows.records = row :: rest ∧
      Row.get "cnt" row = .ok (.int (texts column).length) ∧
      Row.get "uniq" row = .ok (.int (ranked column).length)
  tops : ∀ {name column q}, schema.column name = .ok column →
    topQuery schema column condition = .ok q →
    ∃ rows, answer q = .ok rows ∧ List.Forall₂ (fun v row => Row.get "val" row = .ok (.text v) ∧
      Row.get "c" row = .ok (.int ((texts column).count v))) ((ranked column).take 3) rows.records

/-! ## Queries -/

theorem footSelect_sound (schema : Schema) {columns : List String}
    (hcolumns : ∀ c ∈ columns, Inert c) {condition : Fragment}
    (hcondition : Balanced condition.sql) : (footSelect schema columns condition).Sound := by
  rw [footSelect, Select.filter_eq]
  refine ⟨hcolumns, ?_, ?_, nofun, nofun⟩
  · rintro _ ⟨⟩
    exact schema.isQuiet_fromClause.inert
  · show Balanced (if condition.isBlank then Fragment.empty else condition).sql
    split
    · rfl
    · exact hcondition

theorem footSelect_parts (schema : Schema) (columns : List String) (condition : Fragment) :
    (footSelect schema columns condition).table? = some schema.fromClause ∧
      (footSelect schema columns condition).limit? = none ∧
      (footSelect schema columns condition).offset? = none := by
  rw [footSelect, Select.filter_eq]
  exact ⟨rfl, rfl, rfl⟩

/-- The rows of a layer can be asked for any inert columns. -/
theorem footSelect_builds (schema : Schema) {columns : List String}
    (hcolumns : ∀ c ∈ columns, Inert c) {condition : Fragment}
    (hcondition : Balanced condition.sql) :
    ∃ q, (footSelect schema columns condition).build = .ok q := by
  obtain ⟨htable, hlimit, hoffset⟩ := footSelect_parts schema columns condition
  obtain ⟨q, hq, -⟩ := Select.build_of_sound (footSelect_sound schema hcolumns hcondition) htable
    schema.fromClause_not_blank ⟨by simp [hlimit], by simp [hoffset]⟩
  exact ⟨q, hq⟩

section Column

variable {column : String} (hcolumn : IsPlain column)

include hcolumn

theorem numberColumns_inert : ∀ c ∈ numberColumns column, Inert c := by
  have hnames : ∀ op ∈ FootOp.ofNumbers,
      Inert (Text.upper op.name ++ "(") ∧ Inert op.resultColumn := by decide
  have hclose : Inert ")" := by decide
  have hnamed : Inert " AS " := by decide
  rw [numberColumns, List.forall_mem_map]
  intro op hop
  obtain ⟨hopen, hresult⟩ := hnames op hop
  exact ((((hopen.append hcolumn.isQuiet.inert).append hclose).append hnamed).append hresult)

theorem textExpr_inert : Inert (textExpr column) := by
  have hcast : Inert "CAST(" := by decide
  have htype : Inert " AS VARCHAR)" := by decide
  exact (hcast.append hcolumn.isQuiet.inert).append htype

theorem countColumns_inert : ∀ c ∈ countColumns column, Inert c := by
  have hcount : Inert "COUNT(" := by decide
  have hdistinct : Inert "COUNT(DISTINCT " := by decide
  have hcnt : Inert ") AS cnt" := by decide
  have huniq : Inert ") AS uniq" := by decide
  refine List.forall_mem_cons.2 ⟨(hcount.append hcolumn.isQuiet.inert).append hcnt, ?_⟩
  exact List.forall_mem_singleton.2 ((hdistinct.append (textExpr_inert hcolumn)).append huniq)

/-- The most frequent values of a column can be asked for. -/
theorem topQuery_builds (schema : Schema) {condition : Fragment}
    (hcondition : Balanced condition.sql) : ∃ q, topQuery schema column condition = .ok q := by
  have hnotNull : Inert " IS NOT NULL" := by decide
  have hval : Inert " AS val" := by decide
  have hcounted : Inert "COUNT(*) AS c" := by decide
  have hterms : (Select.Step.orderByTerms "c DESC, val ASC").Sound := by decide
  have hpresent := hcolumn.isQuiet.inert.append hnotNull
  have hcolumns : ∀ c ∈ [s!"{textExpr column} AS val", "COUNT(*) AS c"], Inert c :=
    List.forall_mem_cons.2 ⟨(textExpr_inert hcolumn).append hval,
      List.forall_mem_singleton.2 hcounted⟩
  have hgroups : (Select.Step.groupBy [textExpr column]).Sound :=
    List.forall_mem_singleton.2 (textExpr_inert hcolumn)
  obtain ⟨raw, hraw, hbalancedRaw, -⟩ := (Fills.inert hpresent).carries
  obtain ⟨present, hand, hbalanced, -⟩ := and_carries hcondition hbalancedRaw
  have hselected := footSelect_sound schema hcolumns hbalanced
  have hgrouped := ((Select.Step.apply_yields hselected hgroups).of_ok rfl).1
  have hordered := ((Select.Step.apply_yields hgrouped hterms).of_ok rfl).1
  have hfits : Number.isWritable 3 = true := Number.isWritable_digit (by decide) (by decide)
  have hlimit := fun s => Select.limitTo_int (n := 3) (by decide) s
  have hthree : (Select.Step.limitTo (.int 3)).Sound := trivial
  have hlimited := ((Select.Step.apply_yields hordered hthree).of_ok (hlimit _)).1
  -- the terms of the order change nothing else
  have hother : ∀ s : Select, (s.orderByTerms "c DESC, val ASC").table? = s.table? ∧
      (s.orderByTerms "c DESC, val ASC").offset? = s.offset? := by
    intro s
    unfold Select.orderByTerms
    split <;> exact ⟨rfl, rfl⟩
  obtain ⟨htable, -, hoffset⟩ := footSelect_parts schema
    [s!"{textExpr column} AS val", "COUNT(*) AS c"] present
  have hnone := (hother ((footSelect schema _ present).groupBy [textExpr column])).2.trans hoffset
  obtain ⟨q, hq, -⟩ := Select.build_of_sound hlimited ((hother _).1.trans htable)
    schema.fromClause_not_blank
    ⟨fun n hn => Option.mem_some_iff.1 hn ▸ hfits, fun n hn => nomatch hnone.symm.trans hn⟩
  exact ⟨q, Outcome.bind_eq_ok.2 ⟨raw, hraw, Outcome.bind_eq_ok.2 ⟨present, hand,
    Outcome.bind_eq_ok.2 ⟨_, hlimit _, hq⟩⟩⟩⟩

end Column

/-! ## Fields -/

/-- The numbers of values and of different ones, where they are asked for. -/
def countPairs (count unique : Int) (ops : List FootOp) : FieldAggregates :=
  (if ops.contains .count then [("count", Value.int count)] else []) ++
    if ops.contains .distinct then [("distinct", Value.int unique)] else []

/-- What is asked once the numbers of values and of different ones are known. -/
def afterCounts (schema : Schema) (column : String) (condition : Fragment) (count unique : Int)
    (ops : List FootOp) : Session FieldAggregates :=
  if (ops.filterMap FootOp.rank?).isEmpty || decide (count ≤ unique) then
    pure (countPairs count unique ops)
  else do
    return namedValues (countPairs count unique ops ++
      (← topAggregates schema column condition (ops.filterMap FootOp.rank?)))

theorem nodup_countPairs (count unique : Int) (ops : List FootOp) :
    ((countPairs count unique ops).map (·.1)).Nodup := by
  unfold countPairs
  cases ops.contains .count <;> cases ops.contains .distinct <;> simp

theorem mem_countPairs {ops : List FootOp} (hops : ∀ op ∈ ops, op ∈ FootOp.ofTexts)
    (texts ranked : List String) (p : String × Value) :
    p ∈ countPairs texts.length ranked.length ops ↔
      ∃ op ∈ ops, op.rank? = none ∧ p = (op.name, textValue texts ranked op) := by
  have hsplit : ∀ (op : FootOp) (q : String × Value),
      p ∈ (if ops.contains op then [q] else []) ↔ op ∈ ops ∧ p = q := by
    intro op q
    by_cases h : op ∈ ops <;> simp [h]
  rw [countPairs, List.mem_append, hsplit, hsplit]
  constructor
  · rintro (⟨hop, rfl⟩ | ⟨hop, rfl⟩)
    · exact ⟨.count, hop, rfl, rfl⟩
    · exact ⟨.distinct, hop, rfl, rfl⟩
  · rintro ⟨op, hop, hrank, rfl⟩
    rcases FootOp.plain_of_texts op (hops op hop) hrank with rfl | rfl
    · exact .inl ⟨hop, rfl⟩
    · exact .inr ⟨hop, rfl⟩

theorem mem_topPairs {ops : List FootOp} (value : FootOp → Value) (p : String × Value) :
    p ∈ (ops.filterMap FootOp.rank?).map (fun k => (FootOp.name (.top k), value (.top k))) ↔
      ∃ op ∈ ops, op.rank? ≠ none ∧ p = (op.name, value op) := by
  rw [List.mem_map]
  constructor
  · rintro ⟨k, hk, rfl⟩
    exact ⟨.top k, FootOp.mem_ranks.1 hk, nofun, rfl⟩
  · rintro ⟨op, hop, hrank, rfl⟩
    obtain ⟨k, hk⟩ := Option.ne_none_iff_exists'.1 hrank
    obtain rfl := FootOp.rank?_eq_some.1 hk
    exact ⟨k, FootOp.mem_ranks.2 hop, rfl⟩

section Entries

variable {ops : List FootOp} (hops : ∀ op ∈ ops, op ∈ FootOp.ofTexts) {texts ranked : List String}

include hops

/-- Where every aggregate that is told is a number of values, the numbers are the entry. -/
theorem showsOps_counts (h : texts.Nodup ∨ ∀ op ∈ ops, op.rank? = none) :
    ShowsOps (fun op => op.rank? = none ∨ ¬texts.Nodup) (textValue texts ranked) ops
      (countPairs texts.length ranked.length ops) := by
  refine ⟨nodup_countPairs _ _ ops, fun p => ?_⟩
  rw [mem_countPairs hops]
  refine exists_congr fun op => and_congr_right fun hop => and_congr_left fun _ => ?_
  exact ⟨.inl, fun hshown => h.elim (fun hnodup => hshown.resolve_right fun hdup => hdup hnodup)
    fun hplain => hplain op hop⟩

/-- Where some value occurs again, the numbers and the most frequent values are the entry. -/
theorem showsOps_ranked (hdup : ¬texts.Nodup) :
    ShowsOps (fun op => op.rank? = none ∨ ¬texts.Nodup) (textValue texts ranked) ops
      (namedValues (countPairs texts.length ranked.length ops ++
        (ops.filterMap FootOp.rank?).map fun k =>
          (FootOp.name (.top k), textValue texts ranked (.top k)))) := by
  refine showsOps_of_pairs
    (fun a ha b hb => FootOp.texts_by_name a (hops a ha) b (hops b hb)) fun p => ?_
  rw [List.mem_append, mem_countPairs hops, mem_topPairs]
  constructor
  · rintro (⟨op, hop, -, rfl⟩ | ⟨op, hop, -, rfl⟩) <;> exact ⟨op, hop, .inr hdup, rfl⟩
  · rintro ⟨op, hop, -, rfl⟩
    by_cases hrank : op.rank? = none
    · exact .inl ⟨op, hop, hrank, rfl⟩
    · exact .inr ⟨op, hop, hrank, rfl⟩

end Entries

/-- Lists that are related element by element are so at every place. -/
theorem getElem?_of_forall₂ {α β : Type} {R : α → β → Prop} {xs : List α} {ys : List β}
    (h : List.Forall₂ R xs ys) (i : Nat) : (xs[i]? = none ∧ ys[i]? = none) ∨
      ∃ x y, xs[i]? = some x ∧ ys[i]? = some y ∧ R x y := by
  induction h generalizing i with
  | nil => exact .inl ⟨rfl, rfl⟩
  | cons hxy _ ih =>
    cases i with
    | zero => exact .inr ⟨_, _, rfl, rfl, hxy⟩
    | succ i => exact ih i

section Fields

variable {answer : Fragment → Reply} {schema : Schema} {condition : Fragment}
  {numbers : String → FootOp → Value} {texts ranked : String → List String}
  (hknows : Knows answer schema condition numbers texts ranked)
  (hcondition : Balanced condition.sql) {name : Value} {column : String}
  (hcolumn : schema.column name = .ok column)

include hknows hcondition hcolumn

/-- The aggregates of a field of numbers are those that are asked for, as the channel knows them. -/
theorem numberAggregates_runs {ops : List FootOp} (hops : ∀ op ∈ ops, op ∈ FootOp.ofNumbers) :
    ∃ entry qs, Runs answer (numberAggregates schema column condition ops) entry qs ∧
      ShowsOps (fun _ => True) (numbers column) ops entry := by
  have hplain := (schema.column_yields name).of_ok hcolumn
  obtain ⟨q, hq⟩ := footSelect_builds schema (numberColumns_inert hplain) hcondition
  obtain ⟨rows, row, rest, hanswer, hrecords, hget⟩ := hknows.numbers hcolumn hq
  have hrow : firstRow rows.records = .ok row := by rw [hrecords, firstRow]
  have hpairs : (ops.mapM fun op => do
      return (op.name, ← row.get op.resultColumn) : Outcome (List (String × Value))) =
      .ok (ops.map fun op => (op.name, numbers column op)) :=
    Outcome.mapM_eq_map fun op hop => by rw [hget op (hops op hop)]; rfl
  refine ⟨_, _, (Runs.lift_bind hq ((Runs.records hanswer).bind
    (Runs.lift_bind hrow (Runs.lift_bind hpairs (.done _))))), ?_⟩
  refine showsOps_of_pairs (fun a ha b hb => FootOp.numbers_by_name a (hops a ha) b (hops b hb))
    fun p => ?_
  rw [List.mem_map]
  constructor
  · rintro ⟨op, hop, rfl⟩
    exact ⟨op, hop, trivial, rfl⟩
  · rintro ⟨op, hop, -, rfl⟩
    exact ⟨op, hop, rfl⟩

/-- The most frequent values are those of the ranking. -/
theorem topAggregates_runs {ranks : List Nat} (hranks : ∀ k ∈ ranks, 1 ≤ k ∧ k ≤ 3) :
    ∃ qs, Runs answer (topAggregates schema column condition ranks)
      (ranks.map fun k => (FootOp.name (.top k), textValue (texts column) (ranked column) (.top k)))
      qs := by
  have hplain := (schema.column_yields name).of_ok hcolumn
  obtain ⟨q, hq⟩ := topQuery_builds hplain schema hcondition
  obtain ⟨rows, hanswer, hrows⟩ := hknows.tops hcolumn hq
  have hvalue : ∀ k ∈ ranks, topValue rows.records k =
      .ok (textValue (texts column) (ranked column) (.top k)) := by
    intro k hk
    have hlt : k - 1 < 3 := by
      have := hranks k hk
      omega
    have hplace := getElem?_of_forall₂ hrows (k - 1)
    rw [List.getElem?_take_of_lt hlt] at hplace
    rw [topValue, textValue]
    rcases hplace with ⟨hnone, hrow⟩ | ⟨v, row, hv, hrow, hval, hc⟩
    · rw [hnone, hrow]
    · simp only [hv, hrow, hval, hc]
      rfl
  have hpairs : (ranks.mapM fun k => do
      return (FootOp.name (.top k), ← topValue rows.records k) : Outcome (List (String × Value))) =
      .ok (ranks.map fun k =>
        (FootOp.name (.top k), textValue (texts column) (ranked column) (.top k))) :=
    Outcome.mapM_eq_map fun k hk => by rw [hvalue k hk]; rfl
  exact ⟨_, Runs.lift_bind hq ((Runs.records hanswer).bind (Runs.lift hpairs))⟩

/-- The most frequent values are asked for and told exactly where some value occurs again. -/
theorem afterCounts_runs {ops : List FootOp} (hops : ∀ op ∈ ops, op ∈ FootOp.ofTexts) :
    ∃ entry qs, Runs answer
      (afterCounts schema column condition (texts column).length (ranked column).length ops) entry
      qs ∧ ShowsOps (fun op => op.rank? = none ∨ ¬(texts column).Nodup)
        (textValue (texts column) (ranked column)) ops entry := by
  have hagain := (hknows.ranking hcolumn).length_lt_iff
  rw [afterCounts]
  by_cases hasks : (ops.filterMap FootOp.rank?).isEmpty ||
      decide (((texts column).length : Int) ≤ (ranked column).length)
  · rw [if_pos hasks]
    refine ⟨_, _, .done _, showsOps_counts hops ?_⟩
    rcases Bool.or_eq_true_iff.1 hasks with hnone | hle
    · exact .inr (List.filterMap_eq_nil_iff.1 (List.isEmpty_iff.1 hnone))
    · refine .inl (Decidable.not_not.1 fun hdup => ?_)
      have hlt := hagain.2 hdup
      have hle := of_decide_eq_true hle
      omega
  · rw [if_neg hasks]
    obtain ⟨-, hlt⟩ := not_or.1 fun h => hasks (Bool.or_eq_true_iff.2 h)
    have hdup : ¬(texts column).Nodup := hagain.1 (by simpa using hlt)
    have hranks : ∀ k ∈ ops.filterMap FootOp.rank?, 1 ≤ k ∧ k ≤ 3 := fun k hk =>
      FootOp.rank_of_texts (hops _ (FootOp.mem_ranks.1 hk))
    obtain ⟨qs, htops⟩ := topAggregates_runs hknows hcondition hcolumn hranks
    exact ⟨_, _, htops.bind (.done _), showsOps_ranked hops hdup⟩

/-- The aggregates of a field of other values are those that are asked for, but the most frequent
values are told only where some value occurs again. -/
theorem textAggregates_runs {ops : List FootOp} (hops : ∀ op ∈ ops, op ∈ FootOp.ofTexts) :
    ∃ entry qs, Runs answer (textAggregates schema column condition ops) entry qs ∧
      ShowsOps (fun op => op.rank? = none ∨ ¬(texts column).Nodup)
        (textValue (texts column) (ranked column)) ops entry := by
  have hplain := (schema.column_yields name).of_ok hcolumn
  obtain ⟨q, hq⟩ := footSelect_builds schema (countColumns_inert hplain) hcondition
  obtain ⟨rows, row, rest, hanswer, hrecords, hcount, hunique⟩ := hknows.counts hcolumn hq
  have hrow : firstRow rows.records = .ok row := by rw [hrecords, firstRow]
  obtain ⟨entry, qs, hrun, hshows⟩ := afterCounts_runs hknows hcondition hcolumn hops
  refine ⟨entry, [q] ++ qs, Runs.lift_bind hq ((Runs.records hanswer).bind ?_), hshows⟩
  exact Runs.lift_bind hrow (Runs.lift_bind hcount (Runs.lift_bind (Value.toCount_int _)
    (Runs.lift_bind hunique (Runs.lift_bind (Value.toCount_int _) hrun))))

end Fields

/-! ## Metrics -/

/-- The aggregate of a type of fields that a value names. -/
def opOf? (type : String) (v : Value) : Option FootOp :=
  (FootOp.allowed type).find? fun op => v == .text op.name

theorem opOf?_eq_some {type : String} {v : Value} {op : FootOp} :
    opOf? type v = some op ↔ v = .text op.name ∧ op ∈ FootOp.allowed type := by
  constructor
  · intro h
    exact ⟨beq_iff_eq.1 (List.find?_some (p := fun op : FootOp => v == .text op.name) h),
      List.mem_of_find?_eq_some h⟩
  · rintro ⟨rfl, hop⟩
    have hnumbers : ∀ op ∈ FootOp.ofNumbers, FootOp.ofNumbers.find?
      (fun o => Value.text op.name == .text o.name) = some op := by decide
    have htexts : ∀ op ∈ FootOp.ofTexts, FootOp.ofTexts.find?
      (fun o => Value.text op.name == .text o.name) = some op := by decide
    unfold FootOp.allowed at hop
    unfold opOf? FootOp.allowed
    split at hop
    · next htype => rw [if_pos htype, hnumbers op hop]
    · next htype => rw [if_neg htype, htexts op hop]

/-- Values that all name aggregates are the names of these. -/
theorem map_ops {type : String} {items : List Value}
    (h : ∀ v ∈ items, ∃ op, opOf? type v = some op) :
    items = (items.filterMap (opOf? type)).map fun op => .text op.name := by
  induction items with
  | nil => rfl
  | cons v items ih =>
    obtain ⟨⟨op, hop⟩, hrest⟩ := List.forall_mem_cons.1 h
    rw [List.filterMap_cons_some hop, List.map_cons, ← ih hrest, (opOf?_eq_some.1 hop).1]

/-- Aggregates are read from their names, all of which are allowed for the type. -/
theorem footOps_eq_ok {name type : String} {items : List Value} {ops : List FootOp} :
    footOps name type items = .ok ops ↔
      items = ops.map (fun op => .text op.name) ∧ ∀ op ∈ ops, op ∈ FootOp.allowed type := by
  have hread : footOps name type items =
      if (items.filter fun v => (opOf? type v).isNone).isEmpty then
        .ok (items.filterMap (opOf? type))
      else reject .invalidMetric
        (toString (Value.list (items.filter fun v => (opOf? type v).isNone)).shown ++
          " for " ++ type ++ " field " ++ Text.quoted name) := rfl
  have hempty : (items.filter fun v => (opOf? type v).isNone).isEmpty = true ↔
      ∀ v ∈ items, ∃ op, opOf? type v = some op := by
    simp [List.filter_eq_nil_iff, Option.ne_none_iff_exists']
  rw [hread]
  constructor
  · intro h
    split at h
    · next hnone =>
      obtain rfl := Except.ok.inj h
      refine ⟨map_ops (hempty.1 hnone), fun op hop => ?_⟩
      obtain ⟨v, -, hv⟩ := List.mem_filterMap.1 hop
      exact (opOf?_eq_some.1 hv).2
    · cases h
  · rintro ⟨rfl, hops⟩
    have hfound : ∀ op ∈ ops, opOf? type (.text op.name) = some op := fun op hop =>
      opOf?_eq_some.2 ⟨rfl, hops op hop⟩
    rw [if_pos (hempty.2 (List.forall_mem_map.2 fun op hop => ⟨op, hfound op hop⟩)),
      List.filterMap_map]
    exact congrArg Except.ok ((List.filterMap_congr hfound).trans (List.filterMap_some ..))

/-- What a metric lists as its aggregates. -/
def listedOps (spec : Value) : Outcome (List Value) := do
  let listed ← spec.get "ops"
  if listed.truthy then listed.elements else return []

/-- The metric asks for aggregates of a column, by the type of its field. -/
structure Asks (schema : Schema) (name : String) (given : Value) (type column : String)
    (ops : List FootOp) : Prop where
  typed : footType schema name (given.orElse (.record [])) = .ok type
  resolved : schema.column (.text name) = .ok column
  named : listedOps (given.orElse (.record [])) = .ok (ops.map fun op => .text op.name)
  allowed : ∀ op ∈ ops, op ∈ FootOp.allowed type

/-- A metric is accepted if its field is a date, or if it asks for aggregates. -/
def IsAnswerable (schema : Schema) (metric : String × Value) : Prop :=
  ∃ type, footType schema metric.1 (metric.2.orElse (.record [])) = .ok type ∧
    (type = "date" ∨ ∃ column ops, Asks schema metric.1 metric.2 type column ops)

/-- An aggregate is told: of numbers each, of other values the most frequent only where some value
occurs again. -/
def IsToldOp (type : String) (texts : List String) (op : FootOp) : Prop :=
  type = "number" ∨ op.rank? = none ∨ ¬texts.Nodup

/-- What is known of a column for an aggregate. -/
def knownValue (type : String) (numbers : FootOp → Value) (texts ranked : List String)
    (op : FootOp) : Value :=
  if type = "number" then numbers op else textValue texts ranked op

/-- The entries are those of the metrics whose fields are no dates, in their order. -/
inductive TellsMetrics (schema : Schema) (numbers : String → FootOp → Value)
    (texts ranked : String → List String) :
    List (String × Value) → List (String × FieldAggregates) → Prop
  | nil : TellsMetrics schema numbers texts ranked [] []
  | date {name : String} {given : Value} {metrics : List (String × Value)}
      {found : List (String × FieldAggregates)}
      (hdate : footType schema name (given.orElse (.record [])) = .ok "date")
      (hrest : TellsMetrics schema numbers texts ranked metrics found) :
      TellsMetrics schema numbers texts ranked ((name, given) :: metrics) found
  | field {name : String} {given : Value} {type column : String} {ops : List FootOp}
      {entry : FieldAggregates} {metrics : List (String × Value)}
      {found : List (String × FieldAggregates)} (hfield : type ≠ "date")
      (hasks : Asks schema name given type column ops)
      (hshows : ShowsOps (IsToldOp type (texts column))
        (knownValue type (numbers column) (texts column) (ranked column)) ops entry)
      (hrest : TellsMetrics schema numbers texts ranked metrics found) :
      TellsMetrics schema numbers texts ranked ((name, given) :: metrics) ((name, entry) :: found)

/-- What a metric asks of its column. -/
def fieldAggregate (schema : Schema) (condition : Fragment) (type column : String)
    (ops : List FootOp) : Session FieldAggregates :=
  if type == "number" then numberAggregates schema column condition ops
  else textAggregates schema column condition ops

/-- A metric whose field is no date is asked for, and then the other ones are. -/
theorem fieldAggregates_of_type {schema : Schema} {name type : String} {given : Value}
    (htype : footType schema name (given.orElse (.record [])) = .ok type) (hdate : type ≠ "date")
    (condition : Fragment) (metrics : List (String × Value)) :
    fieldAggregates schema condition ((name, given) :: metrics) = (do
      let column ← schema.column (.text name)
      let items ← listedOps (given.orElse (.record []))
      let ops ← footOps name type items
      let entry ← fieldAggregate schema condition type column ops
      return (name, entry) :: (← fieldAggregates schema condition metrics)) := by
  rw [fieldAggregates]
  refine (Session.lift_bind_ok htype _).trans ?_
  rw [if_neg (by simpa using hdate)]
  refine congrArg (Session.ofOutcome _).bind (funext fun column => ?_)
  have hfield : ∀ items : List Value, (do
      let ops ← footOps name type items
      let entry ←
        if type == "number" then numberAggregates schema column condition ops
        else textAggregates schema column condition ops
      return (name, entry) :: (← fieldAggregates schema condition metrics) :
        Session (List (String × FieldAggregates))) = (do
      let ops ← footOps name type items
      let entry ← fieldAggregate schema condition type column ops
      return (name, entry) :: (← fieldAggregates schema condition metrics)) := by
    intro items
    refine congrArg (Session.ofOutcome _).bind (funext fun ops => ?_)
    unfold fieldAggregate
    cases type == "number" <;> rfl
  unfold listedOps
  cases (given.orElse (.record [])).get "ops" with
  | error e => rfl
  | ok listed =>
    refine (Session.lift_bind_ok rfl _).trans ?_
    cases htruthy : listed.truthy with
    | true =>
      simp only [bind, Except.bind, htruthy, if_true]
      cases listed.elements with
      | error e => rfl
      | ok items => exact hfield items
    | false =>
      simp only [bind, Except.bind, htruthy, Bool.false_eq_true, if_false]
      exact hfield []

/-- A metric asks for one thing only. -/
theorem Asks.unique {schema : Schema} {name type type' column column' : String} {given : Value}
    {ops ops' : List FootOp} (h : Asks schema name given type column ops)
    (h' : Asks schema name given type' column' ops') :
    type = type' ∧ column = column' ∧ ops = ops' := by
  obtain rfl := Except.ok.inj (h.typed.symm.trans h'.typed)
  obtain rfl := Except.ok.inj (h.resolved.symm.trans h'.resolved)
  have hnames := Except.ok.inj (h.named.symm.trans h'.named)
  have hread : footOps name type (ops.map fun op => .text op.name) = .ok ops :=
    footOps_eq_ok.2 ⟨rfl, h.allowed⟩
  exact ⟨rfl, rfl, Except.ok.inj (hread.symm.trans (footOps_eq_ok.2 ⟨hnames, h'.allowed⟩))⟩

namespace TellsMetrics

variable {schema : Schema} {numbers : String → FootOp → Value} {texts ranked : String → List String}
  {name : String} {given : Value} {metrics : List (String × Value)}
  {found : List (String × FieldAggregates)}

theorem of_field {type column : String} {ops : List FootOp}
    (h : TellsMetrics schema numbers texts ranked ((name, given) :: metrics) found)
    (hfield : type ≠ "date") (hasks : Asks schema name given type column ops) : ∃ entry later,
      found = (name, entry) :: later ∧ ShowsOps (IsToldOp type (texts column))
        (knownValue type (numbers column) (texts column) (ranked column)) ops entry ∧
      TellsMetrics schema numbers texts ranked metrics later := by
  cases h with
  | date hdate _ => exact absurd (Except.ok.inj (hasks.typed.symm.trans hdate)) hfield
  | field hother hasks' hshows hrest =>
    obtain ⟨rfl, rfl, rfl⟩ := hasks.unique hasks'
    exact ⟨_, _, rfl, hshows, hrest⟩

theorem of_date (h : TellsMetrics schema numbers texts ranked ((name, given) :: metrics) found)
    (hdate : footType schema name (given.orElse (.record [])) = .ok "date") :
    TellsMetrics schema numbers texts ranked metrics found := by
  cases h with
  | date _ hrest => exact hrest
  | field hother hasks _ _ =>
    exact absurd (Except.ok.inj (hasks.typed.symm.trans hdate)) hother

theorem of_nil (h : TellsMetrics schema numbers texts ranked [] found) : found = [] := by
  cases h
  rfl

end TellsMetrics

section Metrics

variable {answer : Fragment → Reply} {schema : Schema} {condition : Fragment}
  {numbers : String → FootOp → Value} {texts ranked : String → List String}

theorem Asks.field_runs {name : String} {given : Value} {type column : String} {ops : List FootOp}
    (h : Asks schema name given type column ops)
    (hknows : Knows answer schema condition numbers texts ranked)
    (hcondition : Balanced condition.sql) :
    ∃ entry qs, Runs answer (fieldAggregate schema condition type column ops) entry qs ∧
      ShowsOps (IsToldOp type (texts column))
        (knownValue type (numbers column) (texts column) (ranked column)) ops entry := by
  have hallowed := h.allowed
  by_cases hnumber : type = "number"
  · subst hnumber
    obtain ⟨entry, qs, hruns, hshows⟩ :=
      numberAggregates_runs hknows hcondition h.resolved hallowed
    refine ⟨entry, qs, hruns, hshows.once, fun p => ?_⟩
    simpa [IsToldOp, knownValue] using hshows.mem p
  · have hkind : (type == "number") = false := beq_eq_false_iff_ne.2 hnumber
    rw [FootOp.allowed, hkind] at hallowed
    obtain ⟨entry, qs, hruns, hshows⟩ := textAggregates_runs hknows hcondition h.resolved hallowed
    refine ⟨entry, qs, ?_, hshows.once, fun p => ?_⟩
    · rw [fieldAggregate, hkind]
      exact hruns
    · simpa [IsToldOp, knownValue, hnumber] using hshows.mem p

/-- Metrics that are accepted are told. -/
theorem fieldAggregates_runs (hknows : Knows answer schema condition numbers texts ranked)
    (hcondition : Balanced condition.sql) {metrics : List (String × Value)}
    (h : ∀ m ∈ metrics, IsAnswerable schema m) :
    ∃ found qs, Runs answer (fieldAggregates schema condition metrics) found qs ∧
      TellsMetrics schema numbers texts ranked metrics found := by
  induction metrics with
  | nil => exact ⟨[], [], .done _, .nil⟩
  | cons m metrics ih =>
    obtain ⟨name, given⟩ := m
    obtain ⟨⟨type, htype, hkind⟩, hrest⟩ := List.forall_mem_cons.1 h
    obtain ⟨found, qs, hruns, htells⟩ := ih hrest
    -- a date is passed over, any other field has its entry before those of the later metrics
    by_cases hdate : type = "date"
    · subst hdate
      exact ⟨found, qs, Runs.lift_bind htype hruns, .date htype htells⟩
    · obtain ⟨column, ops, hasks⟩ := hkind.resolve_left hdate
      obtain ⟨entry, rs, hentry, hshows⟩ := hasks.field_runs hknows hcondition
      refine ⟨(name, entry) :: found, rs ++ (qs ++ []), ?_, .field hdate hasks hshows htells⟩
      rw [fieldAggregates_of_type hasks.typed hdate]
      exact Runs.lift_bind hasks.resolved (Runs.lift_bind hasks.named
        (Runs.lift_bind (footOps_eq_ok.2 ⟨rfl, hasks.allowed⟩)
          (hentry.bind (hruns.bind (.done _)))))

/-- Metrics that come to a result are accepted. -/
theorem accepted_of_runs {metrics : List (String × Value)}
    {found : List (String × FieldAggregates)} {qs : List Fragment}
    (h : Runs answer (fieldAggregates schema condition metrics) found qs) :
    ∀ m ∈ metrics, IsAnswerable schema m := by
  induction metrics generalizing found qs with
  | nil => exact List.forall_mem_nil _
  | cons m metrics ih =>
    obtain ⟨name, given⟩ := m
    obtain ⟨type, htype, hnext⟩ := Runs.of_lift_bind h
    by_cases hdate : type = "date"
    · subst hdate
      exact List.forall_mem_cons.2 ⟨⟨"date", htype, .inl rfl⟩, ih hnext⟩
    · rw [fieldAggregates_of_type htype hdate] at h
      obtain ⟨column, hcolumn, h⟩ := Runs.of_lift_bind h
      obtain ⟨items, hitems, h⟩ := Runs.of_lift_bind h
      obtain ⟨ops, hops, h⟩ := Runs.of_lift_bind h
      obtain ⟨entry, _, _, -, hlater, -⟩ := Runs.of_bind h
      obtain ⟨later, _, _, hrest, -, -⟩ := Runs.of_bind hlater
      obtain ⟨rfl, hallowed⟩ := footOps_eq_ok.1 hops
      have hasks : Asks schema name given type column ops := ⟨htype, hcolumn, hitems, hallowed⟩
      exact List.forall_mem_cons.2 ⟨⟨type, htype, .inr ⟨column, ops, hasks⟩⟩, ih hrest⟩

end Metrics

/-! ## Requests -/

/-- The request asks for aggregates of metrics, over the rows of a layer under a condition. -/
structure FootRequest (w : Workspace) (request : Value) (scope : Scope) (condition : Fragment)
    (metrics : List (String × Value)) : Prop where
  layer : gridScope w request = .ok scope
  restricted : gridCondition scope request = .ok condition
  asked : ∃ given, request.get "metrics" = .ok given ∧ given.orElse (.record []) = .record metrics

namespace FootRequest

variable {w : Workspace} {request : Value} {scope : Scope} {condition : Fragment}
  {metrics : List (String × Value)}

theorem rows (h : FootRequest w request scope condition metrics) :
    ∃ filter time base p?, gridFilter request = .ok filter ∧ request.get "time" = .ok time ∧
      request.get "baseSpec" = .ok base ∧ scope.rowsWhere filter time base = .ok p? ∧
      Predicate.fragment? p? = .ok condition := by
  obtain ⟨filter, hfilter, h⟩ := Outcome.bind_eq_ok.1 h.restricted
  obtain ⟨time, htime, h⟩ := Outcome.bind_eq_ok.1 h
  obtain ⟨base, hbase, h⟩ := Outcome.bind_eq_ok.1 h
  obtain ⟨p?, hp, h⟩ := Outcome.bind_eq_ok.1 h
  exact ⟨filter, time, base, p?, hfilter, htime, hbase, hp, h⟩

theorem balanced (h : FootRequest w request scope condition metrics) :
    Balanced condition.sql := by
  obtain ⟨filter, time, base, p?, -, -, -, hp, hf⟩ := h.rows
  exact balanced_of_rowsWhere hp hf

/-- A request comes to one scope, condition and list of metrics only. -/
theorem unique {scope' : Scope} {condition' : Fragment} {metrics' : List (String × Value)}
    (h : FootRequest w request scope condition metrics)
    (h' : FootRequest w request scope' condition' metrics') :
    scope = scope' ∧ condition = condition' ∧ metrics = metrics' := by
  obtain rfl := Except.ok.inj (h.layer.symm.trans h'.layer)
  obtain rfl := Except.ok.inj (h.restricted.symm.trans h'.restricted)
  obtain ⟨given, hgiven, hmetrics⟩ := h.asked
  obtain ⟨given', hgiven', hmetrics'⟩ := h'.asked
  obtain rfl := Except.ok.inj (hgiven.symm.trans hgiven')
  obtain rfl := Value.record.inj (hmetrics.symm.trans hmetrics')
  exact ⟨rfl, rfl, rfl⟩

/-- The metrics of a request are asked for one after the other. -/
theorem aggregates_eq (h : FootRequest w request scope condition metrics) :
    aggregates w request = fieldAggregates scope.schema condition metrics := by
  obtain ⟨filter, time, base, p?, hfilter, htime, hbase, hp, hf⟩ := h.rows
  obtain ⟨given, hgiven, hmetrics⟩ := h.asked
  refine (Session.lift_bind_ok h.layer _).trans ((Session.lift_bind_ok hfilter _).trans
    ((Session.lift_bind_ok htime _).trans ((Session.lift_bind_ok hbase _).trans
      ((Session.lift_bind_ok hp _).trans ((Session.lift_bind_ok hf _).trans
        ((Session.lift_bind_ok hgiven _).trans ?_))))))
  simp only [hmetrics]

/-- Only such a request comes to a result. -/
theorem of_runs {answer : Fragment → Reply} {found : List (String × FieldAggregates)}
    {qs : List Fragment} (h : Runs answer (aggregates w request) found qs) :
    ∃ scope condition metrics, FootRequest w request scope condition metrics := by
  obtain ⟨scope, hscope, h⟩ := Runs.of_lift_bind h
  obtain ⟨filter, hfilter, h⟩ := Runs.of_lift_bind h
  obtain ⟨time, htime, h⟩ := Runs.of_lift_bind h
  obtain ⟨base, hbase, h⟩ := Runs.of_lift_bind h
  obtain ⟨p?, hp, h⟩ := Runs.of_lift_bind h
  obtain ⟨condition, hcondition, h⟩ := Runs.of_lift_bind h
  obtain ⟨given, hgiven, h⟩ := Runs.of_lift_bind h
  have hrestricted : gridCondition scope request = .ok condition :=
    Outcome.bind_eq_ok.2 ⟨filter, hfilter, Outcome.bind_eq_ok.2 ⟨time, htime,
      Outcome.bind_eq_ok.2 ⟨base, hbase, Outcome.bind_eq_ok.2 ⟨p?, hp, hcondition⟩⟩⟩⟩
  cases hmetrics : given.orElse (.record []) with
  | record metrics =>
    exact ⟨scope, condition, metrics, hscope, hrestricted, given, hgiven, hmetrics⟩
  | _ =>
    simp only [hmetrics] at h
    cases (Runs.of_lift h).1

variable {answer : Fragment → Reply} {numbers : String → FootOp → Value}
  {texts ranked : String → List String}

theorem runs (h : FootRequest w request scope condition metrics)
    (hknows : Knows answer scope.schema condition numbers texts ranked)
    (hmetrics : ∀ m ∈ metrics, IsAnswerable scope.schema m) :
    ∃ found qs, Runs answer (aggregates w request) found qs ∧
      TellsMetrics scope.schema numbers texts ranked metrics found := by
  rw [h.aggregates_eq]
  exact fieldAggregates_runs hknows h.balanced hmetrics

theorem accepted (h : FootRequest w request scope condition metrics)
    {found : List (String × FieldAggregates)} {qs : List Fragment}
    (hruns : Runs answer (aggregates w request) found qs) :
    ∀ m ∈ metrics, IsAnswerable scope.schema m := by
  rw [h.aggregates_eq] at hruns
  exact accepted_of_runs hruns

theorem tells (h : FootRequest w request scope condition metrics)
    (hknows : Knows answer scope.schema condition numbers texts ranked)
    {found : List (String × FieldAggregates)} {qs : List Fragment}
    (hruns : Runs answer (aggregates w request) found qs) :
    TellsMetrics scope.schema numbers texts ranked metrics found := by
  obtain ⟨found', qs', hruns', htells⟩ := h.runs hknows (h.accepted hruns)
  -- a run has one result only
  have hsame := hruns.symm.trans hruns'
  obtain rfl : found = found' := Except.ok.inj (congrArg Prod.fst hsame)
  exact htells

end FootRequest

/-- The foot of a grid answers exactly what it is asked, but for the most frequent values of a field
of which no value occurs again. A request is accepted exactly if each of its metrics is of a date or
asks for aggregates of the type of its field. It comes to one entry per metric that is of no date,
in the order of the request. -/
theorem foot_answers_what_is_asked (w : Workspace) (request : Value) {answer : Fragment → Reply}
    {numbers : String → FootOp → Value} {texts ranked : String → List String}
    (hknows : ∀ {scope condition metrics}, FootRequest w request scope condition metrics →
      Knows answer scope.schema condition numbers texts ranked) :
    ((∃ found qs, Runs answer (aggregates w request) found qs) ↔
      ∃ scope condition metrics, FootRequest w request scope condition metrics ∧
        ∀ m ∈ metrics, IsAnswerable scope.schema m) ∧
    ∀ found qs, Runs answer (aggregates w request) found qs →
      ∃ scope condition metrics, FootRequest w request scope condition metrics ∧
        TellsMetrics scope.schema numbers texts ranked metrics found := by
  refine ⟨⟨?_, ?_⟩, ?_⟩
  · rintro ⟨found, qs, hruns⟩
    obtain ⟨scope, condition, metrics, h⟩ := FootRequest.of_runs hruns
    exact ⟨scope, condition, metrics, h, h.accepted hruns⟩
  · rintro ⟨scope, condition, metrics, h, hmetrics⟩
    obtain ⟨found, qs, hruns, -⟩ := h.runs (hknows h) hmetrics
    exact ⟨found, qs, hruns⟩
  · intro found qs hruns
    obtain ⟨scope, condition, metrics, h⟩ := FootRequest.of_runs hruns
    exact ⟨scope, condition, metrics, h, h.tells (hknows h) hruns⟩

/-! ## Packets -/

/-- What is known of a column with one value, which occurs so many times. -/
def oneValue (times : Nat) : Rows where
  columns := FootOp.ofNumbers.map FootOp.resultColumn ++ ["cnt", "uniq", "val", "c"]
  rows := [FootOp.ofNumbers.map (fun _ => .int 7) ++
    [.int times, .int 1, .text "443", .int times]]

/-- A channel on which every column has one value. -/
def oneValueChannel (times : Nat) (_ : Fragment) : Reply :=
  .ok (oneValue times)

theorem oneValueChannel_knows {times : Nat} (h : times ≠ 0) (schema : Schema)
    (condition : Fragment) : Knows (oneValueChannel times) schema condition (fun _ _ => .int 7)
      (fun _ => List.replicate times "443") fun _ => ["443"] := by
  have hrecords : ∃ row, (oneValue times).records = [row] ∧
      (∀ op ∈ FootOp.ofNumbers, Row.get op.resultColumn row = .ok (.int 7)) ∧
      Row.get "cnt" row = .ok (.int times) ∧ Row.get "uniq" row = .ok (.int 1) ∧
      Row.get "val" row = .ok (.text "443") ∧ Row.get "c" row = .ok (.int times) := by
    refine ⟨_, rfl, fun op hop => ?_, rfl, rfl, rfl, rfl⟩
    simp only [FootOp.ofNumbers, List.mem_cons, List.not_mem_nil, or_false] at hop
    rcases hop with rfl | rfl | rfl | rfl | rfl <;> rfl
  obtain ⟨row, hrecords, hnumbers, hcount, hunique, hval, hc⟩ := hrecords
  have hlength : (List.replicate times "443").length = times := List.length_replicate
  have hall : (List.replicate times "443").count "443" = times := List.count_replicate_self
  constructor
  · exact fun _ => ⟨fun v => by simp [List.mem_replicate, h], List.pairwise_singleton _ _⟩
  · exact fun _ _ => ⟨_, row, [], rfl, hrecords, hnumbers⟩
  · exact fun _ _ => ⟨_, row, [], rfl, hrecords, by rw [hlength]; exact hcount, hunique⟩
  · refine fun _ _ => ⟨_, rfl, ?_⟩
    rw [hrecords]
    exact .cons ⟨hval, by rw [hall]; exact hc⟩ .nil

/-- A request for metrics of packets. -/
def packetFoot (metrics : List (String × Value)) : Value :=
  .record [("layer", .text "TCP"), ("metrics", .record metrics)]

theorem footRequest_packetFoot (metrics : List (String × Value)) :
    FootRequest .ofPackets (packetFoot metrics) Scope.packets .empty metrics where
  layer := rfl
  restricted := by
    have hplain : gridCondition Scope.packets (.record [("layer", .text "TCP")]) = .ok .empty := by
      decide +kernel
    exact hplain
  asked := ⟨.record metrics, rfl, by cases metrics <;> rfl⟩

/-- The ports by frequency, a date, and the sizes under another spelling. -/
def portAndSizeMetrics : List (String × Value) :=
  [("port", .record [("ops", .list [.text "top2", .text "count", .text "top1"])]),
    ("time", .null), ("SIZE", .record [("ops", .list [.text "sum"])])]

theorem ports_and_sizes_are_answered :
    (∀ {scope condition metrics},
      FootRequest .ofPackets (packetFoot portAndSizeMetrics) scope condition metrics →
      Knows (oneValueChannel 2) scope.schema condition (fun _ _ => .int 7)
        (fun _ => ["443", "443"]) fun _ => ["443"]) ∧
    ∃ port size qs,
      Runs (oneValueChannel 2) (aggregates .ofPackets (packetFoot portAndSizeMetrics))
        [("port", port), ("SIZE", size)] qs ∧
      (∀ p, p ∈ port ↔ p ∈ [("top2", .null), ("count", .int 2),
        ("top1", .record [("value", .text "443"), ("count", .int 2)])]) ∧
      ∀ p, p ∈ size ↔ p ∈ [("sum", .int 7)] := by
  have hknows : ∀ {scope condition metrics},
      FootRequest .ofPackets (packetFoot portAndSizeMetrics) scope condition metrics →
      Knows (oneValueChannel 2) scope.schema condition (fun _ _ => .int 7)
        (fun _ => ["443", "443"]) fun _ => ["443"] := fun _ =>
    oneValueChannel_knows (by decide) _ _
  have hport : Asks Scope.packets.schema "port"
      (.record [("ops", .list [.text "top2", .text "count", .text "top1"])]) "string" "t.\"port\""
      [.top 2, .count, .top 1] :=
    ⟨by decide +kernel, by decide +kernel, by decide +kernel, by decide⟩
  have hsize : Asks Scope.packets.schema "SIZE" (.record [("ops", .list [.text "sum"])]) "number"
      "t.\"size\"" [.sum] :=
    ⟨by decide +kernel, by decide +kernel, by decide +kernel, by decide⟩
  have htime : footType Scope.packets.schema "time" (Value.null.orElse (.record [])) =
      .ok "date" := by decide +kernel
  have haccepted : ∀ m ∈ portAndSizeMetrics, IsAnswerable Scope.packets.schema m :=
    List.forall_mem_cons.2 ⟨⟨_, hport.typed, .inr ⟨_, _, hport⟩⟩,
      List.forall_mem_cons.2 ⟨⟨_, htime, .inl rfl⟩,
        List.forall_mem_singleton.2 ⟨_, hsize.typed, .inr ⟨_, _, hsize⟩⟩⟩⟩
  have hrequest := footRequest_packetFoot portAndSizeMetrics
  obtain ⟨hiff, htells⟩ :=
    foot_answers_what_is_asked .ofPackets (packetFoot portAndSizeMetrics) hknows
  obtain ⟨found, qs, hruns⟩ := hiff.2 ⟨_, _, _, hrequest, haccepted⟩
  obtain ⟨scope, condition, metrics, hsame, htold⟩ := htells found qs hruns
  obtain ⟨rfl, rfl, rfl⟩ := hrequest.unique hsame
  obtain ⟨port, _, rfl, hports, hrest⟩ := htold.of_field (by decide) hport
  obtain ⟨size, _, rfl, hsizes, hrest⟩ := (hrest.of_date htime).of_field (by decide) hsize
  obtain rfl := hrest.of_nil
  have htwice : ¬["443", "443"].Nodup := by decide
  exact ⟨hknows, port, size, qs, hruns, hports.mem_all fun _ _ => .inr (.inr htwice),
    hsizes.mem_all fun _ _ => .inl rfl⟩

/-- The only port there is by frequency. -/
def onlyPort : List (String × Value) :=
  [("port", .record [("ops", .list [.text "count", .text "top1"])])]

/-- Where no value occurs again, the most frequent one is asked for and not told, not even as
null. -/
theorem only_port_is_not_told :
    (∀ {scope condition metrics},
      FootRequest .ofPackets (packetFoot onlyPort) scope condition metrics →
      Knows (oneValueChannel 1) scope.schema condition (fun _ _ => .int 7)
        (fun _ => ["443"]) fun _ => ["443"]) ∧
    (∀ m ∈ onlyPort, IsAnswerable Scope.packets.schema m) ∧
    (∃ found qs, Runs (oneValueChannel 1) (aggregates .ofPackets (packetFoot onlyPort)) found qs) ∧
    ∀ found qs, Runs (oneValueChannel 1) (aggregates .ofPackets (packetFoot onlyPort)) found qs →
      found = [("port", [("count", .int 1)])] := by
  have hknows : ∀ {scope condition metrics},
      FootRequest .ofPackets (packetFoot onlyPort) scope condition metrics →
      Knows (oneValueChannel 1) scope.schema condition (fun _ _ => .int 7)
        (fun _ => ["443"]) fun _ => ["443"] := fun _ => oneValueChannel_knows (by decide) _ _
  have hport : Asks Scope.packets.schema "port"
      (.record [("ops", .list [.text "count", .text "top1"])]) "string" "t.\"port\""
      [.count, .top 1] :=
    ⟨by decide +kernel, by decide +kernel, by decide +kernel, by decide⟩
  have haccepted : ∀ m ∈ onlyPort, IsAnswerable Scope.packets.schema m :=
    List.forall_mem_singleton.2 ⟨_, hport.typed, .inr ⟨_, _, hport⟩⟩
  have hrequest := footRequest_packetFoot onlyPort
  obtain ⟨found, qs, hruns, -⟩ := hrequest.runs (hknows hrequest) haccepted
  refine ⟨hknows, haccepted, ⟨found, qs, hruns⟩, fun found qs hruns => ?_⟩
  obtain ⟨port, _, rfl, hports, hrest⟩ :=
    (hrequest.tells (hknows hrequest) hruns).of_field (by decide) hport
  obtain rfl := hrest.of_nil
  have honly : ∀ p, p ∈ port ↔ p ∈ [("count", Value.int 1)] := by
    intro p
    rw [hports.mem]
    simp [IsToldOp, FootOp.rank?, knownValue, textValue, FootOp.name]
  have hperm := (List.perm_ext_iff_of_nodup (.of_map _ hports.once) (by simp)).2 honly
  rw [List.perm_singleton.1 hperm]

end Crosstab.View
