import Crosstab.Proofs.Sql.Built
import Mathlib.Data.List.Induction

/-!
# Statements mean what their steps say

A statement is set up by steps in any order, and may be built at any time. What it builds then is
told clause by clause: a step says something about its own clause and nothing about the others, the
last table and the last numbers count, terms are added in the order of the steps, and conditions are
joined since the last one that stands alone. So steps on different clauses change places freely, and
a statement that was built on the way goes on as if it had not been.
-/

namespace Crosstab.Sql

open Text

namespace Select

/-! ## What a step says -/

/-- The clauses that steps are about. -/
inductive Clause where
  | table
  | condition
  | groups
  | orders
  | limit
  | offset
  deriving DecidableEq

/-- The direction that a value names, in any case and between blanks. -/
def direction? (direction : Value) : Option String :=
  ["ASC", "DESC"].find? (· == upper (trim (direction.displayOr "")))

/-- The whole number that a value stands for, if it is at least so much. -/
def numberFrom? (least : Int) (n : Value) : Option Int :=
  n.toInt.toOption.filter (decide <| least ≤ ·)

namespace Step

/-- The clause that a step is about. -/
def clause : Step → Clause
  | .fromTable _ => .table
  | .filter _ | .andFilter _ => .condition
  | .groupBy _ => .groups
  | .orderBy _ _ | .orderByTerms _ => .orders
  | .limitTo _ => .limit
  | .startAt _ => .offset

/-- The table that a step gives. -/
@[simp]
def table? : Step → Option String
  | .fromTable table => some table
  | _ => none

/-- What a step makes of the conditions so far: one that stands alone replaces them, a further one
comes last, and a blank one changes nothing. -/
def onConditions : Step → List Fragment → List Fragment
  | .filter f, fs => if f.isBlank then fs else [f]
  | .andFilter f, fs => if f.isBlank then fs else fs ++ [f]
  | _, fs => fs

/-- The grouping terms of a step. -/
@[simp]
def groups : Step → List String
  | .groupBy terms => terms.filter (!·.isEmpty)
  | _ => []

/-- The ordering terms of a step, none if its direction is none. -/
@[simp]
def orders : Step → List String
  | .orderBy column direction => (direction? direction).toList.map (column ++ " " ++ ·)
  | .orderByTerms terms => if isBlank terms then [] else [trim terms]
  | _ => []

/-- The most rows that a step asks for, none if there are no such rows. -/
@[simp]
def limit? : Step → Option Int
  | .limitTo n => numberFrom? 1 n
  | _ => none

/-- The rows that a step passes over, none if there are no such rows. -/
@[simp]
def offset? : Step → Option Int
  | .startAt n => numberFrom? 0 n
  | _ => none

/-- What a step makes of the condition of a statement. -/
@[simp]
def onFragment : Step → Fragment → Fragment
  | .filter f, c => if f.isBlank then c else f
  | .andFilter f, c => (c.and f).toOption.getD c
  | _, c => c

/-- A step says nothing about the clauses that are not its own. -/
theorem other_clauses (t : Step) :
    (t.clause ≠ .table → t.table? = none) ∧ (t.clause ≠ .condition → ∀ c, t.onFragment c = c) ∧
      (t.clause ≠ .groups → t.groups = []) ∧ (t.clause ≠ .orders → t.orders = []) ∧
      (t.clause ≠ .limit → t.limit? = none) ∧ (t.clause ≠ .offset → t.offset? = none) := by
  cases t <;> simp [clause]

end Step

/-! ## One step -/

/-- The statement after a step; one that fails changes nothing. -/
def after (s : Select) (t : Step) : Select :=
  (t.apply s).toOption.getD s

theorem orderBy_toOption (column : String) (direction : Value) (s : Select) :
    (s.orderBy column direction).toOption =
      (direction? direction).map fun d =>
        { s with orders := s.orders ++ [column ++ " " ++ d] } := by
  unfold orderBy direction?
  generalize upper (trim (direction.displayOr "")) = d
  by_cases hasc : d = "ASC"
  · subst hasc
    rfl
  · by_cases hdesc : d = "DESC"
    · subst hdesc
      rfl
    · have hfind : ["ASC", "DESC"].find? (· == d) = none := by simp [Ne.symm hasc, Ne.symm hdesc]
      simp [hfind, hasc, hdesc, Except.toOption]

/-- A number that is set counts from then on, unless it is too small or none. -/
theorem set_toOption {least : Int} {fault : Failure} {t : Int → Select} (n : Value) :
    (do
      let k ← n.toInt
      if k < least then throw fault
      return t k : Outcome Select).toOption = (numberFrom? least n).map t := by
  rw [numberFrom?]
  cases n.toInt with
  | error e => rfl
  | ok k =>
    rw [show (Except.ok k : Outcome Int).toOption = some k from rfl, Option.filter_some]
    by_cases hk : k < least
    · simp [bind, Except.bind, hk, Int.not_le.2 hk, Except.toOption, throw, throwThe,
        MonadExceptOf.throw]
    · simp [bind, Except.bind, hk, Int.not_lt.1 hk, Except.toOption, pure, Except.pure]

/-- What a step does to a statement, clause by clause. -/
theorem after_eq (s : Select) (t : Step) : s.after t =
    { s with
      table? := t.table?.or s.table?
      condition := t.onFragment s.condition
      groups := s.groups ++ t.groups
      orders := s.orders ++ t.orders
      limit? := t.limit?.or s.limit?
      offset? := t.offset?.or s.offset? } := by
  cases t with
  | fromTable table =>
    show s.fromTable table = _
    simp [fromTable]
  | filter f =>
    show s.filter f = _
    simp [filter_eq]
  | andFilter f =>
    show ((s.condition.and f >>= fun c => .ok { s with condition := c }).toOption).getD s = _
    cases hand : s.condition.and f <;> simp [bind, Except.bind, hand, Except.toOption]
  | groupBy terms =>
    show s.groupBy terms = _
    simp [groupBy]
  | orderBy column direction =>
    show (s.orderBy column direction).toOption.getD s = _
    rw [orderBy_toOption]
    cases hd : direction? direction <;> simp [hd]
  | orderByTerms terms =>
    show s.orderByTerms terms = _
    cases hblank : isBlank terms <;> simp [hblank, orderByTerms]
  | limitTo n =>
    show (s.limitTo n).toOption.getD s = _
    rw [limitTo, set_toOption (t := fun k => { s with limit? := some k })]
    cases hk : numberFrom? 1 n <;> simp [hk]
  | startAt n =>
    show (s.startAt n).toOption.getD s = _
    rw [startAt, set_toOption (t := fun k => { s with offset? := some k })]
    cases hk : numberFrom? 0 n <;> simp [hk]

/-- Steps on different clauses change places. -/
theorem after_comm (s : Select) {t u : Step} (h : t.clause ≠ u.clause) :
    (s.after t).after u = (s.after u).after t := by
  -- no clause is that of both steps, so one of them leaves it as it is
  have hone : ∀ k, t.clause ≠ k ∨ u.clause ≠ k := fun k => by
    by_contra hboth
    obtain ⟨ht, hu⟩ := not_or.1 hboth
    exact h ((not_not.1 ht).trans (not_not.1 hu).symm)
  obtain ⟨tTable, tCondition, tGroups, tOrders, tLimit, tOffset⟩ := t.other_clauses
  obtain ⟨uTable, uCondition, uGroups, uOrders, uLimit, uOffset⟩ := u.other_clauses
  simp only [after_eq, mk.injEq, true_and]
  refine ⟨?_, ?_, ?_, ?_, ?_, ?_⟩
  · rcases hone .table with hk | hk
    · simp only [tTable hk, Option.none_or]
    · simp only [uTable hk, Option.none_or]
  · rcases hone .condition with hk | hk
    · simp only [tCondition hk]
    · simp only [uCondition hk]
  · rcases hone .groups with hk | hk
    · simp only [tGroups hk, List.append_nil]
    · simp only [uGroups hk, List.append_nil]
  · rcases hone .orders with hk | hk
    · simp only [tOrders hk, List.append_nil]
    · simp only [uOrders hk, List.append_nil]
  · rcases hone .limit with hk | hk
    · simp only [tLimit hk, Option.none_or]
    · simp only [uLimit hk, Option.none_or]
  · rcases hone .offset with hk | hk
    · simp only [tOffset hk, Option.none_or]
    · simp only [uOffset hk, Option.none_or]

/-! ## Conditions -/

/-- The conditions that the steps leave, of which none is blank. -/
def conditions (steps : List Step) : List Fragment :=
  steps.foldl (fun fs t => t.onConditions fs) []

/-- The condition joins the parts, none of which is blank; it is blank itself if there are none. -/
structure Joins (c : Fragment) (fs : List Fragment) : Prop where
  written : ∀ f ∈ fs, f.isBlank = false
  blank : fs = [] → c.isBlank = true
  joined : fs ≠ [] → c.sql = " AND ".intercalate (fs.map (·.sql)) ∧ c.args = fs.flatMap (·.args)

theorem Joins.empty : Joins .empty [] where
  written := nofun
  blank := fun _ => rfl
  joined := fun h => absurd rfl h

theorem Joins.singleton {f : Fragment} (h : f.isBlank = false) : Joins f [f] where
  written := fun g hg => List.mem_singleton.1 hg ▸ h
  blank := nofun
  joined := fun _ => ⟨by rw [List.map_singleton, String.intercalate_singleton],
    by rw [List.flatMap_singleton]⟩

theorem Joins.isBlank_eq {c : Fragment} {fs : List Fragment} (h : Joins c fs) :
    c.isBlank = fs.isEmpty := by
  cases fs with
  | nil => exact h.blank rfl
  | cons f fs =>
    rw [Fragment.isBlank, (h.joined (List.cons_ne_nil f fs)).1, List.map_cons]
    exact isBlank_intercalate _ _ (h.written f List.mem_cons_self)

theorem Joins.and {c : Fragment} {fs : List Fragment} (h : Joins c fs) (hc : Balanced c.sql)
    {f : Fragment} (hf : f.isBlank = false) : ∃ d, c.and f = .ok d ∧ Joins d (fs ++ [f]) := by
  cases hblank : c.isBlank with
  | true =>
    have hnone : fs = [] := List.isEmpty_iff.1 (h.isBlank_eq.symm.trans hblank)
    subst hnone
    exact ⟨f, and_of_isBlank_left f hblank, .singleton hf⟩
  | false =>
    have hfs : fs ≠ [] := List.isEmpty_eq_false_iff.1 (h.isBlank_eq.symm.trans hblank)
    obtain ⟨hsql, hargs⟩ := h.joined hfs
    obtain ⟨harity, hand⟩ := and_of_not_isBlank hblank hf hc
    refine ⟨_, hand, ?_, by simp, fun _ => ⟨?_, ?_⟩⟩
    · exact List.forall_mem_append.2 ⟨h.written, List.forall_mem_singleton.2 hf⟩
    · have htexts : fs.map (·.sql) ≠ [] := fun hnil => hfs (List.map_eq_nil_iff.1 hnil)
      rw [List.map_append, intercalate_append _ htexts (by simp), ← hsql, List.map_singleton,
        String.intercalate_singleton]
    · rw [List.flatMap_append, ← hargs, List.flatMap_singleton]

/-- One step makes of the condition what it makes of the parts. -/
theorem Joins.step {c : Fragment} {fs : List Fragment} (h : Joins c fs) (hc : Balanced c.sql)
    (t : Step) : Joins (t.onFragment c) (t.onConditions fs) := by
  cases t with
  | filter f =>
    show Joins (if f.isBlank then c else f) (if f.isBlank then fs else [f])
    cases hf : f.isBlank with
    | true => exact h
    | false => exact .singleton hf
  | andFilter f =>
    show Joins ((c.and f).toOption.getD c) (if f.isBlank then fs else fs ++ [f])
    cases hf : f.isBlank with
    | true =>
      cases hblank : c.isBlank with
      | true =>
        rw [and_of_isBlank_left f hblank]
        have hnone : fs = [] := List.isEmpty_iff.1 (h.isBlank_eq.symm.trans hblank)
        exact ⟨h.written, fun _ => hf, fun hfs => absurd hnone hfs⟩
      | false =>
        rw [and_of_isBlank_right hblank hf]
        exact h
    | false =>
      obtain ⟨d, hand, hd⟩ := h.and hc hf
      rw [hand]
      exact hd
  | fromTable _ => exact h
  | groupBy _ => exact h
  | orderBy _ _ => exact h
  | orderByTerms _ => exact h
  | limitTo _ => exact h
  | startAt _ => exact h

/-! ## All steps -/

/-- A statement that selects columns, or their distinct combinations. -/
def start (distinct : Bool) (columns : List String) : Select :=
  if distinct then distinctOf columns else ofColumns columns

/-- The last of what the steps give for a clause. -/
def last? {α : Type} (f : Step → Option α) (steps : List Step) : Option α :=
  (steps.filterMap f).getLast?

theorem last?_concat {α : Type} (f : Step → Option α) (steps : List Step) (t : Step) :
    last? f (steps ++ [t]) = (f t).or (last? f steps) := by
  cases hf : f t <;> simp [last?, List.filterMap_append, hf]

/-- The statement has the columns and what the steps say of each clause. -/
structure Has (s : Select) (distinct : Bool) (columns : List String) (steps : List Step) :
    Prop where
  distinct : s.distinct = distinct
  columns : s.columns = columns
  table : s.table? = last? Step.table? steps
  condition : Joins s.condition (conditions steps)
  groups : s.groups = steps.flatMap Step.groups
  orders : s.orders = steps.flatMap Step.orders
  limit : s.limit? = last? Step.limit? steps
  offset : s.offset? = last? Step.offset? steps

variable {distinct : Bool} {columns : List String} {steps : List Step}

theorem start_has (distinct : Bool) (columns : List String) :
    (start distinct columns).Has distinct columns [] := by
  cases distinct <;> exact ⟨rfl, rfl, rfl, .empty, rfl, rfl, rfl, rfl⟩

theorem Has.after {s : Select} (h : s.Has distinct columns steps) (hc : Balanced s.condition.sql)
    (t : Step) : (s.after t).Has distinct columns (steps ++ [t]) := by
  rw [after_eq]
  exact {
    distinct := h.distinct
    columns := h.columns
    table := by rw [last?_concat, ← h.table]
    condition := by
      rw [conditions, List.foldl_concat]
      exact h.condition.step hc t
    groups := by rw [List.flatMap_append, ← h.groups, List.flatMap_singleton]
    orders := by rw [List.flatMap_append, ← h.orders, List.flatMap_singleton]
    limit := by rw [last?_concat, ← h.limit]
    offset := by rw [last?_concat, ← h.offset] }

theorem run_concat (s : Select) (steps : List Step) (t : Step) :
    s.run (steps ++ [t]) = (s.run steps).after t :=
  List.foldl_concat _ _ _ _

theorem start_sound (distinct : Bool) (hcolumns : ∀ c ∈ columns, Inert c) :
    (start distinct columns).Sound := by
  cases distinct
  · exact sound_ofColumns hcolumns
  · exact { sound_ofColumns hcolumns with }

/-- After all steps, a statement has what they say. -/
theorem run_has (distinct : Bool) (hcolumns : ∀ c ∈ columns, Inert c)
    (hsteps : ∀ t ∈ steps, t.Sound) :
    ((start distinct columns).run steps).Has distinct columns steps := by
  induction steps using List.reverseRecOn with
  | nil => exact start_has distinct columns
  | append_singleton steps t ih =>
    obtain ⟨hbefore, -⟩ := List.forall_mem_append.1 hsteps
    rw [run_concat]
    exact (ih hbefore).after (run_sound (start_sound distinct hcolumns) hbefore).condition t

/-! ## Texts and arguments -/

/-- A keyword and its terms on a line, no line if there are none. -/
def lineOf (keyword separator : String) (terms : List String) : List String :=
  if terms.isEmpty then [] else [keyword ++ " " ++ separator.intercalate terms]

/-- The lines of a statement of columns and steps, from a table. -/
def textLines (distinct : Bool) (columns : List String) (steps : List Step) (table : String) :
    List String :=
  lineOf (if distinct then "SELECT DISTINCT" else "SELECT") ", "
      (if columns.isEmpty then ["*"] else columns) ++
    lineOf "FROM" ", " [table] ++
    lineOf "WHERE" " AND " ((conditions steps).map (·.sql)) ++
    lineOf "GROUP BY" ", " (steps.flatMap Step.groups) ++
    lineOf "ORDER BY" ", " (steps.flatMap Step.orders) ++
    lineOf "LIMIT" "" ((last? Step.limit? steps).toList.map Number.intText) ++
    lineOf "OFFSET" "" ((last? Step.offset? steps).toList.map Number.intText)

/-- The lines stand for the readings. -/
def Show (texts : List String) (rs : List (List Symbol)) : Prop :=
  rs.map (·.map Symbol.place) = texts.map String.toList

theorem Show.append {texts texts' : List String} {rs rs' : List (List Symbol)}
    (h : Show texts rs) (h' : Show texts' rs') : Show (texts ++ texts') (rs ++ rs') := by
  rw [Show, List.map_append, List.map_append, h, h']

theorem map_place_symbols (text : String) : (symbols text).map Symbol.place = text.toList := by
  rw [symbols, List.map_map]
  exact List.map_id _

theorem listed_shows (keyword : String) (terms : List String) :
    Show (lineOf keyword ", " terms) (listedFilled keyword terms) := by
  unfold lineOf listedFilled Show
  cases terms.isEmpty with
  | true => rfl
  | false => simp [map_place_symbols]

theorem counted_shows (keyword : String) (n? : Option Int) :
    Show (lineOf keyword "" (n?.toList.map Number.intText)) (countedFilled keyword n?) := by
  cases n? with
  | none => rfl
  | some n => simp [Show, lineOf, countedFilled, map_place_symbols]

theorem filtered_shows {c : Fragment} {fs : List Fragment} (h : Joins c fs) :
    Show (lineOf "WHERE" " AND " (fs.map (·.sql))) (filteredFilled c.filled) := by
  rw [filteredFilled, allBlank_filled, h.isBlank_eq]
  cases fs with
  | nil => rfl
  | cons f fs =>
    have hfilled : c.filled.map Symbol.place = c.sql.toList := map_place_fillFrom _ _ _
    simp [Show, lineOf, map_place_symbols, hfilled, (h.joined (List.cons_ne_nil f fs)).1]

theorem Joins.args_eq {c : Fragment} {fs : List Fragment} (h : Joins c fs) :
    c.args = fs.flatMap (·.args) := by
  cases fs with
  | nil =>
    have hread : filteredFilled c.filled = [] := by
      rw [filteredFilled, allBlank_filled, h.blank rfl]
      rfl
    rw [← args_of_filtered c, hread]
    rfl
  | cons f fs => exact (h.joined (List.cons_ne_nil f fs)).2

theorem map_place_lines (rs : List (List Symbol)) :
    (lines rs).map Symbol.place = "\n".toList.intercalate (rs.map (·.map Symbol.place)) := by
  induction rs with
  | nil => rfl
  | cons r rs ih =>
    cases rs with
    | nil => simp [lines]
    | cons t ts =>
      rw [lines] at ih
      rw [lines, List.intercalate_cons_cons, List.map_append, List.map_append, ih,
        map_place_symbols]
      exact (List.intercalate_cons_cons ..).symm

/-- A text that reads as lines is made of them. -/
theorem sql_of_lines {f : Fragment} {texts : List String} {rs : List (List Symbol)}
    (h : f.filled = lines rs) (hshow : Show texts rs) : f.sql = "\n".intercalate texts := by
  have hplace : f.filled.map Symbol.place = f.sql.toList := map_place_fillFrom _ _ _
  rw [← String.toList_inj, String.toList_intercalate, ← hplace, h, map_place_lines, hshow]

theorem Has.shows {s : Select} (h : s.Has distinct columns steps) (table : String) :
    Show (textLines distinct columns steps table) (s.clauseLines table) := by
  rw [clauseLines, h.distinct, h.columns, h.groups, h.orders, h.limit, h.offset]
  exact ((((((listed_shows _ _).append (listed_shows _ _)).append
    (filtered_shows h.condition)).append (listed_shows _ _)).append (listed_shows _ _)).append
    (counted_shows _ _)).append (counted_shows _ _)

theorem args_of_clauseLines {s : Select} {table : String} {f : Fragment}
    (h : f.filled = lines (s.clauseLines table)) : f.args = s.condition.args := by
  have hlisted : ∀ keyword terms,
      (listedFilled keyword terms).flatMap (·.filterMap Symbol.value?) = [] := by
    intro keyword terms
    unfold listedFilled
    cases terms.isEmpty <;> simp [filterMap_value_symbols]
  have hcounted : ∀ keyword n?,
      (countedFilled keyword n?).flatMap (·.filterMap Symbol.value?) = [] := by
    intro keyword n?
    cases n? <;> simp [countedFilled, filterMap_value_symbols]
  rw [args_of_lines h, clauseLines]
  simp only [List.flatMap_append, hlisted, hcounted, args_of_filtered, List.nil_append,
    List.append_nil]

/-! ## Calls -/

/-- A call on a statement: a step, or a build on the way. -/
inductive Call where
  | step (t : Step)
  | build

/-- The step of a call, none if it builds. -/
def Call.step? : Call → Option Step
  | .step t => some t
  | .build => none

/-- The steps among the calls. -/
def stepsOf (calls : List Call) : List Step :=
  calls.filterMap Call.step?

/-- The statement after a call; to build it leaves it as it is. -/
def afterCall (s : Select) : Call → Select
  | .step t => s.after t
  | .build => s

/-- The statement after the calls. -/
def called (s : Select) (calls : List Call) : Select :=
  calls.foldl afterCall s

theorem called_eq_run (s : Select) (calls : List Call) :
    s.called calls = s.run (stepsOf calls) := by
  induction calls generalizing s with
  | nil => rfl
  | cons c calls ih =>
    cases c with
    | step t => exact ih (s.after t)
    | build => exact ih s

/-- Neighbouring steps on different clauses change places in a run. -/
theorem run_swap (s : Select) (before : List Step) {t u : Step} (behind : List Step)
    (h : t.clause ≠ u.clause) :
    s.run (before ++ t :: u :: behind) = s.run (before ++ u :: t :: behind) := by
  have hrun : ∀ v w, s.run (before ++ v :: w :: behind) =
      (((s.run before).after v).after w).run behind := fun v w => List.foldl_append
  rw [hrun, hrun, after_comm _ h]

/-! ## What is built -/

/-- The numbers of rows that count after the steps can be written. -/
def CanWrite (steps : List Step) : Prop :=
  (∀ n ∈ last? Step.limit? steps, Number.isWritable n = true) ∧
    ∀ n ∈ last? Step.offset? steps, Number.isWritable n = true

theorem Has.writable_iff {s : Select} (h : s.Has distinct columns steps) :
    s.Writable ↔ CanWrite steps := by
  rw [CanWrite, ← h.limit, ← h.offset]
  exact ⟨fun hw => ⟨hw.limit, hw.offset⟩, fun hw => ⟨hw.1, hw.2⟩⟩

theorem build_of_no_table {s : Select} (h : ∀ table ∈ s.table?, isBlank table = true) :
    s.build = .error (.miscompiled .noTable) := by
  rw [build]
  cases ht : s.table? with
  | none => rfl
  | some table =>
    simp only [h table ht, if_true]

/-- A sound statement with a table comes together exactly if its numbers can be written. -/
theorem build_of_not_writable {s : Select} (hs : s.Sound) {table : String}
    (ht : s.table? = some table) (hblank : isBlank table = false) (hwide : ¬s.Writable) :
    s.build = .error (.unusable (.numeral .tooWide)) := by
  cases hbuild : s.build with
  | ok f => exact absurd (writable_of_build hbuild) hwide
  | error e =>
    rcases (build_yields hs).of_error hbuild with ⟨-, htable⟩ | ⟨rfl, -⟩
    · exact absurd (htable table ht) (Bool.eq_false_iff.1 hblank)
    · rfl

/-- A statement means its clauses, not the order of its calls. It is rejected exactly if it has no
table or a blank one. Otherwise it has the text of its lines and the arguments of its conditions,
unless a number of rows is too wide to be written. It is the same without the builds on the way, and
with neighbouring steps on different clauses the other way round. -/
theorem statement_means_its_clauses (distinct : Bool) {columns : List String}
    (hcolumns : ∀ c ∈ columns, Inert c) (calls : List Call)
    (hsteps : ∀ t ∈ stepsOf calls, t.Sound) :
    ((∃ fault, ((start distinct columns).called calls).build = .error (.miscompiled fault)) ↔
        ∀ table ∈ last? Step.table? (stepsOf calls), isBlank table = true) ∧
      (∀ table ∈ last? Step.table? (stepsOf calls), isBlank table = false →
        (CanWrite (stepsOf calls) →
          ∃ q, ((start distinct columns).called calls).build = .ok q ∧
            q.sql = "\n".intercalate (textLines distinct columns (stepsOf calls) table) ∧
            q.args = (conditions (stepsOf calls)).flatMap (·.args)) ∧
        (¬CanWrite (stepsOf calls) →
          ((start distinct columns).called calls).build =
            .error (.unusable (.numeral .tooWide)))) ∧
      (∀ others, stepsOf others = stepsOf calls →
        (start distinct columns).called others = (start distinct columns).called calls) ∧
      ∀ before t u behind others, stepsOf calls = before ++ t :: u :: behind →
        t.clause ≠ u.clause → stepsOf others = before ++ u :: t :: behind →
        (start distinct columns).called others = (start distinct columns).called calls := by
  simp only [called_eq_run]
  have hs := run_sound (start_sound distinct hcolumns) hsteps
  have h := run_has distinct hcolumns hsteps
  refine ⟨⟨?_, ?_⟩, ?_, ?_, ?_⟩
  · rintro ⟨fault, hbuild⟩
    rcases (build_yields hs).of_error hbuild with ⟨-, htable⟩ | ⟨hnumeral, -⟩
    · exact h.table ▸ htable
    · cases hnumeral
  · exact fun htable => ⟨.noTable, build_of_no_table (h.table ▸ htable)⟩
  · intro table htable hblank
    have ht : ((start distinct columns).run (stepsOf calls)).table? = some table :=
      h.table.trans htable
    refine ⟨fun hwrite => ?_, fun hwide => ?_⟩
    · obtain ⟨q, hq, -, hfilled⟩ := build_of_sound hs ht hblank (h.writable_iff.2 hwrite)
      refine ⟨q, hq, sql_of_lines hfilled (h.shows table), ?_⟩
      rw [args_of_clauseLines hfilled, h.condition.args_eq]
    · exact build_of_not_writable hs ht hblank fun hw => hwide (h.writable_iff.1 hw)
  · intro others hothers
    rw [hothers]
  · intro before t u behind others hcalls hclause hothers
    rw [hothers, hcalls, run_swap _ before behind hclause]

/-- Calls in an order of their own, of which two fail and one builds. -/
def pageOfHosts : List Call :=
  [.step (.limitTo (.int 10)), .step (.filter ⟨"size > ?", [.int 5], by decide⟩), .build,
    .step (.orderBy "size" (.text " desc ")), .step (.orderBy "host" (.text "up")),
    .step (.andFilter ⟨"host <> '?'", [], by decide⟩), .step (.fromTable "t"),
    .step (.groupBy ["host", ""]), .step (.limitTo (.int 0)), .step (.startAt (.int 20))]

theorem page_of_hosts_means_its_clauses :
    (∀ c ∈ ["host"], Inert c) ∧ (∀ t ∈ stepsOf pageOfHosts, t.Sound) ∧
      ∃ q, ((start false ["host"]).called pageOfHosts).build = .ok q ∧
        q.sql = "SELECT host\nFROM t\nWHERE size > ? AND host <> '?'\nGROUP BY host\n" ++
          "ORDER BY size DESC\nLIMIT 10\nOFFSET 20" ∧
        q.args = [.int 5] := by
  have hcolumns : ∀ c ∈ ["host"], Inert c := by decide
  have hsteps : ∀ t ∈ stepsOf pageOfHosts, t.Sound := by decide
  have hmeaning := statement_means_its_clauses false hcolumns pageOfHosts hsteps
  have hwrite : CanWrite (stepsOf pageOfHosts) := by
    constructor <;> decide +kernel
  obtain ⟨q, hq, hsql, hargs⟩ := (hmeaning.2.1 "t" rfl (by decide)).1 hwrite
  refine ⟨hcolumns, hsteps, q, hq, hsql.trans ?_, hargs.trans ?_⟩
  · decide
  · decide

/-- A limit of a number with 4301 digits. -/
def wideLimit : List Call :=
  [.step (.fromTable "t"), .step (.limitTo (.decimal ⟨false, 1, 4300⟩))]

/-- A limit that counts does not always come to a clause. -/
theorem wide_limit_is_not_written :
    (∀ c ∈ ["a"], Inert c) ∧ (∀ t ∈ stepsOf wideLimit, t.Sound) ∧
      last? Step.table? (stepsOf wideLimit) = some "t" ∧ isBlank "t" = false ∧
      last? Step.limit? (stepsOf wideLimit) = some (Number.tenTo 4300 : Nat) ∧
      ((start false ["a"]).called wideLimit).build = .error (.unusable (.numeral .tooWide)) := by
  have hcolumns : ∀ c ∈ ["a"], Inert c := by decide
  have hsteps : ∀ t ∈ stepsOf wideLimit, t.Sound := by decide
  have hlimit : last? Step.limit? (stepsOf wideLimit) = some (Number.tenTo 4300 : Nat) := by
    decide +kernel
  have hwide : Number.isWritable (Number.tenTo 4300 : Nat) = false := by decide +kernel
  refine ⟨hcolumns, hsteps, rfl, by decide, hlimit, ?_⟩
  rw [called_eq_run]
  have h := run_has false hcolumns hsteps
  refine build_of_not_writable (run_sound (start_sound false hcolumns) hsteps) h.table
    (by decide) fun hwrite => ?_
  exact absurd (hwrite.limit _ (h.limit.trans hlimit)) (Bool.eq_false_iff.1 hwide)

end Select

end Crosstab.Sql
