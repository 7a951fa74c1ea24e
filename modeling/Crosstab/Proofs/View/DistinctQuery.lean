import Crosstab.Proofs.Columns
import Crosstab.Proofs.Cursor
import Crosstab.Proofs.Filter.Conditions
import Crosstab.Proofs.Names
import Crosstab.Proofs.Numeral
import Crosstab.Proofs.Sql.Built
import Crosstab.View.Distinct

/-!
# The queries for distinct values

A request for distinct values asks two queries, for the values of a page and for the number of all
values, over the rows that meet its filters. What the first reads as tells the order, the bound and
the number of values that are asked for. The bound is the value in the cursor, which is the last
value of the page before.
-/

namespace Crosstab.View

open Crosstab.Filter Pivot Sql Text
open Session (Reply)

/-! ## The queries of a page -/

/-- The query for the rows that have a value: those that meet the filters and the search of the
request, whatever its field is called in it. -/
def distinctBase (scope : Scope) (r : DistinctRequest) (target : String) : Outcome Fragment := do
  let column ← scope.schema.column (.text target)
  let condition ← Predicate.fragment? (← distinctWhere scope r target column)
  ((Select.ofColumns [s!"{column} AS v"]).fromTable scope.schema.fromClause
    |>.filter condition).build

/-- The sign by which values are compared with that of a cursor. -/
def signOf (order : String) : String :=
  if order == "ASC" then ">" else "<"

/-- The restriction to the values behind another, or none. -/
def behindFilled (order : String) : Option Value → List Symbol
  | none => []
  | some v => symbols ("v " ++ signOf order ++ " ") ++ [.value v]

/-- The lines of the statement for a page: it asks for so many values, behind the given one. -/
def pageLines (order : String) (after? : Option Value) (n : Int) : List (List Symbol) :=
  [clause "SELECT DISTINCT" "v", clause "FROM" "base"] ++
    (after?.map fun v => clause "WHERE" ("v " ++ signOf order ++ " ") ++ [.value v]).toList ++
    [clause "ORDER BY" ("v " ++ order), clause "LIMIT" (Number.intText n)]

/-- What the query of a page reads as. -/
def pageFilled (base : List Symbol) (order : String) (after? : Option Value) (n : Int) :
    List Symbol :=
  With.oneFilled "base" base (lines (pageLines order after? n))

/-- What the query for the number of values reads as. -/
def countFilled (base : List Symbol) : List Symbol :=
  With.oneFilled "base" base
    (lines [clause "SELECT" "COUNT(DISTINCT v) AS total", clause "FROM" "base"])

/-- The condition on the rows is a conjunction of what the request asks. -/
theorem distinctWhere_yields (scope : Scope) (r : DistinctRequest) (target : String)
    {column : String} (hcolumn : IsPlain column) :
    Outcome.Yields (fun _ => True) Scope.Conjunctive (distinctWhere scope r target column) := by
  unfold distinctWhere
  have hfilter : ∀ excluded, Outcome.Yields (fun _ => True) Scope.Conjunctive
      (scope.whereFilter r.filters r.time excluded) :=
    Scope.whereFilter_yields (fun _ _ => trivial) (.any _) r.time
  refine (hfilter _).bind fun p? hp => .ok ?_
  refine Scope.Conjunctive.all ?_
  simp only [List.forall_mem_cons]
  refine ⟨hp, Scope.Conjunctive.some hcolumn rfl, ?_, nofun⟩
  cases searchPattern? r.search with
  | none => exact Scope.Conjunctive.none
  | some s => exact Scope.Conjunctive.some hcolumn rfl

/-- The query for the rows is balanced. -/
theorem balanced_distinctBase {scope : Scope} {r : DistinctRequest} {target : String}
    {base : Fragment} (h : distinctBase scope r target = .ok base) : Balanced base.sql := by
  obtain ⟨column, hcolumn, h⟩ := Outcome.bind_eq_ok.1 h
  obtain ⟨p?, hp, h⟩ := Outcome.bind_eq_ok.1 h
  obtain ⟨condition, hcondition, hbuild⟩ := Outcome.bind_eq_ok.1 h
  have hplain := (scope.schema.column_yields (.text target)).of_ok hcolumn
  have hconjunctive := (distinctWhere_yields scope r target hplain).of_ok hp
  have hbalanced : Balanced condition.sql := by
    obtain ⟨f, hf, hf'⟩ := hconjunctive.fragment
    rwa [← Except.ok.inj (hf.symm.trans hcondition)]
  have hnamed : Inert (column ++ " AS v") := hplain.isQuiet.inert.append (by decide)
  have htable := scope.schema.isQuiet_fromClause.inert
  have hcolumns : (Select.ofColumns [column ++ " AS v"]).Sound :=
    Select.sound_ofColumns (List.forall_mem_singleton.2 hnamed)
  have hfrom : (Select.Step.fromTable scope.schema.fromClause).Sound := htable
  have hsource := ((Select.Step.apply_yields hcolumns hfrom).of_ok rfl).1
  have hfilter : (Select.Step.filter condition).Sound := hbalanced
  have hfiltered := ((Select.Step.apply_yields hsource hfilter).of_ok rfl).1
  exact ((Select.build_yields hfiltered).of_ok hbuild).1

/-- The statement for a page of values behind the given condition. -/
def pageSelect (order : String) (after : Fragment) (n : Int) : Select :=
  { Select.distinctOf ["v"] with
    table? := some "base", condition := after, orders := ["v " ++ order], limit? := some n }

/-- The statement for the number of values. -/
def countSelect : Select :=
  (Select.ofColumns ["COUNT(DISTINCT v) AS total"]).fromTable "base"

/-- Values are ordered up or down. -/
def IsOrder (order : String) : Prop :=
  order = "ASC" ∨ order = "DESC"

theorem sound_pageSelect {order : String} (horder : IsOrder order) {after : Fragment}
    (hafter : Balanced after.sql) (n : Int) : (pageSelect order after n).Sound where
  columns := List.forall_mem_singleton.2 (by decide)
  table := by
    rintro _ ⟨⟩
    decide
  condition := hafter
  groups := nofun
  orders := by
    rcases horder with rfl | rfl
    · exact List.forall_mem_singleton.2 (by decide)
    · exact List.forall_mem_singleton.2 (by decide)

theorem sound_countSelect : countSelect.Sound where
  columns := List.forall_mem_singleton.2 (by decide)
  table := by
    rintro _ ⟨⟩
    decide
  condition := rfl
  groups := nofun
  orders := nofun

theorem writable_pageSelect (order : String) (after : Fragment) {n : Int}
    (h : Number.isWritable n = true) : (pageSelect order after n).Writable where
  limit := fun _ hm => Option.mem_some_iff.1 hm ▸ h
  offset := nofun

theorem writable_countSelect : countSelect.Writable where
  limit := nofun
  offset := nofun

/-- The condition behind a value, or none. -/
def IsAfter (order : String) (after? : Option Value) (after : Fragment) : Prop :=
  after.filled = behindFilled order after?

/-- The condition becomes that of a statement which has none. -/
theorem filter_of_isAfter {order : String} {after? : Option Value} {after : Fragment}
    (hafter : IsAfter order after? after) {s : Select} (hs : s.condition = .empty) :
    s.filter after = { s with condition := after } := by
  rw [Select.filter_eq]
  cases hblank : after.isBlank with
  | false => rfl
  | true =>
    have hnone : after? = none := by
      cases after? with
      | none => rfl
      | some v =>
        rw [← allBlank_filled, hafter] at hblank
        simp [behindFilled, allBlank, Symbol.isBlank] at hblank
    have hempty : after = .empty := Fragment.eq_of_filled (by rw [hafter, hnone]; rfl)
    rw [hempty, ← hs]
    rfl

theorem clauseLines_pageSelect {order : String} {after? : Option Value} {after : Fragment}
    (hafter : IsAfter order after? after) (n : Int) :
    (pageSelect order after n).clauseLines "base" = pageLines order after? n := by
  have hcondition : Select.filteredFilled after.filled =
      (after?.map fun v => clause "WHERE" ("v " ++ signOf order ++ " ") ++ [.value v]).toList := by
    rw [IsAfter] at hafter
    rw [hafter]
    cases after? with
    | none => rfl
    | some v =>
      have hblank : isBlank ("v " ++ signOf order ++ " ") = false := by
        rw [isBlank_append, isBlank_append]
        rfl
      exact Select.filteredFilled_symbols hblank _
  show Select.listedFilled "SELECT DISTINCT" ["v"] ++ Select.listedFilled "FROM" ["base"] ++
    Select.filteredFilled after.filled ++ [] ++ Select.listedFilled "ORDER BY" ["v " ++ order] ++
    Select.countedFilled "LIMIT" (some n) ++ [] = _
  rw [hcondition, Select.listedFilled_singleton, Select.listedFilled_singleton,
    Select.listedFilled_singleton, Select.countedFilled_some, pageLines]
  simp

theorem clauseLines_countSelect : countSelect.clauseLines "base" =
    [clause "SELECT" "COUNT(DISTINCT v) AS total", clause "FROM" "base"] := rfl

/-- The query of a page comes together. -/
theorem page_builds {base after : Fragment} {order : String} {after? : Option Value} {n : Int}
    (hbase : Balanced base.sql) (horder : IsOrder order) (hwritable : Number.isWritable n = true)
    (hbalanced : Balanced after.sql) (hafter : IsAfter order after? after) :
    ∃ page, ((With.empty.subquery "base" base).mainQuery (pageSelect order after n).build).build =
      .ok page ∧ page.filled = pageFilled base.filled order after? n := by
  obtain ⟨main, hmain, hmainBalanced, hmainFilled⟩ := Select.build_of_sound
    (sound_pageSelect horder hbalanced n) rfl (by decide) (writable_pageSelect _ _ hwritable)
  obtain ⟨page, hpage, -, hfilled⟩ := With.build_subquery (by decide : Inert "base") hbase
    hmainBalanced
  refine ⟨page, hmain.symm ▸ hpage, ?_⟩
  rw [hfilled, hmainFilled, clauseLines_pageSelect hafter]
  rfl

/-- The query for the number of values comes together. -/
theorem count_builds {base : Fragment} (hbase : Balanced base.sql) :
    ∃ count, ((With.empty.subquery "base" base).mainQuery countSelect.build).build = .ok count ∧
      count.filled = countFilled base.filled := by
  obtain ⟨main, hmain, hmainBalanced, hmainFilled⟩ := Select.build_of_sound
    sound_countSelect rfl (by decide) writable_countSelect
  obtain ⟨count, hcount, -, hfilled⟩ := With.build_subquery (by decide : Inert "base") hbase
    hmainBalanced
  refine ⟨count, hmain.symm ▸ hcount, ?_⟩
  rw [hfilled, hmainFilled, clauseLines_countSelect]
  rfl

/-- The queries of a request. -/
theorem distinctQueries_eq {w : Workspace} {r : DistinctRequest} {schema : Schema}
    {target : String} {base after : Fragment} {after? : Option Value} {n : Int}
    (hschema : w.schema r.layer = .ok schema) (hfield : schema.resolve? r.field = some target)
    (hbase : distinctBase ⟨schema, w.settings⟩ r target = .ok base) (horder : IsOrder r.orderWord)
    (hlimit : distinctLimit w.settings r.limit = .ok n) (hn : 1 ≤ n)
    (hwritable : Number.isWritable (n + 1) = true)
    (hcursor : afterCursor r target r.orderWord = .ok after) (hbalanced : Balanced after.sql)
    (hafter : IsAfter r.orderWord after? after) :
    ∃ page count, distinctQueries w r = .ok ⟨target, r.orderWord, n, page, count⟩ ∧
      page.filled = pageFilled base.filled r.orderWord after? (n + 1) ∧
      count.filled = countFilled base.filled := by
  have hbaseBalanced := balanced_distinctBase hbase
  obtain ⟨column, hcolumn, hrest⟩ := Outcome.bind_eq_ok.1 hbase
  obtain ⟨p?, hp, hrest⟩ := Outcome.bind_eq_ok.1 hrest
  obtain ⟨condition, hcondition, hbuild⟩ := Outcome.bind_eq_ok.1 hrest
  obtain ⟨page, hpage, hpageFilled⟩ :=
    page_builds hbaseBalanced horder hwritable hbalanced hafter
  obtain ⟨count, hcount, hcountFilled⟩ := count_builds hbaseBalanced
  refine ⟨page, count, ?_, hpageFilled, hcountFilled⟩
  have hrequire : schema.require r.field = .ok target := by rw [Schema.require, hfield]
  have hknown : (r.orderWord != "ASC" && r.orderWord != "DESC") = false := by
    rcases horder with h | h <;> rw [h] <;> rfl
  have hordered : ((Select.distinctOf ["v"]).fromTable "base").orderBy "v" (.text r.orderWord) =
      .ok { (Select.distinctOf ["v"]).fromTable "base" with
        orders := ["v" ++ " " ++ r.orderWord] } := by
    rcases horder with h | h <;> rw [h] <;> rfl
  have hfiltered : ({ (Select.distinctOf ["v"]).fromTable "base" with
      orders := ["v" ++ " " ++ r.orderWord], limit? := some (n + 1) } : Select).filter after =
      pageSelect r.orderWord after (n + 1) := filter_of_isAfter hafter rfl
  have hcounted : (Select.ofColumns ["COUNT(DISTINCT v) AS total"]).fromTable "base" =
      countSelect := rfl
  simp only [distinctQueries, hschema, hrequire, hcolumn, hlimit, hp, hcondition, bind,
    Except.bind, hknown, Bool.false_eq_true, if_false, hordered,
    Select.limitTo_int (show 1 ≤ n + 1 by omega), hcursor, hbuild, hfiltered, hcounted, hpage,
    hcount, pure, Except.pure]

/-! ### What is asked for -/

/-- The end of a page's query tells the order and the number of values. -/
theorem ordering_inj {o₁ o₂ : String} (h₁ : IsOrder o₁) (h₂ : IsOrder o₂) {n₁ n₂ : Nat}
    (h : symbols ("ORDER BY v " ++ o₁ ++ "\nLIMIT " ++ Number.intText n₁) =
      symbols ("ORDER BY v " ++ o₂ ++ "\nLIMIT " ++ Number.intText n₂)) : o₁ = o₂ ∧ n₁ = n₂ := by
  have horder : o₁ = o₂ := by
    have htake := congrArg (List.take 12) h
    rcases h₁ with rfl | rfl <;> rcases h₂ with rfl | rfl
    · rfl
    · exact absurd htake (by simp [symbols])
    · exact absurd htake (by simp [symbols])
    · rfl
  subst horder
  rw [symbols_append, symbols_append _ (Number.intText n₂)] at h
  exact ⟨rfl, Int.ofNat.inj (Number.intText_inj (symbols_inj (List.append_cancel_left h)))⟩

/-- The restriction of a page's query on a line of its own. -/
def behindLine (order : String) : Option Value → List Symbol
  | none => []
  | some v => symbols ("WHERE v " ++ signOf order ++ " ") ++ .value v :: symbols "\n"

theorem lines_pageLines (order : String) (after? : Option Value) (n : Int) :
    lines (pageLines order after? n) = symbols "SELECT DISTINCT v\nFROM base\n" ++
      (behindLine order after? ++
        symbols ("ORDER BY v " ++ order ++ "\nLIMIT " ++ Number.intText n)) := by
  cases after? with
  | none => simp [lines, pageLines, clause, behindLine, symbols, List.intercalate_cons_cons]
  | some v => simp [lines, pageLines, clause, behindLine, symbols, List.intercalate_cons_cons]

/-- The restriction is as long for both orders, and its value stands at one place. -/
theorem behindLine_some {order : String} (h : IsOrder order) (v : Value) (r : List Symbol) :
    (behindLine order (some v) ++ r)[0]? = some (.char 'W') ∧
      (behindLine order (some v) ++ r)[10]? = some (.value v) ∧
      (behindLine order (some v) ++ r).drop 12 = r := by
  rcases h with rfl | rfl
  · exact ⟨rfl, rfl, rfl⟩
  · exact ⟨rfl, rfl, rfl⟩

/-- A page's query tells its order, its bound and its number of values. -/
theorem pageFilled_inj {base : List Symbol} {o₁ o₂ : String} (h₁ : IsOrder o₁) (h₂ : IsOrder o₂)
    {a₁ a₂ : Option Value} {n₁ n₂ : Nat}
    (h : pageFilled base o₁ a₁ n₁ = pageFilled base o₂ a₂ n₂) : o₁ = o₂ ∧ a₁ = a₂ ∧ n₁ = n₂ := by
  have hlines := List.append_cancel_left h
  rw [lines_pageLines, lines_pageLines] at hlines
  have hrest := List.append_cancel_left hlines
  have hfirst : ∀ (o : String) (n : Nat),
      (symbols ("ORDER BY v " ++ o ++ "\nLIMIT " ++ Number.intText n))[0]? = some (.char 'O') := by
    intro o n
    rw [String.append_assoc, String.append_assoc, symbols_append]
    rfl
  cases a₁ with
  | none =>
    cases a₂ with
    | none =>
      obtain ⟨horder, hn⟩ := ordering_inj h₁ h₂ hrest
      exact ⟨horder, rfl, hn⟩
    | some v =>
      have hchar := congrArg (·[0]?) hrest
      rw [(behindLine_some h₂ v _).1] at hchar
      exact absurd ((hfirst o₁ n₁).symm.trans hchar) (by decide)
  | some v =>
    cases a₂ with
    | none =>
      have hchar := congrArg (·[0]?) hrest
      rw [(behindLine_some h₁ v _).1] at hchar
      exact absurd (hchar.trans (hfirst o₂ n₂)) (by decide)
    | some u =>
      obtain ⟨-, hvalue₁, hdrop₁⟩ := behindLine_some h₁ v
        (symbols ("ORDER BY v " ++ o₁ ++ "\nLIMIT " ++ Number.intText n₁))
      obtain ⟨-, hvalue₂, hdrop₂⟩ := behindLine_some h₂ u
        (symbols ("ORDER BY v " ++ o₂ ++ "\nLIMIT " ++ Number.intText n₂))
      rw [hrest] at hvalue₁ hdrop₁
      obtain ⟨horder, hn⟩ := ordering_inj h₁ h₂ (hdrop₁.symm.trans hdrop₂)
      obtain rfl := Symbol.value.inj (Option.some.inj (hvalue₁.symm.trans hvalue₂))
      exact ⟨horder, rfl, hn⟩

theorem pageFilled_ne_countFilled (base : List Symbol) (order : String) (after? : Option Value)
    (n : Int) : pageFilled base order after? n ≠ countFilled base := by
  intro h
  have hlines := List.append_cancel_left h
  rw [lines_pageLines] at hlines
  have htake : symbols "SELECT D" = symbols "SELECT C" := congrArg (List.take 8) hlines
  exact absurd htake (by decide)

/-! ## Cursors -/

/-- A value that a cursor keeps: a whole number of a fair length, or a text that JSON text tells. -/
def IsKept : Value → Prop
  | .int n => Number.isWritable n = true
  | .text s => Json.Unsplit s.toList
  | _ => False

/-- The cursor behind a value of a column. -/
def cursorBehind (target order : String) (v : Value) : String :=
  Cursor.encode (.record [("f", .text target), ("o", .text order), ("v", v)])

theorem cursorAfter_eq {q : DistinctQueries} {v : Value} (h : IsKept v) :
    cursorAfter q v = cursorBehind q.target q.order v := by
  cases v with
  | int n => rfl
  | text s => rfl
  | _ => exact h.elim

theorem isTold_position {schema : Schema} {field : Value} {target order : String} {v : Value}
    (hfield : schema.resolve? field = some target) (horder : IsOrder order) (h : IsKept v) :
    Json.IsTold (.record [("f", .text target), ("o", .text order), ("v", v)]) := by
  have horderTold : Json.Unsplit order.toList := by
    rcases horder with rfl | rfl <;> decide
  have hvalue : Json.IsTold v := by
    cases v with
    | int n => exact h
    | text s => exact h
    | _ => exact h.elim
  have hname : ∀ k : String, k.toList.length = 1 → Json.Unsplit k.toList := by
    intro k hk
    obtain ⟨c, hc⟩ := List.length_eq_one_iff.1 hk
    rw [hc]
    exact List.IsChain.singleton c
  have hnames : ["f", "o", "v"].Nodup := by decide
  exact ⟨⟨hname "f" rfl, Schema.unsplit_of_resolve hfield, hname "o" rfl, horderTold,
    hname "v" rfl, hvalue, trivial⟩, hnames⟩

/-- Without a cursor nothing is left out. -/
theorem afterCursor_null {r : DistinctRequest} (h : r.cursor = .null) (target order : String) :
    afterCursor r target order = .ok .empty := by
  have hdecode : Cursor.decode .null = .ok none := rfl
  rw [afterCursor, h, hdecode]
  rfl

/-- A cursor of the column and the order asks for the values behind its own. -/
theorem afterCursor_behind {r : DistinctRequest} {schema : Schema} {field : Value}
    {target order : String} {v : Value} (hfield : schema.resolve? field = some target)
    (horder : IsOrder order) (hv : IsKept v)
    (hcursor : r.cursor = .text (cursorBehind target order v)) :
    ∃ after, afterCursor r target order = .ok after ∧ Balanced after.sql ∧
      IsAfter order (some v) after := by
  have hdecode := Cursor.decode_encode (isTold_position hfield horder hv) rfl
  have hsign : Inert ("v " ++ signOf order ++ " ") := by
    rcases horder with rfl | rfl <;> decide
  have hplace : Fills "?" [v] [.value v] := ⟨by decide, rfl, rfl⟩
  obtain ⟨after, hafter, hbalanced, hfilled⟩ := (Fills.after hsign hplace).carries
  refine ⟨after, ?_, hbalanced, hfilled⟩
  have hfieldOf : memberOf [("f", Value.text target), ("o", .text order), ("v", v)] "f" =
      .text target := rfl
  have horderOf : valueOf? "o" [("f", Value.text target), ("o", .text order), ("v", v)] =
      some (.text order) := rfl
  have htext : "v " ++ signOf order ++ " " ++ "?" = "v " ++ signOf order ++ " ?" := by
    rcases horder with rfl | rfl <;> decide
  rw [htext] at hafter
  rw [afterCursor, hcursor, cursorBehind, hdecode]
  simp only [bind, Except.bind, hfieldOf, horderOf, Option.getD_some, beq_self_eq_true,
    Bool.and_self, Bool.not_true, Bool.false_eq_true, if_false]
  exact hafter

end Crosstab.View
