import Crosstab.Proofs.Outcome
import Crosstab.Proofs.Sql.Composition
import Crosstab.Sql.Predicate
import Crosstab.Sql.Select

/-!
# The text of a statement and its values

The text of a fragment does not depend on its arguments, nor does what is built from it: fragments
with the same texts are put together to fragments with the same text, and a statement whose
condition has the same text has the same text itself.
-/

namespace Crosstab.Sql

open Text

/-- The fragments have the same text. -/
def SameSql (f g : Fragment) : Prop :=
  f.sql = g.sql

/-- The conditions are both absent or have the same text. -/
def SameText (p? q? : Option Predicate) : Prop :=
  Option.Rel (fun p q => p.sql = q.sql) p? q?

/-! ## Fragments -/

theorem of_sql {sql : String} {args : List Value} {f : Fragment}
    (h : Fragment.of sql args = .ok f) : f.sql = sql :=
  (Fragment.of_inversion h).1

/-- Whatever the arguments are, the text is what it was made from. -/
theorem of_agrees {a b : String} (h : a = b) (xs ys : List Value) :
    Outcome.Agrees SameSql (Fragment.of a xs) (Fragment.of b ys) := by
  intro f g hf hg
  rw [SameSql, of_sql hf, of_sql hg, h]

theorem isBlank_eq {f g : Fragment} (h : SameSql f g) : f.isBlank = g.isBlank :=
  congrArg isBlank h

/-- The text of a join is that of the texts that are not blank. -/
theorem join_sql {sep : String} {fs : List Fragment} {f : Fragment}
    (h : Fragment.join sep fs = .ok f) :
    f.sql = sep.intercalate ((fs.map (·.sql)).filter (!isBlank ·)) := by
  have hfilter : (fs.map (·.sql)).filter (!isBlank ·) =
      (fs.filter (!·.isBlank)).map (·.sql) := by
    simp [List.filter_map, Function.comp_def, Fragment.isBlank]
  unfold Fragment.join at h
  rw [hfilter]
  split at h
  · next hnil =>
    cases h
    rw [hnil]
    rfl
  · exact of_sql h

theorem map_sql_eq {fs gs : List Fragment} (h : List.Forall₂ SameSql fs gs) :
    fs.map (·.sql) = gs.map (·.sql) := by
  induction h with
  | nil => rfl
  | cons hfg _ ih => rw [List.map_cons, List.map_cons, ih, hfg]

theorem join_agrees (sep : String) {fs gs : List Fragment} (h : List.Forall₂ SameSql fs gs) :
    Outcome.Agrees SameSql (Fragment.join sep fs) (Fragment.join sep gs) := by
  intro f g hf hg
  rw [SameSql, join_sql hf, join_sql hg, map_sql_eq h]

theorem fragment_agrees {p? q? : Option Predicate} (h : SameText p? q?) :
    Outcome.Agrees SameSql (Predicate.fragment? p?) (Predicate.fragment? q?) := by
  cases h with
  | none => exact .ok rfl
  | some hpq => exact of_agrees hpq _ _

/-! ## Statements -/

namespace Select

/-- The statements differ in nothing but the arguments of their conditions. -/
structure SameShape (s t : Select) : Prop where
  columns : s.columns = t.columns
  distinct : s.distinct = t.distinct
  table : s.table? = t.table?
  condition : SameSql s.condition t.condition
  groups : s.groups = t.groups
  orders : s.orders = t.orders
  limit : s.limit? = t.limit?
  offset : s.offset? = t.offset?

theorem filter_sameShape (s : Select) {f g : Fragment} (h : SameSql f g) :
    SameShape (s.filter f) (s.filter g) := by
  unfold filter
  rw [isBlank_eq h]
  split
  · exact ⟨rfl, rfl, rfl, rfl, rfl, rfl, rfl, rfl⟩
  · exact ⟨rfl, rfl, rfl, h, rfl, rfl, rfl, rfl⟩

theorem groupBy_sameShape {s t : Select} (h : SameShape s t) (terms : List String) :
    SameShape (s.groupBy terms) (t.groupBy terms) :=
  { h with groups := congrArg (· ++ _) h.groups }

theorem orderBy_agrees {s t : Select} (h : SameShape s t) (column : String) (direction : Value) :
    Outcome.Agrees SameShape (s.orderBy column direction) (t.orderBy column direction) := by
  unfold orderBy
  simp only
  split
  · exact .ok { h with orders := congrArg (· ++ _) h.orders }
  · exact .error_left

theorem limitTo_agrees {s t : Select} (h : SameShape s t) (n : Value) :
    Outcome.Agrees SameShape (s.limitTo n) (t.limitTo n) := by
  refine Outcome.Agrees.bind_same fun k => ?_
  split
  · exact .error_left
  · exact .ok { h with limit := rfl }

theorem startAt_agrees {s t : Select} (h : SameShape s t) (n : Value) :
    Outcome.Agrees SameShape (s.startAt n) (t.startAt n) := by
  refine Outcome.Agrees.bind_same fun k => ?_
  split
  · exact .error_left
  · exact .ok { h with offset := rfl }

theorem filtered_agrees {f g : Fragment} (h : SameSql f g) :
    Outcome.Agrees (List.Forall₂ SameSql) (filtered f) (filtered g) := by
  unfold filtered
  rw [isBlank_eq h]
  split
  · exact .ok .nil
  · refine Outcome.Agrees.bind_same fun w => ?_
    exact (join_agrees " " (.cons rfl (.cons h .nil))).bind fun a b hab => .ok (.cons hab .nil)

/-- Statements of the same shape have the same text. -/
theorem build_agrees {s t : Select} (h : SameShape s t) :
    Outcome.Agrees SameSql s.build t.build := by
  have hclauses : ∀ table, Outcome.Agrees (List.Forall₂ SameSql) (s.clauses table)
      (t.clauses table) := by
    intro table
    have hsame : ∀ fs : List Fragment, List.Forall₂ SameSql fs fs := fun fs =>
      List.forall₂_same.2 fun _ _ => rfl
    have hkeep : ∀ {fs gs : List Fragment}, List.Forall₂ SameSql fs gs → ∀ xs,
        List.Forall₂ SameSql (fs ++ xs) (gs ++ xs) := fun hfs xs => List.rel_append hfs (hsame xs)
    unfold clauses
    rw [h.columns, h.distinct, h.groups, h.orders, h.limit, h.offset]
    refine Outcome.Agrees.bind_same fun head => Outcome.Agrees.bind_same fun source => ?_
    refine (filtered_agrees h.condition).bind fun a b hab => ?_
    refine Outcome.Agrees.bind_same fun groups => Outcome.Agrees.bind_same fun orders => ?_
    refine Outcome.Agrees.bind_same fun limit => Outcome.Agrees.bind_same fun offset => .ok ?_
    have hhead := List.rel_append (hsame (head ++ source)) hab
    exact hkeep (hkeep (hkeep (hkeep hhead groups) orders) limit) offset
  unfold build
  rw [h.table]
  split
  · split
    · exact .error_left
    · exact (hclauses _).bind fun fs gs hfs => join_agrees "\n" hfs
  · exact .error_left

end Select

end Crosstab.Sql
