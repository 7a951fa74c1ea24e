import Crosstab.Proofs.Sql.Statement

/-!
# Statements with subqueries keep their arguments

A statement with named subqueries takes queries that are put together and statements that are still
to be built. From sound queries it is composed without a miscount, and it reads as its queries do,
in their order. With this every way of putting fragments together is known to keep arguments in
their places.
-/

namespace Crosstab.Sql

open Text

namespace With

/-- The names are inert and the subqueries are balanced. -/
def Sound (w : With) : Prop :=
  ∀ q ∈ w.subqueries, Inert q.1 ∧ Balanced q.2.sql

/-- The reading of a named subquery between its parentheses. -/
def definitionFilled (name : String) (r : List Symbol) : List Symbol :=
  symbols (name ++ " AS (\n") ++ r ++ symbols "\n)"

/-- What a statement reads as, by the names and readings of its subqueries and the reading of its
main query. -/
def filled (subqueries : List (String × List Symbol)) (main : List Symbol) : List Symbol :=
  if subqueries.isEmpty then main
  else
    symbols "WITH " ++
      joinFilled (symbols ",\n") (subqueries.map fun q => definitionFilled q.1 q.2) ++
      symbols "\n" ++ main

/-- The subqueries with their readings in the place of their fragments. -/
def readings (w : With) : List (String × List Symbol) :=
  w.subqueries.map fun q => (q.1, q.2.filled)

theorem definition_carries {name : String} {query : Fragment} (hn : Inert name)
    (hq : Balanced query.sql) :
    Carries (definition name query) (definitionFilled name query.filled) := by
  have hopen : Inert " AS (\n" := by decide
  have hclose : Inert "\n)" := by decide
  exact ((Fills.after (hn.append hopen) (Fills.fragment hq)).before hclose).carries

/-- The definitions of subqueries all come together. -/
theorem definitions_yields {E : Failure → Prop} {qs : List (String × Fragment)}
    (h : ∀ q ∈ qs, Inert q.1 ∧ Balanced q.2.sql) :
    Outcome.Yields E (ReadAs · (qs.map fun q => definitionFilled q.1 q.2.filled))
      (qs.mapM fun q => definition q.1 q.2) := by
  induction qs with
  | nil => exact .ok .nil
  | cons q qs ih =>
    obtain ⟨⟨hn, hq⟩, hqs⟩ := List.forall_mem_cons.1 h
    obtain ⟨f, hf, hbalanced, hfilled⟩ := definition_carries hn hq
    rw [List.mapM_cons, hf]
    refine (ih hqs).bind fun fs hfs => .ok ⟨List.forall_mem_cons.2 ⟨hbalanced, hfs.1⟩, ?_⟩
    rw [List.map_cons, List.map_cons, hfilled, hfs.2]

/-- A sound statement with subqueries fails only as its main query does, and reads as its parts
do. -/
theorem build_yields {E : Failure → Prop} {P : Fragment → Prop} {w : With} (hw : w.Sound)
    {query : Outcome Fragment} (hm : w.main? = some query)
    (hmain : Outcome.Yields E (fun f => Balanced f.sql ∧ P f) query) :
    Outcome.Yields E
      (fun f : Fragment => Balanced f.sql ∧
        ∃ main, P main ∧ f.filled = filled w.readings main.filled)
      w.build := by
  rw [build, hm]
  cases hmain with
  | error h => exact .error h
  | @ok main h =>
      obtain ⟨hbalanced, hP⟩ := h
      have hempty : w.readings.isEmpty = w.subqueries.isEmpty := List.isEmpty_map
      cases hq : w.subqueries.isEmpty with
      | true =>
        refine .ok ⟨hbalanced, main, hP, ?_⟩
        rw [filled, hempty, hq]
        rfl
      | false =>
        refine (definitions_yields hw).bind fun fs hfs => ?_
        have hcomma : Inert ",\n" := by decide
        obtain ⟨head, hhead, hheadb, hheadf⟩ := join_carries hcomma hfs.1
        have hwith : Inert "WITH " := by decide
        have hline : Inert "\n" := by decide
        have hwhole := ((Fills.after hwith (Fills.fragment hheadb)).before hline).append
          (Fills.fragment hbalanced)
        obtain ⟨f, hf, hfb, hff⟩ := hwhole.carries
        have hbuild : (do
            let head ← Fragment.join ",\n" fs
            Fragment.of s!"WITH {head.sql}\n{main.sql}" (head.args ++ main.args)) = .ok f := by
          rw [hhead]
          exact hf
        rw [hbuild]
        refine .ok ⟨hfb, main, hP, ?_⟩
        rw [hff, filled, hempty, hq, hheadf, hfs.2, readings, List.map_map]
        rfl

/-! ### Queries of either form -/

/-- A query as a statement with subqueries takes it. -/
inductive Query where
  /-- A query that is put together. -/
  | fragment (f : Fragment)
  /-- A statement that is still to be built. -/
  | select (s : Select)

namespace Query

/-- The query, put together. -/
def build : Query → Outcome Fragment
  | .fragment f => .ok f
  | .select s => s.build

/-- The fragment is balanced, or the statement is sound. -/
def Sound : Query → Prop
  | .fragment f => Balanced f.sql
  | .select s => s.Sound

/-- What the query reads as, if it comes together. -/
def filled? : Query → Option (List Symbol)
  | .fragment f => some f.filled
  | .select s => s.table?.map s.filled

/-- Why the query does not come together. -/
def Unbuildable : Query → Failure → Prop
  | .fragment _, _ => False
  | .select s, e => s.Unbuildable e

theorem build_yields {q : Query} (hq : q.Sound) :
    Outcome.Yields q.Unbuildable (fun f => Balanced f.sql ∧ q.filled? = some f.filled) q.build := by
  cases q with
  | fragment f => exact .ok ⟨hq, rfl⟩
  | select s =>
    refine (Select.build_yields hq).mono ?_
    rintro f ⟨hbalanced, table, htable, hfilled⟩
    exact ⟨hbalanced, by rw [filled?, Option.mem_def.1 htable, Option.map_some, hfilled]⟩

theorem not_isMiscount_of_unbuildable {q : Query} {e : Failure} (h : q.Unbuildable e) :
    ¬IsMiscount e := by
  cases q with
  | fragment f => exact h.elim
  | select s => exact Select.not_isMiscount_of_unbuildable h

end Query

/-- The statement with the named subqueries in their order and the main query. -/
def ofQueries (subqueries : List (String × Query)) (main : Query) : Outcome With := do
  let w ← subqueries.foldlM (fun (w : With) q => do return w.subquery q.1 (← q.2.build)) empty
  return w.mainQuery main.build

/-- The subquery reads as the query of its name. -/
def Answers (q : String × Query) (r : String × List Symbol) : Prop :=
  q.1 = r.1 ∧ q.2.filled? = some r.2

theorem foldlM_subquery_yields {qs : List (String × Query)} (h : ∀ q ∈ qs, Inert q.1 ∧ q.2.Sound)
    {w : With} (hw : w.Sound) :
    Outcome.Yields (fun e => ∃ q ∈ qs, q.2.Unbuildable e)
      (fun u => u.Sound ∧ ∃ rs, u.readings = w.readings ++ rs ∧ List.Forall₂ Answers qs rs)
      (qs.foldlM (fun (w : With) q => do return w.subquery q.1 (← q.2.build)) w) := by
  induction qs generalizing w with
  | nil => exact .ok ⟨hw, [], (List.append_nil _).symm, .nil⟩
  | cons q qs ih =>
    obtain ⟨⟨hn, hq⟩, hqs⟩ := List.forall_mem_cons.1 h
    rw [List.foldlM_cons]
    have hstep : Outcome.Yields (fun e => ∃ p ∈ q :: qs, p.2.Unbuildable e)
        (fun u => ∃ f, u = w.subquery q.1 f ∧ Balanced f.sql ∧ q.2.filled? = some f.filled)
        (do return w.subquery q.1 (← q.2.build)) := by
      have hbuild := (Query.build_yields hq).weaken
        fun e he => (⟨q, List.mem_cons_self, he⟩ : ∃ p ∈ q :: qs, p.2.Unbuildable e)
      exact hbuild.bind fun f hf => .ok ⟨f, rfl, hf⟩
    refine hstep.bind ?_
    rintro _ ⟨f, rfl, hbalanced, hfilled⟩
    have hsound : (w.subquery q.1 f).Sound := by
      refine List.forall_mem_append.2 ⟨hw, fun p hp => ?_⟩
      rw [List.mem_singleton.1 hp]
      exact ⟨hn, hbalanced⟩
    have hrest := (ih hqs hsound).weaken
      fun e ⟨p, hp, he⟩ => (⟨p, List.mem_cons_of_mem q hp, he⟩ : ∃ p ∈ q :: qs, p.2.Unbuildable e)
    refine hrest.mono ?_
    rintro u ⟨hu, rs, hrs, hanswers⟩
    refine ⟨hu, (q.1, f.filled) :: rs, ?_, .cons ⟨rfl, hfilled⟩ hanswers⟩
    rw [hrs, readings, readings, subquery, List.map_append, List.append_assoc]
    rfl

/-- Sound queries make a sound statement, which fails only as they do and reads as they do, in their
order. -/
theorem ofQueries_yields {qs : List (String × Query)} {main : Query}
    (h : ∀ q ∈ qs, Inert q.1 ∧ q.2.Sound) (hmain : main.Sound) :
    Outcome.Yields (fun e => ∃ q ∈ main :: qs.map (·.2), q.Unbuildable e)
      (fun f : Fragment => Balanced f.sql ∧
        ∃ rs r, List.Forall₂ Answers qs rs ∧ main.filled? = some r ∧ f.filled = filled rs r)
      (ofQueries qs main >>= build) := by
  have hempty : empty.Sound := nofun
  have hquery : Outcome.Yields (fun e => ∃ q ∈ main :: qs.map (·.2), q.Unbuildable e) _ _ :=
    (Query.build_yields hmain).weaken fun e he => ⟨main, List.mem_cons_self, he⟩
  rw [ofQueries, bind_assoc]
  refine ((foldlM_subquery_yields h hempty).weaken ?_).bind ?_
  · rintro e ⟨q, hq, he⟩
    exact ⟨q.2, List.mem_cons_of_mem main (List.mem_map_of_mem hq), he⟩
  rintro w ⟨hw, rs, hrs, hanswers⟩
  have hsound : (w.mainQuery main.build).Sound := hw
  refine (build_yields hsound rfl hquery).mono ?_
  rintro f ⟨hbalanced, g, hg, hfilled⟩
  refine ⟨hbalanced, rs, g.filled, hanswers, hg, ?_⟩
  rw [hfilled]
  exact congrArg (filled · g.filled) hrs

end With

/-! ## Arguments keep their places -/

/-- Balanced fragments and inert texts are composed without a miscount into balanced fragments, and
what a composition reads as, every argument in its place, is composed of what its parts read as:
by conjunction, join, parentheses and sequence, by a statement after any steps, and by a statement
with any subqueries. Conjunction is associative, and blank fragments change nothing in it or in a
join. -/
theorem arguments_keep_their_places :
    (∀ a b : Fragment, Balanced a.sql → Balanced b.sql →
      Carries (a.and b) (andFilled a.filled b.filled)) ∧
    (∀ (sep : String) (fs : List Fragment), Inert sep → (∀ f ∈ fs, Balanced f.sql) →
      Carries (Fragment.join sep fs) (joinFilled (symbols sep) (fs.map (·.filled)))) ∧
    (∀ f : Fragment, Balanced f.sql → Carries f.wrap (wrapFilled f.filled)) ∧
    (∀ fs : List Fragment, (∀ f ∈ fs, Balanced f.sql) →
      Carries (Fragment.sequence fs) (joinFilled (symbols " ") (fs.map (·.filled)))) ∧
    (∀ (s : Select) (steps : List Select.Step), s.Sound → (∀ t ∈ steps, t.Sound) →
      (∀ t : Select.Step, t.Sound →
        Outcome.Yields (¬IsMiscount ·) (fun _ => True) (t.apply (s.run steps))) ∧
      (s.run steps).condition.filled =
        steps.foldl (fun r t => t.onCondition r) s.condition.filled ∧
      Outcome.Yields (fun e => ¬IsMiscount e ∧ (s.run steps).Unbuildable e)
        (fun f : Fragment => Balanced f.sql ∧
          ∃ table ∈ (s.run steps).table?, f.filled = (s.run steps).filled table)
        (s.run steps).build) ∧
    (∀ (qs : List (String × With.Query)) (main : With.Query),
      (∀ q ∈ qs, Inert q.1 ∧ q.2.Sound) → main.Sound →
      Outcome.Yields (fun e => ¬IsMiscount e ∧ ∃ q ∈ main :: qs.map (·.2), q.Unbuildable e)
        (fun f : Fragment => Balanced f.sql ∧
          ∃ rs r, List.Forall₂ With.Answers qs rs ∧ main.filled? = some r ∧
            f.filled = With.filled rs r)
        (With.ofQueries qs main >>= With.build)) ∧
    (∀ a b c : Fragment, Balanced a.sql → Balanced b.sql → Balanced c.sql →
      (do (← a.and b).and c) = (do a.and (← b.and c))) ∧
    (∀ e : Fragment, e.isBlank = true →
      (∀ a : Fragment, e.and a = .ok a ∧
        (a.and e = .ok a ∨ a.isBlank = true ∧ a.and e = .ok e)) ∧
      ∀ (sep : String) (fs gs : List Fragment),
        Fragment.join sep (fs ++ e :: gs) = Fragment.join sep (fs ++ gs)) := by
  refine ⟨fun a b ha hb => and_carries ha hb, fun sep fs hsep hfs => join_carries hsep hfs,
    fun f hf => wrap_carries hf, fun fs hfs => sequence_carries hfs, ?_, ?_,
    fun a b c ha hb _ => and_assoc_of_balanced ha hb,
    fun e he => ⟨fun a => and_of_isBlank he, fun sep fs gs => join_of_isBlank he sep fs gs⟩⟩
  · intro s steps hs hsteps
    have hrun := Select.run_sound hs hsteps
    refine ⟨fun t ht => ?_, Select.run_condition hs hsteps, ?_⟩
    · exact (Select.Step.apply_yields hrun ht).mono fun _ _ => trivial
    · exact (Select.build_yields hrun).weaken fun e he =>
        ⟨Select.not_isMiscount_of_unbuildable he, he⟩
  · intro qs main hqs hmain
    refine (With.ofQueries_yields hqs hmain).weaken ?_
    rintro e ⟨q, hq, he⟩
    exact ⟨With.Query.not_isMiscount_of_unbuildable he, q, hq, he⟩

/-- A condition with a question mark that is text and one that is a placeholder. -/
def labelled : Fragment := ⟨"label = 'what?' AND x = ?", [.int 1], by decide⟩

/-- A condition with two placeholders. -/
def ranged : Fragment := ⟨"y BETWEEN ? AND ?", [.int 2, .int 3], by decide⟩

/-- The steps of a statement with both conditions. -/
def bothSteps : List Select.Step :=
  [.fromTable "samples", .filter labelled, .andFilter ranged, .limitTo (.int 5)]

theorem arguments_of_labelled_and_ranged :
    Carries (labelled.and ranged) (andFilled labelled.filled ranged.filled) ∧
    Carries (Fragment.join " OR " [labelled, .empty, ranged])
      (joinFilled (symbols " OR ") [labelled.filled, Fragment.empty.filled, ranged.filled]) ∧
    Carries ranged.wrap (wrapFilled ranged.filled) ∧
    Carries (Fragment.sequence [labelled, ranged])
      (joinFilled (symbols " ") [labelled.filled, ranged.filled]) ∧
    ((Select.ofColumns ["x"]).run bothSteps).condition.filled =
      andFilled labelled.filled ranged.filled ∧
    Outcome.Yields
      (fun e => ¬IsMiscount e ∧ ∃ q ∈ [With.Query.fragment ranged, .fragment labelled],
        q.Unbuildable e)
      (fun f : Fragment => Balanced f.sql ∧
        ∃ rs r, List.Forall₂ With.Answers [("a", .fragment labelled)] rs ∧
          (With.Query.fragment ranged).filled? = some r ∧ f.filled = With.filled rs r)
      (With.ofQueries [("a", .fragment labelled)] (.fragment ranged) >>= With.build) ∧
    (do (← labelled.and ranged).and labelled) = (do labelled.and (← ranged.and labelled)) ∧
    Fragment.empty.and ranged = .ok ranged := by
  obtain ⟨hand, hjoin, hwrap, hsequence, hselect, hwith, hassoc, hblank⟩ :=
    arguments_keep_their_places
  have hl : Balanced labelled.sql := by decide
  have hr : Balanced ranged.sql := by decide
  have he : Balanced Fragment.empty.sql := by decide
  have hpair : ∀ f ∈ [labelled, ranged], Balanced f.sql :=
    List.forall_mem_cons.2 ⟨hl, List.forall_mem_cons.2 ⟨hr, nofun⟩⟩
  have hthree : ∀ f ∈ [labelled, .empty, ranged], Balanced f.sql :=
    List.forall_mem_cons.2 ⟨hl, List.forall_mem_cons.2 ⟨he, List.forall_mem_cons.2 ⟨hr, nofun⟩⟩⟩
  have hcolumns : (Select.ofColumns ["x"]).Sound := Select.sound_ofColumns (by decide)
  have htable : Inert "samples" := by decide
  have hsteps : ∀ t ∈ bothSteps, t.Sound :=
    List.forall_mem_cons.2 ⟨htable, List.forall_mem_cons.2 ⟨hl, List.forall_mem_cons.2
      ⟨hr, List.forall_mem_cons.2 ⟨trivial, nofun⟩⟩⟩⟩
  have hnamed : ∀ q ∈ [("a", With.Query.fragment labelled)], Inert q.1 ∧ q.2.Sound :=
    List.forall_mem_cons.2 ⟨⟨by decide, hl⟩, nofun⟩
  exact ⟨hand _ _ hl hr, hjoin _ _ (by decide) hthree, hwrap _ hr, hsequence _ hpair,
    (hselect _ _ hcolumns hsteps).2.1, hwith _ _ hnamed hr, hassoc _ _ _ hl hr hl,
    ((hblank .empty (by decide)).1 ranged).1⟩

end Crosstab.Sql
