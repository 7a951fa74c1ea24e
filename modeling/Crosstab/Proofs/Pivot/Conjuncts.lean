import Crosstab.Proofs.Names
import Crosstab.Proofs.Pivot.Condition
import Crosstab.Proofs.Value

/-!
# The conjuncts of a pivot condition

The condition of a context is a conjunction: of the time window, of each entry and of each condition
that is put together already. It has the same conjuncts whichever way the filters are added, all at
once or one list after another. Only the place of the conditions that are put together depends on
it, since entries stand before them in each list.
-/

namespace Crosstab

open Crosstab.Filter Sql

/-! ## Predicates and the parts that they are made of -/

namespace Filter.Scope

variable {scope : Scope}

/-- The predicate has the text and the arguments of the parts; an absent one has none. -/
def Spells (p? : Option Predicate) (parts : List Fragment) : Prop :=
  match p? with
  | none => written parts = []
  | some p => written parts ≠ [] ∧ p.sql = " AND ".intercalate ((written parts).map (·.sql)) ∧
      p.args = (written parts).flatMap (·.args)

theorem written_append (ps qs : List Fragment) : written (ps ++ qs) = written ps ++ written qs :=
  List.filter_append ps qs

theorem Spells.both {p? q? : Option Predicate} {ps qs : List Fragment} (hp : Spells p? ps)
    (hq : Spells q? qs) : Spells (Predicate.both? p? q?) (ps ++ qs) := by
  cases p? with
  | none =>
    have hnone : written ps = [] := hp
    have hwritten : written (ps ++ qs) = written qs := by
      rw [written_append, hnone, List.nil_append]
    show Spells q? (ps ++ qs)
    unfold Spells
    rw [hwritten]
    exact hq
  | some p =>
    cases q? with
    | none =>
      have hnone : written qs = [] := hq
      have hwritten : written (ps ++ qs) = written ps := by
        rw [written_append, hnone, List.append_nil]
      show Spells (some p) (ps ++ qs)
      unfold Spells
      rw [hwritten]
      exact hp
    | some q =>
      obtain ⟨hps, hpsql, hpargs⟩ := hp
      obtain ⟨hqs, hqsql, hqargs⟩ := hq
      have hpne : (written ps).map (·.sql) ≠ [] := fun h => hps (List.map_eq_nil_iff.1 h)
      have hqne : (written qs).map (·.sql) ≠ [] := fun h => hqs (List.map_eq_nil_iff.1 h)
      refine ⟨?_, ?_, ?_⟩
      · rw [written_append]
        exact List.append_ne_nil_of_left_ne_nil hps _
      · show p.sql ++ " " ++ "AND" ++ " " ++ q.sql = _
        rw [written_append, List.map_append, intercalate_append _ hpne hqne, ← hpsql, ← hqsql]
        simp only [String.append_assoc]
        rfl
      · show p.args ++ q.args = _
        rw [written_append, List.flatMap_append, ← hpargs, ← hqargs]

/-- The fragment of a predicate is made of the parts of the predicate. -/
theorem Spells.isConjunction {p? : Option Predicate} {parts : List Fragment} {f : Fragment}
    (h : Spells p? parts) (hf : Predicate.fragment? p? = .ok f) : IsConjunction f parts := by
  cases p? with
  | none =>
    have hnone : written parts = [] := h
    obtain rfl := Except.ok.inj hf
    constructor
    · rw [hnone]
      rfl
    · rw [hnone]
      rfl
  | some p =>
    obtain ⟨-, hsql, hargs⟩ := h
    obtain ⟨hfsql, hfargs⟩ := Fragment.of_inversion hf
    exact ⟨hfsql.trans hsql, hfargs.trans hargs⟩

/-- A conjunction becomes a fragment, which is the only part of it. -/
theorem Conjunctive.spells {p? : Option Predicate} (h : Conjunctive p?) :
    ∃ f, Predicate.fragment? p? = .ok f ∧ Spells p? [f] := by
  cases p? with
  | none => exact ⟨.empty, rfl, rfl⟩
  | some p =>
    obtain ⟨f, hf, hsql, hargs, -⟩ := (h p rfl).1.fragment
    have hblank : f.isBlank = false := by
      rw [Fragment.isBlank, hsql]
      exact p.isBlank_sql
    have hwritten : written [f] = [f] := by simp [written, hblank]
    refine ⟨f, hf, ?_⟩
    unfold Spells
    rw [hwritten]
    refine ⟨List.cons_ne_nil _ _, ?_, ?_⟩
    · rw [List.map_singleton, String.intercalate_singleton, hsql]
    · rw [List.flatMap_singleton, hargs]

/-- The condition of an entry on its own. -/
def entryCondition (scope : Scope) (e : Entry) : Outcome Fragment := do
  Predicate.fragment? (← scope.entry e)

/-- The condition of a time window on its own. -/
def windowCondition (scope : Scope) (time : Value) : Outcome Fragment := do
  Predicate.fragment? (← scope.window time)

theorem entries_spell (scope : Scope) (es : List Entry) :
    (∃ ps own, es.mapM scope.entry = .ok ps ∧ es.mapM scope.entryCondition = .ok own ∧
      Spells (Predicate.all? ps) own) ∨
    ∃ e, es.mapM scope.entry = .error e ∧ es.mapM scope.entryCondition = .error e := by
  have hlists : (∃ ps own, es.mapM scope.entry = .ok ps ∧ es.mapM scope.entryCondition = .ok own ∧
      List.Forall₂ Spells ps (own.map fun f => [f])) ∨
      ∃ e, es.mapM scope.entry = .error e ∧ es.mapM scope.entryCondition = .error e := by
    induction es with
    | nil => exact .inl ⟨[], [], rfl, rfl, .nil⟩
    | cons e es ih =>
      simp only [List.mapM_cons]
      cases hentry : scope.entry e with
      | error err =>
        have hown : scope.entryCondition e = .error err := by rw [entryCondition, hentry]; rfl
        rw [hown]
        exact .inr ⟨err, rfl, rfl⟩
      | ok p? =>
        obtain ⟨f, hf, hspells⟩ := ((entry_yields e).of_ok hentry).conjunctive.spells
        have hown : scope.entryCondition e = .ok f := by rw [entryCondition, hentry]; exact hf
        rw [hown]
        rcases ih with ⟨ps, own, hps, hown, hall⟩ | ⟨err, hps, hown⟩
        · rw [hps, hown]
          exact .inl ⟨p? :: ps, f :: own, rfl, rfl, .cons hspells hall⟩
        · rw [hps, hown]
          exact .inr ⟨err, rfl, rfl⟩
  rcases hlists with ⟨ps, own, hps, hown, hall⟩ | hfail
  · refine .inl ⟨ps, own, hps, hown, ?_⟩
    have hflat := forall₂_all? (R := Spells) rfl Spells.both hall
    rwa [← List.flatMap_def, List.flatMap_singleton'] at hflat
  · exact .inr hfail

end Filter.Scope

namespace Pivot

/-! ## The conditions of a context -/

/-- The condition of a restriction on its own. -/
def Restriction.condition (scope : Scope) : Restriction → Outcome Fragment
  | .entry e => scope.entryCondition e
  | .fragment f => .ok f

/-- The conditions of restrictions in the order in which they are put together: the entries stand
before what is put together already. -/
def Context.conditions (scope : Scope) (rs : List Restriction) : Outcome (List Fragment) := do
  return (← (Context.parts rs).1.mapM scope.entryCondition) ++ (Context.parts rs).2

namespace Context

/-- The condition of a window and of entries, followed by conditions. -/
theorem join_entries {window? p? : Option Predicate} {window base : Fragment} {own : List Fragment}
    (hwindow : Scope.Spells window? [window]) (hown : Scope.Spells p? own)
    (hbase : Predicate.fragment? (Predicate.both? window? p?) = .ok base) (after : List Fragment) :
    Fragment.join " AND " (base :: after) = Fragment.join " AND " (window :: (own ++ after)) := by
  have hconjunction := (hwindow.both hown).isConjunction hbase
  have hnested := join_nested hconjunction [] after
  rwa [List.nil_append, List.nil_append, List.singleton_append, List.cons_append] at hnested

/-- The condition of a context is made of its window and of its restrictions. -/
theorem baseWhere_eq (c : Context) : c.baseWhere = (do
    let window ← c.scope.windowCondition c.time
    Fragment.join " AND " (window :: (← conditions c.scope c.restrictions))) := by
  unfold baseWhere conditions Scope.whereEntries Scope.windowCondition
  simp only [Scope.entries_null]
  cases hwindow : c.scope.window c.time with
  | error e => rfl
  | ok window? =>
    have hconjunctive : Scope.Conjunctive window? := (Scope.window_yields c.time).of_ok hwindow
    obtain ⟨window, hfragment, hspells⟩ := hconjunctive.spells
    rcases Scope.entries_spell c.scope (parts c.restrictions).1 with
      ⟨ps, own, hps, hown, hall⟩ | ⟨e, hps, hown⟩
    · have hentries : c.scope.entries (parts c.restrictions).1 .null = .ok (Predicate.all? ps) := by
        rw [Scope.entries_null, hps]
        rfl
      have hboth : Scope.Conjunctive (Predicate.both? window? (Predicate.all? ps)) :=
        hconjunctive.both ((Scope.entries_yields _ _).of_ok hentries)
      obtain ⟨base, hbase, -⟩ := hboth.fragment
      have hjoin := join_entries hspells hall hbase (parts c.restrictions).2
      simp only [bind, Except.bind, pure, Except.pure, hfragment, hps, hown, hbase]
      exact hjoin
    · simp only [bind, Except.bind, hfragment, hps, hown]

/-- Further restrictions are added to the condition of a context. -/
theorem whereWith_eq (c : Context) (extra : List Restriction) : c.whereWith extra = (do
    let base ← c.baseWhere
    Fragment.join " AND " (base :: (← conditions c.scope extra))) := by
  unfold whereWith conditions
  simp only [Scope.entries_null]
  cases hbase : c.baseWhere with
  | error e => rfl
  | ok base =>
    rcases Scope.entries_spell c.scope (parts extra).1 with
      ⟨ps, own, hps, hown, hall⟩ | ⟨e, hps, hown⟩
    · have hentries : c.scope.entries (parts extra).1 .null = .ok (Predicate.all? ps) := by
        rw [Scope.entries_null, hps]
        rfl
      have hconjunctive : Scope.Conjunctive (Predicate.all? ps) :=
        (Scope.entries_yields _ _).of_ok hentries
      obtain ⟨f, hf, -⟩ := hconjunctive.fragment
      have hjoin := join_nested (hall.isConjunction hf) [base] (parts extra).2
      simp only [bind, Except.bind, pure, Except.pure, hps, hown, hf]
      exact hjoin
    · simp only [bind, Except.bind, hps, hown]

/-- The parts of the condition with further restrictions: the window, those of the context and the
further ones. -/
theorem whereWith_parts {c : Context} {extra : List Restriction} {f : Fragment}
    (h : c.whereWith extra = .ok f) : ∃ window own more,
      c.scope.windowCondition c.time = .ok window ∧
      conditions c.scope c.restrictions = .ok own ∧ conditions c.scope extra = .ok more ∧
      IsConjunction f (window :: (own ++ more)) := by
  rw [whereWith_eq] at h
  obtain ⟨base, hbase, h⟩ := Outcome.bind_eq_ok.1 h
  obtain ⟨more, hmore, hjoin⟩ := Outcome.bind_eq_ok.1 h
  rw [baseWhere_eq] at hbase
  obtain ⟨window, hwindow, hbase⟩ := Outcome.bind_eq_ok.1 hbase
  obtain ⟨own, hown, hbase⟩ := Outcome.bind_eq_ok.1 hbase
  refine ⟨window, own, more, hwindow, hown, hmore, ?_⟩
  have hnested := join_nested (isConjunction_of_join hbase) [] more
  exact isConjunction_of_join (hnested ▸ hjoin)

theorem baseWhere_parts {c : Context} {f : Fragment} (h : c.baseWhere = .ok f) : ∃ window own,
    c.scope.windowCondition c.time = .ok window ∧
    conditions c.scope c.restrictions = .ok own ∧ IsConjunction f (window :: own) := by
  rw [baseWhere_eq] at h
  obtain ⟨window, hwindow, h⟩ := Outcome.bind_eq_ok.1 h
  obtain ⟨own, hown, hjoin⟩ := Outcome.bind_eq_ok.1 h
  exact ⟨window, own, hwindow, hown, isConjunction_of_join hjoin⟩

/-! ## The order of the conditions -/

/-- Every restriction becomes one condition; which come first does not matter. -/
theorem conditions_perm {scope : Scope} {rs : List Restriction} {ordered : List Fragment}
    (h : conditions scope rs = .ok ordered) :
    ∃ own, rs.mapM (Restriction.condition scope) = .ok own ∧ ordered.Perm own := by
  induction rs generalizing ordered with
  | nil =>
    obtain rfl := Outcome.pure_eq_ok.1 h
    exact ⟨[], rfl, .nil⟩
  | cons r rs ih =>
    obtain ⟨entries, hentries, h⟩ := Outcome.bind_eq_ok.1 h
    obtain rfl := Outcome.pure_eq_ok.1 h
    rw [List.mapM_cons]
    cases r with
    | entry e =>
      have hparts : (parts (.entry e :: rs)).1 = e :: (parts rs).1 := rfl
      rw [hparts, List.mapM_cons] at hentries
      obtain ⟨f, hf, hentries⟩ := Outcome.bind_eq_ok.1 hentries
      obtain ⟨rest, hrest, hentries⟩ := Outcome.bind_eq_ok.1 hentries
      obtain rfl := Outcome.pure_eq_ok.1 hentries
      have hconditions : conditions scope rs = .ok (rest ++ (parts rs).2) := by
        rw [conditions, hrest]
        rfl
      obtain ⟨own, hown, hperm⟩ := ih hconditions
      have hcondition : Restriction.condition scope (.entry e) = .ok f := hf
      rw [hcondition, hown]
      exact ⟨f :: own, rfl, hperm.cons f⟩
    | fragment f =>
      have hparts : (parts (.fragment f :: rs)).1 = (parts rs).1 := rfl
      rw [hparts] at hentries
      have hconditions : conditions scope rs = .ok (entries ++ (parts rs).2) := by
        rw [conditions, hentries]
        rfl
      obtain ⟨own, hown, hperm⟩ := ih hconditions
      have hcondition : Restriction.condition scope (.fragment f) = .ok f := rfl
      rw [hcondition, hown]
      refine ⟨f :: own, rfl, ?_⟩
      exact List.perm_middle.trans (hperm.cons f)

/-- Where each restriction becomes a condition, so do all of them together. -/
theorem conditions_of_mapM {scope : Scope} {rs : List Restriction} {own : List Fragment}
    (h : rs.mapM (Restriction.condition scope) = .ok own) :
    ∃ ordered, conditions scope rs = .ok ordered ∧ ordered.Perm own := by
  have hentries : ∀ e ∈ (parts rs).1, ∃ f, scope.entryCondition e = .ok f := by
    intro e he
    obtain ⟨r, hr, hpart⟩ := List.mem_filterMap.1 he
    obtain ⟨f, -, hf⟩ := Outcome.mem_of_mapM h hr
    cases r with
    | entry e' =>
      obtain rfl := Option.some.inj hpart
      exact ⟨f, hf⟩
    | fragment g => cases hpart
  obtain ⟨entries, hall⟩ := Outcome.mapM_isOk hentries
  have hordered : conditions scope rs = .ok (entries ++ (parts rs).2) := by
    rw [conditions, hall]
    rfl
  obtain ⟨own', hown, hperm⟩ := conditions_perm hordered
  obtain rfl := Except.ok.inj (h.symm.trans hown)
  exact ⟨_, hordered, hperm⟩

theorem condition_balanced {scope : Scope} {r : Restriction} {f : Fragment} (hr : r.Sound)
    (h : r.condition scope = .ok f) : Balanced f.sql := by
  cases r with
  | entry e =>
    obtain ⟨p?, hp, hf⟩ := Outcome.bind_eq_ok.1 h
    obtain ⟨g, hg, hbalanced⟩ := ((Scope.entry_yields e).of_ok hp).conjunctive.fragment
    rwa [← Except.ok.inj (hg.symm.trans hf)]
  | fragment g =>
    obtain rfl := Except.ok.inj h
    exact hr

/-- Sound restrictions become balanced conditions. -/
theorem conditions_builds {scope : Scope} {rs : List Restriction} (hrs : ∀ r ∈ rs, r.Sound)
    {own : List Fragment} (hown : rs.mapM (Restriction.condition scope) = .ok own) :
    ∃ ordered, conditions scope rs = .ok ordered ∧ ∀ f ∈ ordered, Balanced f.sql := by
  obtain ⟨ordered, hordered, hperm⟩ := conditions_of_mapM hown
  refine ⟨ordered, hordered, fun f hf => ?_⟩
  have hmem := hperm.mem_iff.1 hf
  rw [← Outcome.filterMap_of_mapM hown] at hmem
  obtain ⟨r, hr, hf⟩ := List.mem_filterMap.1 hmem
  cases hcondition : r.condition scope with
  | error e =>
    rw [hcondition] at hf
    exact nomatch hf
  | ok g =>
    rw [hcondition] at hf
    obtain rfl := Option.some.inj hf
    exact condition_balanced (hrs r hr) hcondition

/-- The condition of a context comes together where its window and its restrictions become
conditions. -/
theorem baseWhere_builds {c : Context} (hc : c.Sound) {window : Fragment} {own : List Fragment}
    (hwindow : c.scope.windowCondition c.time = .ok window)
    (hown : c.restrictions.mapM (Restriction.condition c.scope) = .ok own) :
    ∃ f, c.baseWhere = .ok f := by
  obtain ⟨ordered, hordered, hbalanced⟩ := conditions_builds hc hown
  have hwindowBalanced : Balanced window.sql := by
    obtain ⟨w?, hw, hf⟩ := Outcome.bind_eq_ok.1 hwindow
    obtain ⟨g, hg, hbalanced⟩ := ((Scope.window_yields c.time).of_ok hw).fragment
    rwa [← Except.ok.inj (hg.symm.trans hf)]
  obtain ⟨f, hf, -⟩ := join_carries (by decide : Inert " AND ")
    (List.forall_mem_cons.2 ⟨hwindowBalanced, hbalanced⟩)
  refine ⟨f, ?_⟩
  rw [baseWhere_eq, hwindow, hordered]
  exact hf

/-- So does its condition with further restrictions. -/
theorem whereWith_succeeds {c : Context} (hc : c.Sound) {extra : List Restriction}
    (hextra : ∀ r ∈ extra, r.Sound) {window : Fragment} {own : List Fragment}
    (hwindow : c.scope.windowCondition c.time = .ok window)
    (hown : (c.restrictions ++ extra).mapM (Restriction.condition c.scope) = .ok own) :
    ∃ f, c.whereWith extra = .ok f := by
  rw [List.mapM_append] at hown
  obtain ⟨first, hfirst, hown⟩ := Outcome.bind_eq_ok.1 hown
  obtain ⟨second, hsecond, -⟩ := Outcome.bind_eq_ok.1 hown
  obtain ⟨base, hbase⟩ := baseWhere_builds hc hwindow hfirst
  obtain ⟨ordered, hordered, hbalanced⟩ := conditions_builds hextra hsecond
  obtain ⟨f, hf, -⟩ := join_carries (by decide : Inert " AND ")
    (List.forall_mem_cons.2 ⟨baseWhere_balanced hc hbase, hbalanced⟩)
  refine ⟨f, ?_⟩
  rw [whereWith_eq, hbase, hordered]
  exact hf

/-- Entries keep their order. -/
theorem conditions_of_entries {scope : Scope} {rs : List Restriction}
    (h : ∀ r ∈ rs, r.fragmentPart = none) :
    conditions scope rs = rs.mapM (Restriction.condition scope) := by
  have hentries : ∃ es : List Entry, rs = es.map .entry := by
    induction rs with
    | nil => exact ⟨[], rfl⟩
    | cons r rs ih =>
      obtain ⟨hr, hrs⟩ := List.forall_mem_cons.1 h
      obtain ⟨es, rfl⟩ := ih hrs
      cases r with
      | entry e => exact ⟨e :: es, rfl⟩
      | fragment f => cases hr
  obtain ⟨es, rfl⟩ := hentries
  have hparts : parts (es.map .entry) = (es, []) := by
    simp [parts, List.filterMap_map, Restriction.entryPart,
      Restriction.fragmentPart]
  rw [conditions, hparts, List.mapM_map]
  simp only [List.append_nil]
  exact bind_pure _

/-- Conditions of lists that follow each other are in some order those of the whole list. -/
theorem conditions_append {scope : Scope} {rs ss : List Restriction} {ps qs : List Fragment}
    (hrs : conditions scope rs = .ok ps) (hss : conditions scope ss = .ok qs) :
    ∃ own, (rs ++ ss).mapM (Restriction.condition scope) = .ok own ∧ (ps ++ qs).Perm own := by
  obtain ⟨own, hown, hperm⟩ := conditions_perm hrs
  obtain ⟨more, hmore, hperm'⟩ := conditions_perm hss
  refine ⟨own ++ more, ?_, hperm.append hperm'⟩
  rw [List.mapM_append, hown, hmore]
  rfl

/-- With all restrictions in the context, with some of them on top and with more of them on top, the
condition has the same parts. -/
theorem same_conjuncts {c : Context} {a b : List Restriction} {f g h : Fragment}
    (hf : { c with restrictions := c.restrictions ++ a }.whereWith b = .ok f)
    (hg : { c with restrictions := c.restrictions ++ a ++ b }.baseWhere = .ok g)
    (hh : c.whereWith (a ++ b) = .ok h) :
    (∃ window own, c.scope.windowCondition c.time = .ok window ∧
      (c.restrictions ++ a ++ b).mapM (Restriction.condition c.scope) = .ok own ∧
      ∀ w ∈ [f, g, h], ∃ parts, parts.Perm (window :: own) ∧ IsConjunction w parts) ∧
    ((∀ r ∈ c.restrictions ++ a ++ b, r.fragmentPart = none) → f = g ∧ g = h) := by
  have hfexists : ∃ window own more, c.scope.windowCondition c.time = .ok window ∧
      conditions c.scope (c.restrictions ++ a) = .ok own ∧ conditions c.scope b = .ok more ∧
      IsConjunction f (window :: (own ++ more)) := whereWith_parts hf
  have hgexists : ∃ window own, c.scope.windowCondition c.time = .ok window ∧
      conditions c.scope (c.restrictions ++ a ++ b) = .ok own ∧
      IsConjunction g (window :: own) := baseWhere_parts hg
  obtain ⟨window, fown, fmore, hwindow, hfown, hfmore, hfparts⟩ := hfexists
  obtain ⟨window', gown, hwindow', hgown, hgparts⟩ := hgexists
  obtain ⟨window'', hown, hmore, hwindow'', hhown, hhmore, hhparts⟩ := whereWith_parts hh
  obtain rfl := Except.ok.inj (hwindow.symm.trans hwindow')
  obtain rfl := Except.ok.inj (hwindow.symm.trans hwindow'')
  obtain ⟨own, howns, hfperm⟩ := conditions_append hfown hfmore
  obtain ⟨gall, hgall, hgperm⟩ := conditions_perm hgown
  obtain ⟨hall, hhall, hhperm⟩ := conditions_append hhown hhmore
  rw [← List.append_assoc] at hhall
  obtain rfl := Except.ok.inj (howns.symm.trans hgall)
  obtain rfl := Except.ok.inj (howns.symm.trans hhall)
  constructor
  · refine ⟨window, own, hwindow, howns, ?_⟩
    simp only [List.forall_mem_cons]
    exact ⟨⟨_, hfperm.cons window, hfparts⟩, ⟨_, hgperm.cons window, hgparts⟩,
      ⟨_, hhperm.cons window, hhparts⟩, nofun⟩
  · intro hentries
    have hordered : ∀ {rs ss : List Restriction} {ps qs : List Fragment},
        rs ++ ss = c.restrictions ++ a ++ b → conditions c.scope rs = .ok ps →
        conditions c.scope ss = .ok qs → ps ++ qs = own := by
      intro rs ss ps qs hlists hps hqs
      rw [← hlists, List.forall_mem_append] at hentries
      rw [conditions_of_entries hentries.1] at hps
      rw [conditions_of_entries hentries.2] at hqs
      rw [← hlists, List.mapM_append, hps, hqs] at howns
      exact Except.ok.inj howns
    have hnone : conditions c.scope [] = .ok [] := rfl
    have hfall := hordered rfl hfown hfmore
    have hgall := hordered (List.append_nil _) hgown hnone
    have hhall := hordered (List.append_assoc _ _ _).symm hhown hhmore
    rw [List.append_nil] at hgall
    rw [hfall] at hfparts
    rw [hgall] at hgparts
    rw [hhall] at hhparts
    exact ⟨hfparts.unique hgparts, hgparts.unique hhparts⟩

/-! ## Restrictions to keys -/

/-- A condition that is there is not blank. -/
theorem isBlank_of_fragment? {p : Predicate} {f : Fragment}
    (h : Predicate.fragment? (some p) = .ok f) : f.isBlank = false := by
  obtain ⟨hsql, -⟩ := Fragment.of_inversion h
  rw [Fragment.isBlank, hsql]
  exact p.isBlank_sql

/-- Being among values is always a condition. -/
theorem membership_isSome {scope : Scope} {t : Scope.Target} {values : List Value}
    {p? : Option Predicate} (h : scope.membership t values false = .ok p?) : p?.isSome = true := by
  unfold Scope.membership at h
  simp only at h
  split at h
  · obtain rfl := Outcome.pure_eq_ok.1 h
    rfl
  · next hvalues =>
    obtain ⟨bound, hbound, h⟩ := Outcome.bind_eq_ok.1 h
    have hlength := (Outcome.forall₂_of_mapM hbound).length_eq
    split at h
    · next hall =>
      obtain rfl := Outcome.pure_eq_ok.1 h
      rw [beq_iff_eq] at hall
      cases bound with
      | nil =>
        have hnone : values = [] := List.length_eq_zero_iff.1 (hall.symm.trans hlength)
        exact absurd (List.isEmpty_iff.2 hnone) hvalues
      | cons b bound => rfl
    · split at h
      · obtain rfl := Outcome.pure_eq_ok.1 h
        rfl
      · obtain rfl := Outcome.pure_eq_ok.1 h
        rfl

/-- The restriction to keys is a condition of its own, however many keys there are. -/
theorem axisFilter_condition {c : Context} {field : Value} {keys : List Value} {r : Restriction}
    {f : Fragment} (h : c.axisFilter field keys = .ok r) (hf : r.condition c.scope = .ok f) :
    f.isBlank = false := by
  unfold axisFilter at h
  split at h
  · obtain rfl := Except.ok.inj h
    obtain ⟨p?, hp, hf⟩ := Outcome.bind_eq_ok.1 hf
    rw [Scope.entry_checkbox] at hp
    obtain ⟨column, -, hp⟩ := Outcome.bind_eq_ok.1 hp
    obtain ⟨t, -, hp⟩ := Outcome.bind_eq_ok.1 hp
    obtain ⟨p, rfl⟩ := Option.isSome_iff_exists.1 (membership_isSome hp)
    exact isBlank_of_fragment? hf
  · split at h
    · obtain rfl := Except.ok.inj h
      obtain rfl := Except.ok.inj hf
      decide
    · obtain ⟨column, -, h⟩ := Outcome.bind_eq_ok.1 h
      obtain ⟨g, hg, h⟩ := Outcome.bind_eq_ok.1 h
      obtain rfl := Outcome.pure_eq_ok.1 h
      obtain rfl := Except.ok.inj hf
      exact isBlank_of_fragment? hg

/-- The condition that no row meets. -/
def noRow : Fragment := ⟨"1=0", [], by decide⟩

/-- The restriction to no keys keeps no row. -/
theorem axisFilter_none {c : Context} {field : Value} {column : String} {r : Restriction}
    (hcolumn : c.schema.column field = .ok column) (h : c.axisFilter field [] = .ok r) :
    r.condition c.scope = .ok noRow := by
  unfold axisFilter at h
  split at h
  · obtain rfl := Except.ok.inj h
    obtain ⟨name, -, hentry⟩ := Scope.entry_of_column c.scope hcolumn
    show (do Predicate.fragment? (← c.scope.entry (.checkbox field []))) = _
    rw [hentry]
    rfl
  · rw [List.isEmpty_nil, if_pos rfl] at h
    obtain rfl := Except.ok.inj h
    rfl

/-! ## Contexts with further filters -/

theorem windowOn_windowOn (column : String) (time : Value) :
    windowOn column (windowOn column time) = windowOn column time := by
  cases time with
  | record members => exact congrArg Value.record (setNamed_setNamed _ _ _ members)
  | _ => rfl

/-- A context that names its own column of times is read as it is. -/
theorem make_of_resolved {schema : Schema} (settings : Settings) {column : String} {time : Value}
    (rs : List Restriction) (h : schema.resolve? (.text column) = some column) :
    make schema settings (windowOn column time) (.text column) rs =
      .ok ⟨schema, settings, column, windowOn column time, rs⟩ := by
  have htruthy : (Value.text column).truthy = true := by
    refine Value.truthy_text ?_
    rintro rfl
    obtain ⟨hname, -⟩ := Schema.agrees_of_resolve h
    exact absurd hname (by decide)
  unfold make
  simp only [Value.orElse, htruthy, if_true, Bool.true_or, Schema.require, h, windowOn_windowOn,
    bind, Except.bind, pure, Except.pure]

/-- A context has the schema and the restrictions that it is made of. -/
theorem make_parts {schema : Schema} {settings : Settings} {time timeField : Value}
    {rs : List Restriction} {c : Context} (h : make schema settings time timeField rs = .ok c) :
    c.schema = schema ∧ c.settings = settings ∧ c.time = windowOn c.timeField time ∧
      c.restrictions = rs := by
  unfold make at h
  obtain ⟨column, h⟩ : ∃ column,
      (.ok ⟨schema, settings, column, windowOn column time, rs⟩ : Outcome Context) = .ok c := by
    simp only at h
    split at h
    · obtain ⟨column, -, h⟩ := Outcome.bind_eq_ok.1 h
      exact ⟨column, h⟩
    · exact ⟨_, h⟩
  obtain rfl := Except.ok.inj h
  exact ⟨rfl, rfl, rfl, rfl⟩

/-- A context either takes any further filters and stays the same otherwise, or none. -/
theorem withFilters_cases {schema : Schema} (hplain : schema.HasPlainNames) {settings : Settings}
    {time timeField : Value} {rs : List Restriction} {c : Context}
    (hc : make schema settings time timeField rs = .ok c) :
    (∀ ss extra, { c with restrictions := ss }.withFilters extra =
      .ok { c with restrictions := ss ++ extra }) ∨
    ∃ e, ∀ extra, c.withFilters extra = .error e := by
  have hresolved : ∀ {name : Value} {column : String}, schema.resolve? name = some column →
      ∀ ss, make schema settings (windowOn column time) (.text column) ss =
        .ok ⟨schema, settings, column, windowOn column time, ss⟩ := fun hname ss =>
    make_of_resolved settings ss (Schema.resolve?_resolved hplain hname)
  unfold make at hc
  simp only at hc
  split at hc
  · obtain ⟨column, hcolumn, hc⟩ := Outcome.bind_eq_ok.1 hc
    obtain rfl := Outcome.pure_eq_ok.1 hc
    unfold Schema.require at hcolumn
    split at hcolumn
    · next found hfound =>
      obtain rfl := Except.ok.inj hcolumn
      exact .inl fun ss extra => hresolved hfound _
    · cases hcolumn
  · next hgiven =>
    -- neither a column nor a window is given, so the column of times may be missing
    obtain rfl := Outcome.pure_eq_ok.1 hc
    rw [Bool.or_eq_true, not_or] at hgiven
    obtain rfl : time = .null := by simpa using hgiven.2
    cases hdefault : schema.resolve? (.text schema.layer.defaultTimeField) with
    | some found => exact .inl fun ss extra => hresolved hdefault _
    | none =>
      have htruthy : (Value.text schema.layer.defaultTimeField).truthy = true := rfl
      have hrequire : ∃ e, schema.require (.text schema.layer.defaultTimeField) = .error e := by
        rw [Schema.require, hdefault]
        exact ⟨_, rfl⟩
      obtain ⟨e, hrequire⟩ := hrequire
      refine .inr ⟨e, fun extra => ?_⟩
      unfold withFilters make
      simp only [Option.getD_none, windowOn, Value.orElse, htruthy, if_true, Bool.true_or, hrequire]
      rfl

/-- The rows of a context do not depend on the way in which filters are added to it. Adding two
lists one after the other is adding them at once: the new context differs in nothing but the
filters, or all of these are refused alike. The condition with the second list on top, that of the
context with both lists and that with both on top are made of the same parts, the window and one for
each filter, each with its own text and arguments; without conditions that are put together already
they are the same. -/
theorem predicates_compose {schema : Schema} (hplain : schema.HasPlainNames) {settings : Settings}
    {time timeField : Value} {rs : List Restriction} {c : Context}
    (hc : make schema settings time timeField rs = .ok c) (a b : List Restriction) :
    (do (← c.withFilters a).withFilters b) = c.withFilters (a ++ b) ∧
    (∀ d, c.withFilters a = .ok d → d = { c with restrictions := c.restrictions ++ a }) ∧
    ∀ d e f g h, c.withFilters a = .ok d → c.withFilters (a ++ b) = .ok e →
      d.whereWith b = .ok f → e.baseWhere = .ok g → c.whereWith (a ++ b) = .ok h →
      (∃ window own, c.scope.windowCondition c.time = .ok window ∧
        (c.restrictions ++ a ++ b).mapM (Restriction.condition c.scope) = .ok own ∧
        ∀ w ∈ [f, g, h], ∃ parts, parts.Perm (window :: own) ∧ IsConjunction w parts) ∧
      ((∀ r ∈ c.restrictions ++ a ++ b, r.fragmentPart = none) → f = g ∧ g = h) := by
  rcases withFilters_cases hplain hc with htakes | ⟨e, hrefuses⟩
  · have hself : ∀ extra, c.withFilters extra =
        .ok { c with restrictions := c.restrictions ++ extra } := htakes c.restrictions
    refine ⟨?_, ?_, ?_⟩
    · rw [hself a, hself (a ++ b), ← List.append_assoc]
      exact htakes (c.restrictions ++ a) b
    · intro d hd
      exact Except.ok.inj (hd.symm.trans (hself a))
    · intro d e f g h hd he hf hg hh
      obtain rfl := Except.ok.inj (hd.symm.trans (hself a))
      obtain rfl := Except.ok.inj (he.symm.trans (hself (a ++ b)))
      rw [← List.append_assoc] at hg
      exact same_conjuncts hf hg hh
  · refine ⟨?_, ?_, ?_⟩
    · rw [hrefuses a, hrefuses (a ++ b)]
      rfl
    · intro d hd
      exact nomatch hd.symm.trans (hrefuses a)
    · intro d e f g h hd
      exact nomatch hd.symm.trans (hrefuses a)

/-- The packets with a flag from a time on. -/
def flagged : Context where
  schema := Scope.packets.schema
  settings := .standard
  timeField := "time"
  time := .record [("fromEpoch", .int 10), ("field", .text "time")]
  restrictions := [.entry (.checkbox (.text "syn") [.bool true])]

/-- A condition that is put together, and an entry. -/
def large : List Restriction :=
  [.fragment ⟨"t.\"size\" > ?", [.int 1000], by decide⟩,
    .entry (.checkbox (.text "SIZE") [.int 1500])]

/-- An entry with a missing value, and a condition that is put together. -/
def served : List Restriction :=
  [.entry (.checkbox (.text "port") [.text "80", .text ""]),
    .fragment ⟨"t.\"size\" < ?", [.int 9000], by decide⟩]

theorem flagged_predicates_compose :
    make Scope.packets.schema .standard
      (.record [("fromEpoch", .int 10), ("field", .text "TIME-1")]) .null
      [.entry (.checkbox (.text "syn") [.bool true])] = .ok flagged ∧
    (do (← flagged.withFilters large).withFilters served) =
      flagged.withFilters (large ++ served) ∧
    ∃ d e f g h, flagged.withFilters large = .ok d ∧ flagged.withFilters (large ++ served) = .ok e ∧
      d.whereWith served = .ok f ∧ e.baseWhere = .ok g ∧
      flagged.whereWith (large ++ served) = .ok h ∧
      ∃ window own, flagged.scope.windowCondition flagged.time = .ok window ∧
        (flagged.restrictions ++ large ++ served).mapM (Restriction.condition flagged.scope) =
          .ok own ∧
        ∀ w ∈ [f, g, h], ∃ parts, parts.Perm (window :: own) ∧ IsConjunction w parts := by
  have hplain : Scope.packets.schema.HasPlainNames := by decide +kernel
  have hmake : make Scope.packets.schema .standard
      (.record [("fromEpoch", .int 10), ("field", .text "TIME-1")]) .null
      [.entry (.checkbox (.text "syn") [.bool true])] = .ok flagged := by decide +kernel
  obtain ⟨htwice, -, hparts⟩ := predicates_compose hplain hmake large served
  have hd : flagged.withFilters large =
      .ok { flagged with restrictions := flagged.restrictions ++ large } := by decide +kernel
  have he : flagged.withFilters (large ++ served) =
      .ok { flagged with restrictions := flagged.restrictions ++ large ++ served } := by
    decide +kernel
  obtain ⟨window, hwindow⟩ : ∃ window, flagged.scope.windowCondition flagged.time = .ok window :=
    Outcome.isOk_iff.1 (by decide +kernel)
  obtain ⟨own, hown⟩ : ∃ own, (flagged.restrictions ++ large ++ served).mapM
      (Restriction.condition flagged.scope) = .ok own := Outcome.isOk_iff.1 (by decide +kernel)
  have hfirst : ∀ r ∈ flagged.restrictions, r.Sound := List.forall_mem_singleton.2 trivial
  have hlarge : ∀ r ∈ large, r.Sound :=
    List.forall_mem_cons.2 ⟨(by decide : Balanced "t.\"size\" > ?"),
      List.forall_mem_singleton.2 trivial⟩
  have hserved : ∀ r ∈ served, r.Sound :=
    List.forall_mem_cons.2 ⟨trivial,
      List.forall_mem_singleton.2 (by decide : Balanced "t.\"size\" < ?")⟩
  have hboth : ∀ r ∈ flagged.restrictions ++ large, r.Sound :=
    List.forall_mem_append.2 ⟨hfirst, hlarge⟩
  obtain ⟨f, hf⟩ := whereWith_succeeds
    (c := { flagged with restrictions := flagged.restrictions ++ large }) hboth hserved hwindow hown
  obtain ⟨g, hg⟩ := baseWhere_builds
    (c := { flagged with restrictions := flagged.restrictions ++ large ++ served })
    (List.forall_mem_append.2 ⟨hboth, hserved⟩) hwindow hown
  obtain ⟨h, hh⟩ := whereWith_succeeds (c := flagged) hfirst
    (List.forall_mem_append.2 ⟨hlarge, hserved⟩) hwindow (List.append_assoc .. ▸ hown)
  exact ⟨hmake, htwice, _, _, f, g, h, hd, he, hf, hg, hh, (hparts _ _ f g h hd he hf hg hh).1⟩

end Context

end Pivot

end Crosstab
