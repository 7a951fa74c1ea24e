import Crosstab.Proofs.Filter.Chain

/-!
# Conditions of a base specification

The conditions of a base specification stand one after the other with their connectives between
them, and parentheses only around all of them. So SQL reads them by precedence: some run of
conditions without a disjunction between them holds. That is what they say from left to right, as
the conditions of an entry do, exactly if no conjunction comes after a disjunction.
-/

namespace Crosstab.Filter.Scope

open Sql Text

variable {scope : Scope} {fs : Nat → Formula}

/-- The chain says what its conditions say with their connectives between them. -/
inductive Strings (fs : Nat → Formula) : Option Predicate → List (Logic × Nat) → Prop where
  | start : Strings fs none []
  | grown {p : Predicate} {logic : Logic} {i : Nat} {rest : List (Logic × Nat)}
    (meaning : p.Forms fs (.part i) rest) : Strings fs (some p) ((logic, i) :: rest)

/-- A part that is added to a chain stands behind it, with its own connective between them. -/
theorem addBasePart_strings {members : List (String × Value)} {p? : Option Predicate}
    {logic : Logic} (hp : scope.basePart members = .ok p?) (hlogic : joinOf members = .ok logic)
    {i : Nat} (hpart : IsPart fs (p?, i)) {chain? : Option Predicate} {present : List (Logic × Nat)}
    (h : Strings fs chain? present) :
    ∃ next?, scope.addBasePart chain? (.record members) = .ok next? ∧
      argsOf next? = argsOf chain? ++ argsOf p? ∧
      Strings fs next? (present ++ if p?.isSome then [(logic, i)] else []) := by
  cases p? with
  | none =>
    refine ⟨chain?, ?_, (List.append_nil _).symm, ?_⟩
    · rw [addBasePart, hp]
      cases chain? <;> rfl
    · rw [show (if (none : Option Predicate).isSome then [(logic, i)] else []) = [] from rfl,
        List.append_nil]
      exact h
  | some p =>
    cases h with
    | start =>
      refine ⟨some p, ?_, rfl, .grown (hpart p rfl)⟩
      rw [addBasePart, hp]
      rfl
    | @grown chain first j rest hmeaning =>
      refine ⟨some (.link chain logic p), ?_, rfl, .grown (hmeaning.link logic (hpart p rfl))⟩
      rw [addBasePart, hp, hlogic]
      rfl

/-- All parts of a base specification come to a chain. -/
theorem foldlM_addBasePart {conds : List (List (String × Value))} {ps : List (Option Predicate)}
    {joins : List Logic} {frags : List Fragment}
    (hps : List.Forall₂ (fun members p? => scope.basePart members = .ok p?) conds ps)
    (hjoins : List.Forall₂ (fun members logic => joinOf members = .ok logic) conds joins)
    (hfrags : List.Forall₂ (fun p? f => Predicate.fragment? p? = .ok f) ps frags)
    {k : Nat} (hparts : ∀ part ∈ ps.zipIdx k, IsPart fs part) {joint : Nat → Logic}
    (hjoint : ∀ join ∈ joins.zipIdx k, joint join.2 = join.1) {chain? : Option Predicate}
    {present : List (Logic × Nat)} (h : Strings fs chain? present) :
    ∃ next?, (conds.map Value.record).foldlM scope.addBasePart chain? = .ok next? ∧
      argsOf next? = argsOf chain? ++ ps.flatMap argsOf ∧
      Strings fs next? (present ++ attached joint (frags.zipIdx k)) := by
  induction hps generalizing joins frags k chain? present with
  | nil =>
    cases hfrags
    refine ⟨chain?, rfl, (List.append_nil _).symm, ?_⟩
    rw [show attached joint (List.zipIdx [] k) = [] from rfl, List.append_nil]
    exact h
  | @cons members p? conds ps hp _ ih =>
    cases hjoins with
    | @cons _ logic _ joins hlogic hjoins =>
    cases hfrags with
    | @cons _ f _ frags hf hfrags =>
    rw [List.zipIdx_cons] at hparts hjoint
    obtain ⟨hpart, hparts⟩ := List.forall_mem_cons.1 hparts
    obtain ⟨hfirst, hjoint⟩ := List.forall_mem_cons.1 hjoint
    obtain ⟨next?, hadd, hargs, hnext⟩ := addBasePart_strings hp hlogic hpart h
    obtain ⟨last?, hfold, hallargs, hlast⟩ := ih hjoins hfrags hparts hjoint hnext
    refine ⟨last?, ?_, ?_, ?_⟩
    · rw [List.map_cons, List.foldlM_cons, hadd]
      exact hfold
    · rw [hallargs, hargs, List.flatMap_cons, List.append_assoc]
    · have hattached : attached joint ((f :: frags).zipIdx k) =
          (if p?.isSome then [(logic, k)] else []) ++ attached joint (frags.zipIdx (k + 1)) := by
        have hblank := (fragment?_inversion hf).1
        rw [List.zipIdx_cons, attached]
        cases p? with
        | none => rw [List.filter_cons_of_neg (by simpa using hblank)]; rfl
        | some p => rw [List.filter_cons_of_pos (by simpa using hblank), List.map_cons, hfirst]; rfl
      rw [hattached, ← List.append_assoc]
      exact hlast

/-- The condition of the whole chain holds if all conditions of some run of it do. -/
theorem Strings.closed {chain? : Option Predicate} {present : List (Logic × Nat)}
    (h : Strings fs chain? present) :
    ∃ (f : Fragment) (s? : Option Scheme),
      Predicate.fragment? (chain?.map .group) = .ok f ∧ f.args = argsOf chain? ∧
      f.formula? = s?.map (·.fill fs) ∧ ∀ w, s?.map (·.holds w) = someRun w present := by
  cases h with
  | start => exact ⟨.empty, none, rfl, rfl, rfl, fun _ => rfl⟩
  | @grown p logic i rest hmeaning =>
    obtain ⟨f, hf, -, hargs, hformula⟩ := fragment_of_forms hmeaning.group
    refine ⟨f, some ((Scheme.part i).byPrecedence rest), hf, hargs, hformula, fun w => ?_⟩
    exact congrArg some (Scheme.holds_byPrecedence_part w i rest)

/-- The conditions of a base specification that is read are closed. -/
theorem baseParts_closed {conds : List (List (String × Value))} {ps : List (Option Predicate)}
    (h : conds.mapM scope.basePart = .ok ps) : ∀ p? ∈ ps, Closed p? :=
  (Outcome.Yields.mapM fun members _ => basePart_yields members).of_ok h

/-- The conditions of a base specification mean that all conditions of one of their runs hold, where
a disjunction ends a run. This is what they mean from left to right exactly if no conjunction comes
after a disjunction. Their arguments come behind those of the window, in their order. -/
theorem base_conditions_mean_their_runs {v : Value} {members : List (String × Value)}
    {conds : List (List (String × Value))} {w? : Option Predicate} {ps : List (Option Predicate)}
    {joins : List Logic} (hread : readBaseSpec v = .ok (some (.record members)))
    (hconds : baseConditions members = .ok (conds.map .record))
    (hwindow : scope.window ((valueOf? "time" members).getD .null) = .ok w?)
    (hps : conds.mapM scope.basePart = .ok ps) (hjoins : conds.mapM joinOf = .ok joins) :
    ∃ p? whole inWindow f frags, scope.baseSpec v = .ok (Predicate.both? w? p?) ∧
      Predicate.fragment? (Predicate.both? w? p?) = .ok whole ∧
      Predicate.fragment? w? = .ok inWindow ∧ Predicate.fragment? p? = .ok f ∧
      ps.mapM Predicate.fragment? = .ok frags ∧
      whole.args = inWindow.args ++ frags.flatMap (·.args) ∧
      (let present := attached (fun i => (joins[i]?).getD .and) frags.zipIdx
      f.IsMadeOf frags (fun w => someRun w present) ∧
        ((∀ w, someRun w present = fromLeft w present) ↔ IsOrdered present.tail)) := by
  have hclosed := baseParts_closed hps
  obtain ⟨fs, hparts⟩ := exists_parts hclosed
  obtain ⟨frags, hfrags⟩ := Outcome.mapM_isOk fun p? hp =>
    (hclosed p? hp).conjunctive.fragment.imp fun f hf => hf.1
  have hforall := Outcome.forall₂_of_mapM hfrags
  let joint : Nat → Logic := fun i => (joins[i]?).getD .and
  have hjoint : ∀ join ∈ joins.zipIdx, joint join.2 = join.1 := by
    rintro ⟨logic, i⟩ hjoin
    have hat : joins[i]? = some logic := List.mem_zipIdx_iff_getElem?.1 hjoin
    simp only [joint, hat, Option.getD_some]
  obtain ⟨chain?, hfold, hchainargs, hchain⟩ := foldlM_addBasePart (Outcome.forall₂_of_mapM hps)
    (Outcome.forall₂_of_mapM hjoins) hforall hparts hjoint .start
  obtain ⟨f, s?, hf, hargs, hformula, htruth⟩ := hchain.closed
  have hbase : scope.baseSpec v = .ok (Predicate.both? w? (chain?.map .group)) := by
    rw [baseSpec, hread]
    show (do
      let inWindow ← scope.window ((valueOf? "time" members).getD .null)
      let chain? ← (← baseConditions members).foldlM scope.addBasePart none
      return Predicate.both? inWindow (chain?.map .group)) = _
    rw [hwindow, hconds]
    show (do
      let chain? ← (conds.map Value.record).foldlM scope.addBasePart none
      return Predicate.both? w? (chain?.map .group)) = _
    rw [hfold]
    rfl
  have hconjunctive : Conjunctive (Predicate.both? w? (chain?.map .group)) :=
    (baseSpec_yields (fun _ _ => trivial) (Outcome.Yields.any _)).of_ok hbase
  obtain ⟨inWindow, hinWindow, -⟩ := ((window_yields _).of_ok hwindow).fragment
  obtain ⟨whole, hwhole, -⟩ := hconjunctive.fragment
  refine ⟨_, whole, inWindow, f, frags, hbase, hwhole, hinWindow, hf, hfrags, ?_, ?_, ?_⟩
  · rw [(fragment?_inversion hwhole).2, argsOf_both?, (fragment?_inversion hinWindow).2,
      ← (fragment?_inversion hf).2, hargs, hchainargs, args_of_fragments hforall]
    rfl
  · exact ⟨fs, s?, formulas_of_parts hparts hfrags, hformula, htruth⟩
  · exact someRun_eq_fromLeft_iff (nodup_attached _ frags)

/-- A disjunction and then a conjunction, on sizes and a flag. -/
def mixedParts : List (List (String × Value)) :=
  [[("field", .text "size"), ("op", .text "GT"), ("value", .int 5)],
    [("field", .text "size"), ("op", .text "LT"), ("value", .int 3), ("join", .text "OR")],
    [("field", .text "syn"), ("op", .text "EQ"), ("value", .bool true), ("join", .text "AND")]]

/-- The members of a base specification with them. -/
def mixed : List (String × Value) :=
  [("conditions", .list (mixedParts.map .record))]

/-- What is true of clauses if exactly those hold that compare by the sign for being greater. -/
def greaterOnly (ts : List Term) : Bool :=
  ts.any (·.spells ">")

theorem mixedParts_come_out :
    ∃ ps frags, mixedParts.mapM packets.basePart = .ok ps ∧
      ps.mapM Predicate.fragment? = .ok frags ∧
      mixedParts.mapM joinOf = .ok [.and, .or, .and] ∧
      attached (fun i => ([Logic.and, .or, .and][i]?).getD .and) frags.zipIdx =
        [(.and, 0), (.or, 1), (.and, 2)] ∧
      frags.map (fun g => (g.isBlank, g.formula?.map (·.holds greaterOnly))) =
        [(false, some true), (false, some false), (false, some false)] := by
  let joint : Nat → Logic := fun i => ([Logic.and, .or, .and][i]?).getD .and
  have hparts : ((mixedParts.mapM packets.basePart).toOption.bind fun ps =>
      (ps.mapM Predicate.fragment?).toOption.map fun frags =>
        (attached joint frags.zipIdx,
          frags.map fun g => (g.isBlank, g.formula?.map (·.holds greaterOnly)))) =
      some ([(.and, 0), (.or, 1), (.and, 2)],
        [(false, some true), (false, some false), (false, some false)]) := by decide +kernel
  obtain ⟨ps, hps, hparts⟩ := Option.bind_eq_some_iff.1 hparts
  obtain ⟨frags, hfrags, hparts⟩ := Option.map_eq_some_iff.1 hparts
  obtain ⟨hattached, htruths⟩ := Prod.mk.inj hparts
  rw [Outcome.toOption_eq_some] at hps hfrags
  exact ⟨ps, frags, hps, hfrags, by decide +kernel, hattached, htruths⟩

theorem mixed_conditions_mean_their_runs :
    ∃ ps, readBaseSpec (.record mixed) = .ok (some (.record mixed)) ∧
      baseConditions mixed = .ok (mixedParts.map .record) ∧
      packets.window ((valueOf? "time" mixed).getD .null) = .ok none ∧
      mixedParts.mapM packets.basePart = .ok ps ∧
      mixedParts.mapM joinOf = .ok [.and, .or, .and] ∧
      ∃ p? f frags, packets.baseSpec (.record mixed) = .ok p? ∧
        Predicate.fragment? p? = .ok f ∧ ps.mapM Predicate.fragment? = .ok frags ∧
        f.args = frags.flatMap (·.args) ∧ f.IsMadeOf frags fun w => some (w 0 || w 1 && w 2) := by
  have hread : readBaseSpec (.record mixed) = .ok (some (.record mixed)) := rfl
  have hconds : baseConditions mixed = .ok (mixedParts.map .record) := rfl
  have hwindow : packets.window ((valueOf? "time" mixed).getD .null) = .ok none := rfl
  obtain ⟨ps, frags, hps, hfrags, hjoins, hattached, -⟩ := mixedParts_come_out
  obtain ⟨p?, f, inWindow, g, frags', hbase, hf, hinWindow, hg, hfrags', hargs, hmade, -⟩ :=
    base_conditions_mean_their_runs hread hconds hwindow hps hjoins
  obtain rfl : frags = frags' := Except.ok.inj (hfrags.symm.trans hfrags')
  obtain rfl : Fragment.empty = inWindow := Except.ok.inj hinWindow
  have hp : Predicate.both? none p? = p? := by cases p? <;> rfl
  rw [hp] at hbase hf
  obtain rfl : f = g := Except.ok.inj (hf.symm.trans hg)
  rw [hattached] at hmade
  have hruns : ∀ w : Nat → Bool, someRun w [(.and, 0), (.or, 1), (.and, 2)] =
      some (w 0 || w 1 && w 2) := fun w => by simp [someRun, runsFrom]
  simp only [hruns] at hmade
  exact ⟨ps, hread, hconds, hwindow, hps, hjoins, p?, f, frags, hbase, hf, hfrags, hargs, hmade⟩

/-- A conjunction after a disjunction does not mean what stands there from left to right: the first
of the conditions is enough, although the last one does not hold. -/
theorem mixed_conditions_regroup :
    ∃ ps frags f, mixedParts.mapM packets.basePart = .ok ps ∧
      ps.mapM Predicate.fragment? = .ok frags ∧
      mixedParts.mapM joinOf = .ok [.and, .or, .and] ∧
      (do Predicate.fragment? (← packets.baseSpec (.record mixed))) = .ok f ∧
      ¬f.IsMadeOf frags fun w =>
        fromLeft w (attached (fun i => ([Logic.and, .or, .and][i]?).getD .and) frags.zipIdx) := by
  obtain ⟨ps, frags, hps, hfrags, hjoins, hattached, htruths⟩ := mixedParts_come_out
  have hwhole : ((packets.baseSpec (.record mixed)).toOption.bind fun p? =>
      (Predicate.fragment? p?).toOption.bind fun f => f.formula?.map (·.holds greaterOnly)) =
      some true := by decide +kernel
  obtain ⟨p?, hbase, hwhole⟩ := Option.bind_eq_some_iff.1 hwhole
  obtain ⟨f, hf, hwhole⟩ := Option.bind_eq_some_iff.1 hwhole
  rw [Outcome.toOption_eq_some] at hbase hf
  refine ⟨ps, frags, f, hps, hfrags, hjoins, ?_, fun hmade => ?_⟩
  · rw [hbase]
    exact hf
  · obtain ⟨fs, hfs, htruth⟩ := hmade.holds greaterOnly
    rw [hwhole, hattached] at htruth
    obtain ⟨_, _, rfl, -, htruths⟩ := List.map_eq_cons_iff.1 htruths
    obtain ⟨_, _, rfl, -, htruths⟩ := List.map_eq_cons_iff.1 htruths
    obtain ⟨last, _, rfl, hlast, -⟩ := List.map_eq_cons_iff.1 htruths
    obtain ⟨hblank, hfalse⟩ := Prod.mk.inj hlast
    rw [hfs 2 last rfl hblank] at hfalse
    have hnot : (fs 2).holds greaterOnly = false := Option.some.inj hfalse
    simp [fromLeft, joined, Logic.join, hnot] at htruth

end Crosstab.Filter.Scope
