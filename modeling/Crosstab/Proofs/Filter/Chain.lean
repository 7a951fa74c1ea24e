import Crosstab.Proofs.Filter.Conjunction
import Crosstab.Proofs.Sql.Scheme

/-!
# Chains of conditions mean what they say from left to right

The conditions of an entry join each other from left to right. SQL reads them by precedence, so what
is already there is put into parentheses where the connective changes, and conditions that restrict
nothing drop out on the way. What a chain says after each of its conditions is what it says from
left to right.
-/

namespace Crosstab.Filter

open Sql Text

/-! ## Parts of a chain -/

/-- A numbered condition says what the part of its number does, if it is there. -/
def IsPart (fs : Nat → Formula) (part : Option Predicate × Nat) : Prop :=
  ∀ p ∈ part.1, p.Forms fs (.part part.2) []

/-- Closed conditions are parts of what is put together from them. -/
theorem exists_parts {ps : List (Option Predicate)} (h : ∀ p? ∈ ps, Scope.Closed p?) :
    ∃ fs, ∀ part ∈ ps.zipIdx, IsPart fs part := by
  have hsays : ∀ i : Nat, ∃ f : Formula, ∀ p : Predicate, ps[i]? = some (some p) →
      Says p.sql p.args ⟨f, []⟩ := by
    intro i
    cases hi : ps[i]? with
    | none => exact ⟨.clause [], nofun⟩
    | some p? =>
      cases p? with
      | none => exact ⟨.clause [], nofun⟩
      | some p =>
        obtain ⟨hsound, hclosed⟩ := h _ (List.mem_of_getElem? hi) p rfl
        obtain ⟨⟨f, rest⟩, hc, hrest, -⟩ := hsound.meaning
        obtain rfl : rest = [] := hrest hclosed
        refine ⟨f, ?_⟩
        rintro _ ⟨⟩
        exact hc
  choose fs hfs using hsays
  refine ⟨fs, ?_⟩
  rintro ⟨p?, i⟩ hpart p ⟨⟩
  exact hfs i p (List.mem_zipIdx_iff_getElem?.1 hpart)

/-- The arguments of a condition that may be absent. -/
def argsOf (p? : Option Predicate) : List Value :=
  p?.elim [] (·.args)

theorem argsOf_both? (p? q? : Option Predicate) :
    argsOf (Predicate.both? p? q?) = argsOf p? ++ argsOf q? := by
  cases p? with
  | none => rfl
  | some p =>
    cases q? with
    | none => exact (List.append_nil _).symm
    | some q => rfl

/-- The fragment of a condition is blank exactly if there is none. -/
theorem fragment?_inversion {p? : Option Predicate} {f : Fragment}
    (h : Predicate.fragment? p? = .ok f) : f.isBlank = p?.isNone ∧ f.args = argsOf p? := by
  cases p? with
  | none =>
    obtain rfl : Fragment.empty = f := Except.ok.inj h
    exact ⟨rfl, rfl⟩
  | some p =>
    obtain ⟨hsql, hargs⟩ := Fragment.of_inversion h
    exact ⟨Scope.isBlank_of_sql hsql, hargs⟩

theorem args_of_fragments {ps : List (Option Predicate)} {frags : List Fragment}
    (h : List.Forall₂ (fun p? f => Predicate.fragment? p? = .ok f) ps frags) :
    frags.flatMap (·.args) = ps.flatMap argsOf := by
  induction h with
  | nil => rfl
  | cons hf _ ih => rw [List.flatMap_cons, List.flatMap_cons, (fragment?_inversion hf).2, ih]

/-- What the parts say is what their fragments read as. -/
theorem formulas_of_parts {fs : Nat → Formula} {ps : List (Option Predicate)}
    {frags : List Fragment} (hparts : ∀ part ∈ ps.zipIdx, IsPart fs part)
    (hfrags : ps.mapM Predicate.fragment? = .ok frags) (i : Nat) (g : Fragment)
    (hg : frags[i]? = some g) (hblank : g.isBlank = false) : g.formula? = some (fs i) := by
  obtain ⟨p?, hp, hfragment⟩ := Outcome.getElem?_of_mapM hfrags hg
  have hnone := (fragment?_inversion hfragment).1
  cases p? with
  | none => exact nomatch hblank.symm.trans hnone
  | some p =>
    have hsays := hparts (some p, i) (List.mem_zipIdx_iff_getElem?.2 hp) p rfl
    exact (Predicate.formula_of_meaning hfragment hsays).2.2

/-! ## One condition more -/

theorem fromLeft_append {w : Nat → Bool} {present : List (Logic × Nat)} {b : Bool}
    (h : fromLeft w present = some b) (q : Logic × Nat) :
    fromLeft w (present ++ [q]) = some (q.1.join b (w q.2)) := by
  cases present with
  | nil => cases h
  | cons first rest =>
    obtain rfl := Option.some.inj h
    exact congrArg some (joined_append w _ rest q [])

/-- One more part of the connective of a chain joins the whole of it. -/
theorem holds_append {rest : List (Logic × Nat)} {logic : Logic} (h : ∀ q ∈ rest, q.1 = logic)
    (w : Nat → Bool) (s : Scheme) (i : Nat) :
    (s.byPrecedence (rest ++ [(logic, i)])).holds w =
      logic.join ((s.byPrecedence rest).holds w) (w i) := by
  have hmore : ∀ q ∈ rest ++ [(logic, i)], q.1 = logic :=
    List.forall_mem_append.2 ⟨h, List.forall_mem_singleton.2 rfl⟩
  rw [Scheme.holds_of_isOrdered w s (isOrdered_of_forall hmore), joined_append,
    Scheme.holds_of_isOrdered w s (isOrdered_of_forall h)]
  rfl

/-- The chain says what its conditions say from left to right, by connectives of one kind outside of
its groups, which is the last one. -/
inductive Scope.Chain.IsFromLeft (fs : Nat → Formula) :
    Scope.Chain → List (Logic × Nat) → Prop where
  | start : IsFromLeft fs ⟨none, none⟩ []
  | grown {p : Predicate} {last? : Option Logic} {s : Scheme} {rest present : List (Logic × Nat)}
    (meaning : p.Forms fs s rest) (same : ∀ q ∈ rest, last? = some q.1)
    (truth : ∀ w, fromLeft w present = some ((s.byPrecedence rest).holds w)) :
    IsFromLeft fs ⟨some p, last?⟩ present

namespace Scope.Chain

variable {fs : Nat → Formula} {chain : Chain} {present : List (Logic × Nat)}

theorem add_none (chain : Chain) (logic : Logic) : chain.add logic none = chain := by
  obtain ⟨acc?, last?⟩ := chain
  cases acc? <;> rfl

/-- A condition that is added joins all before it; in front of the first one there is nothing to
join. -/
theorem IsFromLeft.add (h : IsFromLeft fs chain present) {p : Predicate} {i : Nat}
    (hp : p.Forms fs (.part i) []) {logic joint : Logic} (hjoint : present = [] ∨ joint = logic) :
    IsFromLeft fs (chain.add logic (some p)) (present ++ [(joint, i)]) := by
  cases h with
  | start => exact .grown hp nofun fun _ => rfl
  | @grown acc last? s rest _ hmeaning same truth =>
    obtain rfl : joint = logic := hjoint.resolve_left fun hnil => by
      have hnone := truth fun _ => true
      rw [hnil] at hnone
      cases hnone
    -- the chain with parentheses around it where the connective changes
    have hleft : ∃ s' rest',
        (if last?.all (· == joint) then acc else .group acc).Forms fs s' rest' ∧
        (∀ q ∈ rest', q.1 = joint) ∧
        ∀ w, (s'.byPrecedence rest').holds w = (s.byPrecedence rest).holds w := by
      by_cases hlast : last?.all (· == joint) = true
      · rw [if_pos hlast]
        refine ⟨s, rest, hmeaning, fun q hq => ?_, fun _ => rfl⟩
        have hsame := same q hq
        subst hsame
        exact eq_of_beq hlast
      · rw [if_neg hlast]
        exact ⟨s.byPrecedence rest, [], hmeaning.group, nofun, fun _ => rfl⟩
    obtain ⟨s', rest', hforms, hrest, hsame⟩ := hleft
    refine .grown (hforms.link joint hp) (fun q hq => ?_) fun w => ?_
    · rcases List.mem_append.1 hq with hq | hq
      · rw [hrest q hq]
      · rw [List.mem_singleton.1 hq]
    · rw [holds_append hrest, hsame, fromLeft_append (truth w)]

theorem argsOf_add (chain : Chain) (logic : Logic) (p? : Option Predicate) :
    argsOf (chain.add logic p?).predicate? = argsOf chain.predicate? ++ argsOf p? := by
  obtain ⟨acc?, last?⟩ := chain
  cases p? with
  | none =>
    rw [add_none]
    exact (List.append_nil _).symm
  | some p =>
    cases acc? with
    | none => rfl
    | some acc =>
      show (if last?.all (· == logic) then acc else .group acc).args ++ p.args = acc.args ++ p.args
      split <;> rfl

/-! ## All conditions -/

/-- A chain with numbered conditions added to it, one after the other. -/
def addAll (chain : Chain) (logic : List Logic) (parts : List (Option Predicate × Nat)) : Chain :=
  parts.foldl (fun chain part => chain.add (logicAt logic part.2) part.1) chain

/-- The connective that a chain takes in front of a condition is the one that stands there. -/
theorem logicAt_eq (logic : List Logic) {i : Nat} (h : i ≠ 0) :
    logicAt logic i = (logic[i - 1]?).getD .and := by
  rw [logicAt, if_neg (by simpa using h)]

/-- After all of its conditions, a chain says what they say from left to right. -/
theorem IsFromLeft.addAll {ps : List (Option Predicate)} {frags : List Fragment}
    (hfrags : List.Forall₂ (fun p? f => Predicate.fragment? p? = .ok f) ps frags)
    (logic : List Logic) {k : Nat} (hparts : ∀ part ∈ ps.zipIdx k, IsPart fs part)
    (h : IsFromLeft fs chain present) (hfirst : k = 0 → present = []) :
    IsFromLeft fs (chain.addAll logic (ps.zipIdx k))
      (present ++ attached (fun i => (logic[i - 1]?).getD .and) (frags.zipIdx k)) := by
  induction hfrags generalizing chain present k with
  | nil =>
    have hnone : attached (fun i => (logic[i - 1]?).getD .and) (List.zipIdx [] k) = [] := rfl
    rw [hnone, List.append_nil]
    exact h
  | @cons p? f ps frags hf _ ih =>
    rw [List.zipIdx_cons] at hparts
    obtain ⟨hpart, hrest⟩ := List.forall_mem_cons.1 hparts
    have hblank := (fragment?_inversion hf).1
    rw [List.zipIdx_cons, List.zipIdx_cons, Chain.addAll, List.foldl_cons]
    cases p? with
    | none =>
      rw [add_none, attached, List.filter_cons_of_neg (by simpa using hblank)]
      exact ih hrest h (absurd · k.succ_ne_zero)
    | some p =>
      have hjoint : present = [] ∨ (logic[k - 1]?).getD .and = logicAt logic k := by
        by_cases hk : k = 0
        · exact .inl (hfirst hk)
        · exact .inr (logicAt_eq logic hk).symm
      have hadded := h.add (hpart p rfl) hjoint
      rw [attached, List.filter_cons_of_pos (by simpa using hblank), List.map_cons,
        List.append_cons]
      exact ih hrest hadded (absurd · k.succ_ne_zero)

theorem argsOf_addAll (chain : Chain) (logic : List Logic) (ps : List (Option Predicate))
    (k : Nat) :
    argsOf (chain.addAll logic (ps.zipIdx k)).predicate? =
      argsOf chain.predicate? ++ ps.flatMap argsOf := by
  induction ps generalizing chain k with
  | nil => exact (List.append_nil _).symm
  | cons p? ps ih =>
    have hrest := ih (chain.add (logicAt logic k) p?) (k + 1)
    rw [argsOf_add, List.append_assoc] at hrest
    exact hrest

end Scope.Chain

/-! ## Entries -/

theorem attached_eq_nil {joint : Nat → Logic} {frags : List Fragment} :
    attached joint frags.zipIdx = [] ↔ ∀ g ∈ frags, g.isBlank = true := by
  rw [attached, List.map_eq_nil_iff, List.filter_eq_nil_iff]
  constructor
  · intro h g hg
    obtain ⟨i, hi⟩ := List.getElem?_of_mem hg
    simpa using h (g, i) (List.mem_zipIdx_iff_getElem?.2 hi)
  · intro h part hpart
    simpa using h part.1 (List.fst_mem_of_mem_zipIdx hpart)

/-- A condition that says one thing is a fragment that says it. -/
theorem fragment_of_forms {fs : Nat → Formula} {p : Predicate} {s : Scheme}
    (h : p.Forms fs s []) : ∃ f, p.fragment = .ok f ∧ f.isBlank = false ∧ f.args = p.args ∧
      f.formula? = some (s.fill fs) := by
  obtain ⟨ts, htells, -⟩ := id h
  obtain ⟨f, hf, -⟩ := htells.fragment
  obtain ⟨hsql, hargs, hformula⟩ := Predicate.formula_of_meaning hf h
  exact ⟨f, hf, Scope.isBlank_of_sql hsql, hargs, hformula⟩

namespace Scope

variable {scope : Scope}

/-- What the conditions of an entry become, each on its own. -/
def ownConditions (scope : Scope) (e : Entry) (conditions : List Condition) :
    Outcome (List (Option Predicate)) := do
  let _ ← scope.schema.require e.field
  conditions.mapM fun c => do scope.condition (← scope.target e.field e.type?) c.op c.values

/-- The condition of a whole chain: in parentheses, and negated if that is asked. -/
def Chain.closed? (chain : Chain) (negated : Bool) : Option Predicate :=
  let p? := chain.predicate?.map .group
  if negated then p?.map fun p => .negation (.group p) else p?

/-- The condition of a whole chain says what its conditions say from left to right, or the
opposite. -/
theorem Chain.IsFromLeft.closed {fs : Nat → Formula} {chain : Chain}
    {present : List (Logic × Nat)} (h : chain.IsFromLeft fs present) (negated : Bool) :
    ∃ (f : Fragment) (s? : Option Scheme),
      Predicate.fragment? (chain.closed? negated) = .ok f ∧
      f.args = argsOf chain.predicate? ∧ (f.isBlank = true ↔ present = []) ∧
      f.formula? = s?.map (·.fill fs) ∧
      ∀ w, s?.map (·.holds w) = (fromLeft w present).map fun b => if negated then !b else b := by
  cases h with
  | start =>
    have hnone : (⟨none, none⟩ : Chain).closed? negated = none := by cases negated <;> rfl
    rw [hnone]
    exact ⟨.empty, none, rfl, rfl, ⟨fun _ => rfl, fun _ => rfl⟩, rfl, fun w => rfl⟩
  | @grown p last? s rest _ hmeaning _ htruth =>
    have hpresent : present ≠ [] := by
      rintro rfl
      exact nomatch htruth fun _ => true
    have hwhole := hmeaning.group
    cases negated with
    | false =>
      obtain ⟨f, hf, hblank, hargs, hformula⟩ := fragment_of_forms hwhole
      refine ⟨f, some (s.byPrecedence rest), hf, hargs, ?_, hformula, fun w => ?_⟩
      · simp [hblank, hpresent]
      · rw [htruth]
        rfl
    | true =>
      obtain ⟨f, hf, hblank, hargs, hformula⟩ := fragment_of_forms hwhole.group.negation
      refine ⟨f, some (.negation (s.byPrecedence rest)), hf, hargs, ?_, hformula, fun w => ?_⟩
      · simp [hblank, hpresent]
      · rw [htruth]
        rfl

/-- An entry of conditions is their chain, in parentheses and negated if it says so. -/
theorem entry_of_conditions {e : Entry} {conditions : List Condition} {logic : List Logic}
    (htest : e.test = .conditions conditions logic) :
    scope.entry e = (do
      let ps ← scope.ownConditions e conditions
      return ((⟨none, none⟩ : Chain).addAll logic ps.zipIdx).closed? e.negated) := by
  rw [entry, ownConditions, htest]
  simp only [conditionChain, bind_assoc, pure_bind]
  rfl

theorem ownConditions_closed {e : Entry} {conditions : List Condition}
    {ps : List (Option Predicate)} (h : scope.ownConditions e conditions = .ok ps) :
    ∀ p? ∈ ps, Closed p? := by
  obtain ⟨_, -, hps⟩ := Outcome.bind_eq_ok.1 h
  exact (Outcome.Yields.mapM fun c _ => ownCondition_yields e.field e.type? c).of_ok hps

/-- A chain of conditions means what its conditions say from left to right, each joined by the
connective in front of it with all before it, or the opposite of it where the entry is negated. It
is compiled exactly if each of its conditions is, has their arguments in order, and is blank exactly
if all of them are. -/
theorem entry_means_its_chain (scope : Scope) {e : Entry} {conditions : List Condition}
    {logic : List Logic} (htest : e.test = .conditions conditions logic) :
    (∀ failure, scope.ownConditions e conditions = .error failure →
      scope.entry e = .error failure) ∧
    ∀ ps, scope.ownConditions e conditions = .ok ps →
      ∃ p? f frags, scope.entry e = .ok p? ∧ Predicate.fragment? p? = .ok f ∧
        ps.mapM Predicate.fragment? = .ok frags ∧ f.args = frags.flatMap (·.args) ∧
        (f.isBlank = true ↔ ∀ g ∈ frags, g.isBlank = true) ∧
        f.IsMadeOf frags fun w =>
          (fromLeft w (attached (fun i => (logic[i - 1]?).getD .and) frags.zipIdx)).map
            fun b => if e.negated then !b else b := by
  have hentry : scope.entry e = _ := entry_of_conditions htest
  constructor
  · intro failure hfailure
    rw [hentry, hfailure]
    rfl
  · intro ps hps
    have hclosed := ownConditions_closed hps
    obtain ⟨fs, hparts⟩ := exists_parts hclosed
    obtain ⟨frags, hfrags⟩ := Outcome.mapM_isOk fun p? hp =>
      (hclosed p? hp).conjunctive.fragment.imp fun f hf => hf.1
    have hforall := Outcome.forall₂_of_mapM hfrags
    have hread := Chain.IsFromLeft.addAll hforall logic hparts .start fun _ => rfl
    rw [List.nil_append] at hread
    obtain ⟨f, s?, hf, hargs, hblank, hformula, htruth⟩ := hread.closed e.negated
    refine ⟨_, f, frags, ?_, hf, hfrags, ?_, hblank.trans attached_eq_nil, fs, s?,
      formulas_of_parts hparts hfrags, hformula, htruth⟩
    · rw [hentry, hps]
      rfl
    · rw [hargs, args_of_fragments hforall]
      exact Chain.argsOf_addAll ⟨none, none⟩ logic ps 0

/-- Conditions on a size, the second of which restricts nothing. -/
def sizeConditions : List Condition :=
  [⟨.gt, [.int 5]⟩, ⟨.like, [.text ""]⟩, ⟨.lt, [.int 3]⟩, ⟨.ne, [.int 0]⟩]

/-- An entry that excludes sizes, with fewer connectives than its conditions need. -/
def excludedSizes : Entry :=
  ⟨.text "size", .conditions sizeConditions [.and, .or], none, true⟩

theorem excluded_sizes_mean_their_chain :
    excludedSizes.test = .conditions sizeConditions [.and, .or] ∧
      ∃ p? f frags, packets.entry excludedSizes = .ok p? ∧ Predicate.fragment? p? = .ok f ∧
        f.args = frags.flatMap (·.args) ∧
        f.IsMadeOf frags fun w => some !((w 0 || w 2) && w 3) := by
  let joint : Nat → Logic := fun i => ([.and, .or][i - 1]?).getD .and
  have hattached : ((packets.ownConditions excludedSizes sizeConditions).toOption.bind fun ps =>
      (ps.mapM Predicate.fragment?).toOption.map fun frags => attached joint frags.zipIdx) =
        some [(.and, 0), (.or, 2), (.and, 3)] := by decide +kernel
  have hok : (packets.ownConditions excludedSizes sizeConditions).isOk = true := by decide +kernel
  obtain ⟨ps, hps⟩ := Outcome.isOk_iff.1 hok
  obtain ⟨p?, f, frags, hentry, hf, hfrags, hargs, -, hmade⟩ :=
    (entry_means_its_chain packets (e := excludedSizes) rfl).2 ps hps
  have hpresent : attached joint frags.zipIdx = [(.and, 0), (.or, 2), (.and, 3)] := by
    rw [hps] at hattached
    simpa [Except.toOption, hfrags] using hattached
  rw [hpresent] at hmade
  exact ⟨rfl, p?, f, frags, hentry, hf, hargs, hmade⟩

end Scope

end Crosstab.Filter
