import Crosstab.Proofs.Filter.Chain
import Crosstab.Proofs.Filter.Membership

/-!
# Operands become arguments of the field's type

A condition takes some of its operands, by its operator and the missing values among them, and binds
each as a value of the type of its field. A match with a pattern takes none and binds one text.
Whatever is put around conditions keeps their arguments in order and their columns as they are, so
what is bound for an entry can be read off its operands, and an operand that is no value of the type
fails the entry.
-/

namespace Crosstab

open Number Sql Text

namespace Filter

/-! ## Operands that a condition takes -/

/-- The operands that a condition compares its field with. -/
def Operator.compared (op : Operator) (values : List Value) : List Value :=
  match op with
  | .isIn | .notIn => values.filter (!isEmptyMarker ·)
  | .eq | .ne | .gt | .gte | .lt | .lte => (values.take 1).filter (!isEmptyMarker ·)
  | .between =>
    match values with
    | low :: high :: _ => if isEmptyMarker low || isEmptyMarker high then [] else [low, high]
    | _ => []
  | .like | .startsWith | .endsWith | .isNull | .isNotNull => []

/-- The pattern of the first operand, unless that is null or an empty text. -/
def Operator.patternOf (op : Operator) (values : List Value) : List Value :=
  match values with
  | [] => []
  | v :: _ => if v == .null || v.display.isEmpty then [] else [.text (Scope.pattern op v)]

/-- The pattern that a condition matches its field with, if it has one. -/
def Operator.patterns (op : Operator) (values : List Value) : List Value :=
  match op with
  | .like | .startsWith | .endsWith => op.patternOf values
  | _ => []

/-- The arguments that a condition takes for a field of the type: its operands, bound as values of
the type, and its pattern. -/
def Condition.Takes (type : FieldType) (c : Condition) (args : List Value) : Prop :=
  ∃ bound, List.Forall₂ (BoundAs type) (c.op.compared c.values) bound ∧
    args = bound ++ c.op.patterns c.values

theorem Operator.compared_between (low high : Value) (rest : List Value) :
    Operator.compared .between (low :: high :: rest) =
      if isEmptyMarker low || isEmptyMarker high then [] else [low, high] :=
  rfl

namespace Scope

/-- The comparison with a bound operand, if there is one. -/
def boundComparison (c : Comparison) (bound : List (Subject × Value)) : Option Predicate :=
  bound.head?.map fun b => .atom (.compare b.1 c b.2)

/-- The equality with the first operand, which asks for the missing value unless it is bound. -/
def boundEquality (t : Target) (values : List Value) (negated : Bool)
    (bound : List (Subject × Value)) : Option Predicate :=
  if values.isEmpty then none
  else (boundComparison (if negated then .ne else .eq) bound).or (some (missing t negated))

/-- The match with a pattern, if there is one. -/
def boundMatch (t : Target) (patterns : List Value) : Option Predicate :=
  patterns.head?.map fun p => .atom (.like t.column p.display)

/-- The range between two bound operands, if they are bound. -/
def boundRange (bound : List (Subject × Value)) : Option Predicate :=
  match bound with
  | [low, high] => some (.atom (.between low.1 low.2 high.2))
  | _ => none

/-- The condition of an operator whose operands are bound. -/
def boundCondition (t : Target) (op : Operator) (values : List Value)
    (bound : List (Subject × Value)) : Option Predicate :=
  match op with
  | .isNull => some (.atom (.isNull t.column false))
  | .isNotNull => some (.atom (.isNull t.column true))
  | .isIn => boundMembership t values false bound
  | .notIn => boundMembership t values true bound
  | .eq => boundEquality t values false bound
  | .ne => boundEquality t values true bound
  | .like | .startsWith | .endsWith => boundMatch t (op.patternOf values)
  | .between => boundRange bound
  | .gt => boundComparison .gt bound
  | .gte => boundComparison .gte bound
  | .lt => boundComparison .lt bound
  | .lte => boundComparison .lte bound

variable {scope : Scope} {t : Target}

/-- An operand that is there is bound, and a comparison with a missing one is left out. -/
theorem mapM_first (f : Value → Outcome (Subject × Value)) (v : Value) (rest : List Value) :
    (((v :: rest).take 1).filter (!isEmptyMarker ·)).mapM f =
      if isEmptyMarker v then .ok [] else do return [← f v] := by
  cases h : isEmptyMarker v with
  | true => simp [h]; rfl
  | false => simp [h]

theorem ordering_eq (scope : Scope) (t : Target) (c : Comparison) (values : List Value) :
    scope.ordering t c values = (do
      return boundComparison c
        (← ((values.take 1).filter (!isEmptyMarker ·)).mapM (scope.operand t))) := by
  cases values with
  | nil => rfl
  | cons v rest =>
    rw [mapM_first, ordering]
    split
    · rfl
    · simp only [comparison, bind_assoc, pure_bind]
      rfl

theorem equality_eq (scope : Scope) (t : Target) (values : List Value) (negated : Bool) :
    scope.equality t negated values = (do
      return boundEquality t values negated
        (← ((values.take 1).filter (!isEmptyMarker ·)).mapM (scope.operand t))) := by
  cases values with
  | nil => rfl
  | cons v rest =>
    rw [mapM_first, equality]
    split
    · rfl
    · simp only [comparison, bind_assoc, pure_bind]
      rfl

theorem between_eq (scope : Scope) (t : Target) (values : List Value) :
    scope.between t values = (do
      return boundRange (← (Operator.compared .between values).mapM (scope.operand t))) := by
  match values with
  | [] => rfl
  | [_] => rfl
  | low :: high :: rest =>
    rw [between, Operator.compared_between]
    split
    · rfl
    · simp only [List.mapM_cons, List.mapM_nil, bind_assoc, pure_bind]
      rfl

theorem matching_eq (t : Target) (op : Operator) (values : List Value) :
    matching t op values = .ok (boundMatch t (op.patternOf values)) := by
  cases values with
  | nil => rfl
  | cons v rest =>
    rw [matching, Operator.patternOf]
    split
    · rfl
    · rfl

/-- A condition is put together from the operands that it compares, once they are bound. -/
theorem condition_eq (scope : Scope) (t : Target) (op : Operator) (values : List Value) :
    scope.condition t op values = (do
      return boundCondition t op values (← (op.compared values).mapM (scope.operand t))) := by
  cases op with
  | isNull => rfl
  | isNotNull => rfl
  | isIn => exact membership_eq scope t values false
  | notIn => exact membership_eq scope t values true
  | eq => exact equality_eq scope t values false
  | ne => exact equality_eq scope t values true
  | like => exact matching_eq t .like values
  | startsWith => exact matching_eq t .startsWith values
  | endsWith => exact matching_eq t .endsWith values
  | between => exact between_eq scope t values
  | gt => exact ordering_eq scope t .gt values
  | gte => exact ordering_eq scope t .gte values
  | lt => exact ordering_eq scope t .lt values
  | lte => exact ordering_eq scope t .lte values

/-! ## Arguments and columns of a condition -/

/-- All that a condition compares is over the column of the name. -/
def IsOn (scope : Scope) (name column : String) (p? : Option Predicate) : Prop :=
  ∀ p ∈ p?, ∀ subject ∈ p.subjects, scope.IsOver name column subject

/-- A condition has for its arguments the bound operands, in order, and then the patterns, and it
compares nothing but the column of the field where the operands are compared with that column. -/
structure Assembles (scope : Scope) (t : Target) (bound : List (Subject × Value))
    (patterns : List Value) (p? : Option Predicate) : Prop where
  args : argsOf p? = bound.map (·.2) ++ patterns
  subjects : (∀ b ∈ bound, scope.IsOver t.name t.column b.1) → scope.IsOn t.name t.column p?

/-- Nothing is assembled from nothing. -/
theorem Assembles.none : Assembles scope t [] [] none :=
  ⟨rfl, fun _ => nofun⟩

/-- A comparison is assembled from its own arguments. -/
theorem Assembles.atom {bound : List (Subject × Value)} {patterns : List Value} {a : Atom}
    (hargs : a.args = bound.map (·.2) ++ patterns)
    (hsubjects : (∀ b ∈ bound, scope.IsOver t.name t.column b.1) →
      ∀ subject ∈ a.subjects, scope.IsOver t.name t.column subject) :
    Assembles scope t bound patterns (some (.atom a)) := by
  refine ⟨hargs, fun hbound => ?_⟩
  rintro _ ⟨⟩
  exact hsubjects hbound

theorem assembles_missing (scope : Scope) (t : Target) (negated : Bool) :
    Assembles scope t [] [] (some (missing t negated)) := by
  unfold missing
  split
  · refine ⟨rfl, fun _ => ?_⟩
    rintro _ ⟨⟩
    exact List.forall_mem_cons.2 ⟨rfl, List.forall_mem_singleton.2 rfl⟩
  · exact .atom rfl fun _ => List.forall_mem_singleton.2 rfl

theorem assembles_membership {values : List Value} (negated : Bool)
    {bound : List (Subject × Value)} (h : bound.length = (presentValues values).length) :
    Assembles scope t bound [] (boundMembership t values negated bound) := by
  have hmissing := assembles_missing scope t negated
  unfold boundMembership
  cases hvalues : values.isEmpty with
  | true =>
    obtain rfl := List.isEmpty_iff.1 hvalues
    obtain rfl := List.length_eq_zero_iff.1 h
    cases negated with
    | true => exact .none
    | false => exact .atom rfl fun _ => nofun
  | false =>
    simp only [Bool.false_eq_true, if_false]
    cases bound with
    | nil =>
      split
      · exact .none
      · exact hmissing
    | cons b bound =>
      have hmember : Assembles scope t (b :: bound) []
          (some (.atom (.member b.1 negated ((b :: bound).map (·.2))))) :=
        .atom (List.append_nil _).symm fun hbound =>
          List.forall_mem_singleton.2 (hbound b List.mem_cons_self)
      split
      · exact hmember
      · refine ⟨congrArg (_ ++ ·) hmissing.args, fun hbound => ?_⟩
        rintro _ ⟨⟩
        exact List.forall_mem_append.2
          ⟨hmember.subjects hbound _ rfl, hmissing.subjects (fun _ h => nomatch h) _ rfl⟩

theorem assembles_comparison (c : Comparison) {bound : List (Subject × Value)}
    (h : bound.length ≤ 1) : Assembles scope t bound [] (boundComparison c bound) := by
  match bound with
  | [] => exact .none
  | [b] => exact .atom rfl fun hbound => List.forall_mem_singleton.2 (hbound b List.mem_cons_self)

/-- No more than one operand is compared. -/
theorem length_first_le (values : List Value) :
    ((values.take 1).filter (!isEmptyMarker ·)).length ≤ 1 :=
  (List.length_filter_le _ _).trans (List.length_take_le 1 values)

theorem assembles_equality {values : List Value} (negated : Bool)
    {bound : List (Subject × Value)}
    (h : bound.length = ((values.take 1).filter (!isEmptyMarker ·)).length) :
    Assembles scope t bound [] (boundEquality t values negated bound) := by
  cases values with
  | nil =>
    obtain rfl := List.length_eq_zero_iff.1 h
    exact .none
  | cons v rest =>
    cases bound with
    | nil => exact assembles_missing scope t negated
    | cons b bound =>
      exact assembles_comparison (if negated then .ne else .eq) (h.trans_le (length_first_le _))

/-- The two ends of a range are bound, or nothing is. -/
theorem assembles_range {values : List Value} {bound : List (Subject × Value)}
    (h : bound.length = (Operator.compared .between values).length) :
    Assembles scope t bound [] (boundRange bound) := by
  have hlength : (Operator.compared .between values).length = 0 ∨
      (Operator.compared .between values).length = 2 := by
    match values with
    | [] => exact .inl rfl
    | [_] => exact .inl rfl
    | low :: high :: rest =>
      rw [Operator.compared_between]
      split
      · exact .inl rfl
      · exact .inr rfl
  rcases hlength with hlength | hlength
  · obtain rfl := List.length_eq_zero_iff.1 (h.trans hlength)
    exact .none
  · obtain ⟨low, high, rfl⟩ := List.length_eq_two.1 (h.trans hlength)
    exact .atom rfl fun hbound => List.forall_mem_singleton.2 (hbound low List.mem_cons_self)

theorem assembles_match (t : Target) (op : Operator) (values : List Value) :
    Assembles scope t [] (op.patternOf values) (boundMatch t (op.patternOf values)) := by
  unfold Operator.patternOf
  split
  · exact .none
  · split
    · exact .none
    · exact .atom rfl fun _ => List.forall_mem_singleton.2 rfl

theorem assembles_condition (op : Operator) (values : List Value)
    {bound : List (Subject × Value)} (h : bound.length = (op.compared values).length) :
    Assembles scope t bound (op.patterns values) (boundCondition t op values bound) := by
  -- operators that compare no operand have nothing bound
  have hnothing : (op.compared values).length = 0 → bound = [] := fun hzero =>
    List.length_eq_zero_iff.1 (h.trans hzero)
  cases op with
  | isNull =>
    obtain rfl := hnothing rfl
    exact .atom rfl fun _ => List.forall_mem_singleton.2 rfl
  | isNotNull =>
    obtain rfl := hnothing rfl
    exact .atom rfl fun _ => List.forall_mem_singleton.2 rfl
  | isIn => exact assembles_membership false h
  | notIn => exact assembles_membership true h
  | eq => exact assembles_equality false h
  | ne => exact assembles_equality true h
  | like =>
    obtain rfl := hnothing rfl
    exact assembles_match t .like values
  | startsWith =>
    obtain rfl := hnothing rfl
    exact assembles_match t .startsWith values
  | endsWith =>
    obtain rfl := hnothing rfl
    exact assembles_match t .endsWith values
  | between => exact assembles_range h
  | gt => exact assembles_comparison .gt (h.trans_le (length_first_le values))
  | gte => exact assembles_comparison .gte (h.trans_le (length_first_le values))
  | lt => exact assembles_comparison .lt (h.trans_le (length_first_le values))
  | lte => exact assembles_comparison .lte (h.trans_le (length_first_le values))

/-! ## Columns of an entry -/

section IsOn

variable {name column : String}

theorem IsOn.negated {p? : Option Predicate} (h : scope.IsOn name column p?) (negated : Bool) :
    scope.IsOn name column (if negated then p?.map fun p => .negation (.group p) else p?) := by
  cases negated with
  | false => exact h
  | true =>
    intro q hq
    obtain ⟨p, hp, rfl⟩ := Option.map_eq_some_iff.1 hq
    exact h p hp

theorem IsOn.add {chain : Chain} (h : scope.IsOn name column chain.predicate?) (logic : Logic)
    {p? : Option Predicate} (hp : scope.IsOn name column p?) :
    scope.IsOn name column (chain.add logic p?).predicate? := by
  obtain ⟨acc?, last?⟩ := chain
  cases p? with
  | none =>
    rw [Chain.add_none]
    exact h
  | some p =>
    cases acc? with
    | none => exact hp
    | some acc =>
      have hacc : ∀ subject ∈ (if last?.all (· == logic) then acc else .group acc).subjects,
          scope.IsOver name column subject := by
        split
        · exact h acc rfl
        · exact h acc rfl
      rintro _ ⟨⟩
      exact List.forall_mem_append.2 ⟨hacc, hp p rfl⟩

theorem IsOn.addAll {chain : Chain} (h : scope.IsOn name column chain.predicate?)
    (logic : List Logic) {ps : List (Option Predicate)}
    (hps : ∀ p? ∈ ps, scope.IsOn name column p?) (k : Nat) :
    scope.IsOn name column (chain.addAll logic (ps.zipIdx k)).predicate? := by
  induction ps generalizing chain k with
  | nil => exact h
  | cons p? ps ih =>
    obtain ⟨hp, hrest⟩ := List.forall_mem_cons.1 hps
    exact ih (h.add (logicAt logic k) hp) hrest (k + 1)

end IsOn

end Scope

/-! ## Entries -/

/-- The operators of a test, with their operands: a checkbox asks for a membership. -/
def Test.asked : Test → List Condition
  | .checkbox values => [⟨.isIn, values⟩]
  | .conditions asked _ => asked

namespace Scope

/-- The condition of an entry, from those that its test asks for. -/
def joined (e : Entry) (ps : List (Option Predicate)) : Option Predicate :=
  match e.test with
  | .checkbox _ => let p? := ps.head?.join
    if e.negated then p?.map fun p => .negation (.group p) else p?
  | .conditions _ logic => ((⟨none, none⟩ : Chain).addAll logic ps.zipIdx).closed? e.negated

/-- An entry is put together from the conditions that its test asks for. -/
theorem entry_eq (scope : Scope) (e : Entry) :
    scope.entry e = (do return joined e (← scope.ownConditions e e.test.asked)) := by
  cases htest : e.test with
  | checkbox values =>
    rw [entry, ownConditions, htest]
    simp only [Test.asked, List.mapM_cons, List.mapM_nil, bind_assoc, pure_bind, joined, htest]
    rfl
  | conditions conditions logic =>
    rw [entry_of_conditions htest]
    simp only [Test.asked, joined, htest]

/-- An entry compares nothing but what its conditions compare. -/
theorem isOn_joined {scope : Scope} {name column : String} (e : Entry)
    {ps : List (Option Predicate)} (h : ∀ p? ∈ ps, scope.IsOn name column p?) :
    scope.IsOn name column (joined e ps) := by
  unfold joined
  cases e.test with
  | checkbox values =>
    refine IsOn.negated ?_ e.negated
    cases ps with
    | nil => nofun
    | cons p? ps => exact h p? List.mem_cons_self
  | conditions conditions logic =>
    have hstart : scope.IsOn name column (⟨none, none⟩ : Chain).predicate? := nofun
    refine IsOn.negated ?_ e.negated
    intro q hq
    obtain ⟨p, hp, rfl⟩ := Option.map_eq_some_iff.1 hq
    exact hstart.addAll logic h 0 p hp

/-! ## Arguments of an entry -/

/-- The type as whose values the operands of an entry are read: the declared one, or else that of
the field. -/
def typeOf (scope : Scope) (e : Entry) : FieldType :=
  match e.type? with
  | some t => if t.isEmpty then scope.schema.fieldType e.field else .ofName t
  | none => scope.schema.fieldType e.field

variable {scope : Scope} {t : Target} {e : Entry}

theorem target_inversion (h : scope.target e.field e.type? = .ok t) :
    scope.schema.require e.field = .ok t.name ∧ scope.schema.column e.field = .ok t.column ∧
      t.type = scope.typeOf e := by
  obtain ⟨_, hname, h⟩ := Outcome.bind_eq_ok.1 h
  obtain ⟨_, hcolumn, h⟩ := Outcome.bind_eq_ok.1 h
  obtain rfl := Outcome.pure_eq_ok.1 h
  exact ⟨hname, hcolumn, rfl⟩

/-- A condition takes its operands in the column of its field, or one of them is no value of the
type. -/
theorem condition_bound (scope : Scope) (t : Target) (c : Condition) :
    Outcome.Yields (scope.Spoils t.type)
      (fun p? => c.Takes t.type (argsOf p?) ∧ scope.IsOn t.name t.column p?)
      (scope.condition t c.op c.values) := by
  have hoperands : Outcome.Yields (scope.Spoils t.type)
      (fun bound => ∀ b ∈ bound, scope.IsOver t.name t.column b.1)
      ((c.op.compared c.values).mapM (scope.operand t)) :=
    Outcome.Yields.mapM fun v _ => (operand_bound scope t v).1.mono fun _ hb => hb.1
  rw [condition_eq]
  refine hoperands.known.bind fun bound hbound => .ok ?_
  have hforall := Outcome.forall₂_of_mapM hbound
  have hassembles : Assembles scope t bound (c.op.patterns c.values) _ :=
    assembles_condition c.op c.values hforall.length_eq.symm
  refine ⟨⟨bound.map (·.2), ?_, hassembles.args⟩, hassembles.subjects (hoperands.of_ok hbound)⟩
  exact List.forall₂_map_right_iff.2
    (hforall.imp fun v b hb => ((operand_bound scope t v).1.of_ok hb).2)

/-- An entry compares nothing but the column of its field. -/
theorem entry_isOn {p? : Option Predicate} (h : scope.entry e = .ok p?) :
    ∃ name, scope.schema.require e.field = .ok name ∧ ∀ column,
      (∀ text, scope.schema.column e.field = .ok text → text = column) →
      scope.IsOn name column p? := by
  rw [entry_eq] at h
  obtain ⟨ps, hps, h⟩ := Outcome.bind_eq_ok.1 h
  obtain rfl := Outcome.pure_eq_ok.1 h
  obtain ⟨name, hname, hps⟩ := Outcome.bind_eq_ok.1 hps
  refine ⟨name, hname, fun column hcolumn => ?_⟩
  -- an entry without conditions asks for no column, so each condition brings its own
  have hown : ∀ c : Condition, Outcome.Yields (fun _ => True) (scope.IsOn name column)
      (do scope.condition (← scope.target e.field e.type?) c.op c.values) := by
    intro c
    refine (Outcome.Yields.any _).known.bind fun t ht => ?_
    have hbound := (condition_bound scope t c).weaken fun _ _ => trivial
    refine hbound.mono fun p? hp => ?_
    obtain ⟨hname', hcolumn', -⟩ := target_inversion ht
    rw [← hcolumn _ hcolumn', Except.ok.inj (hname.symm.trans hname')]
    exact hp.2
  exact isOn_joined e ((Outcome.Yields.mapM fun c _ => hown c).of_ok hps)

/-! ## Entries on a column -/

variable {column : String}

end Scope

end Filter

end Crosstab
