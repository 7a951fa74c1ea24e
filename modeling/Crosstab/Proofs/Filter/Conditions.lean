import Crosstab.Filter.BaseSpec
import Crosstab.Proofs.Filter.Bound
import Crosstab.Proofs.Filter.Requests

/-!
# Filters become sound conditions

Whatever a request asks for, the condition that it becomes is sound: its columns are columns of the
schema. The condition of an entry is closed, so no neighbour can reach into it; windows, filters and
base specifications are conjunctions of closed conditions. What keeps a request from becoming a
condition is that it is rejected, or that the time zone of the settings has a quote in it.

There is one lemma for each step of the compilation, and each says both of these.
-/

namespace Crosstab.Filter.Scope

open Sql Text

/-- A layer of packets, with a text, a number, a flag and a time. -/
def packets : Scope where
  schema := .of .tcp [("port", "VARCHAR"), ("size", "BIGINT"), ("syn", "BOOLEAN"),
    ("time", "TIMESTAMP WITH TIME ZONE")] []
  settings := .standard

/-- The request is rejected, or the time zone of the settings cannot be used. -/
def Refuses (scope : Scope) (e : Failure) : Prop :=
  IsRejection e ∨ IsZoneFault scope.settings.timeZone e

/-- Of a condition that may be absent, that it is sound and closed. -/
def Closed (p? : Option Predicate) : Prop :=
  ∀ p ∈ p?, p.Sound ∧ p.isClosed = true

/-- Of a condition that may be absent, that it is sound and a conjunction. -/
def Conjunctive (p? : Option Predicate) : Prop :=
  ∀ p ∈ p?, p.Sound ∧ p.isConjunctive = true

variable {scope : Scope} {α : Type} {P : α → Prop}

theorem refuse_yields (code : ErrorCode) (detail : String) :
    Outcome.Yields scope.Refuses P (reject code detail) :=
  .error (.inl ⟨code, detail, rfl⟩)

theorem Closed.none : Closed none :=
  nofun

theorem Closed.some {p : Predicate} (hp : p.Sound) (hc : p.isClosed = true) : Closed (some p) := by
  rintro _ ⟨⟩
  exact ⟨hp, hc⟩

theorem Conjunctive.none : Conjunctive none :=
  nofun

theorem Conjunctive.some {p : Predicate} (hp : p.Sound) (hc : p.isConjunctive = true) :
    Conjunctive (some p) := by
  rintro _ ⟨⟩
  exact ⟨hp, hc⟩

theorem isConjunctive_of_isClosed {p : Predicate} (h : p.isClosed = true) :
    p.isConjunctive = true := by
  cases p with
  | link left logic right => cases h
  | atom a => exact h
  | group p => exact h
  | negation p => exact h

theorem Closed.conjunctive {p? : Option Predicate} (h : Closed p?) : Conjunctive p? :=
  fun p hp => ⟨(h p hp).1, isConjunctive_of_isClosed (h p hp).2⟩

/-- A conjunction makes a balanced fragment. -/
theorem Conjunctive.fragment {p? : Option Predicate} (h : Conjunctive p?) :
    ∃ f, Predicate.fragment? p? = .ok f ∧ Balanced f.sql := by
  cases p? with
  | none => exact ⟨.empty, rfl, rfl⟩
  | some p =>
    obtain ⟨f, hf, -, -, hbalanced⟩ := (h p rfl).1.fragment
    exact ⟨f, hf, hbalanced⟩

/-- A conjunction of conjunctions is one. -/
theorem Conjunctive.both {p? q? : Option Predicate} (hp : Conjunctive p?) (hq : Conjunctive q?) :
    Conjunctive (Predicate.both? p? q?) := by
  cases p? with
  | none => exact hq
  | some p =>
    cases q? with
    | none => exact hp
    | some q =>
      obtain ⟨hps, hpc⟩ := hp p rfl
      obtain ⟨hqs, hqc⟩ := hq q rfl
      exact .some ⟨hps, hqs⟩ (by simp [Predicate.isConjunctive, hpc, hqc])

theorem Conjunctive.all {ps : List (Option Predicate)} (h : ∀ p? ∈ ps, Conjunctive p?) :
    Conjunctive (Predicate.all? ps) := by
  have key : ∀ (qs : List (Option Predicate)) (acc : Option Predicate), Conjunctive acc →
      (∀ q ∈ qs, Conjunctive q) → Conjunctive (qs.foldl Predicate.both? acc) := by
    intro qs
    induction qs with
    | nil => exact fun acc hacc _ => hacc
    | cons q qs ih =>
      intro acc hacc hqs
      obtain ⟨hq, hrest⟩ := List.forall_mem_cons.1 hqs
      exact ih _ (hacc.both hq) hrest
  exact key ps _ Conjunctive.none h

/-- What holds of the absent condition and is kept by a conjunction holds of the conjunction of a
list. -/
theorem forall₂_all? {β : Type} {R : Option Predicate → List β → Prop} (hnone : R none [])
    (hboth : ∀ {p? q? : Option Predicate} {xs ys : List β}, R p? xs → R q? ys →
      R (Predicate.both? p? q?) (xs ++ ys))
    {ps : List (Option Predicate)} {xss : List (List β)} (h : List.Forall₂ R ps xss) :
    R (Predicate.all? ps) xss.flatten := by
  have hfrom : ∀ (acc : Option Predicate) (xs : List β), R acc xs →
      R (ps.foldl Predicate.both? acc) (xs ++ xss.flatten) := by
    induction h with
    | nil =>
      intro acc xs hacc
      rw [List.flatten_nil, List.append_nil]
      exact hacc
    | cons hp _ ih =>
      intro acc xs hacc
      rw [List.foldl_cons, List.flatten_cons, ← List.append_assoc]
      exact ih _ _ (hboth hacc hp)
  exact hfrom none [] hnone

/-! ## Operands -/

theorem refuses_of_invalid {e : Failure} (h : IsInvalidValue e) : scope.Refuses e := by
  obtain ⟨detail, rfl⟩ := h
  exact .inl ⟨_, detail, rfl⟩

theorem numberOf_yields (column : String) (v : Value) :
    Outcome.Yields scope.Refuses (fun _ => True) (numberOf column v) :=
  ((numberOf_bound column v).1.weaken fun _ => refuses_of_invalid).mono fun _ _ => trivial

theorem flagOf_yields (column : String) (v : Value) :
    Outcome.Yields scope.Refuses (fun _ => True) (flagOf column v) :=
  ((flagOf_bound column v).1.weaken fun _ => refuses_of_invalid).mono fun _ _ => trivial

/-- What a value is compared with is sound if the column is. -/
theorem operand_yields {t : Target} (ht : IsPlain t.column) (v : Value) :
    Outcome.Yields scope.Refuses (fun b => b.1.Sound) (scope.operand t v) := by
  unfold operand
  split
  · exact (numberOf_yields t.column v).bind fun _ _ => .ok ht
  · exact (flagOf_yields t.column v).bind fun _ _ => .ok ht
  · have hdate := (dateExpr_yields ht (scope.schema.temporalKind? (.text t.name))
      scope.settings.timeZone scope.settings.unzonedIsUtc).weaken fun e he =>
        (.inr he : scope.Refuses e)
    exact hdate.bind fun expr hexpr => .ok hexpr
  all_goals exact .ok ht

theorem require_yields (field : Value) :
    Outcome.Yields scope.Refuses (fun _ => True) (scope.schema.require field) :=
  (scope.schema.require_yields field).weaken fun _ he => .inl he

theorem column_yields (field : Value) :
    Outcome.Yields scope.Refuses IsPlain (scope.schema.column field) :=
  (scope.schema.column_yields field).weaken fun _ he => .inl he

theorem target_yields (field : Value) (type? : Option String) :
    Outcome.Yields scope.Refuses (fun t => IsPlain t.column) (scope.target field type?) :=
  (require_yields field).bind fun _ _ => (column_yields field).bind fun _ hcolumn => .ok hcolumn

/-! ## Conditions -/

theorem sound_missing {t : Target} (ht : IsPlain t.column) (negated : Bool) :
    (missing t negated).Sound ∧ (missing t negated).isClosed = true := by
  unfold missing
  simp only
  split
  · exact ⟨⟨ht, ht⟩, rfl⟩
  · exact ⟨ht, rfl⟩

/-- The condition of a membership is closed, also with the missing value among the values. -/
theorem membership_yields {t : Target} (ht : IsPlain t.column) (values : List Value)
    (negated : Bool) :
    Outcome.Yields scope.Refuses Closed (scope.membership t values negated) := by
  unfold membership
  simp only
  obtain ⟨hmissing, hclosed⟩ := sound_missing ht negated
  split
  · cases negated with
    | false => exact .ok (.some trivial rfl)
    | true => exact .ok .none
  · have hoperands : Outcome.Yields scope.Refuses (fun bound => ∀ b ∈ bound, b.1.Sound)
        ((values.filter (!isEmptyMarker ·)).mapM (scope.operand t)) :=
      Outcome.Yields.mapM fun v _ => operand_yields ht v
    refine hoperands.bind fun bound hbound => ?_
    have hmember : Closed (bound.head?.map fun b =>
        Predicate.atom (.member b.1 negated (bound.map (·.2)))) := by
      intro p hp
      obtain ⟨b, hb, rfl⟩ := Option.map_eq_some_iff.1 hp
      exact ⟨hbound b (List.mem_of_head? hb), rfl⟩
    split
    · exact .ok hmember
    · split
      · exact .ok (.some hmissing hclosed)
      · next member hsome =>
        exact .ok (.some ⟨(hmember member hsome).1, hmissing⟩ rfl)

theorem comparison_yields {t : Target} (ht : IsPlain t.column) (c : Comparison) (v : Value) :
    Outcome.Yields scope.Refuses Closed (scope.comparison t c v) :=
  (operand_yields ht v).bind fun _ hs => .ok (.some hs rfl)

theorem ordering_yields {t : Target} (ht : IsPlain t.column) (c : Comparison)
    (values : List Value) : Outcome.Yields scope.Refuses Closed (scope.ordering t c values) := by
  cases values with
  | nil => exact .ok .none
  | cons v rest =>
    rw [ordering]
    split
    · exact .ok .none
    · exact comparison_yields ht c v

theorem equality_yields {t : Target} (ht : IsPlain t.column) (negated : Bool)
    (values : List Value) :
    Outcome.Yields scope.Refuses Closed (scope.equality t negated values) := by
  obtain ⟨hmissing, hclosed⟩ := sound_missing ht negated
  cases values with
  | nil => exact .ok .none
  | cons v rest =>
    rw [equality]
    split
    · exact .ok (.some hmissing hclosed)
    · exact comparison_yields ht _ v

theorem matching_yields {t : Target} (ht : IsPlain t.column) (op : Operator)
    (values : List Value) : Outcome.Yields scope.Refuses Closed (matching t op values) := by
  cases values with
  | nil => exact .ok .none
  | cons v rest =>
    rw [matching]
    split
    · exact .ok .none
    · exact .ok (.some ht rfl)

theorem between_yields {t : Target} (ht : IsPlain t.column) (values : List Value) :
    Outcome.Yields scope.Refuses Closed (scope.between t values) := by
  unfold between
  split
  · split
    · exact .ok .none
    · refine (operand_yields ht _).bind fun _ hs => ?_
      exact (operand_yields ht _).bind fun _ _ => .ok (.some hs rfl)
  · exact .ok .none

/-- The condition of one operator is closed. -/
theorem condition_yields {t : Target} (ht : IsPlain t.column) (op : Operator)
    (values : List Value) :
    Outcome.Yields scope.Refuses Closed (scope.condition t op values) := by
  cases op with
  | isNull => exact .ok (.some ht rfl)
  | isNotNull => exact .ok (.some ht rfl)
  | isIn => exact membership_yields ht values false
  | notIn => exact membership_yields ht values true
  | eq => exact equality_yields ht false values
  | ne => exact equality_yields ht true values
  | like => exact matching_yields ht .like values
  | startsWith => exact matching_yields ht .startsWith values
  | endsWith => exact matching_yields ht .endsWith values
  | between => exact between_yields ht values
  | gt => exact ordering_yields ht .gt values
  | gte => exact ordering_yields ht .gte values
  | lt => exact ordering_yields ht .lt values
  | lte => exact ordering_yields ht .lte values

/-! ## Entries -/

/-- A condition that is added to a chain keeps it sound. -/
theorem sound_add {chain : Chain} (hchain : ∀ p ∈ chain.predicate?, p.Sound) (logic : Logic)
    {p? : Option Predicate} (hp : Closed p?) :
    ∀ p ∈ (chain.add logic p?).predicate?, p.Sound := by
  obtain ⟨acc?, last?⟩ := chain
  cases p? with
  | none =>
    cases acc? with
    | none => exact hchain
    | some acc => exact hchain
  | some p =>
    have hsound : p.Sound := (hp p rfl).1
    cases acc? with
    | none =>
      rintro _ ⟨⟩
      exact hsound
    | some acc =>
      have hacc : acc.Sound := hchain acc rfl
      rintro _ ⟨⟩
      refine ⟨?_, hsound⟩
      split
      · exact hacc
      · exact hacc

/-- A chain of conditions stays sound to its end. -/
theorem sound_foldl_add (logic : List Logic) {parts : List (Option Predicate × Nat)}
    (hparts : ∀ part ∈ parts, Closed part.1) {chain : Chain}
    (hchain : ∀ p ∈ chain.predicate?, p.Sound) :
    ∀ p ∈ (parts.foldl (fun chain (p?, i) => chain.add (logicAt logic i) p?) chain).predicate?,
      p.Sound := by
  induction parts generalizing chain with
  | nil => exact hchain
  | cons part parts ih =>
    obtain ⟨hpart, hrest⟩ := List.forall_mem_cons.1 hparts
    rw [List.foldl_cons]
    exact ih hrest (sound_add hchain _ hpart)

theorem ownCondition_yields (field : Value) (type? : Option String) (c : Condition) :
    Outcome.Yields scope.Refuses Closed
      (do scope.condition (← scope.target field type?) c.op c.values) :=
  (target_yields field type?).bind fun _ ht => condition_yields ht c.op c.values

theorem conditionChain_yields (field : Value) (type? : Option String)
    (conditions : List Condition) (logic : List Logic) :
    Outcome.Yields scope.Refuses Closed (scope.conditionChain field type? conditions logic) := by
  refine (Outcome.Yields.mapM fun c _ => ownCondition_yields field type? c).bind
    fun parts hparts => .ok ?_
  have hzip : ∀ part ∈ parts.zipIdx, Closed part.1 := fun part hpart =>
    hparts part.1 (List.fst_mem_of_mem_zipIdx hpart)
  have hstart : ∀ p ∈ (⟨none, none⟩ : Chain).predicate?, p.Sound := nofun
  intro p hp
  obtain ⟨q, hq, rfl⟩ := Option.map_eq_some_iff.1 hp
  exact ⟨sound_foldl_add logic hzip hstart q hq, rfl⟩

/-- The condition of an entry is closed. -/
theorem entry_yields (e : Entry) : Outcome.Yields scope.Refuses Closed (scope.entry e) := by
  have hnegate : ∀ p?, Closed p? →
      Closed (if e.negated then p?.map fun p => .negation (.group p) else p?) := by
    intro p? hp
    split
    · intro q hq
      obtain ⟨p, hsome, rfl⟩ := Option.map_eq_some_iff.1 hq
      exact ⟨(hp p hsome).1, rfl⟩
    · exact hp
  rw [entry]
  refine (require_yields e.field).bind fun _ _ => ?_
  cases e.test with
  | checkbox values =>
    refine (target_yields e.field e.type?).bind fun t ht => ?_
    exact (membership_yields ht values false).bind fun p? hp => .ok (hnegate p? hp)
  | conditions conditions logic =>
    exact (conditionChain_yields e.field e.type? conditions logic).bind fun p? hp =>
      .ok (hnegate p? hp)

/-- The condition of an entry that keeps values is the condition of being among them. -/
theorem entry_checkbox {field : Value} {values : List Value} :
    scope.entry (.checkbox field values) = (do
      let _ ← scope.schema.require field
      scope.membership (← scope.target field none) values false) := by
  unfold entry Entry.checkbox
  cases scope.schema.require field with
  | error e => rfl
  | ok name =>
    cases scope.target field none with
    | error e => rfl
    | ok t =>
      simp only [bind, Except.bind]
      cases scope.membership t values false with
      | error e => rfl
      | ok p? => rfl

/-- A field with a column is compared in that column, by its own type. -/
theorem entry_of_column (scope : Scope) {field : Value} {column : String}
    (h : scope.schema.column field = .ok column) :
    ∃ name, scope.target field none = .ok ⟨name, column, scope.schema.fieldType field⟩ ∧
      ∀ values, scope.entry (.checkbox field values) =
        scope.membership ⟨name, column, scope.schema.fieldType field⟩ values false := by
  obtain ⟨name, hname, -⟩ := Outcome.bind_eq_ok.1 h
  have htarget : scope.target field none = .ok ⟨name, column, scope.schema.fieldType field⟩ := by
    simp only [target, hname, h, bind, Except.bind, pure, Except.pure]
  refine ⟨name, htarget, fun values => ?_⟩
  rw [entry_checkbox, hname, htarget]
  rfl

/-- Without an excluded field, all entries count. -/
theorem entries_null (es : List Entry) :
    scope.entries es .null = (do return Predicate.all? (← es.mapM scope.entry)) := by
  simp [entries, Value.truthy]

/-- The conditions of a filter are a conjunction. -/
theorem entries_yields (es : List Entry) (excluded : Value) :
    Outcome.Yields scope.Refuses Conjunctive (scope.entries es excluded) := by
  unfold entries
  simp only
  refine (Outcome.Yields.mapM fun e _ => entry_yields e).bind fun ps hps => .ok ?_
  exact Conjunctive.all fun p? hp => (hps p? hp).conjunctive

/-! ## Windows -/

theorem sound_window {column : String} (h : IsPlain column) (kind? : Option TemporalKind)
    (w : Window) :
    (w.predicate column kind?).Sound ∧ (w.predicate column kind?).isConjunctive = true := by
  have hsubject : (if kind?.isSome then Subject.asEpoch column else .stored column).Sound := by
    split
    · exact h
    · exact h
  unfold Window.predicate
  simp only
  split
  · exact ⟨hsubject, rfl⟩
  · exact ⟨hsubject, rfl⟩
  · split
    · exact ⟨hsubject, rfl⟩
    · exact ⟨⟨hsubject, hsubject⟩, rfl⟩

theorem window_yields (time : Value) :
    Outcome.Yields scope.Refuses Conjunctive (scope.window time) := by
  have hread := (Window.ofRequest_yields time).weaken fun e he => (.inl he : scope.Refuses e)
  refine hread.bind fun w? _ => ?_
  cases w? with
  | none => exact .ok Conjunctive.none
  | some w =>
    refine (column_yields _).bind fun column hcolumn => .ok ?_
    obtain ⟨hsound, hconjunctive⟩ := sound_window hcolumn (scope.schema.temporalKind?
      (.text (w.field?.getD scope.schema.layer.defaultTimeField))) w
    exact .some hsound hconjunctive

/-! ## Filters and base specifications -/

variable {E : Failure → Prop}

theorem whereEntries_yields (es : List Entry) (time excluded : Value) :
    Outcome.Yields scope.Refuses Conjunctive (scope.whereEntries es time excluded) :=
  (window_yields time).bind fun _ hw =>
    (entries_yields es excluded).bind fun _ hp => .ok (hw.both hp)

/-- If the filter is read, what it becomes is sound. -/
theorem whereFilter_yields (hE : ∀ e, scope.Refuses e → E e) {filter : Value}
    (hread : Outcome.Yields E (fun _ => True) (readEntries filter)) (time excluded : Value) :
    Outcome.Yields E Conjunctive (scope.whereFilter filter time excluded) := by
  refine ((window_yields time).weaken hE).bind fun w? hw => hread.bind fun es _ => ?_
  exact ((entries_yields es excluded).weaken hE).bind fun p? hp => .ok (hw.both hp)

theorem baseConditions_yields (members : List (String × Value)) :
    Outcome.Yields scope.Refuses (fun _ => True) (baseConditions members) := by
  unfold baseConditions
  simp only
  split
  · split
    · exact .ok trivial
    · exact refuse_yields _ _
  · exact .ok trivial

theorem basePart_yields (members : List (String × Value)) :
    Outcome.Yields scope.Refuses Closed (scope.basePart members) :=
  ((Entry.ofRequest_yields _ _).weaken fun e he => (.inl he : scope.Refuses e)).bind fun e _ =>
    entry_yields e

theorem joinOf_yields (members : List (String × Value)) :
    Outcome.Yields scope.Refuses (fun _ => True) (joinOf members) := by
  unfold joinOf
  simp only
  split
  · exact .ok trivial
  · exact refuse_yields _ _

/-- A part that is added to a chain keeps it sound. -/
theorem addBasePart_yields {chain? : Option Predicate} (hchain : ∀ p ∈ chain?, p.Sound)
    (part : Value) :
    Outcome.Yields scope.Refuses (fun chain? => ∀ p ∈ chain?, p.Sound)
      (scope.addBasePart chain? part) := by
  cases part with
  | record members =>
    refine (basePart_yields members).bind fun p? hp => ?_
    cases p? with
    | none =>
      cases chain? with
      | none => exact .ok hchain
      | some chain => exact .ok hchain
    | some p =>
      have hsound : p.Sound := (hp p rfl).1
      cases chain? with
      | none =>
        refine .ok ?_
        rintro _ ⟨⟩
        exact hsound
      | some chain =>
        refine (joinOf_yields members).bind fun logic _ => .ok ?_
        rintro _ ⟨⟩
        exact ⟨hchain chain rfl, hsound⟩
  | _ => exact refuse_yields _ _

/-- If the base specification is read, what it becomes is sound. -/
theorem baseSpec_yields (hE : ∀ e, scope.Refuses e → E e) {v : Value}
    (hread : Outcome.Yields E (fun _ => True) (readBaseSpec v)) :
    Outcome.Yields E Conjunctive (scope.baseSpec v) := by
  refine hread.bind fun spec? _ => Outcome.Yields.weaken ?_ hE
  cases spec? with
  | none => exact .ok Conjunctive.none
  | some spec =>
    cases spec with
    | record members =>
      refine (window_yields _).bind fun w? hw => ?_
      refine (baseConditions_yields members).bind fun parts _ => ?_
      have hstart : ∀ p ∈ (none : Option Predicate), p.Sound := nofun
      refine (Outcome.Yields.foldlM hstart fun chain? hchain part _ =>
        addBasePart_yields hchain part).bind fun chain? hchain => .ok (hw.both ?_)
      intro p hp
      obtain ⟨q, hq, rfl⟩ := Option.map_eq_some_iff.1 hp
      exact ⟨hchain q hq, rfl⟩
    | _ => exact refuse_yields _ _

end Crosstab.Filter.Scope
