import Crosstab.Grid.RowQuery
import Crosstab.Proofs.Sql.Shape
import Crosstab.Proofs.Value

/-!
# Requests of the same shape

Two requests have the same shape if they ask the same of the same fields and differ in nothing but
their values. Of a value, the shape keeps whether it stands for the missing one and whether it is
null or the empty text, which is all that decides what a condition looks like. Requests of the same
shape become conditions with the same text.
-/

namespace Crosstab.Filter

open Sql Text

/-! ## Shapes -/

/-- Both values stand for the missing one or neither does. -/
def SameMarker (v w : Value) : Prop :=
  isEmptyMarker v = isEmptyMarker w

/-- The operands are alike in what a condition looks at. -/
structure SameOperand (v w : Value) : Prop where
  marker : SameMarker v w
  nothing : v = .null ∨ v = .text "" ↔ w = .null ∨ w = .text ""

/-- The conditions have the same operator and as many operands, which are alike. -/
structure SameCondition (c d : Condition) : Prop where
  op : c.op = d.op
  values : List.Forall₂ SameOperand c.values d.values

/-- The tests are of the same kind, with the same connectives. -/
inductive SameTest : Test → Test → Prop where
  | checkbox {vs ws : List Value} (h : List.Forall₂ SameMarker vs ws) :
      SameTest (.checkbox vs) (.checkbox ws)
  | conditions {cs ds : List Condition} (h : List.Forall₂ SameCondition cs ds)
      (logic : List Logic) : SameTest (.conditions cs logic) (.conditions ds logic)

/-- The entries ask the same of the same field. -/
structure SameEntry (e f : Entry) : Prop where
  field : e.field = f.field
  type : e.type? = f.type?
  negated : e.negated = f.negated
  test : SameTest e.test f.test

/-- The bounds are present on the same sides. -/
inductive SameBounds : Bounds → Bounds → Prop where
  | below (low low' : Number.Quantity) : SameBounds (.from_ low) (.from_ low')
  | above (high high' : Number.Quantity) : SameBounds (.to high) (.to high')
  | within (low high low' high' : Number.Quantity) :
      SameBounds (.within low high) (.within low' high')

/-- The windows bound the same column in the same way. -/
structure SameWindow (w u : Window) : Prop where
  field : w.field? = u.field?
  inclusive : w.inclusive = u.inclusive
  bounds : SameBounds w.bounds u.bounds

/-- The filters are read as entries of the same shape. -/
def SameFilter (v w : Value) : Prop :=
  Outcome.Agrees (List.Forall₂ SameEntry) (readEntries v) (readEntries w)

/-- The times are read as windows of the same shape. -/
def SameTime (v w : Value) : Prop :=
  Outcome.Agrees (Option.Rel SameWindow) (Window.ofRequest v) (Window.ofRequest w)

/-- The parts of base specifications are read as entries of the same shape, with the same
connective in front. -/
def SamePart (v w : Value) : Prop :=
  ∀ members members', v = .record members → w = .record members' →
    Outcome.Agrees SameEntry (Scope.partEntry members) (Scope.partEntry members') ∧
      Outcome.Agrees Eq (Scope.joinOf members) (Scope.joinOf members')

/-- The base specifications have times and parts of the same shapes. -/
def SameSpec (v w : Value) : Prop :=
  ∀ members members', v = .record members → w = .record members' →
    SameTime ((valueOf? "time" members).getD .null) ((valueOf? "time" members').getD .null) ∧
      Outcome.Agrees (List.Forall₂ SamePart) (Scope.baseConditions members)
        (Scope.baseConditions members')

/-- The values are read as base specifications of the same shape. -/
def SameBaseSpec (v w : Value) : Prop :=
  Outcome.Agrees (Option.Rel SameSpec) (Scope.readBaseSpec v) (Scope.readBaseSpec w)

namespace Scope

/-- The requests ask for the same rows but for the values in them. -/
structure SameRequest (r s : RowRequest) : Prop where
  columns : r.columns = s.columns
  sort : r.sort = s.sort
  offset : r.offset = s.offset
  limit : r.limit = s.limit
  filter : SameFilter r.filter s.filter
  time : SameTime r.time s.time
  baseSpec : SameBaseSpec r.baseSpec s.baseSpec

variable {scope : Scope}

/-! ## Operands -/

/-- What a value is compared with does not depend on the value. -/
theorem operand_agrees (t : Target) (v w : Value) :
    Outcome.Agrees (fun b c => b.1 = c.1) (scope.operand t v) (scope.operand t w) := by
  have hstored : ∀ x y : Outcome Value, Outcome.Agrees (fun b c : Subject × Value => b.1 = c.1)
      (do return (.stored t.column, ← x)) (do return (.stored t.column, ← y)) := fun x y =>
    Outcome.Agrees.bind (R := fun _ _ => True) (fun _ _ _ _ => trivial) fun _ _ _ => .ok rfl
  unfold operand
  split
  · exact hstored _ _
  · exact hstored _ _
  · exact Outcome.Agrees.bind_same fun expr => .ok rfl
  all_goals exact .ok rfl

theorem comparison_agrees (t : Target) (c : Comparison) (v w : Value) :
    Outcome.Agrees SameText (scope.comparison t c v) (scope.comparison t c w) := by
  refine (operand_agrees t v w).bind fun b d hbd => .ok ?_
  obtain ⟨subject, arg⟩ := b
  obtain ⟨subject', arg'⟩ := d
  obtain rfl : subject = subject' := hbd
  exact .some rfl

theorem filter_marker {vs ws : List Value} (h : List.Forall₂ SameMarker vs ws) :
    List.Forall₂ (fun _ _ => True) (vs.filter (!isEmptyMarker ·))
      (ws.filter (!isEmptyMarker ·)) := by
  induction h with
  | nil => exact .nil
  | cons hvw _ ih =>
    rw [List.filter_cons, List.filter_cons, hvw]
    split
    · exact .cons trivial ih
    · exact ih

/-- The text of a membership tells how many values it has, and nothing else of them. -/
theorem member_sameText {bs ds : List (Subject × Value)}
    (h : List.Forall₂ (fun b d => b.1 = d.1) bs ds) (negated : Bool) :
    SameText (bs.head?.map fun b => .atom (.member b.1 negated (bs.map (·.2))))
      (ds.head?.map fun d => .atom (.member d.1 negated (ds.map (·.2)))) := by
  have hlength : bs.length = ds.length := h.length_eq
  cases h with
  | nil => exact .none
  | @cons b d bs ds hbd hrest =>
    have hplaces : ∀ place : String, ((b :: bs).map (·.2)).map (fun _ => place) =
        ((d :: ds).map (·.2)).map (fun _ => place) := by
      intro place
      simp only [List.map_map, Function.comp_def, List.map_const', hlength]
    refine .some ?_
    simp only [Predicate.sql, Atom.sql]
    rw [hplaces, hbd]

theorem membership_agrees (t : Target) {vs ws : List Value} (h : List.Forall₂ SameMarker vs ws)
    (negated : Bool) :
    Outcome.Agrees SameText (scope.membership t vs negated) (scope.membership t ws negated) := by
  have hempty : vs.isEmpty = ws.isEmpty := by cases h <;> rfl
  have hpresent := filter_marker h
  have hoperand : ∀ v w, True → Outcome.Agrees (fun b c => b.1 = c.1)
      (scope.operand t v) (scope.operand t w) := fun v w _ => operand_agrees t v w
  have hbound := Outcome.Agrees.mapM hpresent hoperand
  unfold membership
  simp only
  rw [hempty, hpresent.length_eq, h.length_eq]
  split
  · cases negated with
    | false => exact .ok (.some rfl)
    | true => exact .ok .none
  · refine hbound.bind fun bs ds hbs => ?_
    have hmember := member_sameText hbs negated
    split
    · exact .ok hmember
    · cases bs with
      | nil =>
        cases hbs
        exact .ok (.some rfl)
      | cons b bs =>
        cases hbs with
        | cons hbd hrest =>
          obtain ⟨htext⟩ := hmember
          refine .ok (.some ?_)
          simp only [Predicate.sql] at htext ⊢
          rw [htext]

/-! ## Conditions -/

theorem ordering_agrees (t : Target) (c : Comparison) {vs ws : List Value}
    (h : List.Forall₂ SameOperand vs ws) :
    Outcome.Agrees SameText (scope.ordering t c vs) (scope.ordering t c ws) := by
  cases h with
  | nil => exact .ok .none
  | @cons v w _ _ hvw _ =>
    rw [ordering, ordering, hvw.marker]
    split
    · exact .ok .none
    · exact comparison_agrees t c v w

/-- The pattern is not in the text of a match. -/
theorem sameText_like (column pattern pattern' : String) :
    SameText (some (.atom (.like column pattern))) (some (.atom (.like column pattern'))) :=
  .some rfl

/-- Whether an operand has a text to look for. -/
theorem nothing_eq {v w : Value} (h : SameOperand v w) :
    (v == .null || v.display.isEmpty) = (w == .null || w.display.isEmpty) := by
  have key : ∀ u : Value, (u == .null || u.display.isEmpty) = true ↔ u = .null ∨ u = .text "" := by
    intro u
    rw [Bool.or_eq_true, beq_iff_eq, String.isEmpty_iff, Value.display_eq_empty_iff]
  exact Bool.eq_iff_iff.2 ((key v).trans (h.nothing.trans (key w).symm))

theorem between_agrees (t : Target) {vs ws : List Value} (h : List.Forall₂ SameOperand vs ws) :
    Outcome.Agrees SameText (scope.between t vs) (scope.between t ws) := by
  cases h with
  | nil => exact .ok .none
  | @cons v w vs ws hvw hrest =>
    cases hrest with
    | nil => exact .ok .none
    | @cons v' w' _ _ hvw' _ =>
      rw [between, between, hvw.marker, hvw'.marker]
      split
      · exact .ok .none
      · refine (operand_agrees t v w).bind fun b d hbd => ?_
        refine (operand_agrees t v' w').bind fun b' d' _ => .ok ?_
        obtain ⟨subject, low⟩ := b
        obtain ⟨subject', low'⟩ := d
        obtain rfl : subject = subject' := hbd
        exact .some rfl

theorem equality_agrees (t : Target) (negated : Bool) {vs ws : List Value}
    (h : List.Forall₂ SameOperand vs ws) :
    Outcome.Agrees SameText (scope.equality t negated vs) (scope.equality t negated ws) := by
  cases h with
  | nil => exact .ok .none
  | @cons v w _ _ hvw _ =>
    rw [equality, equality, hvw.marker]
    split
    · exact .ok (.some rfl)
    · exact comparison_agrees t _ v w

theorem matching_agrees (t : Target) (op : Operator) {vs ws : List Value}
    (h : List.Forall₂ SameOperand vs ws) :
    Outcome.Agrees SameText (matching t op vs) (matching t op ws) := by
  cases h with
  | nil => exact .ok .none
  | cons hvw _ =>
    rw [matching, matching, nothing_eq hvw]
    split
    · exact .ok .none
    · exact .ok (sameText_like t.column _ _)

/-- A condition has the same text for all operands that are alike. -/
theorem condition_agrees (t : Target) (op : Operator) {vs ws : List Value}
    (h : List.Forall₂ SameOperand vs ws) :
    Outcome.Agrees SameText (scope.condition t op vs) (scope.condition t op ws) := by
  have hmarkers : List.Forall₂ SameMarker vs ws := h.imp fun _ _ hvw => hvw.marker
  cases op with
  | isNull => exact .ok (.some rfl)
  | isNotNull => exact .ok (.some rfl)
  | isIn => exact membership_agrees t hmarkers false
  | notIn => exact membership_agrees t hmarkers true
  | eq => exact equality_agrees t false h
  | ne => exact equality_agrees t true h
  | like => exact matching_agrees t .like h
  | startsWith => exact matching_agrees t .startsWith h
  | endsWith => exact matching_agrees t .endsWith h
  | between => exact between_agrees t h
  | gt => exact ordering_agrees t .gt h
  | gte => exact ordering_agrees t .gte h
  | lt => exact ordering_agrees t .lt h
  | lte => exact ordering_agrees t .lte h

/-! ## Entries -/

/-- What is put around conditions with the same text has the same text. -/
theorem sameText_map {p? q? : Option Predicate} {around : Predicate → Predicate}
    (haround : ∀ p q, p.sql = q.sql → (around p).sql = (around q).sql) (h : SameText p? q?) :
    SameText (p?.map around) (q?.map around) := by
  cases h with
  | none => exact .none
  | some hpq => exact .some (haround _ _ hpq)

theorem group_sql {p q : Predicate} (h : p.sql = q.sql) :
    (Predicate.group p).sql = (Predicate.group q).sql := by
  simp only [Predicate.sql, h]

theorem negation_sql {p q : Predicate} (h : p.sql = q.sql) :
    (Predicate.negation p).sql = (Predicate.negation q).sql := by
  simp only [Predicate.sql, h]

theorem link_sql {p q r s : Predicate} (hpq : p.sql = q.sql) (logic : Logic)
    (hrs : r.sql = s.sql) :
    (Predicate.link p logic r).sql = (Predicate.link q logic s).sql := by
  simp only [Predicate.sql, hpq, hrs]

/-- The chains have come to the same text and the same connective. -/
def SameChain (c d : Chain) : Prop :=
  SameText c.predicate? d.predicate? ∧ c.last? = d.last?

theorem sameChain_add {c d : Chain} (h : SameChain c d) (logic : Logic)
    {p? q? : Option Predicate} (hpq : SameText p? q?) :
    SameChain (c.add logic p?) (d.add logic q?) := by
  obtain ⟨acc?, last?⟩ := c
  obtain ⟨bcc?, bast?⟩ := d
  obtain ⟨hacc, hlast⟩ := h
  obtain rfl : last? = bast? := hlast
  cases hpq with
  | none =>
    cases hacc with
    | none => exact ⟨.none, rfl⟩
    | some hacc => exact ⟨.some hacc, rfl⟩
  | some hpq =>
    cases hacc with
    | none => exact ⟨.some hpq, rfl⟩
    | some hacc =>
      refine ⟨.some (link_sql ?_ logic hpq), rfl⟩
      split
      · exact hacc
      · exact group_sql hacc

theorem sameChain_foldl (logic : List Logic) {ps qs : List (Option Predicate)}
    (h : List.Forall₂ SameText ps qs) (rank : Nat) {c d : Chain} (hcd : SameChain c d) :
    SameChain ((ps.zipIdx rank).foldl (fun c (p?, i) => c.add (logicAt logic i) p?) c)
      ((qs.zipIdx rank).foldl (fun c (p?, i) => c.add (logicAt logic i) p?) d) := by
  induction h generalizing rank c d with
  | nil => exact hcd
  | cons hpq _ ih =>
    rw [List.zipIdx_cons, List.zipIdx_cons, List.foldl_cons, List.foldl_cons]
    exact ih (rank + 1) (sameChain_add hcd _ hpq)

theorem conditionChain_agrees (field : Value) (type? : Option String)
    {cs ds : List Condition} (h : List.Forall₂ SameCondition cs ds) (logic : List Logic) :
    Outcome.Agrees SameText (scope.conditionChain field type? cs logic)
      (scope.conditionChain field type? ds logic) := by
  have hparts := Outcome.Agrees.mapM (S := SameText) h
    (f := fun c => do scope.condition (← scope.target field type?) c.op c.values)
    (g := fun c => do scope.condition (← scope.target field type?) c.op c.values) fun c d hcd => by
      rw [hcd.op]
      exact Outcome.Agrees.bind_same fun t => condition_agrees t d.op hcd.values
  refine hparts.bind fun ps qs hps => .ok ?_
  have hstart : SameChain ⟨none, none⟩ ⟨none, none⟩ := ⟨.none, rfl⟩
  obtain ⟨htext, -⟩ := sameChain_foldl logic hps 0 hstart
  exact sameText_map (fun _ _ => group_sql) htext

/-- The condition of an entry has the same text for all values that are alike. -/
theorem entry_agrees {e f : Entry} (h : SameEntry e f) :
    Outcome.Agrees SameText (scope.entry e) (scope.entry f) := by
  obtain ⟨field, test, type?, negated⟩ := e
  obtain ⟨field', test', type?', negated'⟩ := f
  obtain ⟨hfield, htype, hnegated, htest⟩ := h
  obtain rfl : field = field' := hfield
  obtain rfl : type? = type?' := htype
  obtain rfl : negated = negated' := hnegated
  have hnegate : ∀ p? q? : Option Predicate, SameText p? q? →
      SameText (if negated then p?.map fun p => .negation (.group p) else p?)
        (if negated then q?.map fun p => .negation (.group p) else q?) := by
    intro p? q? hpq
    split
    · exact sameText_map (fun _ _ hsql => negation_sql (group_sql hsql)) hpq
    · exact hpq
  rw [entry, entry]
  refine Outcome.Agrees.bind_same fun _ => ?_
  cases htest with
  | checkbox hvs =>
    refine Outcome.Agrees.bind_same fun t => ?_
    exact (membership_agrees t hvs false).bind fun p? q? hpq => .ok (hnegate p? q? hpq)
  | conditions hcs logic =>
    exact (conditionChain_agrees field type? hcs logic).bind fun p? q? hpq =>
      .ok (hnegate p? q? hpq)

theorem sameText_both {p? q? r? s? : Option Predicate} (hpq : SameText p? q?)
    (hrs : SameText r? s?) : SameText (Predicate.both? p? r?) (Predicate.both? q? s?) := by
  cases hpq with
  | none => exact hrs
  | some hpq =>
    cases hrs with
    | none => exact .some hpq
    | some hrs => exact .some (link_sql hpq .and hrs)

theorem sameText_foldl {ps qs : List (Option Predicate)} (h : List.Forall₂ SameText ps qs)
    {p? q? : Option Predicate} (hpq : SameText p? q?) :
    SameText (ps.foldl Predicate.both? p?) (qs.foldl Predicate.both? q?) := by
  induction h generalizing p? q? with
  | nil => exact hpq
  | cons hhead _ ih => exact ih (sameText_both hpq hhead)

theorem filter_field {es fs : List Entry} (h : List.Forall₂ SameEntry es fs)
    (keep : Value → Bool) :
    List.Forall₂ SameEntry (es.filter fun e => keep e.field) (fs.filter fun e => keep e.field) := by
  induction h with
  | nil => exact .nil
  | cons hef _ ih =>
    rw [List.filter_cons, List.filter_cons, hef.field]
    split
    · exact .cons hef ih
    · exact ih

/-- The entries of a filter have the same text for all values that are alike. -/
theorem entries_agrees {es fs : List Entry} (h : List.Forall₂ SameEntry es fs)
    (excluded : Value) :
    Outcome.Agrees SameText (scope.entries es excluded) (scope.entries fs excluded) := by
  unfold entries
  simp only
  have hkept := filter_field h fun field => !(
    (if excluded.truthy then scope.schema.resolve? excluded else none).isSome &&
      scope.schema.resolve? field ==
        if excluded.truthy then scope.schema.resolve? excluded else none)
  exact (Outcome.Agrees.mapM hkept fun e f hef => entry_agrees hef).bind fun ps qs hps =>
    .ok (sameText_foldl hps .none)

/-! ## Windows and base specifications -/

/-- The bounds of a window are not in its text. -/
theorem window_sameText {w u : Window} (h : SameWindow w u) (column : String)
    (kind? : Option TemporalKind) :
    SameText (some (w.predicate column kind?)) (some (u.predicate column kind?)) := by
  obtain ⟨bounds, field?, inclusive⟩ := w
  obtain ⟨bounds', field?', inclusive'⟩ := u
  obtain ⟨hfield, hinclusive, hbounds⟩ := h
  obtain rfl : inclusive = inclusive' := hinclusive
  cases hbounds with
  | below low low' => exact .some rfl
  | above high high' => exact .some rfl
  | within low high low' high' => cases inclusive <;> exact .some rfl

theorem window_agrees {v w : Value} (h : SameTime v w) :
    Outcome.Agrees SameText (scope.window v) (scope.window w) := by
  refine h.bind fun w? u? hwu => ?_
  cases hwu with
  | none => exact .ok .none
  | @some w u hwu =>
    simp only
    rw [hwu.field]
    exact Outcome.Agrees.bind_same fun column => .ok (window_sameText hwu column _)

theorem addBasePart_agrees {p? q? : Option Predicate} (hpq : SameText p? q?) {v w : Value}
    (h : SamePart v w) :
    Outcome.Agrees SameText (scope.addBasePart p? v) (scope.addBasePart q? w) := by
  cases v with
  | record members =>
    cases w with
    | record members' =>
      obtain ⟨hentry, hjoin⟩ := h members members' rfl rfl
      have hpart : Outcome.Agrees SameText (scope.basePart members) (scope.basePart members') :=
        hentry.bind fun e f hef => entry_agrees hef
      refine hpart.bind fun a? b? hab => ?_
      cases hab with
      | none =>
        cases hpq with
        | none => exact .ok .none
        | some hpq => exact .ok (.some hpq)
      | some hab =>
        cases hpq with
        | none => exact .ok (.some hab)
        | some hpq =>
          refine hjoin.bind fun logic logic' hlogic => .ok (.some ?_)
          rw [hlogic]
          exact link_sql hpq logic' hab
    | _ => exact .error_right
  | _ => exact .error_left

theorem baseSpec_agrees {v w : Value} (h : SameBaseSpec v w) :
    Outcome.Agrees SameText (scope.baseSpec v) (scope.baseSpec w) := by
  refine h.bind fun x? y? hxy => ?_
  cases hxy with
  | none => exact .ok .none
  | @some x y hxy =>
    cases x with
    | record members =>
      cases y with
      | record members' =>
        obtain ⟨htime, hparts⟩ := hxy members members' rfl rfl
        refine (window_agrees htime).bind fun w? u? hwu => hparts.bind fun xs ys hxs => ?_
        have hstep : ∀ p? q?, SameText p? q? → ∀ v w, SamePart v w → Outcome.Agrees SameText
            (scope.addBasePart p? v) (scope.addBasePart q? w) := fun _ _ hpq _ _ hvw =>
          addBasePart_agrees hpq hvw
        have hchain := Outcome.Agrees.foldlM (c := none) (d := none) hxs .none hstep
        refine hchain.bind fun p? q? hpq => .ok (sameText_both hwu ?_)
        exact sameText_map (fun _ _ => group_sql) hpq
      | _ => exact .error_right
    | _ => exact .error_left

/-! ## Row queries -/

theorem rowsWhere_agrees {r s : RowRequest} (h : SameRequest r s) :
    Outcome.Agrees SameText (scope.rowsWhere r.filter r.time r.baseSpec)
      (scope.rowsWhere s.filter s.time s.baseSpec) := by
  have hfilter : Outcome.Agrees SameText (scope.whereFilter r.filter r.time .null)
      (scope.whereFilter s.filter s.time .null) := by
    refine (window_agrees h.time).bind fun w? u? hwu => h.filter.bind fun es fs hes => ?_
    exact (entries_agrees hes .null).bind fun p? q? hpq => .ok (sameText_both hwu hpq)
  exact hfilter.bind fun p? q? hpq => (baseSpec_agrees h.baseSpec).bind fun b? d? hbd =>
    .ok (sameText_both hpq hbd)

/-- Row queries of the same shape have the same text. -/
theorem rowQuery_agrees {r s : RowRequest} (h : SameRequest r s) :
    Outcome.Agrees SameSql (scope.rowQuery r) (scope.rowQuery s) := by
  unfold rowQuery
  rw [h.columns, h.sort, h.offset, h.limit]
  refine Outcome.Agrees.bind_same fun columns => (rowsWhere_agrees h).bind fun p? q? hpq => ?_
  refine (fragment_agrees hpq).bind fun f g hfg => Outcome.Agrees.bind_same fun term => ?_
  refine Outcome.Agrees.bind_same fun page => ?_
  have hfiltered := Select.filter_sameShape
    ((Select.ofColumns columns).fromTable scope.schema.fromClause) hfg
  refine (Select.orderBy_agrees hfiltered _ _).bind fun a b hab => ?_
  refine (Select.limitTo_agrees hab _).bind fun a b hab => ?_
  exact (Select.startAt_agrees hab _).bind fun a b hab => Select.build_agrees hab

end Scope

end Crosstab.Filter
