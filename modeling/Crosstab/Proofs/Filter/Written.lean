import Crosstab.Proofs.Filter.Shape
import Mathlib.Data.List.Find

/-!
# Requests that are written alike

Two requests are written alike if they are the same but for their operands and the bounds of their
times. Of an operand they agree whether it stands for the missing value and whether it is null or
the empty text, and of a bound whether it is there. Requests that are written alike have the same
shape.
-/

namespace Crosstab.Filter.Written

open Sql Text

variable {ms ns : List (String × Value)} {v w : Value}

/-! ## Members -/

/-- The members are the same under each of the names. -/
def Agree (names : List String) (ms ns : List (String × Value)) : Prop :=
  ∀ name ∈ names, valueOf? name ms = valueOf? name ns

/-- The members of the values are related, if both have members. -/
def OnRecords (R : List (String × Value) → List (String × Value) → Prop) (v w : Value) : Prop :=
  ∀ ms ns, v = .record ms → w = .record ns → R ms ns

/-- The values are lists of as many records, which are related, or neither counts as given. -/
def OnItems (R : List (String × Value) → List (String × Value) → Prop) (v w : Value) : Prop :=
  v.truthy = w.truthy ∧
    ∀ is js, v = .list is → w = .list js → List.Forall₂ (OnRecords R) is js

/-! ## Operands -/

/-- The members that may hold the operands of a condition. -/
def operandNames : List String :=
  ["values", "value", "val", "val1", "val2", "min", "max", "from", "to"]

/-- The operands are alike, as many in a list or one alone. -/
inductive SameGiven : Value → Value → Prop where
  | items {vs ws : List Value} (h : List.Forall₂ SameOperand vs ws) :
      SameGiven (.list vs) (.list ws)
  | single {v w : Value} (hv : ∀ vs, v ≠ .list vs) (hw : ∀ ws, w ≠ .list ws)
      (h : SameOperand v w) : SameGiven v w

/-- The members hold operands under the same names, and they are alike. -/
def SameOperands (ms ns : List (String × Value)) : Prop :=
  ∀ name ∈ operandNames, Option.Rel SameGiven (valueOf? name ms) (valueOf? name ns)

/-- A list is an operand like any other. -/
theorem SameGiven.sameOperand (h : SameGiven v w) : SameOperand v w := by
  cases h with
  | items _ => exact ⟨rfl, by simp⟩
  | single _ _ h => exact h

theorem sameOperand_getD {v? w? : Option Value} (h : Option.Rel SameGiven v? w?) :
    SameOperand (v?.getD .null) (w?.getD .null) := by
  cases h with
  | none => exact ⟨rfl, Iff.rfl⟩
  | some h => exact h.sameOperand

theorem isSome_of_rel {R : Value → Value → Prop} {v? w? : Option Value} (h : Option.Rel R v? w?) :
    v?.isSome = w?.isSome := by
  cases h <;> rfl

/-- The first of the operands under some names. -/
theorem SameOperands.first (h : SameOperands ms ns) {names : List String}
    (hnames : names ⊆ operandNames) :
    Option.Rel SameGiven (names.findSome? (valueOf? · ms)) (names.findSome? (valueOf? · ns)) := by
  induction names with
  | nil => exact .none
  | cons name names ih =>
    obtain ⟨hname, hrest⟩ := List.cons_subset.1 hnames
    have hfirst := h name hname
    rw [List.findSome?_cons, List.findSome?_cons]
    generalize valueOf? name ms = v? at hfirst
    generalize valueOf? name ns = w? at hfirst
    cases hfirst with
    | none => exact ih hrest
    | some hgiven => exact .some hgiven

/-- What is read as the operands is alike. -/
theorem SameOperands.operands (h : SameOperands ms ns) :
    List.Forall₂ SameOperand (operands ms) (operands ns) := by
  have hnames : ["values", "value", "val"] ⊆ operandNames := by decide
  have hfirst := h.first hnames
  unfold Filter.operands
  generalize ["values", "value", "val"].findSome? (valueOf? · ms) = v? at hfirst
  generalize ["values", "value", "val"].findSome? (valueOf? · ns) = w? at hfirst
  cases hfirst with
  | @some v w hgiven =>
    cases hgiven with
    | items hitems => exact hitems
    | single hv hw hsame =>
      cases v with
      | list vs => exact absurd rfl (hv vs)
      | _ =>
        cases w with
        | list ws => exact absurd rfl (hw ws)
        | _ => exact .cons hsame .nil
  | none =>
    -- the two ends of the first range that is there
    have hnames : ∀ r ∈ rangeNames, r.1 ∈ operandNames ∧ r.2 ∈ operandNames := by decide
    have hfind : rangeNames.find? (fun r => (valueOf? r.1 ms).isSome || (valueOf? r.2 ms).isSome) =
        rangeNames.find? fun r => (valueOf? r.1 ns).isSome || (valueOf? r.2 ns).isSome :=
      List.find?_congr fun r hr => by
        rw [isSome_of_rel (h _ (hnames r hr).1), isSome_of_rel (h _ (hnames r hr).2)]
    simp only [hfind]
    cases hrange : rangeNames.find? fun r =>
        (valueOf? r.1 ns).isSome || (valueOf? r.2 ns).isSome with
    | none => exact .nil
    | some r =>
      obtain ⟨hlow, hhigh⟩ := hnames r (List.mem_of_find?_eq_some hrange)
      exact .cons (sameOperand_getD (h _ hlow)) (.cons (sameOperand_getD (h _ hhigh)) .nil)

/-! ## Conditions -/

/-- The conditions have the same operator and operands that are alike. -/
structure SameCondition (ms ns : List (String × Value)) : Prop where
  operator : Agree ["op", "operator"] ms ns
  operands : SameOperands ms ns

/-- Records of conditions are read as conditions of the same shape. -/
theorem condition_agrees (field : String) (h : OnRecords SameCondition v w) :
    Outcome.Agrees Filter.SameCondition (Condition.ofRequest field v)
      (Condition.ofRequest field w) := by
  cases v with
  | record ms =>
    cases w with
    | record ns =>
      have hsame := h ms ns rfl rfl
      rw [Condition.ofRequest, Condition.ofRequest, hsame.operator "op" (by decide),
        hsame.operator "operator" (by decide)]
      exact Outcome.Agrees.bind_same fun op => .ok ⟨rfl, hsame.operands.operands⟩
    | _ => exact .error_right
  | _ => exact .error_left

/-! ## Entries -/

/-- The members that an entry is read by, besides its operands and its conditions. -/
def entryNames : List String :=
  ["field", "mode", "type", "dataType", "not", "logicOps", "op", "operator"]

/-- The entries are of the same field, mode and type, with the same negation, operators and
connectives, and their operands are alike. -/
structure SameEntry (ms ns : List (String × Value)) : Prop where
  names : Agree entryNames ms ns
  operands : SameOperands ms ns
  conditions : Option.Rel (OnItems SameCondition) (valueOf? "conditions" ms)
    (valueOf? "conditions" ns)

theorem SameEntry.toCondition (h : SameEntry ms ns) : SameCondition ms ns :=
  ⟨List.forall_mem_cons.2 ⟨h.names "op" (by decide),
    List.forall_mem_singleton.2 (h.names "operator" (by decide))⟩, h.operands⟩

theorem SameEntry.modeOf (h : SameEntry ms ns) : modeOf ms = modeOf ns := by
  unfold Filter.modeOf
  simp only [h.names "mode" (by decide), h.names "op" (by decide), h.names "operator" (by decide),
    isSome_of_rel h.conditions]

theorem SameEntry.declaredType (h : SameEntry ms ns) : declaredType? ms = declaredType? ns := by
  unfold declaredType?
  simp only [h.names "type" (by decide), h.names "dataType" (by decide)]

theorem checkbox_agrees (field : String) (h : SameEntry ms ns) :
    Outcome.Agrees SameTest (checkboxOf field ms) (checkboxOf field ns) := by
  have hvalues := h.operands "values" (by decide)
  unfold checkboxOf
  generalize valueOf? "values" ms = v? at hvalues
  generalize valueOf? "values" ns = w? at hvalues
  cases hvalues with
  | none => exact .ok (.checkbox .nil)
  | @some v w hgiven =>
    cases hgiven with
    | items hitems => exact .ok (.checkbox (hitems.imp fun _ _ hsame => hsame.marker))
    | single hv hw _ =>
      -- one operand alone is none of a checkbox, unless it is null
      cases v with
      | list vs => exact absurd rfl (hv vs)
      | null =>
        cases w with
        | list ws => exact absurd rfl (hw ws)
        | null => exact .ok (.checkbox .nil)
        | _ => exact .error_right
      | _ => exact .error_left

theorem conditions_agree (field : String) (h : SameEntry ms ns) :
    Outcome.Agrees SameTest (conditionsOf field ms) (conditionsOf field ns) := by
  have hconditions := h.conditions
  have hchain : ∀ is js : List Value, List.Forall₂ (OnRecords SameCondition) is js →
      Outcome.Agrees SameTest
        (do
          let conditions ← is.mapM (Condition.ofRequest field)
          let logic ← logicsOf field ((valueOf? "logicOps" ms).getD .null)
          return .conditions conditions logic)
        (do
          let conditions ← js.mapM (Condition.ofRequest field)
          let logic ← logicsOf field ((valueOf? "logicOps" ns).getD .null)
          return .conditions conditions logic) := by
    intro is js hitems
    rw [h.names "logicOps" (by decide)]
    refine (Outcome.Agrees.mapM hitems fun v w => condition_agrees field).bind fun cs ds hcs => ?_
    exact Outcome.Agrees.bind_same fun logic => .ok (.conditions hcs logic)
  unfold conditionsOf
  generalize valueOf? "conditions" ms = v? at hconditions
  generalize valueOf? "conditions" ns = w? at hconditions
  cases hconditions with
  | none =>
    have hrecord : OnRecords SameCondition (.record ms) (.record ns) := by
      rintro _ _ ⟨⟩ ⟨⟩
      exact h.toCondition
    refine (condition_agrees field hrecord).bind fun c d hcd => .ok ?_
    exact .conditions (.cons hcd .nil) []
  | @some v w hitems =>
    obtain ⟨htruthy, hlists⟩ := hitems
    simp only [htruthy]
    cases htruth : w.truthy with
    | false => exact hchain [] [] .nil
    | true =>
      cases v with
      | list is =>
        cases w with
        | list js => exact hchain is js (hlists is js rfl rfl)
        | _ => exact .error_right
      | _ => exact .error_left

/-- Records of entries on a field are read as entries of the same shape. -/
theorem entry_agrees (field : Value) (h : OnRecords SameEntry v w) :
    Outcome.Agrees Filter.SameEntry (Entry.ofRequest field v) (Entry.ofRequest field w) := by
  unfold Entry.ofRequest
  cases field with
  | text name =>
    cases hname : name.isEmpty with
    | true =>
      simp only [hname, if_true]
      exact .error_left
    | false =>
      simp only [hname, Bool.false_eq_true, if_false]
      cases v with
      | record ms =>
        cases w with
        | record ns =>
          have hsame := h ms ns rfl rfl
          simp only [pure_bind, hsame.modeOf, hsame.declaredType, hsame.names "not" (by decide)]
          split
          · exact (checkbox_agrees name hsame).bind fun t u htu => .ok ⟨rfl, rfl, rfl, htu⟩
          · split
            · exact (conditions_agree name hsame).bind fun t u htu => .ok ⟨rfl, rfl, rfl, htu⟩
            · exact .error_left
        | _ => exact .error_right
      | _ => exact .error_left
  | _ => exact .error_left

/-! ## Filters -/

/-- The filters are none, mappings from the same fields to entries that are alike, or lists of such
entries. -/
inductive SameModel : Value → Value → Prop where
  | absent : SameModel .null .null
  | mapping {ms ns : List (String × Value)}
      (h : List.Forall₂ (fun m n => m.1 = n.1 ∧ OnRecords SameEntry m.2 n.2) ms ns) :
      SameModel (.record ms) (.record ns)
  | items {is js : List Value} (h : List.Forall₂ (OnRecords SameEntry) is js) :
      SameModel (.list is) (.list js)

/-- The filters are alike, or JSON texts of such filters; blank texts are no filter. -/
inductive SameFilter : Value → Value → Prop where
  | model {v w : Value} (h : SameModel v w) : SameFilter v w
  | text {s t : String} (hblank : isBlank s = isBlank t)
      (h : ∀ v w, Json.read s = .ok v → Json.read t = .ok w → SameModel v w) :
      SameFilter (.text s) (.text t)

theorem model_agrees (h : SameModel v w) :
    Outcome.Agrees (List.Forall₂ Filter.SameEntry) (entriesOf v) (entriesOf w) := by
  cases h with
  | absent => exact .ok .nil
  | mapping hmembers =>
    refine Outcome.Agrees.mapM hmembers fun m n hmn => ?_
    obtain ⟨field, spec⟩ := m
    obtain ⟨_, spec'⟩ := n
    obtain ⟨rfl, hspec⟩ := hmn
    exact entry_agrees (.text field) hspec
  | items hitems =>
    refine Outcome.Agrees.mapM hitems fun v w hvw => ?_
    cases v with
    | record ms =>
      cases w with
      | record ns =>
        have hfield := (hvw ms ns rfl rfl).names "field" (by decide)
        simp only [hfield]
        exact entry_agrees _ hvw
      | _ => exact .error_right
    | _ => exact .error_left

theorem read_of_readText {what s : String} (h : readText what s = .ok v) : Json.read s = .ok v := by
  unfold readText at h
  split at h
  · next u hu => rw [hu, Except.ok.inj h]
  · cases h
  · cases h

/-- Filters that are written alike have the same shape. -/
theorem SameFilter.sameFilter (h : SameFilter v w) : Filter.SameFilter v w := by
  cases h with
  | model hmodel =>
    have hagrees := model_agrees hmodel
    cases hmodel with
    | absent => exact hagrees
    | mapping _ => exact hagrees
    | items _ => exact hagrees
  | @text s t hblank hread =>
    unfold Filter.SameFilter readEntries
    simp only [hblank]
    split
    · exact .ok .nil
    · have htexts : Outcome.Agrees SameModel (readText "not valid JSON" s)
          (readText "not valid JSON" t) := fun v w hv hw =>
        hread v w (read_of_readText hv) (read_of_readText hw)
      exact htexts.bind fun v w => model_agrees

/-! ## Times -/

/-- Both bounds are there or neither is. -/
def SameSide (name : String) (ms ns : List (String × Value)) : Prop :=
  let isOpen (ms : List (String × Value)) : Prop :=
    (valueOf? name ms).getD .null = .null ∨ (valueOf? name ms).getD .null = .text ""
  isOpen ms ↔ isOpen ns

/-- The windows are of the same column and hold their bounds or not, and have bounds on the same
sides. -/
structure SameWindow (ms ns : List (String × Value)) : Prop where
  names : Agree ["field", "inclusive"] ms ns
  low : SameSide "fromEpoch" ms ns
  high : SameSide "toEpoch" ms ns

/-- The times are none or windows that are alike. -/
inductive SameTime : Value → Value → Prop where
  | absent : SameTime .null .null
  | window {ms ns : List (String × Value)} (h : SameWindow ms ns) :
      SameTime (.record ms) (.record ns)

/-- A side is open exactly if its bound is null or an empty text. -/
theorem bound_inversion {name : String} {q? : Option Number.Quantity}
    (h : Window.bound? name v = .ok q?) : q? = none ↔ v = .null ∨ v = .text "" := by
  have hgiven : ∀ {x : Number.Binary64}, (if x.isNaN || x.isInfinite then
      reject .invalidTimeWindow s!"{name} must be finite" else .ok (some (.binary x))) = .ok q? →
      q? ≠ none := by
    intro x hx
    split at hx
    · cases hx
    · obtain rfl := Except.ok.inj hx
      exact Option.some_ne_none _
  unfold Window.bound? at h
  simp only at h
  split at h
  · obtain rfl := Except.ok.inj h
    exact ⟨fun _ => .inl rfl, fun _ => rfl⟩
  · cases h
  · obtain rfl := Except.ok.inj h
    simp
  · simp [hgiven h]
  · next hnull _ _ _ =>
    split at h
    · next hempty =>
      obtain rfl := Except.ok.inj h
      exact ⟨fun _ => .inr (eq_of_beq hempty), fun _ => rfl⟩
    · next hempty =>
      have hnone : ¬(v = .null ∨ v = .text "") := by
        rintro (rfl | rfl)
        · exact hnull rfl
        · exact hempty rfl
      split at h
      · exact iff_of_false (hgiven h) hnone
      · cases h

theorem side_agrees {name : String} (h : SameSide name ms ns) :
    Outcome.Agrees (fun p? q? : Option Number.Quantity => p? = none ↔ q? = none)
      (Window.bound? name ((valueOf? name ms).getD .null))
      (Window.bound? name ((valueOf? name ns).getD .null)) := fun _ _ hp hq =>
  (bound_inversion hp).trans (h.trans (bound_inversion hq).symm)

theorem bounds_agree {low? high? low'? high'? : Option Number.Quantity}
    (hlow : low? = none ↔ low'? = none) (hhigh : high? = none ↔ high'? = none) :
    Outcome.Agrees SameBounds (Window.boundsOf low? high?) (Window.boundsOf low'? high'?) := by
  have hwithin : ∀ low high : Number.Quantity,
      Outcome.Yields (fun _ => True) (· = .within low high)
        (Window.boundsOf (some low) (some high)) := by
    intro low high
    unfold Window.boundsOf
    simp only
    split
    · exact .error trivial
    · exact .ok rfl
  cases low? with
  | none =>
    obtain rfl := hlow.1 rfl
    cases high? with
    | none => exact .error_left
    | some high =>
      obtain ⟨high', rfl⟩ := Option.ne_none_iff_exists'.1 (mt hhigh.2 (Option.some_ne_none high))
      exact .ok (.above high high')
  | some low =>
    obtain ⟨low', rfl⟩ := Option.ne_none_iff_exists'.1 (mt hlow.2 (Option.some_ne_none low))
    cases high? with
    | none =>
      obtain rfl := hhigh.1 rfl
      exact .ok (.below low low')
    | some high =>
      obtain ⟨high', rfl⟩ := Option.ne_none_iff_exists'.1 (mt hhigh.2 (Option.some_ne_none high))
      intro b c hb hc
      rw [(hwithin low high).of_ok hb, (hwithin low' high').of_ok hc]
      exact .within low high low' high'

/-- Times that are written alike have the same shape. -/
theorem SameTime.sameTime (h : SameTime v w) : Filter.SameTime v w := by
  cases h with
  | absent => exact .ok .none
  | @window ms ns hwindow =>
    have hsame : ∀ name ∈ ["field", "inclusive"],
        (Value.record ms).get name = (Value.record ns).get name := fun name hname => by
      rw [Value.get, Value.get, hwindow.names name hname]
    unfold Filter.SameTime Window.ofRequest
    simp only [hsame "field" (by decide), hsame "inclusive" (by decide)]
    refine Outcome.Agrees.bind_same fun _ => Outcome.Agrees.bind_same fun field? => ?_
    refine Outcome.Agrees.bind_same fun _ => Outcome.Agrees.bind_same fun inclusive => ?_
    refine (side_agrees hwindow.low).bind fun low? low'? hlow => ?_
    refine (side_agrees hwindow.high).bind fun high? high'? hhigh => ?_
    exact (bounds_agree hlow hhigh).bind fun b c hbc => .ok (.some ⟨rfl, rfl, hbc⟩)

/-! ## Base specifications -/

/-- The parts are alike as entries and are joined by the same connective. -/
structure SamePart (ms ns : List (String × Value)) : Prop where
  entry : SameEntry ms ns
  join : valueOf? "join" ms = valueOf? "join" ns

/-- The specifications have times and parts that are alike. -/
structure SameMembers (ms ns : List (String × Value)) : Prop where
  time : SameTime ((valueOf? "time" ms).getD .null) ((valueOf? "time" ns).getD .null)
  parts : OnItems SamePart ((valueOf? "conditions" ms).getD .null)
    ((valueOf? "conditions" ns).getD .null)

/-- The specifications are none, alike, or JSON texts of such; an empty text is none. -/
inductive SameSpec : Value → Value → Prop where
  | absent : SameSpec .null .null
  | members {ms ns : List (String × Value)} (h : SameMembers ms ns) :
      SameSpec (.record ms) (.record ns)
  | text {s t : String} (hempty : s.isEmpty = t.isEmpty)
      (h : ∀ v w, Json.read s = .ok v → Json.read t = .ok w → OnRecords SameMembers v w) :
      SameSpec (.text s) (.text t)

/-- The mode that a part is given makes no difference. -/
theorem SameEntry.setMode (h : SameEntry ms ns) (mode : Value) :
    SameEntry (setNamed "mode" mode ms) (setNamed "mode" mode ns) := by
  have hother : ∀ {name : String}, name ≠ "mode" →
      valueOf? name (setNamed "mode" mode ms) = valueOf? name ms ∧
        valueOf? name (setNamed "mode" mode ns) = valueOf? name ns := fun hname =>
    ⟨valueOf?_setNamed_ne hname mode ms, valueOf?_setNamed_ne hname mode ns⟩
  constructor
  · intro name hname
    by_cases hmode : name = "mode"
    · rw [hmode, valueOf?_setNamed, valueOf?_setNamed]
    · rw [(hother hmode).1, (hother hmode).2]
      exact h.names name hname
  · intro name hname
    have hmode : name ≠ "mode" := by
      rintro rfl
      exact absurd hname (by decide)
    rw [(hother hmode).1, (hother hmode).2]
    exact h.operands name hname
  · have hmode : "conditions" ≠ "mode" := by decide
    rw [(hother hmode).1, (hother hmode).2]
    exact h.conditions

theorem SamePart.samePart (h : OnRecords SamePart v w) : Filter.SamePart v w := by
  intro ms ns hv hw
  have hpart := h ms ns hv hw
  have hmode : OnRecords SameEntry (.record (setNamed "mode" (.text "condition") ms))
      (.record (setNamed "mode" (.text "condition") ns)) := by
    rintro _ _ ⟨⟩ ⟨⟩
    exact hpart.entry.setMode _
  constructor
  · rw [Scope.partEntry, Scope.partEntry, hpart.entry.names "field" (by decide)]
    exact entry_agrees _ hmode
  · unfold Scope.joinOf
    simp only [hpart.join]
    exact .refl (fun _ => rfl) _

theorem SameMembers.sameSpec (h : OnRecords SameMembers v w) : Filter.SameSpec v w := by
  intro ms ns hv hw
  have hmembers := h ms ns hv hw
  obtain ⟨htruthy, hlists⟩ := hmembers.parts
  refine ⟨hmembers.time.sameTime, ?_⟩
  unfold Scope.baseConditions
  generalize (valueOf? "conditions" ms).getD .null = v at htruthy hlists
  generalize (valueOf? "conditions" ns).getD .null = w at htruthy hlists
  simp only [htruthy]
  split
  · cases v with
    | list is =>
      cases w with
      | list js => exact .ok ((hlists is js rfl rfl).imp fun _ _ hpart => SamePart.samePart hpart)
      | _ => exact .error_right
    | _ => exact .error_left
  · exact .ok .nil

/-- Base specifications that are written alike have the same shape. -/
theorem SameSpec.sameBaseSpec (h : SameSpec v w) : SameBaseSpec v w := by
  cases h with
  | absent => exact .ok .none
  | members hmembers =>
    refine .ok (.some (SameMembers.sameSpec ?_))
    rintro _ _ ⟨⟩ ⟨⟩
    exact hmembers
  | @text s t hempty hread =>
    unfold SameBaseSpec Scope.readBaseSpec
    simp only [hempty]
    split
    · exact .ok .none
    · have htexts : Outcome.Agrees (OnRecords SameMembers)
          (readText "base spec is not valid JSON" s) (readText "base spec is not valid JSON" t) :=
        fun v w hv hw => hread v w (read_of_readText hv) (read_of_readText hw)
      exact htexts.bind fun v w hvw => .ok (.some (SameMembers.sameSpec hvw))

/-! ## Requests -/

/-- The requests ask for the same columns, order and page, and the rest of them is written alike. -/
structure SameRequest (r s : Scope.RowRequest) : Prop where
  columns : r.columns = s.columns
  sort : r.sort = s.sort
  offset : r.offset = s.offset
  limit : r.limit = s.limit
  filter : SameFilter r.filter s.filter
  time : SameTime r.time s.time
  baseSpec : SameSpec r.baseSpec s.baseSpec

/-- Requests that are written alike have the same shape. -/
theorem SameRequest.sameRequest {r s : Scope.RowRequest} (h : SameRequest r s) :
    Scope.SameRequest r s where
  columns := h.columns
  sort := h.sort
  offset := h.offset
  limit := h.limit
  filter := h.filter.sameFilter
  time := h.time.sameTime
  baseSpec := h.baseSpec.sameBaseSpec

end Crosstab.Filter.Written
