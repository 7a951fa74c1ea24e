import Crosstab.Filter.Entry
import Crosstab.Proofs.Columns
import Crosstab.Window

/-!
# Requests are read or rejected

A request is a document without a fixed shape. Every part of it is either read or rejected with a
code and a detail, whatever kinds of values stand in it and at whatever depth.
-/

namespace Crosstab

open Number Sql Text

/-! ## Time windows -/

namespace Window

theorem bound_yields (name : String) (v : Value) :
    Outcome.Yields IsRejection (fun _ => True) (bound? name v) := by
  have hfinite : ∀ x : Binary64, Outcome.Yields IsRejection (fun _ : Option Quantity => True)
      (if x.isNaN || x.isInfinite then reject .invalidTimeWindow s!"{name} must be finite"
      else .ok (some (.binary x))) := by
    intro x
    split
    · exact reject_yields _ _
    · exact .ok trivial
  unfold bound?
  simp only
  split
  · exact .ok trivial
  · exact reject_yields _ _
  · exact .ok trivial
  · exact hfinite _
  · split
    · exact .ok trivial
    · split
      · exact hfinite _
      · exact reject_yields _ _

theorem boundsOf_yields (from? to? : Option Quantity) :
    Outcome.Yields IsRejection (fun _ => True) (boundsOf from? to?) := by
  unfold boundsOf
  split
  · exact reject_yields _ _
  · exact .ok trivial
  · exact .ok trivial
  · split
    · exact reject_yields _ _
    · exact .ok trivial

theorem fieldOf_yields (v : Value) : Outcome.Yields IsRejection (fun _ => True) (fieldOf v) := by
  unfold fieldOf
  split
  · exact .ok trivial
  · exact .ok trivial
  · exact reject_yields _ _

theorem inclusiveOf_yields (v : Value) :
    Outcome.Yields IsRejection (fun _ => True) (inclusiveOf v) := by
  unfold inclusiveOf
  split
  · exact .ok trivial
  · exact .ok trivial
  · exact reject_yields _ _

/-- A window is read or rejected. -/
theorem ofRequest_yields (v : Value) :
    Outcome.Yields IsRejection (fun _ => True) (ofRequest v) := by
  unfold ofRequest
  split
  · exact .ok trivial
  · refine (fieldOf_yields _).bind fun _ _ => (inclusiveOf_yields _).bind fun _ _ => ?_
    refine (bound_yields _ _).bind fun from? _ => (bound_yields _ _).bind fun to? _ => ?_
    exact (boundsOf_yields from? to?).bind fun _ _ => .ok trivial
  · exact reject_yields _ _

end Window

/-! ## Filters -/

namespace Filter

variable {α : Type} {P : α → Prop}

theorem malformed_yields (detail : String) :
    Outcome.Yields IsRejection P (malformed detail : Outcome α) :=
  reject_yields _ _

theorem Operator.ofRequest_yields (v : Value) :
    Outcome.Yields IsRejection (fun _ => True) (Operator.ofRequest v) := by
  unfold Operator.ofRequest
  generalize (if v == .null then "" else trim v.display) = spelled
  simp only
  split
  · exact reject_yields _ _
  · split
    · exact .ok trivial
    · exact reject_yields _ _

theorem Condition.ofRequest_yields (field : String) (spec : Value) :
    Outcome.Yields IsRejection (fun _ => True) (Condition.ofRequest field spec) := by
  unfold Condition.ofRequest
  split
  · exact (Operator.ofRequest_yields _).bind fun _ _ => .ok trivial
  · exact malformed_yields _

theorem logicOf_yields (field : String) (v : Value) :
    Outcome.Yields IsRejection (fun _ => True) (logicOf field v) := by
  unfold logicOf
  simp only
  split
  · exact .ok trivial
  · exact malformed_yields _

theorem logicsOf_yields (field : String) (v : Value) :
    Outcome.Yields IsRejection (fun _ => True) (logicsOf field v) := by
  unfold logicsOf
  split
  · exact .ok trivial
  · exact (Outcome.Yields.mapM fun x _ => logicOf_yields field x).mono fun _ _ => trivial
  · exact malformed_yields _

theorem checkboxOf_yields (field : String) (members : List (String × Value)) :
    Outcome.Yields IsRejection (fun _ => True) (checkboxOf field members) := by
  unfold checkboxOf
  split
  · exact .ok trivial
  · exact .ok trivial
  · exact malformed_yields _

theorem conditionsOf_yields (field : String) (members : List (String × Value)) :
    Outcome.Yields IsRejection (fun _ => True) (conditionsOf field members) := by
  have hchain : ∀ items : List Value, Outcome.Yields IsRejection (fun _ : Test => True) (do
      let conditions ← items.mapM (Condition.ofRequest field)
      let logic ← logicsOf field ((valueOf? "logicOps" members).getD .null)
      return .conditions conditions logic) := fun items =>
    (Outcome.Yields.mapM fun x _ => Condition.ofRequest_yields field x).bind fun _ _ =>
      (logicsOf_yields field _).bind fun _ _ => .ok trivial
  unfold conditionsOf
  split
  · split
    · split
      · exact hchain _
      · exact .error ⟨_, _, rfl⟩
    · exact hchain []
  · exact (Condition.ofRequest_yields field _).bind fun _ _ => .ok trivial

/-- An entry is read or rejected. -/
theorem Entry.ofRequest_yields (field spec : Value) :
    Outcome.Yields IsRejection (fun _ => True) (Entry.ofRequest field spec) := by
  have hentry : ∀ (name detail : String) (members : List (String × Value)),
      Outcome.Yields IsRejection (fun _ : Entry => True)
        (if modeOf members == "checkbox" then do
          return ⟨field, ← checkboxOf name members, declaredType? members,
            ((valueOf? "not" members).getD (.bool false)).truthy⟩
        else if modeOf members == "condition" then do
          return ⟨field, ← conditionsOf name members, declaredType? members,
            ((valueOf? "not" members).getD (.bool false)).truthy⟩
        else malformed detail) := by
    intro name detail members
    split
    · exact (checkboxOf_yields name members).bind fun _ _ => .ok trivial
    · split
      · exact (conditionsOf_yields name members).bind fun _ _ => .ok trivial
      · exact malformed_yields _
  unfold Entry.ofRequest
  cases field with
  | text name =>
    cases hname : name.isEmpty with
    | true =>
      simp only [hname, if_true]
      exact .error ⟨_, _, rfl⟩
    | false =>
      simp only [hname, Bool.false_eq_true, if_false]
      cases spec with
      | record members => exact hentry name _ members
      | _ => exact .error ⟨_, _, rfl⟩
  | _ => exact .error ⟨_, _, rfl⟩

/-- A filter that is not text is read or rejected. -/
theorem entriesOf_yields (v : Value) :
    Outcome.Yields IsRejection (fun _ => True) (entriesOf v) := by
  unfold entriesOf
  split
  · exact .ok trivial
  · next members =>
    have hmember : ∀ member ∈ members, Outcome.Yields IsRejection (fun _ => True)
        (Entry.ofRequest (.text member.1) member.2) := fun member _ =>
      Entry.ofRequest_yields (.text member.1) member.2
    exact (Outcome.Yields.mapM hmember).mono fun _ _ => trivial
  · refine (Outcome.Yields.mapM (Q := fun _ => True) fun item _ => ?_).mono fun _ _ => trivial
    split
    · exact Entry.ofRequest_yields _ _
    · exact malformed_yields _
  · exact malformed_yields _

end Filter

end Crosstab
