import Crosstab.Proofs.Filter.Conditions
import Crosstab.Proofs.Sql.Truth

/-!
# Memberships split the rows

A membership and its negation are put together from the same parts: the values that are there, and
the missing value if one of the values stands for it. Over a text field they have opposite truth
values, so every stored text is in one of them, and a row that stores nothing is in the first or in
neither. An equality with one value is the membership in it.
-/

namespace Crosstab.Filter.Scope

open Sql Text

variable {scope : Scope} {t : Target} {values : List Value}

/-! ## Memberships whose values are bound -/

/-- The values that stand for no missing one. -/
abbrev presentValues (values : List Value) : List Value :=
  values.filter (!isEmptyMarker ·)

/-- The condition of a membership whose present values are bound. -/
def boundMembership (t : Target) (values : List Value) (negated : Bool)
    (bound : List (Subject × Value)) : Option Predicate :=
  let member? := bound.head?.map fun b => Predicate.atom (.member b.1 negated (bound.map (·.2)))
  if values.isEmpty then if negated then none else some (.atom .never)
  else if (presentValues values).length == values.length then member?
  else
    match member? with
    | none => some (missing t negated)
    | some member =>
      some (.group (.link member (if negated then .and else .or) (missing t negated)))

theorem membership_eq (scope : Scope) (t : Target) (values : List Value) (negated : Bool) :
    scope.membership t values negated = (do
      return boundMembership t values negated
        (← (presentValues values).mapM (scope.operand t))) := by
  unfold membership boundMembership
  cases hvalues : values.isEmpty with
  | true =>
    obtain rfl := List.isEmpty_iff.1 hvalues
    rfl
  | false =>
    simp only [Bool.false_eq_true, if_false]
    refine bind_congr fun bound => ?_
    by_cases hall : ((presentValues values).length == values.length) = true
    · rw [if_pos hall, if_pos hall]
    · rw [if_neg hall, if_neg hall]
      cases bound <;> rfl

/-- A membership whose values are compared with one subject, by what the values stand for. -/
theorem boundMembership_eq (hne : values ≠ []) (negated : Bool) {subject : Subject}
    {args : List Value} (hargs : args.length = (presentValues values).length) :
    boundMembership t values negated (args.map (Prod.mk subject)) = some
      (if presentValues values = values then .atom (.member subject negated args)
      else if presentValues values = [] then missing t negated
      else .group (.link (.atom (.member subject negated args))
        (if negated then .and else .or) (missing t negated))) := by
  have hempty : values.isEmpty = false := List.isEmpty_eq_false_iff.2 hne
  have hlength : ((presentValues values).length == values.length) =
      decide (presentValues values = values) := by
    rw [Bool.eq_iff_iff, beq_iff_eq, decide_eq_true_eq]
    exact ⟨List.filter_sublist.eq_of_length, fun h => by rw [h]⟩
  have hmap : (args.map (Prod.mk subject)).map (·.2) = args := by
    rw [List.map_map]
    exact List.map_id _
  simp only [boundMembership, hempty, hlength, hmap, Bool.false_eq_true, if_false,
    decide_eq_true_eq]
  cases args with
  | nil =>
    have hnone : presentValues values = [] := List.length_eq_zero_iff.1 hargs.symm
    have hother : ¬[] = values := fun h => hne h.symm
    simp only [hnone, hother, if_false, if_true]
    rfl
  | cons arg args =>
    have hsome : ¬presentValues values = [] := List.ne_nil_of_length_eq_add_one hargs.symm
    simp only [hsome, if_false]
    split
    · rfl
    · rfl

/-- A text field is compared as text with the plain form of a value. -/
theorem operand_textual (ht : t.type.isTextual = true) (v : Value) :
    scope.operand t v = .ok (.asText t.column, .text v.display) := by
  unfold operand
  cases htype : t.type with
  | number => simp [htype, FieldType.isTextual] at ht
  | boolean => simp [htype, FieldType.isTextual] at ht
  | date => simp [htype, FieldType.isTextual] at ht
  | other _ => simp [htype, FieldType.isTextual] at ht
  | _ => rfl

theorem missing_closed (t : Target) (negated : Bool) : (missing t negated).isClosed = true := by
  unfold missing
  split
  · rfl
  · rfl

/-- The values select a text if it is that of a present one, or empty and one of them stands for the
missing value. -/
def Selects (values : List Value) (s : String) : Prop :=
  (∃ v ∈ values, isEmptyMarker v = false ∧ v.display = s) ∨
    s = "" ∧ ∃ v ∈ values, isEmptyMarker v = true

/-- The condition of an operator and its operands has the truth value for a row of texts, and so has
what SQL reads in its fragment. -/
def Says (scope : Scope) (field : Value) (type? : Option String) (op : Operator)
    (values : List Value) (row : Texts) (truth : Truth) : Prop :=
  ∃ p f, (do scope.condition (← scope.target field type?) op values) = .ok (some p) ∧
    p.Judges (Atom.equalityTruth? row) f truth

end Crosstab.Filter.Scope
