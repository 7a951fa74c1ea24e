import Crosstab.Proofs.Filter.Conditions

/-!
# Filters fail only by rejection

A filter or a base specification that is not text is compiled to the end or rejected, whatever kinds
of values stand in it. What is compiled comes together as a fragment, and so does every piece that
it is put together from, so no miscount of placeholders can show at any step.
-/

namespace Crosstab.Filter.Scope

open Sql Text

variable {scope : Scope}

/-- The condition makes a fragment with as many placeholders as arguments, and so does all that it
is put together from. -/
def ComesTogether (p? : Option Predicate) : Prop :=
  (∃ f, Predicate.fragment? p? = .ok f ∧ countPlaceholders f.sql = f.args.length) ∧
    ∀ p ∈ p?, ∀ part ∈ p.parts, ∃ f, part.fragment = .ok f

theorem Conjunctive.comesTogether {p? : Option Predicate} (h : Conjunctive p?) :
    ComesTogether p? := by
  constructor
  · cases p? with
    | none => exact ⟨.empty, rfl, rfl⟩
    | some p =>
      obtain ⟨f, hf, -⟩ := (h p rfl).1.fragment
      exact ⟨f, hf, f.arity⟩
  · intro p hp part hpart
    obtain ⟨f, hf, -⟩ := ((h p hp).1.parts hpart).fragment
    exact ⟨f, hf⟩

/-- Without a quote in the time zone, nothing but a rejection is left. -/
theorem isRejection_of_refuses (hzone : '\'' ∉ scope.settings.timeZone.toList) {e : Failure}
    (h : scope.Refuses e) : IsRejection e := by
  rcases h with h | ⟨-, hquote⟩
  · exact h
  · exact absurd hquote hzone

theorem readEntries_yields {v : Value} (h : ∀ s, v ≠ .text s) :
    Outcome.Yields IsRejection (fun _ => True) (readEntries v) := by
  unfold readEntries
  split
  · next s => exact absurd rfl (h s)
  · exact entriesOf_yields v

theorem readBaseSpec_yields {v : Value} (h : ∀ s, v ≠ .text s) :
    Outcome.Yields IsRejection (fun _ => True) (readBaseSpec v) := by
  unfold readBaseSpec
  split
  · exact .ok trivial
  · next s => exact absurd rfl (h s)
  · exact .ok trivial

/-- What yields only rejections either comes out or is rejected. -/
theorem compiled_or_rejected {x : Outcome (Option Predicate)}
    (h : Outcome.Yields IsRejection Conjunctive x) :
    (∃ p?, x = .ok p? ∧ ComesTogether p?) ∨ ∃ code detail, x = .error (.rejected code detail) := by
  cases h with
  | ok hp => exact .inl ⟨_, rfl, Conjunctive.comesTogether hp⟩
  | error he =>
    obtain ⟨code, detail, rfl⟩ := he
    exact .inr ⟨code, detail, rfl⟩

/-- A filter or a base specification that is not text comes together as a fragment or is rejected,
with any columns, any window and any excluded field. -/
theorem compiles_or_is_rejected (scope : Scope) (hzone : '\'' ∉ scope.settings.timeZone.toList)
    (v : Value) (hv : ∀ s, v ≠ .text s) :
    (∀ time excluded,
      (∃ p?, scope.whereFilter v time excluded = .ok p? ∧ ComesTogether p?) ∨
        ∃ code detail, scope.whereFilter v time excluded = .error (.rejected code detail)) ∧
    ((∃ p?, scope.baseSpec v = .ok p? ∧ ComesTogether p?) ∨
      ∃ code detail, scope.baseSpec v = .error (.rejected code detail)) := by
  have hE : ∀ e, scope.Refuses e → IsRejection e := fun e => isRejection_of_refuses hzone
  constructor
  · intro time excluded
    exact compiled_or_rejected (whereFilter_yields hE (readEntries_yields hv) time excluded)
  · exact compiled_or_rejected (baseSpec_yields hE (readBaseSpec_yields hv))

/-- A filter that looks for a text in a port, and for a flag that is not set. -/
def searched : Value :=
  .record [("port", .record [("op", .text "contains"), ("value", .text "'?\"")]),
    ("syn", .record [("mode", .text "checkbox"), ("values", .list [.bool false, .null])])]

theorem searched_compiles :
    (∀ s, searched ≠ .text s) ∧ '\'' ∉ packets.settings.timeZone.toList ∧
      ∃ p?, packets.whereFilter searched .null .null = .ok p? ∧ ComesTogether p? := by
  have hzone : '\'' ∉ packets.settings.timeZone.toList := by decide
  have hvalue : ∀ s, searched ≠ .text s := fun s => by simp [searched]
  have hok : (packets.whereFilter searched .null .null).isOk = true := by decide +kernel
  refine ⟨hvalue, hzone, ?_⟩
  rcases (compiles_or_is_rejected packets hzone searched hvalue).1 .null .null with
    h | ⟨code, detail, h⟩
  · exact h
  · rw [h] at hok
    cases hok

end Crosstab.Filter.Scope
