import Crosstab.Filter.Where
import Crosstab.Proofs.Sql.Named

/-!
# Values of a type

An operand is compared with a field as a value of the field's type: a number with numbers, a flag
with flags, and a text with all other types. A text may spell a number or a flag, but a flag is no
number. What is a value of the type is bound as the one that it is, and what is none fails.
-/

namespace Crosstab

open Number Sql Text

namespace Filter

/-! ## Values of a type -/

/-- The value is a number as it stands. -/
def IsNumber (v : Value) : Prop :=
  (∃ n, v = .int n) ∨ ∃ x, v = .real x

/-- The value is neither a number nor a flag, so it can only spell a number. -/
def IsSpelled (v : Value) : Prop :=
  ¬IsNumber v ∧ ∀ b, v ≠ .bool b

/-- What an operand is bound as in a comparison with a field of the type. -/
inductive BoundAs : FieldType → Value → Value → Prop where
  | asIs {v : Value} (h : IsNumber v) : BoundAs .number v v
  | whole {v : Value} (hv : IsSpelled v) {n : Int} (h : readInt (trim v.display) = .ok n) :
      BoundAs .number v (.int n)
  /-- A text that spells no whole number may still spell a binary one. -/
  | binary {v : Value} (hv : IsSpelled v) (hwhole : ∀ n, readInt (trim v.display) ≠ .ok n)
      {x : Binary64} (h : readReal (trim v.display) = .ok x) : BoundAs .number v (.real x)
  | flag (b : Bool) : BoundAs .boolean (.bool b) (.bool b)
  | yes {v : Value} (hv : ∀ b, v ≠ .bool b) (h : lower (trim v.display) ∈ Scope.trueWords) :
      BoundAs .boolean v (.bool true)
  | no {v : Value} (hv : ∀ b, v ≠ .bool b) (h : lower (trim v.display) ∈ Scope.falseWords) :
      BoundAs .boolean v (.bool false)
  | day (v : Value) : BoundAs .date v (.text (trim v.display))
  | text {type : FieldType} (h : type ∉ [FieldType.number, .boolean, .date]) (v : Value) :
      BoundAs type v (.text v.display)

/-- A flag is no number. -/
theorem not_bound_flag {b : Bool} {a : Value} : ¬BoundAs .number (.bool b) a := by
  intro h
  cases h with
  | asIs h => simp [IsNumber] at h
  | whole h _ => exact h.2 b rfl
  | binary h _ _ => exact h.2 b rfl
  | text h _ => exact h (by decide)

/-- The request is rejected for a value that is none of the field's type. -/
def IsInvalidValue (e : Failure) : Prop :=
  ∃ detail, e = .rejected .invalidValue detail

namespace Scope

/-- What is compared is the column of the name, as it is or in an expression over it; dates are
told by the expression that the kind of the column and the settings ask for. -/
def IsOver (scope : Scope) (name column : String) : Subject → Prop
  | .stored c | .asText c | .asEpoch c | .asKey c => c = column
  | .asDate c expr => c = column ∧
    dateExpr column (scope.schema.temporalKind? (.text name)) scope.settings.timeZone
      scope.settings.unzonedIsUtc = .ok expr

/-- What is over a column has the names of the column. -/
theorem IsOver.names {scope : Scope} {name column : String} {subject : Subject}
    (h : scope.IsOver name column subject) {names : List String} (hcolumn : Names column names) :
    Names subject.sql names := by
  cases subject with
  | stored c =>
    obtain rfl : c = column := h
    exact hcolumn
  | asText c =>
    obtain rfl : c = column := h
    exact names_textExpr hcolumn
  | asEpoch c =>
    obtain rfl : c = column := h
    exact names_epoch hcolumn
  | asDate c expr => exact names_dateExpr hcolumn h.2
  | asKey c =>
    obtain rfl : c = column := h
    exact names_keyExpr hcolumn

/-- A value is none of the type, or the time zone keeps dates from being compared. -/
def Spoils (scope : Scope) (type : FieldType) (e : Failure) : Prop :=
  IsInvalidValue e ∨ type = .date ∧ IsZoneFault scope.settings.timeZone e

/-- A number is bound for an operand exactly as the type says. -/
theorem numberOf_bound (column : String) (v : Value) :
    Outcome.Yields IsInvalidValue (BoundAs .number v) (numberOf column v) ∧
      ∀ a, BoundAs .number v a → numberOf column v = .ok a := by
  -- what is a number already spells none, so it is bound as it is
  have hsame : ∀ {a}, IsNumber v → BoundAs .number v a → a = v := by
    intro a hv ha
    cases ha with
    | asIs _ => rfl
    | whole h _ => exact absurd hv h.1
    | binary h _ _ => exact absurd hv h.1
    | text h _ => exact absurd (by decide) h
  unfold numberOf
  split
  · next b =>
    exact ⟨.error ⟨_, rfl⟩, fun a ha => absurd ha not_bound_flag⟩
  · next n =>
    have hv : IsNumber (.int n) := .inl ⟨n, rfl⟩
    exact ⟨.ok (.asIs hv), fun a ha => by rw [hsame hv ha]⟩
  · next x =>
    have hv : IsNumber (.real x) := .inr ⟨x, rfl⟩
    exact ⟨.ok (.asIs hv), fun a ha => by rw [hsame hv ha]⟩
  · next hflag hint hreal =>
    have hv : IsSpelled v := by
      refine ⟨?_, hflag⟩
      rintro (⟨n, rfl⟩ | ⟨x, rfl⟩)
      · exact hint n rfl
      · exact hreal x rfl
    simp only
    refine ⟨?_, fun a ha => ?_⟩
    -- a text is read as a whole number first, and as a binary one if it is none
    · split
      · next n hn => exact .ok (.whole hv hn)
      · next hwhole =>
        split
        · next x hx => exact .ok (.binary hv (fun n hn => nomatch hwhole.symm.trans hn) hx)
        · exact .error ⟨_, rfl⟩
    · cases ha with
      | asIs h => exact absurd h hv.1
      | whole _ h => rw [h]
      | binary _ hwhole h =>
        split
        · next n hn => exact absurd hn (hwhole n)
        · rw [h]
      | text h _ => exact absurd (by decide) h

/-- A flag is bound for an operand exactly as the type says. -/
theorem flagOf_bound (column : String) (v : Value) :
    Outcome.Yields IsInvalidValue (BoundAs .boolean v) (flagOf column v) ∧
      ∀ a, BoundAs .boolean v a → flagOf column v = .ok a := by
  -- the words for true are looked through first, which makes no difference
  have hdisjoint : ∀ word ∈ falseWords, word ∉ trueWords := by decide
  unfold flagOf
  split
  · next b =>
    refine ⟨.ok (.flag b), fun a ha => ?_⟩
    cases ha with
    | flag b => rfl
    | yes hv _ => exact absurd rfl (hv b)
    | no hv _ => exact absurd rfl (hv b)
    | text h _ => exact absurd (by decide) h
  · next hflag =>
    simp only [List.contains_iff_mem]
    refine ⟨?_, fun a ha => ?_⟩
    · split
      · next h => exact .ok (.yes hflag h)
      · split
        · next h => exact .ok (.no hflag h)
        · exact .error ⟨_, rfl⟩
    · cases ha with
      | flag b => exact absurd rfl (hflag b)
      | yes _ h => rw [if_pos h]
      | no _ h => rw [if_neg (hdisjoint _ h), if_pos h]
      | text h _ => exact absurd (by decide) h

/-- A date is told by an expression unless the time zone has a quote in it. -/
theorem dateExpr_known (column : String) (kind? : Option TemporalKind) (zone : String)
    (unzonedIsUtc : Bool) :
    Outcome.Yields (IsZoneFault zone) (fun _ => True)
      (dateExpr column kind? zone unzonedIsUtc) := by
  unfold dateExpr
  split
  · exact (zoneName_yields zone).bind fun _ _ => .ok trivial
  · split
    · exact (zoneName_yields zone).bind fun _ _ => .ok trivial
    · exact .ok trivial
  · exact .ok trivial
  · exact .ok trivial

/-- A value is compared in the column of its field and bound as a value of the field's type; only
the time zone of a date can keep such a value from being compared. -/
theorem operand_bound (scope : Scope) (t : Target) (v : Value) :
    Outcome.Yields (scope.Spoils t.type)
      (fun b => scope.IsOver t.name t.column b.1 ∧ BoundAs t.type v b.2) (scope.operand t v) ∧
    (∀ a, BoundAs t.type v a → '\'' ∉ scope.settings.timeZone.toList →
      ∃ subject, scope.operand t v = .ok (subject, a)) := by
  unfold operand
  cases htype : t.type with
  | number =>
    obtain ⟨hyields, hall⟩ := numberOf_bound t.column v
    refine ⟨(hyields.weaken fun e he => .inl he).bind fun a ha => .ok ⟨rfl, ha⟩, fun a ha _ => ?_⟩
    simp only [hall a ha]
    exact ⟨_, rfl⟩
  | boolean =>
    obtain ⟨hyields, hall⟩ := flagOf_bound t.column v
    refine ⟨(hyields.weaken fun e he => .inl he).bind fun a ha => .ok ⟨rfl, ha⟩, fun a ha _ => ?_⟩
    simp only [hall a ha]
    exact ⟨_, rfl⟩
  | date =>
    have hyields := dateExpr_known t.column (scope.schema.temporalKind? (.text t.name))
      scope.settings.timeZone scope.settings.unzonedIsUtc
    have hspoils := hyields.weaken fun e he => show scope.Spoils .date e from .inr ⟨rfl, he⟩
    refine ⟨hspoils.known.bind fun expr hexpr => .ok ⟨⟨rfl, hexpr⟩, .day v⟩, fun a ha hzone => ?_⟩
    cases ha with
    | day _ =>
      cases hexpr : dateExpr t.column (scope.schema.temporalKind? (.text t.name))
          scope.settings.timeZone scope.settings.unzonedIsUtc with
      | ok expr => exact ⟨_, by simp only [hexpr]; rfl⟩
      | error e => exact absurd (hyields.of_error hexpr).2 hzone
    | text h _ => exact absurd (by decide) h
  | _ =>
    have hbound : BoundAs t.type v (.text v.display) := .text (by simp [htype]) v
    rw [htype] at hbound
    refine ⟨.ok ⟨rfl, hbound⟩, fun a ha _ => ?_⟩
    cases ha with
    | text _ _ => exact ⟨_, rfl⟩

end Scope

/-- An operand is bound as one value. -/
theorem BoundAs.unique {type : FieldType} {v a b : Value} (ha : BoundAs type v a)
    (hb : BoundAs type v b) : a = b := by
  -- any field of the type reads the operand, and it reads it in one way
  let scope : Scope := ⟨.of .tcp [] [], .standard⟩
  have hall := (scope.operand_bound ⟨"", "", type⟩ v).2
  have hzone : '\'' ∉ scope.settings.timeZone.toList := by decide
  obtain ⟨s, hs⟩ := hall a ha hzone
  obtain ⟨_, hs'⟩ := hall b hb hzone
  exact (Prod.mk.inj (Except.ok.inj (hs.symm.trans hs'))).2

end Filter

end Crosstab
