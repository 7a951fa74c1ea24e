import Crosstab.Proofs.Filter.Conditions
import Crosstab.Proofs.Sql.Pattern
import Crosstab.View.Distinct

/-!
# Operands as patterns

An operand or a search text is bound as a pattern in which it is escaped. Such a pattern matches the
texts that have the operand itself in the place that the operator asks for, however many wildcards
and escapes there are in it.
-/

namespace Crosstab.Filter

open Sql Text View

namespace Scope

variable {scope : Scope} {field type : Value} {t : Target}

/-- What a request asks of a field compares its column with the pattern, which is the only
argument. -/
def Binds (scope : Scope) (field op values type : Value) (column pattern : String) : Prop :=
  ∃ f, (do Predicate.fragment? (← scope.requestedCondition field op values type)) = .ok f ∧
    f.sql = likeExpr column ∧ f.args = [.text pattern]

/-- An operator that compares with a pattern binds the one of its operand. -/
theorem binds_pattern (ht : scope.target field (declaredBy type) = .ok t) {op : Value}
    {o : Operator} (hop : Operator.ofRequest op = .ok o)
    (ho : o = .like ∨ o = .startsWith ∨ o = .endsWith) {v : String} (hv : v ≠ "")
    (rest : List Value) :
    scope.Binds field op (.list (.text v :: rest)) type t.column (pattern o (.text v)) := by
  have hmatching : matching t o (.text v :: rest) =
      .ok (some (.atom (.like t.column (pattern o (.text v))))) := by
    have hpresent : (Value.text v == .null || (Value.text v).display.isEmpty) = false := by
      simpa [Value.display] using hv
    rw [matching, hpresent]
    rfl
  have hcondition : scope.requestedCondition field op (.list (.text v :: rest)) type =
      .ok (some (.atom (.like t.column (pattern o (.text v))))) := by
    have hone : scope.condition t o (.text v :: rest) = matching t o (.text v :: rest) := by
      rcases ho with rfl | rfl | rfl <;> rfl
    unfold requestedCondition
    rw [hop]
    simp only [bind, Except.bind, ht]
    exact hone.trans hmatching
  have hplain : IsPlain t.column := (target_yields field (declaredBy type)).of_ok ht
  have hsound : (Predicate.atom (.like t.column (pattern o (.text v)))).Sound := hplain
  obtain ⟨f, hf, hsql, hargs, -⟩ := hsound.fragment
  refine ⟨f, ?_, hsql, hargs⟩
  rw [hcondition]
  exact hf

/-- A search text adds one condition, which compares with its pattern, to what is asked without
it. -/
theorem search_adds_pattern {search p : String} (hp : searchPattern? (.text search) = some p)
    (r : DistinctRequest) (target column : String) :
    distinctWhere scope { r with search := .text search } target column =
      (do
        let others? ← distinctWhere scope { r with search := .null } target column
        return Predicate.both? others? (some (.atom (.like column p)))) := by
  have hwith : distinctWhere scope { r with search := .text search } target column =
      (do
        let p? ← scope.whereFilter r.filters r.time (if r.includeSelf then .null else .text target)
        return Predicate.all?
          [p?, some (.atom (.isNull column true)), some (.atom (.like column p))]) := by
    unfold distinctWhere
    rw [hp]
    rfl
  have hwithout : distinctWhere scope { r with search := .null } target column =
      (do
        let p? ← scope.whereFilter r.filters r.time (if r.includeSelf then .null else .text target)
        return Predicate.all? [p?, some (.atom (.isNull column true)), none]) := rfl
  rw [hwith, hwithout]
  cases scope.whereFilter r.filters r.time (if r.includeSelf then .null else .text target) with
  | error e => rfl
  | ok p? =>
    cases p? with
    | none => rfl
    | some q => rfl

theorem searchPattern?_text {search : String} (h : trim search ≠ "") :
    searchPattern? (.text search) = some ("%" ++ escapeLike (trim search) ++ "%") := by
  have hpresent : (Value.text search == .null || (trim search).isEmpty) = false := by
    simpa using h
  show (if (Value.text search == .null || (trim search).isEmpty) = true then none else _) = _
  rw [hpresent]
  rfl

/-- User text in patterns matches literally, whichever characters count as the same: what asks for a
text that contains an operand, starts or ends with it binds a pattern that just these texts match,
and a search binds one that the texts match which contain the search text without blanks around
it. -/
theorem operands_match_themselves (same : Char → Char → Bool)
    (ht : scope.target field (declaredBy type) = .ok t) {v : String} (hv : v ≠ "")
    (rest : List Value) :
    (∀ op, Operator.ofRequest op = .ok .like → ∃ p,
      scope.Binds field op (.list (.text v :: rest)) type t.column p ∧
        ∀ s, isLike same p s = true ↔ Stands same (· <:+: ·) v s) ∧
    (∀ op, Operator.ofRequest op = .ok .startsWith → ∃ p,
      scope.Binds field op (.list (.text v :: rest)) type t.column p ∧
        ∀ s, isLike same p s = true ↔ Stands same (· <+: ·) v s) ∧
    (∀ op, Operator.ofRequest op = .ok .endsWith → ∃ p,
      scope.Binds field op (.list (.text v :: rest)) type t.column p ∧
        ∀ s, isLike same p s = true ↔ Stands same (· <:+ ·) v s) ∧
    ∀ search, trim search ≠ "" → ∃ p, searchPattern? (.text search) = some p ∧
      (∀ (r : DistinctRequest) (target column : String),
        distinctWhere scope { r with search := .text search } target column =
          (do
            let others? ← distinctWhere scope { r with search := .null } target column
            return Predicate.both? others? (some (.atom (.like column p))))) ∧
      ∀ s, isLike same p s = true ↔ Stands same (· <:+: ·) (trim search) s := by
  refine ⟨fun op hop => ?_, fun op hop => ?_, fun op hop => ?_, fun search hsearch => ?_⟩
  · exact ⟨_, binds_pattern ht hop (.inl rfl) hv rest, fun s => isLike_within⟩
  · exact ⟨_, binds_pattern ht hop (.inr (.inl rfl)) hv rest, fun s => isLike_start⟩
  · exact ⟨_, binds_pattern ht hop (.inr (.inr rfl)) hv rest, fun s => isLike_end⟩
  · have hp := searchPattern?_text hsearch
    exact ⟨_, hp, search_adds_pattern hp, fun s => isLike_within⟩

/-- A text of wildcards and escapes. -/
def discount : String := "50%_off\\"

/-- Letters of either case count as the same. -/
def sameLetter (c d : Char) : Bool :=
  c.toLower == d.toLower

theorem discount_matches_itself :
    (∃ p, packets.Binds (.text "port") (.text "contains") (.list [.text discount]) .null
        "t.\"port\"" p ∧ isLike sameLetter p "now 50%_OFF\\!" = true) ∧
    (∃ p, packets.Binds (.text "port") (.text "ends with") (.list [.text discount]) .null
        "t.\"port\"" p ∧ isLike (· == ·) p "now 50%_off\\" = true ∧
        isLike (· == ·) p "now 50 per cent off\\" = false) ∧
    ∃ p, searchPattern? (.text " 50% ") = some p ∧ isLike (· == ·) p "for 50% less" = true ∧
      isLike (· == ·) p "for 50 or less" = false := by
  have hname : packets.schema.require (.text "port") = .ok "port" := by decide +kernel
  have hcolumn : packets.schema.column (.text "port") = .ok "t.\"port\"" := by decide +kernel
  have ht : packets.target (.text "port") (declaredBy .null) =
      .ok ⟨"port", "t.\"port\"", packets.schema.fieldType (.text "port")⟩ := by
    unfold target
    rw [hname, hcolumn]
    rfl
  have hv : discount ≠ "" := by decide
  refine ⟨?_, ?_, ?_⟩
  · obtain ⟨hlike, -⟩ := operands_match_themselves sameLetter ht hv []
    obtain ⟨p, hp, hmatches⟩ := hlike (.text "contains") (by decide +kernel)
    refine ⟨p, hp, (hmatches _).2 ⟨"50%_OFF\\".toList, ?_, "now ".toList, "!".toList, rfl⟩⟩
    decide
  · obtain ⟨-, -, hends, -⟩ := operands_match_themselves (· == ·) ht hv []
    obtain ⟨p, hp, hmatches⟩ := hends (.text "ends with") (by decide +kernel)
    simp only [stands_beq] at hmatches
    refine ⟨p, hp, (hmatches _).2 (by decide), ?_⟩
    rw [← Bool.not_eq_true, hmatches]
    decide
  · obtain ⟨-, -, -, hfound⟩ := operands_match_themselves (· == ·) ht hv []
    obtain ⟨p, hp, -, hmatches⟩ := hfound " 50% " (by decide +kernel)
    have htrim : trim " 50% " = "50%" := by decide +kernel
    simp only [stands_beq, htrim] at hmatches
    refine ⟨p, hp, (hmatches _).2 (by decide), ?_⟩
    rw [← Bool.not_eq_true, hmatches]
    decide

end Scope

end Crosstab.Filter
