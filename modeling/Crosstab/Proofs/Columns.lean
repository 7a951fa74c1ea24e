import Crosstab.Proofs.Outcome
import Crosstab.Proofs.Sql.Clauses
import Crosstab.Schema
import Mathlib.Data.List.TakeWhile

/-!
# Columns are words

A name only comes into a statement as an identifier in quotes, so a column of a schema is one word
that no reader takes for a keyword, and everything built around it is a phrase. A name that is not
the name of a column is rejected; the only other failure is a time zone that would end its quotes.
-/

namespace Crosstab

open Sql Text

/-! ## Failures -/

/-- The failure rejects the request. -/
def IsRejection (e : Failure) : Prop :=
  ∃ code detail, e = .rejected code detail

/-- The failure is that of a time zone with a quote in it. -/
def IsZoneFault (zone : String) (e : Failure) : Prop :=
  e = .unusable (.timeZone zone) ∧ '\'' ∈ zone.toList

variable {α : Type} {P : α → Prop}

theorem reject_yields (code : ErrorCode) (detail : String) :
    Outcome.Yields IsRejection P (reject code detail) :=
  .error ⟨code, detail, rfl⟩

/-! ## Names -/

/-- An identifier is made of its own characters; a line break may end it. -/
theorem isIdentifierChar_or_newline {s : String} (h : isIdentifier s = true) :
    ∀ c ∈ s.toList, isIdentifierChar c = true ∨ c = '\n' := by
  unfold isIdentifier at h
  split at h
  · next hs =>
    rw [hs]
    nofun
  · next c cs hs =>
    obtain ⟨hstart, hrest⟩ := Bool.and_eq_true_iff.1 h
    have hc : isIdentifierChar c = true := Bool.or_eq_true_iff.2 (.inl hstart)
    have hlead : ∀ d ∈ cs.takeWhile isIdentifierChar, isIdentifierChar d = true := fun d hd =>
      List.mem_takeWhile_imp hd
    have htail : ∀ d ∈ cs.dropWhile isIdentifierChar, d = '\n' := by
      rcases Bool.or_eq_true_iff.1 hrest with h | h
      · rw [List.isEmpty_iff.1 h]
        nofun
      · rw [eq_of_beq h]
        exact List.forall_mem_singleton.2 rfl
    rw [hs, ← List.takeWhile_append_dropWhile (p := isIdentifierChar) (l := cs)]
    exact List.forall_mem_cons.2 ⟨.inl hc, List.forall_mem_append.2
      ⟨fun d hd => .inl (hlead d hd), fun d hd => .inr (htail d hd)⟩⟩

/-- A character that may not stand in an identifier does not. -/
theorem not_mem_of_isIdentifier {s : String} (h : isIdentifier s = true) {c : Char}
    (hc : isIdentifierChar c = false) (hbreak : c ≠ '\n') : c ∉ s.toList := by
  intro hmem
  rcases isIdentifierChar_or_newline h c hmem with hchar | hnewline
  · exact Bool.eq_false_iff.1 hc hchar
  · exact hbreak hnewline

theorem quoteIdentifier_yields (s : String) :
    Outcome.Yields IsRejection IsPlain (quoteIdentifier (.text s)) := by
  simp only [quoteIdentifier]
  cases hs : isIdentifier s with
  | false => exact reject_yields _ _
  | true =>
    have hword := isWord_quoted (.inr rfl)
      (not_mem_of_isIdentifier hs (by decide) (by decide))
    refine .ok ⟨hword, ?_⟩
    show (Term.word (symbols ("\"" ++ s ++ "\""))).isKeyword = false
    rw [symbols_append, symbols_append]
    rfl

namespace Schema

theorem require_yields (schema : Schema) (name : Value) :
    Outcome.Yields IsRejection (fun _ => True) (schema.require name) := by
  rw [require]
  cases schema.resolve? name with
  | none => exact reject_yields _ _
  | some column => exact .ok trivial

/-- A qualified column is one word. -/
theorem column_yields (schema : Schema) (name : Value) :
    Outcome.Yields IsRejection IsPlain (schema.column name) := by
  refine (schema.require_yields name).bind fun column _ => ?_
  refine (quoteIdentifier_yields column).bind fun quoted hquoted => .ok ?_
  have halias : IsWord "t" := by decide
  have hdot : IsWord "." := by decide
  refine ⟨(halias.append hdot).append hquoted.1, ?_⟩
  show (Term.word (symbols ("t" ++ "." ++ quoted))).isKeyword = false
  rw [symbols_append, symbols_append]
  rfl

/-- The table of a layer and its alias are two words. -/
theorem isQuiet_fromClause (schema : Schema) : IsQuiet schema.fromClause := by
  have halias : IsQuiet "t" := IsPlain.isQuiet (by decide)
  have htable : IsQuiet schema.layer.dataTable := by
    cases schema.layer <;> exact IsPlain.isQuiet (by decide)
  exact htable.space halias

theorem fromClause_not_blank (schema : Schema) : isBlank schema.fromClause = false :=
  isBlank_behind (by decide) _

end Schema

/-! ## Dates -/

/-- What a date is cast from may be any phrase. -/
theorem isPhrase_castDate {inner : String} {ts : List Term} (h : Tells inner [] ts) :
    IsPhrase ("CAST(" ++ inner ++ " AS DATE)") := by
  have hsql : "CAST(" ++ inner ++ " AS DATE)" =
      "CAST" ++ "(" ++ (inner ++ " " ++ ("AS" ++ " " ++ "DATE")) ++ ")" := by
    rw [← String.toList_inj]
    simp
  have hcast : IsPlain "CAST" := by decide
  have htype := (Tells.word (by decide : IsWord "AS")).space
    (Tells.word (by decide : IsWord "DATE"))
  rw [hsql]
  exact isPhrase_call hcast (h.space htype)

/-- A function of a zone and a time. -/
theorem tells_timezone {zone time : String} (hzone : '\'' ∉ zone.toList) {ts : List Term}
    (h : Tells time [] ts) : ∃ us, Tells ("timezone('" ++ zone ++ "', " ++ time ++ ")") [] us := by
  have hquoted : IsWord ("'" ++ zone ++ "'") := isWord_quoted (.inl rfl) hzone
  have hsql : "timezone('" ++ zone ++ "', " ++ time ++ ")" =
      "timezone" ++ "(" ++ (("'" ++ zone ++ "'") ++ ", " ++ time) ++ ")" := by
    rw [← String.toList_inj]
    simp
  have hname : IsWord "timezone" := by decide
  rw [hsql]
  exact ⟨_, (Tells.word hname).call ((Tells.word hquoted).comma h)⟩

theorem zoneName_yields (zone : String) :
    Outcome.Yields (IsZoneFault zone) (fun z => z = zone ∧ '\'' ∉ z.toList) (zoneName zone) := by
  unfold zoneName
  by_cases h : zone.toList.contains '\'' = true
  · rw [if_pos h]
    exact .error ⟨rfl, List.contains_iff_mem.1 h⟩
  · rw [if_neg h]
    exact .ok ⟨rfl, fun hmem => h (List.contains_iff_mem.2 hmem)⟩

/-- The calendar date of a column is a phrase, in a time zone that has no quote. -/
theorem dateExpr_yields {column : String} (h : IsPlain column) (kind? : Option TemporalKind)
    (zone : String) (unzonedIsUtc : Bool) :
    Outcome.Yields (IsZoneFault zone) IsPhrase (dateExpr column kind? zone unzonedIsUtc) := by
  have hcolumn := Tells.word h.1
  cases kind? with
  | none =>
    have hname : IsWord "to_timestamp" := by decide
    refine .ok ?_
    have hcast := isPhrase_castDate ((Tells.word hname).call hcolumn)
    have hsql : "CAST(" ++ ("to_timestamp" ++ "(" ++ column ++ ")") ++ " AS DATE)" =
        "CAST(to_timestamp(" ++ column ++ ") AS DATE)" := by
      rw [← String.toList_inj]
      simp
    rwa [hsql] at hcast
  | some kind =>
    cases kind with
    | date => exact .ok h.isPhrase
    | zoned =>
      refine (zoneName_yields zone).bind fun z hz => .ok ?_
      obtain ⟨us, hus⟩ := tells_timezone hz.2 hcolumn
      have hcast := isPhrase_castDate hus
      have hsql : "CAST(" ++ ("timezone('" ++ z ++ "', " ++ column ++ ")") ++ " AS DATE)" =
          "CAST(timezone('" ++ z ++ "', " ++ column ++ ") AS DATE)" := by
        rw [← String.toList_inj]
        simp
      rwa [hsql] at hcast
    | unzoned =>
      have hplain := isPhrase_castDate hcolumn
      rw [dateExpr]
      split
      · refine (zoneName_yields zone).bind fun z hz => .ok ?_
        have hutc : '\'' ∉ "UTC".toList := by decide
        obtain ⟨us, hus⟩ := tells_timezone hutc hcolumn
        obtain ⟨ws, hws⟩ := tells_timezone hz.2 hus
        have hcast := isPhrase_castDate hws
        have hsql : "CAST(" ++ ("timezone('" ++ z ++ "', " ++ ("timezone('" ++ "UTC" ++ "', " ++
            column ++ ")") ++ ")") ++ " AS DATE)" =
            "CAST(timezone('" ++ z ++ "', timezone('UTC', " ++ column ++ ")) AS DATE)" := by
          rw [← String.toList_inj]
          simp
        rwa [hsql] at hcast
      · exact .ok hplain

end Crosstab
