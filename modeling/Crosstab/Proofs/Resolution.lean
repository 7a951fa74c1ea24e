import Crosstab.Proofs.Names

/-!
# Only columns of the schema are named

A name is looked up only if it is an identifier, and the column that is found is put into quotes
only if it is one too. The column may be spelled in another case than the name, also with letters
outside of ASCII that have an ASCII letter for their lower case, so it takes both checks to keep
quotes and placeholders out of a statement.
-/

namespace Crosstab.Schema

open Sql Text

variable {schema : Schema} {name other : Value} {column s : String}

/-! ## Columns of one case -/

/-- No two columns agree but for the case. -/
def HasOneCase (schema : Schema) : Prop :=
  ∀ p ∈ schema.columns, ∀ q ∈ schema.columns, lower p.1 = lower q.1 → p.1 = q.1

instance (schema : Schema) : Decidable schema.HasOneCase :=
  inferInstanceAs (Decidable (∀ p ∈ schema.columns, ∀ q ∈ schema.columns,
    lower p.1 = lower q.1 → p.1 = q.1))

/-- Where no two columns agree but for the case, the one that is found is the one that agrees. -/
theorem lookup?_eq_some (hone : schema.HasOneCase) :
    schema.lookup? s = some column ↔ schema.IsColumn column ∧ lower column = lower s := by
  refine ⟨lookup?_inversion, ?_⟩
  rintro ⟨⟨p, hp, rfl⟩, hlower⟩
  cases hfound : schema.lookup? s with
  | some found =>
    -- an exact agreement or the last of several, it is the only one
    obtain ⟨⟨q, hq, rfl⟩, hagrees⟩ := lookup?_inversion hfound
    rw [hone q hq p hp (hagrees.trans hlower.symm)]
  | none =>
    unfold lookup? at hfound
    split at hfound
    · cases hfound
    · have hnone := List.find?_eq_none.1 (Option.map_eq_none_iff.1 hfound) p (List.mem_reverse.2 hp)
      exact absurd (beq_iff_eq.2 hlower) hnone

/-- Identifiers that agree but for the case of ASCII letters have the same lower case. -/
theorem lower_of_toLower {s t : String} (hs : isIdentifier s = true)
    (h : s.toList.map Char.toLower = t.toList.map Char.toLower) : lower s = lower t := by
  have ht : isIdentifier t = true := by rw [← isIdentifier_of_toLower h, hs]
  rw [lower, lower, lowerAfter_of_isAscii (isAscii_of_isIdentifier hs),
    lowerAfter_of_isAscii (isAscii_of_isIdentifier ht), h]

/-- Names that agree but for the case of ASCII letters resolve alike. -/
theorem resolve?_of_toLower (hone : schema.HasOneCase)
    (h : (fieldName name).toList.map Char.toLower = (fieldName other).toList.map Char.toLower) :
    schema.resolve? name = schema.resolve? other := by
  refine Option.ext fun column => ?_
  rw [resolve?_eq_some, resolve?_eq_some, lookup?_eq_some hone, lookup?_eq_some hone,
    ← isIdentifier_of_toLower h]
  refine and_congr_right fun hname => ?_
  rw [lower_of_toLower hname h]

/-! ## Columns in a statement -/

/-- The request is rejected for a name. -/
def IsNotAllowed (e : Failure) : Prop :=
  ∃ detail, e = .rejected .fieldNotAllowed detail

/-- A name has a column or is rejected. -/
theorem column_known (schema : Schema) (name : Value) :
    Outcome.Yields IsNotAllowed (fun text => schema.column name = .ok text)
      (schema.column name) := by
  have hrequire : Outcome.Yields IsNotAllowed (fun _ => True) (schema.require name) := by
    unfold require
    cases schema.resolve? name with
    | none => exact .error ⟨_, rfl⟩
    | some column => exact .ok trivial
  have hquote : ∀ s, Outcome.Yields IsNotAllowed (fun _ => True) (quoteIdentifier (.text s)) := by
    intro s
    simp only [quoteIdentifier]
    cases isIdentifier s with
    | false => exact .error ⟨_, rfl⟩
    | true => exact .ok trivial
  have hcolumn : Outcome.Yields IsNotAllowed (fun _ => True) (schema.column name) :=
    hrequire.bind fun column _ => (hquote column).bind fun _ _ => .ok trivial
  exact hcolumn.known

/-- The column of a name in a statement: a column of the schema in quotes, which agrees with the
name but for the case, and is the one that is spelled like the name if there is one. -/
structure IsNamed (schema : Schema) (name : Value) (column text : String) : Prop where
  quoted : text = "t.\"" ++ column ++ "\""
  isColumn : schema.IsColumn column
  agrees : lower column = lower (fieldName name)
  spelled : schema.IsColumn (fieldName name) → column = fieldName name
  plain : ∀ c ∈ column.toList, c ≠ '\'' ∧ c ≠ '"' ∧ c ≠ '?'
  inert : Inert text

theorem isNamed_of_column {text : String} (h : schema.column name = .ok text) :
    ∃ column, schema.IsNamed name column text := by
  obtain ⟨column, hresolve, hidentifier, rfl⟩ := column_eq_ok.1 h
  obtain ⟨-, hagrees, hcolumn⟩ := agrees_of_resolve hresolve
  refine ⟨column, ?_, hcolumn, hagrees, fun hspelled => ?_, fun c hc => ?_, ?_⟩
  · rw [← String.toList_inj]
    simp [columnText, tableAlias]
  · have hfound := (resolve?_eq_some.1 hresolve).2
    rw [lookup?_of_isColumn hspelled] at hfound
    exact (Option.some.inj hfound).symm
  · have hnot : ∀ d, isIdentifierChar d = false → d ≠ '\n' → c ≠ d := by
      rintro _ hd hbreak rfl
      exact not_mem_of_isIdentifier hidentifier hd hbreak hc
    exact ⟨hnot _ (by decide) (by decide), hnot _ (by decide) (by decide),
      hnot _ (by decide) (by decide)⟩
  · exact ((schema.column_yields name).of_ok h).isQuiet.inert

/-- A name has a column of the schema, in quotes and with nothing in it that a scan could take for
a quote or a placeholder, or it is rejected. Where no two columns agree but for the case, names that
agree but for the case of ASCII letters have the same column or none. -/
theorem only_columns_are_named (schema : Schema) :
    (∀ name, (∃ detail, schema.column name = .error (.rejected .fieldNotAllowed detail)) ∨
      ∃ column text, schema.column name = .ok text ∧ schema.IsNamed name column text) ∧
    (schema.HasOneCase → ∀ name other,
      (fieldName name).toList.map Char.toLower = (fieldName other).toList.map Char.toLower →
      schema.resolve? name = schema.resolve? other) := by
  refine ⟨fun name => ?_, fun hone name other h => resolve?_of_toLower hone h⟩
  have hknown := schema.column_known name
  cases hcolumn : schema.column name with
  | error failure =>
    obtain ⟨detail, rfl⟩ := hknown.of_error hcolumn
    exact .inl ⟨detail, rfl⟩
  | ok text =>
    obtain ⟨column, hnamed⟩ := isNamed_of_column hcolumn
    exact .inr ⟨column, text, rfl, hnamed⟩

/-- Requests of a layer, with the length of their answers. -/
def requests : Schema :=
  .of .httpUri [("http_host", "VARCHAR"), ("Bytes", "BIGINT")] []

theorem sizes_of_requests_resolve_alike :
    requests.HasOneCase ∧
    requests.resolve? (.text "BYTES-desc") = requests.resolve? (.text " bytes ") := by
  have hone : requests.HasOneCase := by decide +kernel
  exact ⟨hone, (only_columns_are_named requests).2 hone _ _ (by decide +kernel)⟩

end Crosstab.Schema
