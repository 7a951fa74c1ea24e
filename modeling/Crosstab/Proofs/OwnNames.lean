import Crosstab.Grid.RowQuery
import Crosstab.Pivot.Query
import Crosstab.Proofs.Filter.Operands
import Crosstab.Proofs.Names

/-!
# Columns by their own names

Blanks around a name and a suffix behind a dash are dropped before a name is looked up. A name that
has neither stands for the column that is spelled so, if there is one, and so does it in a filter, a
sort, an axis and a metric; the text of the filter, that of its dates included, names no other
column. The name of a column that has one of them is shortened, and never stands for that column.
-/

namespace Crosstab

open Crosstab.Filter Sql Text

/-! ## Shortened names -/

theorem sublist_dropAround (p : Char → Bool) (cs : List Char) : (dropAround p cs).Sublist cs := by
  have hlead : (dropLeading p cs).Sublist cs := List.dropWhile_sublist p
  have htrail : (dropTrailing p (dropLeading p cs)).Sublist (dropLeading p cs) := by
    have hreverse := (List.dropWhile_sublist p (l := (dropLeading p cs).reverse)).reverse
    rwa [List.reverse_reverse] at hreverse
  exact htrail.trans hlead

/-- The name of a field is part of the text that names it. -/
theorem sublist_fieldName (s : String) : (fieldName (.text s)).toList.Sublist s.toList := by
  have hname : fieldName (.text s) = upTo '-' (trim s) := rfl
  rw [hname, upTo, trim, String.toList_ofList, String.toList_ofList]
  exact (List.takeWhile_sublist _).trans (sublist_dropAround _ _)

namespace Schema

variable {schema : Schema} {column : String}

/-- A column that its name resolves to has a name that is not shortened: lower case makes no text
shorter, so it cannot make up for what is dropped. -/
theorem fieldName_of_resolve (h : schema.resolve? (.text column) = some column) :
    fieldName (.text column) = column := by
  obtain ⟨hname, hlower, -⟩ := agrees_of_resolve h
  have hsub := sublist_fieldName column
  have hlength : column.toList.length ≤ (fieldName (.text column)).toList.length := by
    have hgrows := length_le_lowerAfter column.toList []
    rw [lower, lower, String.ofList_inj, lowerAfter_of_isAscii (isAscii_of_isIdentifier hname)]
      at hlower
    rw [hlower, List.length_map] at hgrows
    exact hgrows
  exact String.toList_inj.1 (hsub.eq_of_length_le hlength)

/-- A column whose name is not shortened is the one that its name resolves to, if to any. -/
theorem resolve?_own (hcolumn : schema.IsColumn column)
    (hown : fieldName (.text column) = column) {d : String}
    (h : schema.resolve? (.text column) = some d) : d = column := by
  have hfound := (resolve?_eq_some.1 h).2
  rw [hown, lookup?_of_isColumn hcolumn] at hfound
  exact (Option.some.inj hfound).symm

theorem column_own (hcolumn : schema.IsColumn column)
    (hown : fieldName (.text column) = column) {text : String}
    (h : schema.column (.text column) = .ok text) : text = columnText column := by
  obtain ⟨d, hresolve, -, rfl⟩ := column_eq_ok.1 h
  rw [resolve?_own hcolumn hown hresolve]

end Schema

/-! ## Uses of a name -/

/-- The name of a column in a statement is that of the column. -/
theorem names_columnText {column : String} (h : isIdentifier column = true) :
    Names (Schema.columnText column) [column] := by
  have hquote : '"' ∉ column.toList := not_mem_of_isIdentifier h (by decide) (by decide)
  have halias : Names "t." [] := by decide
  exact halias.append (.quoted hquote)

/-- An entry by the own name of a column compares that column only, and no other is named in its
text. -/
theorem Filter.Scope.entry_own {scope : Scope} {column : String}
    (hcolumn : scope.schema.IsColumn column) (hown : fieldName (.text column) = column) {e : Entry}
    (hfield : e.field = .text column) {p? : Option Predicate} (h : scope.entry e = .ok p?) :
    scope.IsOn column (Schema.columnText column) p? ∧
      ∃ f, Predicate.fragment? p? = .ok f ∧ ∀ name ∈ namesIn f.sql, name = column := by
  obtain ⟨name, hname, hon⟩ := Scope.entry_isOn h
  rw [hfield] at hname
  have hresolve := Schema.require_eq_ok.1 hname
  obtain rfl := Schema.resolve?_own hcolumn hown hresolve
  have hall := hon _ fun text htext => Schema.column_own hcolumn hown (hfield ▸ htext)
  refine ⟨hall, ?_⟩
  cases p? with
  | none => exact ⟨.empty, rfl, nofun⟩
  | some p =>
    obtain ⟨f, hf, hsql, -⟩ := ((Scope.entry_yields e).of_ok h p rfl).1.fragment
    have hidentifier := (Schema.resolve?_eq_some.1 hresolve).1
    rw [hown] at hidentifier
    have hnames : ∀ subject ∈ p.subjects, Names subject.sql [name] := fun subject hsubject =>
      (hall p rfl subject hsubject).names (names_columnText hidentifier)
    refine ⟨f, hf, fun other hother => ?_⟩
    rw [hsql, (Predicate.names_sql fun s hs => (hnames s hs).1).2] at hother
    obtain ⟨subject, hsubject, hother⟩ := List.mem_flatMap.1 hother
    rw [(hnames subject hsubject).2] at hother
    exact List.mem_singleton.1 hother

namespace Schema

/-- Two columns of which the one is spelled like the other with a suffix. -/
def suffixed : Schema :=
  .of .tcp [("bytes", "BIGINT"), ("bytes-desc", "BIGINT")] []

/-- A column whose name has a suffix is not the one that its name resolves to. -/
theorem suffixed_name_resolves_to_another :
    suffixed.IsColumn "bytes-desc" ∧ suffixed.resolve? (.text "bytes-desc") = some "bytes" := by
  decide +kernel

/-- The name of a column resolves to that column only if it is not shortened. If it is not, it is
applied to no other column in a filter, a sort, an axis or a metric. -/
theorem own_names_stand_for_their_columns (scope : Scope) {column : String}
    (hcolumn : scope.schema.IsColumn column) :
    (∀ d, scope.schema.resolve? (.text column) = some d →
      (d = column ↔ fieldName (.text column) = column)) ∧
    (fieldName (.text column) = column →
      (∀ (e : Entry) p?, e.field = .text column → scope.entry e = .ok p? →
        scope.IsOn column (columnText column) p? ∧
        ∃ f, Predicate.fragment? p? = .ok f ∧ ∀ name ∈ namesIn f.sql, name = column) ∧
      (column ≠ "" → ∀ sort default_ text direction, (Scope.sortParts sort).1 = .text column →
        scope.sortTerm sort default_ = .ok (text, direction) → text = columnText column) ∧
      (∀ (c : Pivot.Context) key, c.schema = scope.schema → c.key (.text column) = .ok key →
        key = keyExpr (columnText column)) ∧
      ∀ (m : Pivot.Metric) expr, m.field = column → m.expr scope.schema = .ok expr →
        expr = m.agg.expr (columnText column)) := by
  refine ⟨fun d hd => ⟨?_, fun hown => resolve?_own hcolumn hown hd⟩, fun hown => ⟨?_, ?_, ?_, ?_⟩⟩
  · rintro rfl
    exact fieldName_of_resolve hd
  · exact fun e p? hfield hentry => Scope.entry_own hcolumn hown hfield hentry
  · intro hne sort default_ text direction hfield hsort
    -- an empty name would give way to the default field
    have htruthy : (Value.text column).truthy = true := by
      simpa [Value.truthy] using hne
    obtain ⟨-, htext⟩ := Scope.sortTerm_inversion hsort
    rw [hfield, Value.orElse, if_pos htruthy] at htext
    exact column_own hcolumn hown htext
  · intro c key hschema hkey
    obtain ⟨text, htext, hkey⟩ := Outcome.bind_eq_ok.1 hkey
    rw [hschema] at htext
    obtain rfl := column_own hcolumn hown htext
    exact (Outcome.pure_eq_ok.1 hkey).symm
  · rintro ⟨field, agg, label⟩ expr rfl hexpr
    by_cases hcount : agg = .count
    · subst hcount
      exact (Except.ok.inj hexpr).symm
    · have hoverColumn : (do return agg.expr (← scope.schema.column (.text field))) =
          (.ok expr : Outcome String) := by
        cases agg with
        | count => exact absurd rfl hcount
        | _ => exact hexpr
      obtain ⟨text, htext, hexpr⟩ := Outcome.bind_eq_ok.1 hoverColumn
      obtain rfl := column_own hcolumn hown htext
      exact (Outcome.pure_eq_ok.1 hexpr).symm

/-- Packets behind a day, by the name of the column of their times. -/
def packetsBehind : Entry :=
  ⟨.text "time", .conditions [⟨.gt, [.text "2024-02-03"]⟩] [], none, false⟩

theorem days_stand_for_their_column :
    Scope.packets.schema.IsColumn "time" ∧ fieldName (.text "time") = "time" ∧
    ∃ p f, Scope.packets.entry packetsBehind = .ok (some p) ∧
      (∀ subject ∈ p.subjects, Scope.packets.IsOver "time" (columnText "time") subject) ∧
      Predicate.fragment? (some p) = .ok f ∧
      f.sql = "(CAST(timezone('UTC', t.\"time\") AS DATE) > CAST(? AS DATE))" ∧
      ∀ name ∈ namesIn f.sql, name = "time" := by
  have hcolumn : Scope.packets.schema.IsColumn "time" := by decide +kernel
  have hown : fieldName (.text "time") = "time" := by decide +kernel
  have hentry : Scope.packets.entry packetsBehind =
      .ok (some (.group (.atom (.compare (.asDate "t.\"time\""
        "CAST(timezone('UTC', t.\"time\") AS DATE)") .gt (.text "2024-02-03"))))) := by
    decide +kernel
  generalize hp : Predicate.group _ = p at hentry
  obtain ⟨-, huses⟩ := own_names_stand_for_their_columns Scope.packets hcolumn
  obtain ⟨hover, f, hf, hnames⟩ := (huses hown).1 packetsBehind _ rfl hentry
  obtain ⟨hsql, -⟩ := Fragment.of_inversion hf
  refine ⟨hcolumn, hown, p, f, hentry, hover p rfl, hf, ?_, hnames⟩
  rw [hsql, ← hp]
  decide

end Schema

end Crosstab
