import Crosstab.Pivot.Query
import Crosstab.Proofs.Filter.Membership

/-!
# Restrictions to keys

The rows of a text field that a restriction to keys keeps.
-/

namespace Crosstab

open Crosstab.Filter Sql Text

namespace Filter.Scope

variable {scope : Scope} {t : Target}

theorem operand_text (ht : t.type.isTextual = true) (s : String) :
    scope.operand t (.text s) = .ok (.asText t.column, .text s) :=
  operand_textual ht (.text s)

/-- The keys that stand for no missing value. -/
def presentKeys (keys : List String) : List String :=
  keys.filter fun k => !isEmptyMarker (.text k)

theorem exists_marker {keys : List String} :
    (∃ k ∈ keys, isEmptyMarker (.text k) = true) ↔ presentKeys keys ≠ keys := by
  rw [presentKeys, Ne, List.filter_eq_self]
  simp

/-- A restriction to keys keeps the texts among them, and what is empty or missing if a key stands
for it. -/
def Keeps (keys : List String) (v? : Option String) : Prop :=
  (∃ s ∈ v?, s ∈ presentKeys keys) ∨
    (v? = none ∨ v? = some "") ∧ ∃ k ∈ keys, isEmptyMarker (.text k) = true

/-- The operands of keys that are all read in one way. -/
theorem operands_of {subject : Subject} {arg : String → Value} (keys : List String)
    (h : ∀ k ∈ keys, scope.operand t (.text k) = .ok (subject, arg k)) :
    (keys.map Value.text).mapM (scope.operand t) = .ok ((keys.map arg).map (Prod.mk subject)) := by
  rw [Outcome.mapM_map_eq h, List.map_map]
  rfl

/-- The condition for keys that are compared with one subject, by what the keys stand for. -/
theorem membership_keys {keys : List String} (hne : keys ≠ []) {subject : Subject}
    {args : List Value} (hargs : ((presentKeys keys).map Value.text).mapM (scope.operand t) =
      .ok (args.map (Prod.mk subject))) :
    scope.membership t (keys.map .text) false = .ok (some
      (if presentKeys keys = keys then .atom (.member subject false args)
      else if presentKeys keys = [] then missing t false
      else .group (.link (.atom (.member subject false args)) .or (missing t false)))) := by
  have hpresent : presentValues (keys.map .text) = (presentKeys keys).map .text := by
    rw [presentValues, List.filter_map, presentKeys]
    rfl
  have hlength : args.length = (presentValues (keys.map .text)).length := by
    have hlengths := (Outcome.forall₂_of_mapM hargs).length_eq
    rw [hpresent, hlengths, List.length_map]
  have hvalues : keys.map Value.text ≠ [] := fun h => hne (List.map_eq_nil_iff.1 h)
  have hall : (presentKeys keys).map Value.text = keys.map .text ↔ presentKeys keys = keys :=
    (List.map_injective_iff.2 fun _ _ h => Value.text.inj h).eq_iff
  have hbound := @boundMembership_eq t _ hvalues false subject args hlength
  simp only [hpresent, hall, List.map_eq_nil_iff] at hbound
  rw [membership_eq, hpresent, hargs]
  exact congrArg Except.ok hbound

/-- The condition for keys is that the value is found among them, or is missing if a key stands for
that; each comparison has a truth of its own. -/
theorem membership_truth (truth? : Atom → Option Truth) {keys : List String} {subject : Subject}
    {args : List Value} (hargs : ((presentKeys keys).map Value.text).mapM (scope.operand t) =
      .ok (args.map (Prod.mk subject))) {found absent : Truth} (hnever : truth? .never = some .no)
    (hfound : truth? (.member subject false args) = some found)
    (habsent : (missing t false).truthBy truth? = some absent) :
    ∃ p truth, scope.membership t (keys.map .text) false = .ok (some p) ∧
      p.truthBy truth? = some truth ∧ (truth = .yes ↔
        found = .yes ∧ presentKeys keys ≠ [] ∨ absent = .yes ∧ presentKeys keys ≠ keys) := by
  by_cases hne : keys = []
  · subst hne
    exact ⟨.atom .never, .no, rfl, hnever, by simp [presentKeys]⟩
  have hmember := membership_keys hne hargs
  by_cases hall : presentKeys keys = keys
  · rw [if_pos hall] at hmember
    exact ⟨_, found, hmember, hfound, by simp [hall, hne]⟩
  rw [if_neg hall] at hmember
  by_cases hnone : presentKeys keys = []
  · rw [if_pos hnone] at hmember
    exact ⟨_, absent, hmember, habsent, by simp [hnone, Ne.symm hne]⟩
  · rw [if_neg hnone] at hmember
    have heither := Predicate.truthBy_or (p := .atom (.member subject false args)) rfl
      (missing_closed t false) hfound habsent
    exact ⟨_, _, hmember, heither, by simp [hall, hnone]⟩

theorem truth_missing (ht : t.type.isTextual = true) (row : Texts) :
    ∃ truth, (missing t false).truth? row = some truth ∧
      (truth = .yes ↔ row t.column = none ∨ row t.column = some "") := by
  refine ⟨(Truth.ofBool (row t.column).isNone).either (Sql.among (row t.column) [.text ""]), ?_, ?_⟩
  · unfold missing
    rw [if_pos ht]
    rfl
  · rw [Truth.either_eq_yes, Truth.ofBool_eq_yes, Option.isNone_iff_eq_none,
      show [Value.text ""] = [""].map .text from rfl, among_texts_eq_yes]
    simp

/-- The rows that the condition for keys of a text field keeps. -/
theorem membership_keeps (ht : t.type.isTextual = true) (keys : List String) (row : Texts) :
    ∃ p truth, scope.membership t (keys.map .text) false = .ok (some p) ∧
      p.truth? row = some truth ∧ (truth = .yes ↔ Keeps keys (row t.column)) := by
  obtain ⟨absent, habsent, hyes⟩ := truth_missing ht row
  have hargs := operands_of (presentKeys keys) fun k _ => @operand_text scope t ht k
  obtain ⟨p, truth, hp, htruth, hkept⟩ :=
    membership_truth (Atom.truth? row) hargs rfl rfl habsent
  refine ⟨p, truth, hp, htruth, hkept.trans ?_⟩
  rw [Keeps, exists_marker, hyes]
  refine or_congr ?_ Iff.rfl
  constructor
  · rintro ⟨hfound, -⟩
    exact among_texts_eq_yes.1 hfound
  · rintro ⟨s, hs, hmem⟩
    exact ⟨among_texts_eq_yes.2 ⟨s, hs, hmem⟩, List.ne_nil_of_mem hmem⟩

end Filter.Scope

namespace Pivot

open Crosstab.Filter.Scope (Keeps presentKeys)

variable {c : Context} {field : Value} {column : String}

/-- The restriction of a text field to keys is the condition for them, and what SQL reads in its
fragment has its truth value. -/
theorem axisFilter_keeps (hcolumn : c.schema.column field = .ok column)
    (htext : (c.schema.fieldType field).isTextual = true) (keys : List String) (row : Texts) :
    ∃ e p f truth, c.axisFilter field (keys.map .text) = .ok (.entry e) ∧
      c.scope.entry e = .ok (some p) ∧ p.Judges (Atom.truth? row) f truth ∧
      (truth = .yes ↔ Keeps keys (row column)) := by
  obtain ⟨name, -, hentry⟩ := Filter.Scope.entry_of_column c.scope hcolumn
  have hdate : (c.schema.fieldType field != .date) = true := by
    refine bne_iff_ne.2 fun h => ?_
    rw [h] at htext
    cases htext
  obtain ⟨p, truth, hp, htruth, hyes⟩ := @Filter.Scope.membership_keeps c.scope
    ⟨name, column, c.schema.fieldType field⟩ htext keys row
  have he := (hentry _).trans hp
  obtain ⟨hsound, -⟩ := (Filter.Scope.entry_yields _).of_ok he p rfl
  obtain ⟨f, hf, -⟩ := hsound.fragment
  exact ⟨_, p, f, truth, if_pos hdate, he, hsound.judges hf htruth, hyes⟩

/-- Keys that stand for a missing value only as the label, and a text that stands for none. -/
theorem keeps_iff_key_mem {keys : List String} {v? : Option String}
    (hkeys : ∀ k ∈ keys, isEmptyMarker (.text k) = true → k = emptyLabel)
    (hv : ∀ s ∈ v?, isEmptyMarker (.text s) = true → s = "") :
    Keeps keys v? ↔ keyOf v? ∈ keys := by
  have hlabel : (∃ k ∈ keys, isEmptyMarker (.text k) = true) ↔ emptyLabel ∈ keys := by
    constructor
    · rintro ⟨k, hk, hmarker⟩
      exact hkeys k hk hmarker ▸ hk
    · exact fun h => ⟨_, h, rfl⟩
  have hpresent : ∀ s, s ∈ presentKeys keys ↔ s ∈ keys ∧ isEmptyMarker (.text s) = false := by
    intro s
    rw [presentKeys, List.mem_filter, Bool.not_eq_true']
  rw [Keeps, hlabel]
  cases v? with
  | none => simp [keyOf_none]
  | some s =>
    by_cases hs : s = ""
    · subst hs
      have hblank : isEmptyMarker (.text "") = true := rfl
      simp [keyOf_empty, hpresent, hblank]
    · have hmarker : isEmptyMarker (.text s) = false :=
        Bool.eq_false_iff.2 fun h => hs (hv s rfl h)
      simp [keyOf_of_ne hs, hpresent, hmarker, hs]

/-- The restriction of a text field to keys keeps the texts among them that stand for no missing
value, and what is empty or missing if a key stands for that. So it keeps the rows with the keys,
unless a stored text or a key stands for the missing value and is not its usual form. -/
theorem rows_of_keys_come_back (hcolumn : c.schema.column field = .ok column)
    (htext : (c.schema.fieldType field).isTextual = true) (keys : List String) (row : Texts) :
    ∃ e p f truth, c.axisFilter field (keys.map .text) = .ok (.entry e) ∧
      c.scope.entry e = .ok (some p) ∧ p.Judges (Atom.truth? row) f truth ∧
      (truth = .yes ↔ Keeps keys (row column)) ∧
      ((∀ k ∈ keys, isEmptyMarker (.text k) = true → k = emptyLabel) →
        (∀ s ∈ row column, isEmptyMarker (.text s) = true → s = "") →
        (truth = .yes ↔ keyOf (row column) ∈ keys)) := by
  obtain ⟨e, p, f, truth, hfilter, hentry, htruth, hyes⟩ := axisFilter_keeps hcolumn htext keys row
  exact ⟨e, p, f, truth, hfilter, hentry, htruth, hyes,
    fun hkeys hv => hyes.trans (keeps_iff_key_mem hkeys hv)⟩

/-- Packets of a layer whose port is a text. -/
def portPackets : Context where
  schema := Filter.Scope.packets.schema
  settings := Filter.Scope.packets.settings
  timeField := "time"
  time := .null
  restrictions := []

theorem rows_of_ports_come_back :
    portPackets.schema.column (.text "port") = .ok "t.\"port\"" ∧
    (portPackets.schema.fieldType (.text "port")).isTextual = true ∧
    ∃ e p f, portPackets.axisFilter (.text "port") [.text "80", .text "(empty)"] =
        .ok (.entry e) ∧
      portPackets.scope.entry e = .ok (some p) ∧
      p.Judges (Atom.truth? fun _ => some "80") f .yes := by
  have hcolumn : portPackets.schema.column (.text "port") = .ok "t.\"port\"" := by decide +kernel
  have htext : (portPackets.schema.fieldType (.text "port")).isTextual = true := by decide +kernel
  obtain ⟨e, p, f, truth, hfilter, hentry, htruth, -, hyes⟩ :=
    rows_of_keys_come_back hcolumn htext ["80", "(empty)"] fun _ => some "80"
  have hkeys : ∀ k ∈ ["80", "(empty)"], isEmptyMarker (.text k) = true → k = emptyLabel := by
    decide +kernel
  have hv : ∀ s ∈ some "80", isEmptyMarker (.text s) = true → s = "" := by decide +kernel
  rw [(hyes hkeys hv).2 (by decide)] at htruth
  exact ⟨hcolumn, htext, e, p, f, hfilter, hentry, htruth⟩

/-- A row that stores a blank is not among those with its key, and a row without a text is. -/
theorem blank_key_takes_other_rows :
    ∃ e p f, portPackets.axisFilter (.text "port") [.text " "] = .ok (.entry e) ∧
      portPackets.scope.entry e = .ok (some p) ∧
      (p.Judges (Atom.truth? fun _ => some " ") f .no ∧ keyOf (some " ") ∈ [" "]) ∧
      p.Judges (Atom.truth? fun _ => none) f .yes ∧ keyOf none ∉ [" "] := by
  have hentry : portPackets.scope.entry (.checkbox (.text "port") [.text " "]) =
      .ok (some (Filter.Scope.missing ⟨"port", "t.\"port\"", .string⟩ false)) := by
    decide +kernel
  obtain ⟨hsound, -⟩ := (Filter.Scope.entry_yields _).of_ok hentry _ rfl
  obtain ⟨f, hf, -⟩ := hsound.fragment
  refine ⟨.checkbox (.text "port") [.text " "], _, f, by decide +kernel, hentry,
    ⟨hsound.judges hf rfl, by decide⟩, hsound.judges hf rfl, by decide⟩

end Pivot

end Crosstab
