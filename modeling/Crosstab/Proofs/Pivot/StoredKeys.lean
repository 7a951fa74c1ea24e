import Crosstab.Proofs.Numeral
import Crosstab.Proofs.Pivot.Grouped
import Crosstab.Proofs.Sql.Stored

/-!
# Keys in the words of the database

A restriction to keys reads each key as a value of the type of the field, and a row that it keeps
comes back with the key of what it stores. The two are the same if the key is the text that the
database has for the value: any text of a text field, `true` and `false`, and whole numbers in plain
decimal.
-/

namespace Crosstab

open Crosstab.Filter Number Sql Text

/-! ## Words -/

namespace Filter

/-- A key in the words of the database for values of the type. -/
inductive IsWord : FieldType → String → Prop where
  /-- The label stands for the missing value. -/
  | label (type : FieldType) : IsWord type emptyLabel
  | flag (b : Bool) : IsWord .boolean (if b then "true" else "false")
  | number {n : Int} (h : isWritable n = true) : IsWord .number (intText n)
  | text {type : FieldType} (h : type.isTextual = true) {s : String}
      (hs : isEmptyMarker (.text s) = false) : IsWord type s

/-- An item of a request that selects a key in the words of the database: one for the missing value,
a flag or a whole number in those words, and for texts any scalar. -/
inductive IsItem : FieldType → Value → Prop where
  | missing (type : FieldType) {v : Value} (h : isEmptyMarker v = true) : IsItem type v
  | flag (b : Bool) : IsItem .boolean (.text (if b then "true" else "false"))
  | number {n : Int} (h : isWritable n = true) : IsItem .number (.int n)
  | numeral {n : Int} (h : isWritable n = true) : IsItem .number (.text (intText n))
  | textFlag {type : FieldType} (h : type.isTextual = true) (b : Bool) : IsItem type (.bool b)
  | textNumber {type : FieldType} (h : type.isTextual = true) (n : Int) : IsItem type (.int n)
  | textReal {type : FieldType} (h : type.isTextual = true) (x : Binary64) : IsItem type (.real x)
  | text {type : FieldType} (h : type.isTextual = true) (s : String) : IsItem type (.text s)

/-- A text that starts with a character of its own stands for no missing value. -/
theorem present_of_head {s : String} {c : Char} {cs : List Char} (h : s.toList = c :: cs)
    (hblank : isBlankChar c = false) (hlabel : c ≠ '(') : isEmptyMarker (.text s) = false := by
  have hnotBlank : isBlank s = false := by
    rw [isBlank, h, List.all_cons, hblank, Bool.false_and]
  have hnotLabel : s ≠ emptyLabel := by
    rintro rfl
    exact hlabel (List.cons.inj h).1.symm
  simp [isEmptyMarker, hnotBlank, hnotLabel]

theorem present_intText (n : Int) : isEmptyMarker (.text (intText n)) = false := by
  obtain ⟨d, ds, hd, hchars | hchars⟩ := intText_cases n
  · exact present_of_head hchars (not_isBlankChar_of_isDigit hd) (ne_of_isDigit hd (by decide))
  · exact present_of_head hchars (by decide) (by decide)

theorem present_realText (x : Binary64) : isEmptyMarker (.text x.text) = false := by
  cases x with
  | nan => decide
  | infinite s => cases s <;> decide
  | finite s u =>
    obtain ⟨d, ds, hchars, hd⟩ := (Binary64.shortest u).head_text
    have htoList : (Binary64.text (.finite s u)).toList = Binary64.withSign s (d :: ds) := by
      rw [Binary64.text, String.toList_ofList, hchars]
    cases s with
    | true => exact present_of_head htoList (by decide) (by decide)
    | false =>
      exact present_of_head htoList (not_isBlankChar_of_isDigit hd) (ne_of_isDigit hd (by decide))

/-- A word that stands for the missing value is the label. -/
theorem IsWord.eq_label {type : FieldType} {k : String} (h : IsWord type k)
    (hmarker : isEmptyMarker (.text k) = true) : k = emptyLabel := by
  cases h with
  | label => rfl
  | flag b =>
    cases b with
    | true => exact absurd hmarker (by decide)
    | false => exact absurd hmarker (by decide)
  | @number n _ => exact absurd hmarker (Bool.eq_false_iff.1 (present_intText n))
  | text _ hs => exact absurd hmarker (Bool.eq_false_iff.1 hs)

/-- The key of an item in the words of the database is a word. -/
theorem IsItem.isWord {type : FieldType} {v : Value} (h : IsItem type v) :
    IsWord type (normalizeKey v) := by
  unfold normalizeKey
  split
  · exact .label type
  next hpresent =>
  cases h with
  | missing _ hmarker => exact absurd hmarker hpresent
  | flag b => exact .flag b
  | number hn => exact .number hn
  | numeral hn => exact .number hn
  | textFlag ht b => cases b <;> exact .text ht (by decide)
  | textNumber ht n => exact .text ht (present_intText n)
  | textReal ht x => exact .text ht (present_realText x)
  | text ht s => exact .text ht (Bool.eq_false_iff.2 hpresent)

end Filter

/-! ## Rows that a restriction keeps -/

namespace Filter.Scope

/-- A value that a column of the type stores. -/
inductive IsOf : FieldType → Value → Prop where
  | missing (type : FieldType) : IsOf type .null
  | flag (b : Bool) : IsOf .boolean (.bool b)
  | number (n : Int) : IsOf .number (.int n)
  | text {type : FieldType} (h : type.isTextual = true) (s : String) : IsOf type (.text s)

/-- Among whole numbers the database finds those that are there. -/
def FindsWhole (finds : Int → List Value → Bool) : Prop :=
  ∀ (n : Int) (ms : List Int), finds n (ms.map .int) = true ↔ n ∈ ms

variable {scope : Scope} {t : Target} {finds : Int → List Value → Bool}

/-- The truth of the condition for a missing value. -/
theorem stored_missing (t : Target) (finds : Int → List Value → Bool) (row : Stored) : ∃ truth,
    (missing t false).truthBy (Atom.storedTruth? finds row) = some truth ∧
      (truth = .yes → row.texts t.column = none ∨ row.texts t.column = some "") := by
  have hsame : (missing t false).truthBy (Atom.storedTruth? finds row) =
      (missing t false).truth? row.texts := by
    unfold missing
    split
    · rfl
    · rfl
  rw [hsame]
  by_cases ht : t.type.isTextual = true
  · obtain ⟨truth, htruth, hyes⟩ := truth_missing ht row.texts
    exact ⟨truth, htruth, hyes.1⟩
  · refine ⟨.ofBool (row.texts t.column).isNone, ?_, ?_⟩
    · rw [missing, if_neg ht]
      rfl
    · intro h
      exact .inl (Option.isNone_iff_eq_none.1 (Truth.ofBool_eq_yes.1 h))

/-- The present keys are compared with one subject, and a stored value that is found among them has
its key among them. -/
structure Compared (scope : Scope) (t : Target) (keys : List String) (subject : Subject)
    (args : List Value) : Prop where
  operands : ((presentKeys keys).map Value.text).mapM (scope.operand t) =
    .ok (args.map (Prod.mk subject))
  found : ∀ {finds : Int → List Value → Bool} {row : Stored}, FindsWhole finds →
    IsOf t.type (row t.column) → ∃ truth,
      Atom.storedTruth? finds row (.member subject false args) = some truth ∧
        (truth = .yes → storedKey (row t.column) ∈ presentKeys keys)

theorem storedKey_bool (b : Bool) :
    storedKey (.bool b) = if b then "true" else "false" := by
  cases b <;> decide

theorem storedKey_int (n : Int) : storedKey (.int n) = intText n := by
  refine keyOf_of_ne fun h => ?_
  have hpresent := present_intText n
  rw [h] at hpresent
  exact absurd hpresent (by decide)

theorem mem_presentKeys {keys : List String} {k : String} :
    k ∈ presentKeys keys ↔ k ∈ keys ∧ isEmptyMarker (.text k) = false := by
  rw [presentKeys, List.mem_filter, Bool.not_eq_true']

/-- Flags are read from their words. -/
theorem compared_flags (ht : t.type = .boolean) {keys : List String}
    (hwords : ∀ k ∈ keys, IsWord t.type k) :
    Compared scope t keys (.stored t.column)
      ((presentKeys keys).map fun k => .bool (k == "true")) := by
  rw [ht] at hwords
  have hword : ∀ k ∈ presentKeys keys, ∃ b : Bool, k = if b then "true" else "false" := by
    intro k hk
    obtain ⟨hmem, hpresent⟩ := mem_presentKeys.1 hk
    cases hwords k hmem with
    | label => cases hpresent
    | flag b => exact ⟨b, rfl⟩
    | text h _ => cases h
  refine ⟨operands_of _ fun k hk => ?_, ?_⟩
  · obtain ⟨b, rfl⟩ := hword k hk
    unfold operand
    rw [ht]
    cases b <;> rfl
  · intro finds row _ hof
    refine ⟨_, rfl, fun hyes => ?_⟩
    rw [ht] at hof
    generalize row t.column = v at hof hyes
    cases hof with
    | missing => exact nomatch hyes
    | text h _ => cases h
    | flag b =>
      obtain ⟨k, hk, hkey⟩ := List.mem_map.1 ((amongValues_bool finds).1 hyes)
      obtain ⟨b', rfl⟩ := hword k hk
      have hsame : b' = b := by
        cases b' <;> simpa using Value.bool.inj hkey
      rw [storedKey_bool, ← hsame]
      exact hk

/-- Whole numbers are read from their plain decimals. -/
theorem compared_numbers (ht : t.type = .number) {keys : List String}
    (hwords : ∀ k ∈ keys, IsWord t.type k) :
    Compared scope t keys (.stored t.column)
      ((presentKeys keys).map fun k => .int ((readInt k).toOption.getD 0)) := by
  rw [ht] at hwords
  have hword : ∀ k ∈ presentKeys keys, ∃ n, k = intText n ∧ readInt k = .ok n := by
    intro k hk
    obtain ⟨hmem, hpresent⟩ := mem_presentKeys.1 hk
    cases hwords k hmem with
    | label => cases hpresent
    | number hn => exact ⟨_, rfl, readInt_intText hn⟩
    | text h _ => cases h
  refine ⟨operands_of _ fun k hk => ?_, ?_⟩
  · obtain ⟨n, rfl, hread⟩ := hword k hk
    have hnumber : numberOf t.column (.text (intText n)) = .ok (.int n) := by
      unfold numberOf
      simp only [Value.display, trim_intText, hread]
    unfold operand
    rw [ht]
    simp only [hnumber, hread]
    rfl
  · intro finds row hfinds hof
    refine ⟨_, rfl, fun hyes => ?_⟩
    rw [ht] at hof
    generalize row t.column = v at hof hyes
    cases hof with
    | missing => cases hyes
    | text h _ => cases h
    | number n =>
      have hfound := (amongValues_int finds).1 hyes
      have hargs : ((presentKeys keys).map fun k => Value.int ((readInt k).toOption.getD 0)) =
          ((presentKeys keys).map fun k => (readInt k).toOption.getD 0).map .int := by
        rw [List.map_map]
        rfl
      rw [hargs] at hfound
      obtain ⟨k, hk, hkey⟩ := List.mem_map.1 ((hfinds n _).1 hfound)
      obtain ⟨m, rfl, hread⟩ := hword k hk
      rw [hread] at hkey
      obtain rfl : m = n := hkey
      rw [storedKey_int]
      exact hk

/-- Texts are compared as they are. -/
theorem compared_texts (ht : t.type.isTextual = true) (keys : List String) :
    Compared scope t keys (.asText t.column) ((presentKeys keys).map .text) := by
  refine ⟨operands_of _ fun k _ => operand_text ht k, ?_⟩
  intro finds row _ _
  refine ⟨_, rfl, fun hyes => ?_⟩
  obtain ⟨s, hs, hmem⟩ := among_texts_eq_yes.1 hyes
  have hne : s ≠ "" := by
    rintro rfl
    exact absurd (mem_presentKeys.1 hmem).2 (by decide)
  have htext : storedText? (row t.column) = some s := hs
  rw [storedKey, htext, keyOf_of_ne hne]
  exact hmem

/-- Fields of other types have no words but the label. -/
theorem compared_others {keys : List String} (hnone : presentKeys keys = [])
    (hof : ∀ v, IsOf t.type v → v = .null) : Compared scope t keys (.stored t.column) [] := by
  refine ⟨by rw [hnone]; rfl, ?_⟩
  intro finds row _ hrow
  refine ⟨_, rfl, fun hyes => ?_⟩
  rw [hof _ hrow] at hyes
  exact nomatch hyes

theorem exists_compared (scope : Scope) (t : Target) {keys : List String}
    (hwords : ∀ k ∈ keys, IsWord t.type k) :
    ∃ subject args, Compared scope t keys subject args := by
  by_cases htext : t.type.isTextual = true
  · exact ⟨_, _, compared_texts htext keys⟩
  by_cases hflag : t.type = .boolean
  · exact ⟨_, _, compared_flags hflag hwords⟩
  by_cases hnumber : t.type = .number
  · exact ⟨_, _, compared_numbers hnumber hwords⟩
  refine ⟨_, _, compared_others ?_ ?_⟩
  · refine List.eq_nil_iff_forall_not_mem.2 fun k hk => ?_
    obtain ⟨hmem, hpresent⟩ := mem_presentKeys.1 hk
    have hword := hwords k hmem
    generalize t.type = type at hword htext hflag hnumber
    cases hword with
    | label => cases hpresent
    | flag b => exact hflag rfl
    | number h => exact hnumber rfl
    | text h _ => exact htext h
  · intro v hv
    generalize t.type = type at hv htext hflag hnumber
    cases hv with
    | missing => rfl
    | flag b => exact absurd rfl hflag
    | number n => exact absurd rfl hnumber
    | text h s => exact absurd h htext

/-- A row that the condition for words of the database keeps has its key among the words. -/
theorem key_mem_of_kept (hfinds : FindsWhole finds) {keys : List String}
    (hwords : ∀ k ∈ keys, IsWord t.type k) {row : Stored} (hof : IsOf t.type (row t.column))
    {p : Predicate} (hp : scope.membership t (keys.map .text) false = .ok (some p))
    (hkept : p.truthBy (Atom.storedTruth? finds row) = some .yes) :
    storedKey (row t.column) ∈ keys := by
  obtain ⟨subject, args, hcompared⟩ := exists_compared scope t hwords
  obtain ⟨found, hfound, hkey⟩ := hcompared.found hfinds hof
  obtain ⟨absent, habsent, hmissing⟩ := stored_missing t finds row
  obtain ⟨q, truth, hq, htruth, hyes⟩ :=
    membership_truth (Atom.storedTruth? finds row) hcompared.operands rfl hfound habsent
  obtain rfl := Option.some.inj (Except.ok.inj (hp.symm.trans hq))
  obtain rfl := Option.some.inj (hkept.symm.trans htruth)
  rcases hyes.1 rfl with ⟨hfound, -⟩ | ⟨habsent, hmarker⟩
  · exact (mem_presentKeys.1 (hkey hfound)).1
  · obtain ⟨k, hk, hmarker⟩ := exists_marker.2 hmarker
    have hlabel : storedKey (row t.column) = emptyLabel := by
      rcases hmissing habsent with hnone | hempty
      · exact (congrArg keyOf hnone).trans keyOf_none
      · exact (congrArg keyOf hempty).trans keyOf_empty
    rw [hlabel, ← (hwords k hk).eq_label hmarker]
    exact hk

end Filter.Scope

namespace Pivot.Context

open Crosstab.Filter.Scope

variable {c : Context} {field : Value} {finds : Int → List Value → Bool}

/-- The restriction of the field to the keys keeps the row, and the key is that of what it stores in
the field. -/
structure Returns (c : Context) (field : Value) (finds : Int → List Value → Bool)
    (keys : List Value) (row : Stored) (key : Value) : Prop where
  kept : ∃ e p, c.axisFilter field keys = .ok (.entry e) ∧ c.scope.entry e = .ok (some p) ∧
    p.truthBy (Atom.storedTruth? finds row) = some .yes
  key : ∃ column, c.schema.column field = .ok column ∧
    IsOf (c.schema.fieldType field) (row column) ∧ key = .text (storedKey (row column))

/-- A row that comes back for words of the database has one of them for its key. -/
theorem Returns.key_mem {keys : List String} {row : Stored} {key : Value}
    (h : c.Returns field finds (keys.map .text) row key) (hfinds : FindsWhole finds)
    (hwords : ∀ k ∈ keys, IsWord (c.schema.fieldType field) k) : key ∈ keys.map .text := by
  obtain ⟨e, p, hfilter, hp, hkept⟩ := h.kept
  obtain ⟨column, hcolumn, hof, rfl⟩ := h.key
  obtain ⟨name, -, hentry⟩ := entry_of_column c.scope hcolumn
  rw [axisFilter_entry hfilter, hentry] at hp
  exact List.mem_map_of_mem (key_mem_of_kept hfinds hwords hof hp hkept)

/-- A field reads the words of the database for its type. -/
theorem takes_of_isWord {k : String} (h : IsWord (c.schema.fieldType field) k) :
    c.Takes field (.text k) := by
  intro t ht _ hpresent
  obtain ⟨_, -, ht⟩ := Outcome.bind_eq_ok.1 ht
  obtain ⟨_, -, ht⟩ := Outcome.bind_eq_ok.1 ht
  obtain rfl := Except.ok.inj ht
  have hwords : ∀ k' ∈ [k], IsWord (c.schema.fieldType field) k' := List.forall_mem_singleton.2 h
  obtain ⟨subject, args, hcompared⟩ :=
    exists_compared c.scope ⟨_, _, c.schema.fieldType field⟩ hwords
  have hmem : Value.text k ∈ (presentKeys [k]).map .text :=
    List.mem_map_of_mem (mem_presentKeys.2 ⟨List.mem_singleton_self k, hpresent⟩)
  obtain ⟨bound, -, hbound⟩ := Outcome.mem_of_mapM hcompared.operands hmem
  exact ⟨bound, hbound⟩

end Pivot.Context

end Crosstab
