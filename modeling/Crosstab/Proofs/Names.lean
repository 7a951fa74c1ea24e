import Crosstab.Proofs.Columns
import Crosstab.Proofs.Json.Strings
import Crosstab.Proofs.Numeral
import Crosstab.Proofs.Text.Bytes
import Mathlib.Data.List.Pairwise

/-!
# Names of columns

A name that resolves to a column is an identifier, so the column agrees with an ASCII text but for
the case. Lower case leaves the stand-ins as they are and makes none of an ASCII letter, so there is
no stand-in in the column's name, and JSON text tells it. Where the names of the columns are plain,
a column resolves to itself.
-/

namespace Crosstab

open Text
open Text.Surrogate (firstStandIn code)

/-! ## Lower case -/

/-- From the first stand-in on, no letter has a case. -/
theorem lowerChar_of_last {c : Char} (h : firstStandIn ≤ c.toNat) : lowerChar c = [c] := by
  have hruns : ∀ r ∈ lowerRuns, r.last < firstStandIn := by decide +kernel
  have hexpansions : ∀ p ∈ lowerExpansions, p.1 < firstStandIn := by decide +kernel
  have hrun : lowerRuns.findSome? (·.image? c) = none := by
    rw [List.findSome?_eq_none_iff]
    intro r hr
    have hlast := hruns r hr
    have hout : ¬(r.first ≤ c.toNat && c.toNat ≤ r.last && (c.toNat - r.first) % r.stride == 0) =
        true := by
      simp only [Bool.and_eq_true, decide_eq_true_eq]
      omega
    exact if_neg hout
  have hexpansion : lowerExpansions.lookup c.toNat = none := by
    rw [List.lookup_eq_none_iff]
    intro p hp
    have hfirst : p.1 < c.toNat := Nat.lt_of_lt_of_le (hexpansions p hp) h
    exact bne_iff_ne.2 (Nat.ne_of_gt hfirst)
  have hlarge : ¬c.toNat < 128 := by
    unfold firstStandIn at h
    omega
  rw [lowerChar, if_neg hlarge, mapCase, hrun, hexpansion]

/-- A character that has no case is kept. -/
theorem mem_lowerAfter {c : Char} (hself : lowerChar c = [c]) (hsigma : c ≠ capitalSigma)
    {cs : List Char} (hmem : c ∈ cs) (before : List Char) : c ∈ lowerAfter before cs := by
  induction cs generalizing before with
  | nil => exact nomatch hmem
  | cons d cs ih =>
    rw [lowerAfter, List.mem_append]
    rcases List.mem_cons.1 hmem with rfl | hmem
    · rw [beq_eq_false_iff_ne.2 hsigma, hself]
      exact .inl List.mem_cons_self
    · exact .inr (ih hmem _)

theorem mem_lowerAfter_of_last {c : Char} (h : firstStandIn ≤ c.toNat) {cs : List Char}
    (hmem : c ∈ cs) (before : List Char) : c ∈ lowerAfter before cs := by
  refine mem_lowerAfter (lowerChar_of_last h) ?_ hmem before
  rintro rfl
  exact absurd h (by decide)

/-- Nor has a blank a case. -/
theorem mem_lowerAfter_of_isBlankChar {c : Char} (h : isBlankChar c = true) {cs : List Char}
    (hmem : c ∈ cs) (before : List Char) : c ∈ lowerAfter before cs := by
  have hall : ∀ r ∈ blankRanges, ∀ k ∈ List.range (r.last + 1 - r.first),
      lowerChar (Char.ofNat (r.first + k)) = [Char.ofNat (r.first + k)] ∧
        Char.ofNat (r.first + k) ≠ capitalSigma := by decide +kernel
  obtain ⟨r, hr, hin⟩ := List.any_eq_true.1 h
  obtain ⟨hfirst, hlast⟩ := Bool.and_eq_true_iff.1 hin
  have hlow := of_decide_eq_true hfirst
  have hhigh := of_decide_eq_true hlast
  have hc := hall r hr (c.toNat - r.first) (List.mem_range.2 (by omega))
  rw [Nat.add_sub_cancel' hlow, Char.ofNat_toNat] at hc
  exact mem_lowerAfter hc.1 hc.2 hmem before

/-- Each ASCII letter has its lower case, whatever stands around it. -/
theorem lowerAfter_of_isAscii {cs : List Char} (h : IsAscii cs) (before : List Char) :
    lowerAfter before cs = cs.map Char.toLower := by
  induction cs generalizing before with
  | nil => rfl
  | cons c cs ih =>
    obtain ⟨hc, hcs⟩ := List.forall_mem_cons.1 h
    have hsigma : (c == capitalSigma) = false := by
      refine beq_eq_false_iff_ne.2 ?_
      rintro rfl
      exact absurd hc (by decide)
    rw [lowerAfter, hsigma, lowerChar, if_pos hc, ih hcs]
    rfl

/-- Each character has a lower case of its own. -/
theorem lowerChar_ne_nil (c : Char) : lowerChar c ≠ [] := by
  have hexpansions : ∀ p ∈ lowerExpansions, p.2 ≠ [] := by decide +kernel
  unfold lowerChar mapCase
  split
  · exact List.cons_ne_nil _ _
  · split
    · exact List.cons_ne_nil _ _
    · split
      · next ds hds =>
        obtain ⟨before, behind, htable, -⟩ := List.lookup_eq_some_iff.1 hds
        have hmem : (c.toNat, ds) ∈ lowerExpansions := by
          rw [htable]
          exact List.mem_append_right _ List.mem_cons_self
        exact mt List.map_eq_nil_iff.1 (hexpansions _ hmem)
      · exact List.cons_ne_nil _ _

/-- Lower case shortens no text. -/
theorem length_le_lowerAfter (cs before : List Char) :
    cs.length ≤ (lowerAfter before cs).length := by
  induction cs generalizing before with
  | nil => exact Nat.zero_le _
  | cons c cs ih =>
    have hrest := ih (c :: before)
    rw [lowerAfter, List.length_append, List.length_cons]
    split
    · split
      · simp only [List.length_singleton]
        omega
      · simp only [List.length_singleton]
        omega
    · have hform := List.length_pos_iff.2 (lowerChar_ne_nil c)
      omega

/-- Lower case makes no text empty. -/
theorem lower_ne_empty {s : String} (h : s ≠ "") : lower s ≠ "" := by
  intro hnone
  have hgrows := length_le_lowerAfter s.toList []
  have hnil := String.toList_eq_nil_iff.2 hnone
  rw [lower, String.toList_ofList] at hnil
  rw [hnil, List.length_nil, Nat.le_zero, List.length_eq_zero_iff] at hgrows
  exact h (String.toList_eq_nil_iff.1 hgrows)

theorem isAscii_lowerAfter {cs : List Char} (h : IsAscii cs) (before : List Char) :
    IsAscii (lowerAfter before cs) := by
  have hall : ∀ n ∈ List.range 128, (Char.ofNat n).toLower.toNat < 128 := by decide +kernel
  rw [lowerAfter_of_isAscii h]
  intro d hd
  obtain ⟨c, hc, rfl⟩ := List.mem_map.1 hd
  have hlower := hall c.toNat (List.mem_range.2 (h c hc))
  rwa [Char.ofNat_toNat] at hlower

theorem toLower_of_large {c : Char} (h : 128 ≤ c.toNat) : c.toLower = c := by
  have hlast : ¬(c.val ≥ 'A'.val ∧ c.val ≤ 'Z'.val) := by
    rintro ⟨-, hle⟩
    have hsmall : c.toNat ≤ 'Z'.toNat := hle
    exact absurd (h.trans hsmall) (by decide)
  exact dif_neg hlast

/-- Lower case keeps what may stand in an identifier and what may not. -/
theorem isIdentifierChar_toLower (c : Char) :
    isIdentifierStart c.toLower = isIdentifierStart c ∧
      isIdentifierChar c.toLower = isIdentifierChar c ∧ (c.toLower = '\n' ↔ c = '\n') := by
  by_cases hsmall : c.toNat < 128
  · have hall : ∀ n ∈ List.range 128,
        isIdentifierStart (Char.ofNat n).toLower = isIdentifierStart (Char.ofNat n) ∧
        isIdentifierChar (Char.ofNat n).toLower = isIdentifierChar (Char.ofNat n) ∧
        ((Char.ofNat n).toLower = '\n' ↔ Char.ofNat n = '\n') := by decide +kernel
    have hc := hall c.toNat (List.mem_range.2 hsmall)
    rwa [Char.ofNat_toNat] at hc
  · rw [toLower_of_large (Nat.le_of_not_lt hsmall)]
    exact ⟨rfl, rfl, Iff.rfl⟩

theorem isIdentifier_map_toLower (s : String) :
    isIdentifier (String.ofList (s.toList.map Char.toLower)) = isIdentifier s := by
  have hchar : isIdentifierChar ∘ Char.toLower = isIdentifierChar :=
    funext fun c => (isIdentifierChar_toLower c).2.1
  unfold isIdentifier
  rw [String.toList_ofList]
  cases s.toList with
  | nil => rfl
  | cons c cs =>
    have hend : ∀ rest : List Char, (rest.map Char.toLower == ['\n']) = (rest == ['\n']) := by
      intro rest
      rw [Bool.eq_iff_iff, beq_iff_eq, beq_iff_eq]
      match rest with
      | [] => simp
      | [d] => simp [(isIdentifierChar_toLower d).2.2]
      | _ :: _ :: _ => simp
    simp only [List.map_cons, List.dropWhile_map, hchar, List.isEmpty_map, hend,
      (isIdentifierChar_toLower c).1]

/-- Names that agree but for the case of ASCII letters are identifiers or not alike. -/
theorem isIdentifier_of_toLower {s t : String}
    (h : s.toList.map Char.toLower = t.toList.map Char.toLower) :
    isIdentifier s = isIdentifier t := by
  rw [← isIdentifier_map_toLower s, h, isIdentifier_map_toLower]

/-! ## Names of columns -/

/-- A name that is not empty counts as given. -/
theorem Value.truthy_text {s : String} (h : s ≠ "") : (Value.text s).truthy = true := by
  simpa [truthy] using h

/-- A text without stand-ins is told by JSON text. -/
theorem unsplit_of_small {cs : List Char} (h : ∀ c ∈ cs, c.toNat < firstStandIn) :
    Json.Unsplit cs := by
  have hhigh : ∀ c ∈ cs, ¬Surrogate.isHigh (code c) = true := by
    intro c hc
    have hvalid : c.toNat < 0xD800 ∨ 0xDFFF < c.toNat ∧ c.toNat < 0x110000 := c.valid
    have hsmall := h c hc
    have hstand : ¬(firstStandIn ≤ c.toNat && c.toNat < firstStandIn + 0x800) = true := by
      simp only [Bool.and_eq_true, decide_eq_true_eq]
      omega
    rw [code, if_neg hstand, Json.isHigh_iff]
    omega
  refine List.Pairwise.isChain (List.pairwise_of_forall_mem_list ?_)
  exact fun c hc _ _ hboth => hhigh c hc hboth.1

theorem toNat_of_isIdentifierChar {c : Char} (h : isIdentifierChar c = true) : c.toNat < 128 := by
  simp only [isIdentifierChar, isIdentifierStart, Bool.or_eq_true, beq_iff_eq] at h
  rcases h with (h | rfl) | h
  · have hcase : c.isUpper = true ∨ c.isLower = true := Bool.or_eq_true_iff.1 h
    rcases hcase with h | h
    · have hlast : c.val ≤ 'Z'.val := (of_decide_eq_true h).2
      exact Nat.lt_of_le_of_lt hlast (by decide)
    · have hlast : c.val ≤ 'z'.val := of_decide_eq_true (Bool.and_eq_true_iff.1 h).2
      exact Nat.lt_of_le_of_lt hlast (by decide)
  · decide
  · simp only [Char.isDigit, Bool.and_eq_true, decide_eq_true_eq] at h
    exact Nat.lt_of_le_of_lt h.2 (by decide)

theorem isAscii_of_isIdentifier {s : String} (h : isIdentifier s = true) : IsAscii s.toList := by
  intro c hc
  rcases isIdentifierChar_or_newline h c hc with hchar | rfl
  · exact toNat_of_isIdentifierChar hchar
  · decide

/-- The schema has a column that is spelled so. -/
def Schema.IsColumn (schema : Schema) (column : String) : Prop :=
  ∃ p ∈ schema.columns, p.1 = column

instance (schema : Schema) (column : String) : Decidable (schema.IsColumn column) :=
  inferInstanceAs (Decidable (∃ p ∈ schema.columns, p.1 = column))

/-- A column is found by its own name. -/
theorem Schema.lookup?_of_isColumn {schema : Schema} {column : String}
    (h : schema.IsColumn column) : schema.lookup? column = some column := by
  obtain ⟨p, hp, rfl⟩ := h
  have hany : schema.columns.any (·.1 == p.1) = true :=
    List.any_eq_true.2 ⟨p, hp, beq_self_eq_true p.1⟩
  rw [lookup?, if_pos hany]

/-- The column that is found agrees with the name but for the case. -/
theorem Schema.lookup?_inversion {schema : Schema} {name column : String}
    (h : schema.lookup? name = some column) :
    schema.IsColumn column ∧ lower column = lower name := by
  unfold lookup? at h
  split at h
  · next hany =>
    obtain ⟨p, hp, hequal⟩ := List.any_eq_true.1 hany
    obtain rfl := Option.some.inj h
    exact ⟨⟨p, hp, eq_of_beq hequal⟩, rfl⟩
  · obtain ⟨p, hfind, rfl⟩ := Option.map_eq_some_iff.1 h
    have hagrees := List.find?_some hfind
    have hmem := List.mem_reverse.1 (List.mem_of_find?_eq_some hfind)
    exact ⟨⟨p, hmem, rfl⟩, beq_iff_eq.1 hagrees⟩

theorem Schema.resolve?_eq_some {schema : Schema} {name : Value} {column : String} :
    schema.resolve? name = some column ↔
      isIdentifier (fieldName name) = true ∧ schema.lookup? (fieldName name) = some column := by
  unfold resolve?
  simp only
  cases isIdentifier (fieldName name) with
  | true => simp
  | false => simp

/-- A name that resolves is an identifier, and agrees with the name of its column but for the
case. -/
theorem Schema.agrees_of_resolve {schema : Schema} {name : Value} {column : String}
    (h : schema.resolve? name = some column) :
    isIdentifier (fieldName name) = true ∧ lower column = lower (fieldName name) ∧
      schema.IsColumn column := by
  obtain ⟨hname, hfound⟩ := resolve?_eq_some.1 h
  obtain ⟨hcolumn, hlower⟩ := lookup?_inversion hfound
  exact ⟨hname, hlower, hcolumn⟩

/-- The name of a column that is resolved is told by JSON text. -/
theorem Schema.unsplit_of_resolve {schema : Schema} {name : Value} {column : String}
    (h : schema.resolve? name = some column) : Json.Unsplit column.toList := by
  obtain ⟨hname, hlower, -⟩ := Schema.agrees_of_resolve h
  refine unsplit_of_small ?_
  intro c hc
  by_contra hlarge
  have hlast : firstStandIn ≤ c.toNat := Nat.le_of_not_lt hlarge
  have hmem := mem_lowerAfter_of_last hlast hc []
  rw [lower, lower] at hlower
  rw [String.ofList_inj.1 hlower] at hmem
  have hsmall := isAscii_lowerAfter (isAscii_of_isIdentifier hname) [] c hmem
  unfold firstStandIn at hlast
  omega

/-! ## Plain names -/

/-- The names of all columns are of letters, digits and underscores. -/
def Schema.HasPlainNames (schema : Schema) : Prop :=
  ∀ p ∈ schema.columns, p.1.toList.all isIdentifierChar = true

instance (schema : Schema) : Decidable schema.HasPlainNames :=
  inferInstanceAs (Decidable (∀ p ∈ schema.columns, p.1.toList.all isIdentifierChar = true))

/-- A character of an identifier is neither blank nor a dash. -/
theorem plain_of_isIdentifierChar {c : Char} (h : isIdentifierChar c = true) :
    isBlankChar c = false ∧ c ≠ '-' := by
  have hall : ∀ n ∈ List.range 128, isIdentifierChar (Char.ofNat n) = true →
      isBlankChar (Char.ofNat n) = false ∧ Char.ofNat n ≠ '-' := by decide +kernel
  have hc := hall c.toNat (List.mem_range.2 (toNat_of_isIdentifierChar h))
  rw [Char.ofNat_toNat] at hc
  exact hc h

/-- A plain name is the name of its field as it stands. -/
theorem fieldName_of_plain {s : String} (h : ∀ c ∈ s.toList, isIdentifierChar c = true) :
    fieldName (.text s) = s := by
  have hblank : ∀ c ∈ s.toList, isBlankChar c = false := fun c hc =>
    (plain_of_isIdentifierChar (h c hc)).1
  have hdash : ∀ c ∈ s.toList, (c != '-') = true := fun c hc =>
    bne_iff_ne.2 (plain_of_isIdentifierChar (h c hc)).2
  have htrim : trim s = s := by
    rw [trim, Number.dropAround_eq hblank, String.ofList_toList]
  show upTo '-' (trim s) = s
  rw [htrim, upTo, List.takeWhile_eq_self_iff.2 hdash, String.ofList_toList]

/-- A column to which a name resolves resolves to itself. -/
theorem Schema.resolve?_resolved {schema : Schema} (hplain : schema.HasPlainNames) {name : Value}
    {column : String} (h : schema.resolve? name = some column) :
    schema.resolve? (.text column) = some column := by
  obtain ⟨hname, hlower, p, hp, rfl⟩ := Schema.agrees_of_resolve h
  have hchars : ∀ c ∈ p.1.toList, isIdentifierChar c = true := List.all_eq_true.1 (hplain p hp)
  have hascii : IsAscii p.1.toList := fun c hc => toNat_of_isIdentifierChar (hchars c hc)
  have hsame : p.1.toList.map Char.toLower = (fieldName name).toList.map Char.toLower := by
    rw [← lowerAfter_of_isAscii hascii [],
      ← lowerAfter_of_isAscii (isAscii_of_isIdentifier hname) []]
    exact String.ofList_inj.1 hlower
  have hidentifier : isIdentifier p.1 = true := by
    rw [isIdentifier_of_toLower hsame]
    exact hname
  rw [resolve?_eq_some, fieldName_of_plain hchars]
  exact ⟨hidentifier, lookup?_of_isColumn ⟨p, hp, rfl⟩⟩

theorem Schema.require_eq_ok {schema : Schema} {name : Value} {column : String} :
    schema.require name = .ok column ↔ schema.resolve? name = some column := by
  unfold Schema.require
  cases schema.resolve? name with
  | none => exact ⟨nofun, nofun⟩
  | some c => exact ⟨fun h => congrArg some (Except.ok.inj h), fun h => by cases h; rfl⟩

theorem quoteIdentifier_eq_ok {s quoted : String} :
    quoteIdentifier (.text s) = .ok quoted ↔
      isIdentifier s = true ∧ quoted = "\"" ++ s ++ "\"" := by
  simp only [quoteIdentifier]
  cases isIdentifier s with
  | false =>
    constructor
    · intro h
      cases h
    · intro h
      cases h.1
  | true => exact ⟨fun h => ⟨rfl, (Except.ok.inj h).symm⟩, fun h => by rw [h.2]; rfl⟩

/-- The text of a column in a statement. -/
def Schema.columnText (name : String) : String :=
  tableAlias ++ "." ++ ("\"" ++ name ++ "\"")

theorem Schema.columnText_inj {a b : String} (h : columnText a = columnText b) : a = b := by
  have hchars := congrArg String.toList h
  simp only [columnText, String.toList_append, List.append_assoc] at hchars
  have hname := List.append_cancel_left (List.append_cancel_left (List.append_cancel_left hchars))
  exact String.toList_inj.1 (List.append_cancel_right hname)

/-- The column of a name is that of the column it resolves to. -/
theorem Schema.column_eq_ok {schema : Schema} {name : Value} {text : String} :
    schema.column name = .ok text ↔ ∃ column, schema.resolve? name = some column ∧
      isIdentifier column = true ∧ text = columnText column := by
  constructor
  · intro h
    obtain ⟨column, hrequire, h⟩ := Outcome.bind_eq_ok.1 h
    obtain ⟨quoted, hquoted, h⟩ := Outcome.bind_eq_ok.1 h
    obtain ⟨hidentifier, rfl⟩ := quoteIdentifier_eq_ok.1 hquoted
    exact ⟨column, require_eq_ok.1 hrequire, hidentifier, (Outcome.pure_eq_ok.1 h).symm⟩
  · rintro ⟨column, hresolve, hidentifier, rfl⟩
    exact Outcome.bind_eq_ok.2 ⟨column, require_eq_ok.2 hresolve, Outcome.bind_eq_ok.2
      ⟨_, quoteIdentifier_eq_ok.2 ⟨hidentifier, rfl⟩, rfl⟩⟩

/-- Where names are plain, a column to which a name resolves is an identifier. -/
theorem Schema.isIdentifier_resolved {schema : Schema} (hplain : schema.HasPlainNames)
    {name : Value} {column : String} (h : schema.resolve? name = some column) :
    isIdentifier column = true := by
  obtain ⟨hname, -, p, hp, rfl⟩ := agrees_of_resolve (resolve?_resolved hplain h)
  rwa [fieldName_of_plain (List.all_eq_true.1 (hplain p hp))] at hname

end Crosstab
