import Crosstab.Proofs.Json.RoundTrip
import Crosstab.Proofs.View.TopN

/-!
# Spellings of a filter

A filter may be a list of items that name their fields, the mapping from the fields to the rest of
the items, or JSON text of either. Its entries are the same in every spelling. Settings of top-n
filters are looked for in a list only: in the other spellings an item with a setting is read as if
it had none, so an enabled setting is lost, and an item that is nothing but a setting is refused.
-/

namespace Crosstab

open Crosstab.Filter Pivot Text Number

/-! ## Blank text -/

namespace Json

theorem mem_of_mem_skipSpace (position : Nat) (cs : List Char) :
    ∀ c ∈ (skipSpace position cs).2, c ∈ cs := by
  induction cs generalizing position with
  | nil => exact nofun
  | cons d cs ih =>
    intro c hc
    unfold skipSpace at hc
    split at hc
    · exact List.mem_cons_of_mem _ (ih _ c hc)
    · exact hc

theorem ne_of_isBlankChar {c d : Char} (hc : isBlankChar c = true) (hd : isBlankChar d = false) :
    c ≠ d := by
  rintro rfl
  exact Bool.false_ne_true (hd.symm.trans hc)

/-- A word or a number does not start with a blank character. -/
theorem readScalar_blank {c : Char} (h : isBlankChar c = true) (position : Nat) (cs : List Char) :
    readScalar position (c :: cs) = .error (.at_ .value position) := by
  have hne : ∀ d : Char, isBlankChar d = false → (d == c) = false := fun d hd =>
    beq_eq_false_iff_ne.2 (ne_of_isBlankChar h hd).symm
  have hnone : words.find? (fun w => w.1.toList.isPrefixOf (c :: cs)) = none := by
    simp [words, List.isPrefixOf, hne 'n' (by decide), hne 't' (by decide), hne 'f' (by decide),
      hne 'N' (by decide), hne 'I' (by decide), hne '-' (by decide)]
  have hsign : (c == '-') = false := beq_eq_false_iff_ne.2 (ne_of_isBlankChar h (by decide))
  have hdigit : isPlainDigit c = false := by
    rw [isPlainDigit_eq, ← Bool.not_eq_true]
    exact fun hc => Bool.false_ne_true ((not_isBlankChar_of_isDigit hc).symm.trans h)
  have hwhole : wholeDigits (c :: cs) = [] := by
    rw [wholeDigits.eq_2 _ fun ds heq => ne_of_isBlankChar h (by decide) (List.cons.inj heq).1,
      List.takeWhile_cons, hdigit, if_neg Bool.false_ne_true]
  rw [readScalar, hnone]
  simp [readNumber, hsign, hwhole]

theorem readValue_blank {c : Char} (h : isBlankChar c = true) (fuel position : Nat)
    (cs : List Char) : readValue fuel position (c :: cs) = .error (.at_ .value position) := by
  cases fuel with
  | zero => rfl
  | succ fuel =>
    rw [readValue_scalar (ne_of_isBlankChar h (by decide)) (ne_of_isBlankChar h (by decide))
      (ne_of_isBlankChar h (by decide)), readScalar_blank h]

/-- Text that is read is not blank. -/
theorem isBlank_of_read {s : String} {v : Value} (h : read s = .ok v) : isBlank s = false := by
  rw [← Bool.not_eq_true]
  intro hblank
  have hall : ∀ c ∈ s.toList, isBlankChar c = true := List.all_eq_true.1 hblank
  have hmark : (s.toList.head? == some '\ufeff') = false := by
    refine beq_eq_false_iff_ne.2 fun hhead => ?_
    exact absurd (hall _ (List.mem_of_mem_head? hhead)) (by decide)
  obtain ⟨e, he⟩ : ∃ e, readValue (2 * (skipSpace 0 s.toList).2.length + 2)
      (skipSpace 0 s.toList).1 (skipSpace 0 s.toList).2 = .error e := by
    cases hrest : (skipSpace 0 s.toList).2 with
    | nil => exact ⟨_, by rw [readValue]⟩
    | cons c cs =>
      have hc := hall c (mem_of_mem_skipSpace 0 s.toList c (hrest ▸ List.mem_cons_self))
      exact ⟨_, readValue_blank hc _ _ cs⟩
  have hread : readAll s.toList = .error e := by
    simp only [readAll, hmark, Bool.false_eq_true, if_false, he, bind, Except.bind]
  rw [read, hread] at h
  cases e <;> cases h

end Json

/-! ## Items and entries -/

namespace Filter

/-- The members of an item that only a filter list looks at. -/
def listNames : List String := ["field", "topN"]

section Filtered

variable {name : String} (members : List (String × Value))

theorem valueOf?_filter_listName (h : name ∈ listNames) {other : String}
    (hother : other ∉ listNames) :
    valueOf? other (members.filter (·.1 != name)) = valueOf? other members :=
  valueOf?_filter_ne (ne_of_mem_of_not_mem h hother).symm members

/-- The operands are not among the members that only a list looks at. -/
theorem operands_filter (h : name ∈ listNames) :
    operands (members.filter (·.1 != name)) = operands members := by
  have hother : ∀ other, other ∉ listNames →
      valueOf? other (members.filter (·.1 != name)) = valueOf? other members := fun _ =>
    valueOf?_filter_listName members h
  have hends : ∀ r ∈ rangeNames,
      valueOf? r.1 (members.filter (·.1 != name)) = valueOf? r.1 members ∧
      valueOf? r.2 (members.filter (·.1 != name)) = valueOf? r.2 members := by
    simp [rangeNames, listNames, hother]
  have hgiven : (["values", "value", "val"].findSome?
      (valueOf? · (members.filter (·.1 != name)))) =
      ["values", "value", "val"].findSome? (valueOf? · members) := by
    simp [List.findSome?_cons, listNames, hother]
  have hrange : (rangeNames.find? fun r =>
      (valueOf? r.1 (members.filter (·.1 != name))).isSome ||
        (valueOf? r.2 (members.filter (·.1 != name))).isSome) =
      rangeNames.find? fun r => (valueOf? r.1 members).isSome || (valueOf? r.2 members).isSome := by
    simp [rangeNames, List.find?_cons, listNames, hother]
  simp only [operands, hgiven, hrange]
  split
  · rfl
  · rfl
  · split
    · next r hr =>
      obtain ⟨hlow, hhigh⟩ := hends _ (List.mem_of_find?_eq_some hr)
      rw [hlow, hhigh]
    · rfl

/-- An entry reads neither the field nor the setting in its members. -/
theorem Entry.ofRequest_filter (h : name ∈ listNames) (field : Value) :
    Entry.ofRequest field (.record (members.filter (·.1 != name))) =
      Entry.ofRequest field (.record members) := by
  have hother : ∀ other, other ∉ listNames →
      valueOf? other (members.filter (·.1 != name)) = valueOf? other members := fun _ =>
    valueOf?_filter_listName members h
  have hmode : modeOf (members.filter (·.1 != name)) = modeOf members := by
    simp [modeOf, listNames, hother]
  have htype : declaredType? (members.filter (·.1 != name)) = declaredType? members := by
    simp [declaredType?, listNames, hother]
  have hcheckbox : ∀ f, checkboxOf f (members.filter (·.1 != name)) = checkboxOf f members := by
    simp [checkboxOf, listNames, hother]
  have hconditions : ∀ f,
      conditionsOf f (members.filter (·.1 != name)) = conditionsOf f members := by
    simp [conditionsOf, Condition.ofRequest, listNames, hother, operands_filter members h]
  simp [Entry.ofRequest, hmode, htype, hcheckbox, hconditions, listNames, hother]

end Filtered

/-- Reads an item of a filter list. -/
def Entry.ofItem (item : Value) : Outcome Entry :=
  match item with
  | .record members => Entry.ofRequest ((valueOf? "field" members).getD .null) item
  | _ => malformed "filter entries must be objects"

theorem entriesOf_list (items : List Value) :
    entriesOf (.list items) = items.mapM Entry.ofItem := rfl

/-- The field that an item names by a text. -/
def namedField? (item : Value) : Option String :=
  match item with
  | .record members =>
    match valueOf? "field" members with
    | some (.text field) => some field
    | _ => none
  | _ => none

/-- An item without its field. -/
def withoutField (item : Value) : Value :=
  match item with
  | .record members => .record (members.filter (·.1 != "field"))
  | _ => item

/-- An item as a member of a mapping. -/
def toMember? (item : Value) : Option (String × Value) :=
  (namedField? item).map fun field => (field, withoutField item)

/-- The mapping from the fields of items to the rest of them. -/
def mapping (items : List Value) : Value :=
  .ofMembers (items.filterMap toMember?)

/-- Other spellings of the filter list with the items. -/
inductive IsSpelling (items : List Value) : Value → Prop where
  | mapping : IsSpelling items (mapping items)
  | listText {s : String} (h : Json.read s = .ok (.list items)) : IsSpelling items (.text s)
  | mappingText {s : String} (h : Json.read s = .ok (mapping items)) : IsSpelling items (.text s)

variable {items : List Value}

theorem entry_of_named {item : Value} {field : String} (h : namedField? item = some field) :
    Entry.ofRequest (.text field) (withoutField item) = Entry.ofItem item := by
  unfold namedField? at h
  split at h
  · next members =>
    split at h
    · next f hf =>
      obtain rfl := Option.some.inj h
      rw [withoutField, Entry.ofRequest_filter _ (by decide), Entry.ofItem, hf]
      rfl
    · exact nomatch h
  · exact nomatch h

theorem toMember?_of_named {item : Value} {field : String} (h : namedField? item = some field) :
    toMember? item = some (field, withoutField item) := by
  rw [toMember?, h, Option.map_some]

theorem names_toMember? (hnamed : ∀ item ∈ items, (namedField? item).isSome = true) :
    ((items.filterMap toMember?).map (·.1)).map some = items.map namedField? := by
  induction items with
  | nil => rfl
  | cons item items ih =>
    obtain ⟨hitem, hitems⟩ := List.forall_mem_cons.1 hnamed
    obtain ⟨field, hfield⟩ := Option.isSome_iff_exists.1 hitem
    rw [List.filterMap_cons_some (toMember?_of_named hfield), List.map_cons, List.map_cons,
      List.map_cons, ih hitems, hfield]

theorem mapM_toMember? (hnamed : ∀ item ∈ items, (namedField? item).isSome = true) :
    entriesOf (.record (items.filterMap toMember?)) = items.mapM Entry.ofItem := by
  show List.mapM _ _ = _
  induction items with
  | nil => rfl
  | cons item items ih =>
    obtain ⟨hitem, hitems⟩ := List.forall_mem_cons.1 hnamed
    obtain ⟨field, hfield⟩ := Option.isSome_iff_exists.1 hitem
    rw [List.filterMap_cons_some (toMember?_of_named hfield), List.mapM_cons, List.mapM_cons,
      ih hitems]
    simp only [entry_of_named hfield]

/-- The mapping from different fields to items has the entries of the items. -/
theorem entriesOf_mapping (hnamed : ∀ item ∈ items, (namedField? item).isSome = true)
    (hdistinct : (items.map namedField?).Nodup) :
    entriesOf (mapping items) = entriesOf (.list items) := by
  have hnodup : ((items.filterMap toMember?).map (·.1)).Nodup :=
    (names_toMember? hnamed ▸ hdistinct).of_map some
  rw [mapping, Value.ofMembers, namedValues_of_nodup hnodup, mapM_toMember? hnamed,
    entriesOf_list]

/-- Text has the entries of the value that it spells. -/
theorem readEntries_text {s : String} {v : Value} (h : Json.read s = .ok v) :
    readEntries (.text s) = entriesOf v := by
  have hread : readText "not valid JSON" s = .ok v := by rw [readText, h]
  rw [readEntries, Json.isBlank_of_read h, if_neg Bool.false_ne_true, hread]
  rfl

/-- Every spelling of a filter list has its entries. -/
theorem IsSpelling.readEntries_eq (hnamed : ∀ item ∈ items, (namedField? item).isSome = true)
    (hdistinct : (items.map namedField?).Nodup) {v : Value} (h : IsSpelling items v) :
    readEntries v = readEntries (.list items) := by
  cases h with
  | mapping => exact entriesOf_mapping hnamed hdistinct
  | listText h => exact readEntries_text h
  | mappingText h => exact (readEntries_text h).trans (entriesOf_mapping hnamed hdistinct)

end Filter

/-! ## Items with settings -/

namespace Pivot.TopN

/-- Refuses an item that says nothing of its field. -/
def refused {α : Type} (field : String) : Outcome α :=
  malformed (if field.isEmpty then "filter field is required" else s!"mode None for {quoted field}")

/-- The plain filter in an item is the entry that the item is read as. -/
theorem ofItem_plainPart {item plain : Value} (hvalid : IsValid item)
    (h : plainPart item = some plain) : Entry.ofItem plain = Entry.ofItem item := by
  rcases item_cases item with ⟨members, setting, rfl, hsetting⟩ | ⟨-, hsplit⟩
  · rw [plainPart_of_split hsetting (splitItem_of_valid hvalid)] at h
    split at h
    · obtain rfl := Option.some.inj h
      rw [Entry.ofItem, Entry.ofItem, Entry.ofRequest_filter _ (by decide),
        valueOf?_filter_ne (by decide)]
    · exact nomatch h
  · rw [plainPart, hsplit] at h
    rw [Option.some.inj h]

/-- Members without a mode, an operator and conditions are no entry. -/
theorem ofRequest_of_not_plain {members : List (String × Value)} (h : isPlain members = false)
    (field : String) : Entry.ofRequest (.text field) (.record members) = refused field := by
  have habsent : ∀ name ∈ ["mode", "op", "operator", "conditions"], valueOf? name members = none :=
    fun name hname => Option.not_isSome_iff_eq_none.1 (List.any_eq_false.1 h name hname)
  have hmember : valueOf? "mode" members = none := habsent _ (by decide)
  have hmode : modeOf members = "" := by
    simp only [modeOf, hmember, habsent "op" (by decide), habsent "operator" (by decide),
      habsent "conditions" (by decide)]
    decide
  unfold Entry.ofRequest refused
  cases hempty : field.isEmpty with
  | true => simp only [hempty, if_true]; rfl
  | false =>
    simp only [hempty, hmode, hmember, Bool.false_eq_true, if_false, pure_bind]
    rfl

/-- An item that is nothing but a setting is refused as an entry. -/
theorem ofItem_of_bare {item : Value} {field : String} (hvalid : IsValid item)
    (hfield : namedField? item = some field) (h : plainPart item = none) :
    Entry.ofItem item = refused field := by
  rcases item_cases item with ⟨members, setting, rfl, hsetting⟩ | ⟨-, hsplit⟩
  · rw [plainPart_of_split hsetting (splitItem_of_valid hvalid)] at h
    split at h
    · cases h
    · -- the item has no mode and no operator, and its setting is not read
      next hbare =>
      rw [← entry_of_named hfield, withoutField, Entry.ofRequest_filter _ (by decide),
        ← ofRequest_of_not_plain (Bool.not_eq_true _ ▸ hbare) field,
        Entry.ofRequest_filter _ (by decide)]
  · rw [plainPart, hsplit] at h
    cases h

variable {items : List Value}

/-- Items without bare settings have the entries of their plain filters. -/
theorem entries_of_plain (hvalid : ∀ item ∈ items, IsValid item)
    (h : ∀ item ∈ items, (plainPart item).isSome = true) :
    entriesOf (.list items) = entriesOf (.list (items.filterMap plainPart)) := by
  rw [entriesOf_list, entriesOf_list]
  induction items with
  | nil => rfl
  | cons item items ih =>
    obtain ⟨hitem, hitems⟩ := List.forall_mem_cons.1 h
    obtain ⟨hv, hvs⟩ := List.forall_mem_cons.1 hvalid
    obtain ⟨plain, hplain⟩ := Option.isSome_iff_exists.1 hitem
    rw [List.filterMap_cons_some hplain, List.mapM_cons, List.mapM_cons, ih hvs hitems,
      ofItem_plainPart hv hplain]

/-- Where all plain filters are read, the first item that is nothing but a setting is refused. -/
theorem entries_of_bare (hvalid : ∀ item ∈ items, IsValid item) {entries : List Entry}
    (h : entriesOf (.list (items.filterMap plainPart)) = .ok entries) {item : Value}
    (hitem : items.find? (fun item => (plainPart item).isNone) = some item) {field : String}
    (hfield : namedField? item = some field) : entriesOf (.list items) = refused field := by
  rw [entriesOf_list] at h ⊢
  induction items generalizing entries with
  | nil => exact nomatch hitem
  | cons first items ih =>
    obtain ⟨hv, hvs⟩ := List.forall_mem_cons.1 hvalid
    cases hplain : plainPart first with
    | none =>
      rw [List.find?_cons_of_pos (by rw [hplain]; rfl)] at hitem
      obtain rfl := Option.some.inj hitem
      rw [List.mapM_cons, ofItem_of_bare hv hfield hplain]
      rfl
    | some plain =>
      -- the item is read as its plain filter, which the list accepts
      rw [List.find?_cons_of_neg (by rw [hplain]; exact Bool.false_ne_true)] at hitem
      rw [List.filterMap_cons_some hplain, List.mapM_cons] at h
      obtain ⟨entry, hentry, h⟩ := Outcome.bind_eq_ok.1 h
      obtain ⟨rest, hrest, -⟩ := Outcome.bind_eq_ok.1 h
      rw [List.mapM_cons, ← ofItem_plainPart hv hplain, hentry, ih hvs hrest hitem]
      rfl

/-- No setting is looked for in the other spellings of a filter list. -/
theorem split_of_spells (hnamed : ∀ item ∈ items, (namedField? item).isSome = true)
    (hdistinct : (items.map namedField?).Nodup) {v : Value} (hv : IsSpelling items v) :
    split v = (do return (← entriesOf (.list items), [])) := by
  have hread : split v = (do return (← readEntries v, [])) := by
    cases hv with
    | mapping => rfl
    | listText h => rfl
    | mappingText h => rfl
  rw [hread, hv.readEntries_eq hnamed hdistinct]
  rfl

/-- A filter list that is accepted has valid settings, the entries of its plain filters and its
enabled settings. -/
theorem of_split_list {entries : List Entry} {tops : List TopN}
    (h : split (.list items) = .ok (entries, tops)) :
    (∀ item ∈ items, IsValid item) ∧
    entriesOf (.list (items.filterMap plainPart)) = .ok entries ∧
    items.filterMap setting? = tops := by
  have hvalid : ∀ item ∈ items, IsValid item := by
    obtain ⟨parts, hparts, -⟩ := Outcome.bind_eq_ok.1 h
    intro item hitem
    obtain ⟨part, -, hpart⟩ := Outcome.mem_of_mapM hparts hitem
    exact Outcome.isOk_iff.2 ⟨part, hpart⟩
  rw [split_list hvalid] at h
  obtain ⟨es, hes, hpure⟩ := Outcome.bind_eq_ok.1 h
  obtain ⟨rfl, rfl⟩ := Prod.mk.inj (Outcome.pure_eq_ok.1 hpure)
  exact ⟨hvalid, hes, rfl⟩

/-- A filter list that is accepted, of items that name different fields, has the same entries in
every other spelling and loses its enabled settings there; if some item is nothing but a setting,
the other spellings are refused for the first such item instead. So the spellings agree exactly
where no item has an enabled setting or is nothing but a setting. -/
theorem spellings_agree_without_settings
    (hnamed : ∀ item ∈ items, (namedField? item).isSome = true)
    (hdistinct : (items.map namedField?).Nodup) {entries : List Entry} {tops : List TopN}
    (h : split (.list items) = .ok (entries, tops)) {v : Value} (hv : IsSpelling items v) :
    ((∀ item ∈ items, (plainPart item).isSome = true) → split v = .ok (entries, [])) ∧
    (∀ item field, items.find? (fun item => (plainPart item).isNone) = some item →
      namedField? item = some field → split v = refused field) ∧
    (split v = .ok (entries, tops) ↔
      ∀ item ∈ items, (plainPart item).isSome = true ∧ setting? item = none) := by
  obtain ⟨hvalid, hentries, htops⟩ := of_split_list h
  have hspelled := split_of_spells hnamed hdistinct hv
  have hplain : (∀ item ∈ items, (plainPart item).isSome = true) →
      split v = .ok (entries, []) := by
    intro hall
    rw [hspelled, entries_of_plain hvalid hall, hentries]
    rfl
  have hbare : ∀ item field, items.find? (fun item => (plainPart item).isNone) = some item →
      namedField? item = some field → split v = refused field := by
    intro item field hitem hfield
    rw [hspelled, entries_of_bare hvalid hentries hitem hfield]
    rfl
  refine ⟨hplain, hbare, ?_, ?_⟩
  · intro heq
    cases hfind : items.find? fun item => (plainPart item).isNone with
    | some item =>
      obtain ⟨field, hfield⟩ :=
        Option.isSome_iff_exists.1 (hnamed item (List.mem_of_find?_eq_some hfind))
      exact nomatch (hbare item field hfind hfield).symm.trans heq
    | none =>
      -- the entries are the same, so the settings of the list have to be none
      have hall : ∀ item ∈ items, (plainPart item).isSome = true := fun item hitem =>
        Option.isSome_iff_ne_none.2
          (mt Option.isNone_iff_eq_none.2 (List.find?_eq_none.1 hfind item hitem))
      obtain ⟨-, hnone⟩ := Prod.mk.inj (Except.ok.inj ((hplain hall).symm.trans heq))
      rw [← htops, eq_comm, List.filterMap_eq_nil_iff] at hnone
      exact fun item hitem => ⟨hall item hitem, hnone item hitem⟩
  · intro hall
    have hnone : tops = [] := by
      rw [← htops, List.filterMap_eq_nil_iff]
      exact fun item hitem => (hall item hitem).2
    rw [hplain fun item hitem => (hall item hitem).1, hnone]

/-- A filter on hosts, and one on sizes with a setting that is disabled. -/
def hostsAndSizes : List Value := [
  .record [("field", .text "host"), ("mode", .text "checkbox"), ("values", .list [.text "a"])],
  .record [("op", .text ">"), ("value", .int 9), ("field", .text "size"),
    ("topN", .record [("enabled", .bool false)])]]

/-- JSON text of the mapping from the fields to the filters. -/
def hostsAndSizesText : String :=
  "\x7b\"host\": \x7b\"mode\": \"checkbox\", \"values\": [\"a\"]\x7d, " ++
    "\"size\": \x7b\"op\": \">\", \"value\": 9, \"topN\": \x7b\"enabled\": false\x7d\x7d\x7d"

theorem hosts_and_sizes_agree :
    (∀ item ∈ hostsAndSizes, (namedField? item).isSome = true) ∧
    (hostsAndSizes.map namedField?).Nodup ∧
    Json.read hostsAndSizesText = .ok (mapping hostsAndSizes) ∧
    split (.list hostsAndSizes) = .ok ([.checkbox (.text "host") [.text "a"],
      ⟨.text "size", .conditions [⟨.gt, [.int 9]⟩] [], none, false⟩], []) ∧
    split (.text hostsAndSizesText) = .ok ([.checkbox (.text "host") [.text "a"],
      ⟨.text "size", .conditions [⟨.gt, [.int 9]⟩] [], none, false⟩], []) := by
  have hnamed : ∀ item ∈ hostsAndSizes, (namedField? item).isSome = true := by decide
  have hdistinct : (hostsAndSizes.map namedField?).Nodup := by decide
  have htext : Json.read hostsAndSizesText = .ok (mapping hostsAndSizes) := by decide +kernel
  have hsplit : split (.list hostsAndSizes) = .ok ([.checkbox (.text "host") [.text "a"],
      ⟨.text "size", .conditions [⟨.gt, [.int 9]⟩] [], none, false⟩], []) := by decide +kernel
  have hkept : ∀ item ∈ hostsAndSizes,
      (plainPart item).isSome = true ∧ setting? item = none := by decide +kernel
  exact ⟨hnamed, hdistinct, htext, hsplit,
    (spellings_agree_without_settings hnamed hdistinct hsplit (.mappingText htext)).2.2.2 hkept⟩

/-- A filter on hosts with a setting that is enabled. -/
def rankedHosts : List Value := [
  .record [("field", .text "http_host"), ("mode", .text "checkbox"), ("values", .list [.text "a"]),
    ("topN", .record [("enabled", .bool true), ("n", .int 2)])]]

/-- JSON text of the list. -/
def rankedHostsText : String :=
  "[\x7b\"field\": \"http_host\", \"mode\": \"checkbox\", \"values\": [\"a\"], " ++
    "\"topN\": \x7b\"enabled\": true, \"n\": 2\x7d\x7d]"

/-- The text of a list that is accepted loses the setting in it. -/
theorem text_loses_the_setting :
    (∀ item ∈ rankedHosts, (namedField? item).isSome = true) ∧
    (rankedHosts.map namedField?).Nodup ∧
    Json.read rankedHostsText = .ok (.list rankedHosts) ∧
    split (.list rankedHosts) =
      .ok ([.checkbox (.text "http_host") [.text "a"]], [⟨.text "http_host", 2, .top, .null⟩]) ∧
    split (.text rankedHostsText) = .ok ([.checkbox (.text "http_host") [.text "a"]], []) := by
  decide +kernel

end Pivot.TopN

end Crosstab
