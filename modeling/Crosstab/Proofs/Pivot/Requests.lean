import Crosstab.Pivot.Request
import Crosstab.Pivot.TopN
import Crosstab.Proofs.Filter.Requests
import Crosstab.Proofs.Value.Wholes

/-!
# Requests for charts are read or refused

All numbers of a request for charts are read before anything is asked. A number that is none is
rejected, unless it is a text that only looks like one, which fails as a numeral. A number that is
read may still be of any size: those of the axes may be negative.
-/

namespace Crosstab

open Crosstab.Filter Text

/-! ## Failures of reading -/

/-- The failure is that of a text of digits that spells no number, or one that is too long. -/
def IsNumeralFault (e : Failure) : Prop :=
  ∃ f, e = .unusable (.numeral f)

/-- The failure is one of reading a request: a rejection, a text that is no number, or a part of the
wrong kind. -/
def IsUnread (e : Failure) : Prop :=
  IsRejection e ∨ IsNumeralFault e ∨ e = .mismatch .member

/-- The failure is not that of a statement that does not come together. -/
def NotMiscompiled (e : Failure) : Prop :=
  ∀ cause, e ≠ .miscompiled cause

theorem IsUnread.notMiscompiled {e : Failure} (h : IsUnread e) : NotMiscompiled e := by
  rintro cause rfl
  rcases h with ⟨_, _, h⟩ | ⟨_, h⟩ | h <;> cases h

variable {α : Type} {P : α → Prop}

theorem Outcome.Yields.unread {x : Outcome α} (h : Outcome.Yields IsRejection P x) :
    Outcome.Yields IsUnread P x :=
  h.weaken fun _ => .inl

theorem reject_unread (code : ErrorCode) (detail : String) :
    Outcome.Yields IsUnread P (reject code detail) :=
  (reject_yields code detail).unread

/-! ## Numbers -/

namespace Value

/-- A number is read, rejected, or a text that only looks like one. -/
theorem toWhole_yields (name : String) (default_ : Int) (code : ErrorCode) (v : Value) :
    Outcome.Yields (fun e => IsRejection e ∨ IsNumeralFault e) (fun _ => True)
      (v.toWhole name default_ code) := by
  by_cases h : v.IsMisread
  · obtain ⟨-, f, hf, -⟩ := toWhole_of_isMisread h name default_ code
    rw [hf]
    exact .error (.inr ⟨f, rfl⟩)
  · exact (toWhole_rejected h name default_ code).weaken fun _ ⟨detail, he⟩ =>
      .inl ⟨code, detail, he⟩

theorem toWhole_unread (name : String) (default_ : Int) (code : ErrorCode) (v : Value) :
    Outcome.Yields IsUnread (fun _ => True) (v.toWhole name default_ code) :=
  (toWhole_yields name default_ code v).weaken fun _ he => he.imp_right .inl

theorem textOr_unread (default_ : String) (v : Value) :
    Outcome.Yields IsUnread (fun _ => True) (v.textOr default_) := by
  unfold textOr
  split
  · cases v with
    | text s => exact .ok trivial
    | _ => exact .error (.inr (.inr rfl))
  · exact .ok trivial

end Value

/-! ## Layers -/

theorem Layer.ofSelector_unread (selector : Value) :
    Outcome.Yields IsUnread (fun _ => True) (Layer.ofSelector selector) := by
  refine (Value.textOr_unread "" selector).bind fun key _ => ?_
  dsimp only
  split
  · exact .ok trivial
  · split
    · exact .ok trivial
    · exact reject_unread _ _

theorem Layer.resolve_unread (selector default_ : Value) :
    Outcome.Yields IsUnread (fun _ => True) (Layer.resolve selector default_) := by
  have hrequired : Outcome.Yields IsUnread (fun _ => True)
      (reject .layerNotFound "layer is required" : Outcome Layer) := reject_unread _ _
  refine (ofSelector_unread selector).bind fun layer? _ => ?_
  cases layer? with
  | some layer => exact .ok trivial
  | none =>
    show Outcome.Yields IsUnread _ (if default_.truthy then _ else _)
    split
    · refine (ofSelector_unread default_).bind fun layer? _ => ?_
      cases layer? with
      | some layer => exact .ok trivial
      | none => exact hrequired
    · exact hrequired

namespace Pivot

/-! ## Metrics -/

theorem required_yields (data : Value) (key what : String) :
    Outcome.Yields IsRejection (fun _ => True) (required data key what) := by
  unfold required
  dsimp only
  split
  · split
    · exact reject_yields _ _
    · split
      · exact reject_yields _ _
      · exact .ok trivial
    · exact .ok trivial
  · exact reject_yields _ _

theorem Metric.ofRequest_unread (what : String) (data : Value) :
    Outcome.Yields IsUnread (fun _ => True) (Metric.ofRequest what data) := by
  unfold Metric.ofRequest
  split
  · refine (required_yields _ _ _).unread.bind fun field _ => ?_
    have haggregation : ∀ v, Outcome.Yields IsUnread (fun _ => True)
        (Sql.Aggregation.ofRequest v) := fun v =>
      (Value.textOr_unread "sum" v).bind fun _ _ => .ok trivial
    refine (haggregation _).bind fun agg? _ => ?_
    cases agg? with
    | some agg => exact .ok trivial
    | none => exact reject_unread _ _
  · exact reject_unread _ _

theorem Metric.firstOf_unread (members : List (String × Value)) :
    Outcome.Yields IsUnread (fun _ => True) (Metric.firstOf members) := by
  unfold Metric.firstOf
  dsimp only
  split
  · exact Metric.ofRequest_unread _ _
  · exact Metric.ofRequest_unread _ _

/-! ## Axes -/

namespace Axis

/-- The number of keys in the record of an axis; without one it is zero. -/
def numberIn (what : String) (data : Value) : Outcome Int :=
  match data with
  | .record members =>
    (choiceOf ((valueOf? "topN" members).getD .null)).2.toWhole s!"{what}.topN.n" 0
      .missingParameter
  | _ => .ok 0

/-- An axis has the number of its record, unless that is zero. -/
def HasNumber (what : String) (data : Value) (a : Axis) : Prop :=
  ∃ n, numberIn what data = .ok n ∧ a.topN? = if n == 0 then none else some n

theorem HasNumber.ne_zero {what : String} {data : Value} {a : Axis} (h : HasNumber what data a) :
    a.topN? ≠ some 0 := by
  obtain ⟨n, -, htopN⟩ := h
  rw [htopN]
  split
  · exact nofun
  · next hn =>
    rintro ⟨⟩
    exact hn rfl

theorem numberIn_yields (what : String) (data : Value) :
    Outcome.Yields (fun e => IsRejection e ∨ IsNumeralFault e) (fun _ => True)
      (numberIn what data) := by
  unfold numberIn
  split
  · exact Value.toWhole_yields _ _ _ _
  · exact .ok trivial

theorem itemsOf_yields (what : String) (members : List (String × Value)) :
    Outcome.Yields IsRejection (fun _ => True) (itemsOf what members) := by
  unfold itemsOf
  dsimp only
  split
  · split
    · exact .ok trivial
    · exact reject_yields _ _
  · exact .ok trivial

theorem manualOf_yields (what : String) (hasItems : Bool) (v : Value) :
    Outcome.Yields IsRejection (fun _ => True) (manualOf what hasItems v) := by
  unfold manualOf
  dsimp only
  generalize lower (trim (v.displayOr (if hasItems then "manual" else "topN"))) = word
  split
  · exact .ok trivial
  · split
    · exact .ok trivial
    · exact reject_yields _ _

/-- An axis is read with its number, or refused. -/
theorem ofRequest_unread (what : String) (data : Value) :
    Outcome.Yields IsUnread (HasNumber what data) (ofRequest what data) := by
  have hrefused (detail : String) (v : Value) (f : Value → Outcome Axis) :
      Outcome.Yields IsUnread (HasNumber what v) (reject .missingParameter detail >>= f) :=
    reject_unread _ _
  cases data with
  | text field => exact .ok ⟨0, rfl, rfl⟩
  | record members =>
    refine (required_yields _ _ _).unread.bind fun field _ => ?_
    refine (itemsOf_yields what members).unread.bind fun items _ => ?_
    refine (manualOf_yields what _ _).unread.bind fun manual _ => ?_
    dsimp only
    split
    · exact reject_unread _ _
    · have hnumber := Value.toWhole_unread s!"{what}.topN.n" 0 .missingParameter
        (choiceOf ((valueOf? "topN" members).getD .null)).2
      exact hnumber.known.bind fun n hn => .ok ⟨n, hn, rfl⟩
  | _ => exact hrefused _ _ _

end Axis

/-! ## Requests for charts -/

namespace ChartRequest

/-- The number of charts in the layout of a request. -/
def perRowIn (members : List (String × Value)) : Outcome Int :=
  (match memberOf members "layout" with
    | .record layout => memberOf layout "chartsPerRow"
    | _ => .null).toWhole "layout.chartsPerRow" 0 .missingParameter

/-- The numbers of the request are those of its parts. -/
structure IsRead (members : List (String × Value)) (r : ChartRequest) : Prop where
  col : Axis.HasNumber "col" (memberOf members "col") r.col
  row : Axis.HasNumber "row" (memberOf members "row") r.row
  perRow : perRowIn members = .ok r.chartsPerRow
  base : r.toRequest = Request.ofMembers members

/-- A request for charts is read with its numbers, or refused. -/
theorem ofRequest_unread (members : List (String × Value)) :
    Outcome.Yields IsUnread (IsRead members) (ofRequest (.record members)) := by
  refine (Axis.ofRequest_unread "col" (memberOf members "col")).bind fun col hcol => ?_
  refine (Axis.ofRequest_unread "row" (memberOf members "row")).bind fun row hrow => ?_
  refine (Metric.firstOf_unread members).bind fun metric _ => ?_
  have hperRow : Outcome.Yields IsUnread (fun _ => True) (perRowIn members) :=
    Value.toWhole_unread _ _ _ _
  exact hperRow.known.bind fun perRow h => .ok ⟨hcol, hrow, h, rfl⟩

theorem isRead_of_ofRequest {data : Value} {r : ChartRequest} (h : ofRequest data = .ok r) :
    ∃ members, data = .record members ∧ IsRead members r := by
  cases data with
  | record members => exact ⟨members, rfl, (ofRequest_unread members).of_ok h⟩
  | _ => cases h

end ChartRequest

/-! ## Settings in filters -/

namespace TopN

/-- The number of an enabled setting in an item of a filter list, which must be at least one;
without one it is one. -/
def numberIn (item : Value) : Outcome Int :=
  match item with
  | .record members =>
    match (valueOf? "topN" members).getD .null with
    | .record setting =>
      let field := (valueOf? "field" members).getD .null
      if ((valueOf? "enabled" setting).getD .null).truthy then do
        let n ← ((valueOf? "n" setting).getD .null).toWhole "topN.n" 5 .missingParameter
        if n < 1 then malformed s!"topN for {field.shown}"
        return n
      else .ok 1
    | _ => .ok 1
  | _ => .ok 1

/-- The settings keep at least one value each. -/
def Keeps (ts : List TopN) : Prop :=
  ∀ t ∈ ts, 1 ≤ t.n

theorem ofSetting_unread (members setting : List (String × Value)) :
    Outcome.Yields IsUnread (fun t => 1 ≤ t.n) (ofSetting (.record members) setting) := by
  refine (required_yields _ _ _).unread.bind fun field _ => ?_
  refine (Value.toWhole_unread _ _ _ _).bind fun n _ => ?_
  dsimp only
  split
  · by_cases hn : n < 1
    · rw [if_pos hn]
      exact reject_unread _ _
    · rw [if_neg hn]
      exact .ok (Int.not_lt.1 hn)
  · exact reject_unread _ _

/-- The setting that is read of an item tells that its number is one. -/
theorem numberIn_of_setting {members setting : List (String × Value)} {t : TopN}
    (hsetting : (valueOf? "topN" members).getD .null = .record setting)
    (h : ofSetting (.record members) setting = .ok t) :
    ∃ n, numberIn (.record members) = .ok n := by
  unfold numberIn
  simp only [hsetting]
  split
  · obtain ⟨field, -, h⟩ := Outcome.bind_eq_ok.1 h
    obtain ⟨n, hn, h⟩ := Outcome.bind_eq_ok.1 h
    dsimp only at h
    split at h
    · by_cases hleast : n < 1
      · rw [if_pos hleast] at h
        cases h
      · refine ⟨n, ?_⟩
        rw [hn]
        exact if_neg hleast
    · cases h
  · exact ⟨1, rfl⟩

/-- An item is split with its number, or refused. -/
theorem splitItem_unread (item : Value) :
    Outcome.Yields IsUnread
      (fun parts => (∀ t ∈ parts.2, 1 ≤ t.n) ∧ ∃ n, numberIn item = .ok n) (splitItem item) := by
  have hnone : ∀ t ∈ (none : Option TopN), 1 ≤ t.n := nofun
  cases item with
  | record members =>
    cases hsetting : (valueOf? "topN" members).getD .null with
    | record setting =>
      simp only [splitItem, hsetting]
      cases henabled : ((valueOf? "enabled" setting).getD .null).truthy with
      | false =>
        refine .ok ⟨hnone, 1, ?_⟩
        simp only [numberIn, hsetting, henabled]
        rfl
      | true =>
        have hread := ofSetting_unread members setting
        cases ht : ofSetting (.record members) setting with
        | error e => exact .error (hread.of_error ht)
        | ok t =>
          refine .ok ⟨?_, numberIn_of_setting hsetting ht⟩
          rintro _ ⟨⟩
          exact hread.of_ok ht
    | _ =>
      simp only [splitItem, hsetting]
      exact .ok ⟨hnone, 1, by simp only [numberIn, hsetting]⟩
  | _ => exact .ok ⟨hnone, 1, rfl⟩

theorem readEntries_unread (v : Value) :
    Outcome.Yields IsUnread (fun _ => True) (readEntries v) := by
  unfold readEntries
  split
  · next s =>
    split
    · exact .ok trivial
    · have htext : Outcome.Yields IsUnread (fun _ => True) (readText "not valid JSON" s) := by
        unfold readText
        split
        · exact .ok trivial
        · exact reject_unread _ _
        · exact .error (.inr (.inl ⟨_, rfl⟩))
      exact htext.bind fun v _ => (entriesOf_yields v).unread
  · exact (entriesOf_yields _).unread

/-- The numbers of the items of a filter list. -/
def numbersIn (filters : Value) : List (Outcome Int) :=
  match filters with
  | .list items => items.map numberIn
  | _ => []

theorem numbersIn_yields (filters : Value) : ∀ x ∈ numbersIn filters,
    Outcome.Yields (fun e => IsRejection e ∨ IsNumeralFault e) (fun _ => True) x := by
  have hitem : ∀ item, Outcome.Yields (fun e => IsRejection e ∨ IsNumeralFault e) (fun _ => True)
      (numberIn item) := by
    intro item
    unfold numberIn
    split
    · split
      · split
        · refine (Value.toWhole_yields _ _ _ _).bind fun n _ => ?_
          split
          · exact (malformed_yields _).weaken fun _ => .inl
          · exact .ok trivial
        · exact .ok trivial
      · exact .ok trivial
    · exact .ok trivial
  cases filters with
  | list items => exact List.forall_mem_map.2 fun item _ => hitem item
  | _ => exact nofun

/-- A filter is split with its numbers, or refused. -/
theorem split_unread (filters : Value) :
    Outcome.Yields IsUnread
      (fun parts => Keeps parts.2 ∧ ∀ x ∈ numbersIn filters, ∃ n, x = .ok n)
      (split filters) := by
  cases filters with
  | list items =>
    have hitems := Outcome.Yields.mapM (f := splitItem) fun item (_ : item ∈ items) =>
      (splitItem_unread item).mono fun _ h => h.1
    refine hitems.known.bind fun parts hparts => ?_
    refine (readEntries_unread _).bind fun es _ => .ok ⟨fun t ht => ?_, fun x hx => ?_⟩
    · obtain ⟨part, hpart, hsetting⟩ := List.mem_filterMap.1 ht
      exact hitems.of_ok hparts part hpart t hsetting
    · obtain ⟨item, hitem, rfl⟩ := List.mem_map.1 hx
      obtain ⟨part, -, hpart⟩ := Outcome.mem_of_mapM hparts hitem
      exact ((splitItem_unread item).of_ok hpart).2
  | _ => exact (readEntries_unread _).bind fun es _ => .ok ⟨nofun, nofun⟩

end TopN

end Pivot

end Crosstab
