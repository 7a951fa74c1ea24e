import Crosstab.Pivot.Request
import Crosstab.Proofs.Names
import Crosstab.Proofs.Outcome

/-!
# Sorts name metrics by plain names

The sort of row items names a metric of the same request by its field and its aggregation. A metric
may spell its aggregation in many ways; a sort that spells it the same way finds the metric only if
that is the plain name of the aggregation, in any case.
-/

namespace Crosstab

open Text Sql

/-! ## Spellings of aggregations -/

namespace Sql.Aggregation

/-- The name of an aggregation stands for it, and there is no blank in it. -/
theorem name_plain (a : Aggregation) :
    ofName? a.name = some a ∧ replaceChar ' ' "_" a.name = a.name ∧
      ∀ c ∈ a.name.toList, isBlankChar c = false := by
  have hblank : a.name.toList.all (fun c => !isBlankChar c) = true := by
    cases a <;> decide +kernel
  have hplain : ofName? a.name = some a ∧ replaceChar ' ' "_" a.name = a.name := by
    cases a <;> exact ⟨by decide +kernel, by decide +kernel⟩
  refine ⟨hplain.1, hplain.2, fun c hc => ?_⟩
  exact Bool.not_eq_true' _ ▸ List.all_eq_true.1 hblank c hc

theorem name_inj {a b : Aggregation} (h : a.name = b.name) : a = b := by
  have ha := (name_plain a).1
  rw [h, (name_plain b).1] at ha
  exact (Option.some.inj ha).symm

/-- A word whose lower case is the name of an aggregation spells it. -/
theorem ofName?_of_lower {word : String} {a : Aggregation} (h : lower word = a.name) :
    ofName? (plainSpelling word) = some a := by
  obtain ⟨hname, hspaces, hblank⟩ := name_plain a
  have hword : ∀ c ∈ word.toList, isBlankChar c = false := by
    intro c hc
    by_contra hnot
    have hmem := mem_lowerAfter_of_isBlankChar (Bool.not_eq_false _ ▸ hnot) hc []
    rw [← h, lower, String.toList_ofList] at hblank
    exact hnot (hblank c hmem)
  have htrim : trim word = word := by
    rw [trim, Number.dropAround_eq hword, String.ofList_toList]
  rw [plainSpelling, htrim, h, hspaces, hname]

theorem ofRequest_text {word : String} (hne : word ≠ "") :
    ofRequest (.text word) = .ok (ofName? (plainSpelling word)) := by
  rw [ofRequest, Value.textOr, if_pos (Value.truthy_text hne)]
  rfl

end Sql.Aggregation

namespace Pivot

/-! ## Entries -/

/-- The aggregation of an entry as it is written, under one of three names. -/
def Metric.writtenAgg (members : List (String × Value)) : Value :=
  ((valueOf? "agg" members).or
    ((valueOf? "aggregation" members).or (valueOf? "aggregate" members))).getD .null

/-- The entry is of a field and has a word for the aggregation. -/
structure Metric.IsWritten (members : List (String × Value)) (field word : String) : Prop where
  field : valueOf? "field" members = some (.text field)
  agg : writtenAgg members = .text word
  ne_empty : word ≠ ""

/-- A metric has the field and the aggregation that its entry is written with. -/
theorem Metric.IsWritten.metric {members : List (String × Value)} {field word what : String}
    {m : Metric} (h : IsWritten members field word)
    (hm : ofRequest what (.record members) = .ok m) :
    m.field = field ∧ Aggregation.ofName? (Aggregation.plainSpelling word) = some m.agg := by
  obtain ⟨name, hname, hm⟩ := Outcome.bind_eq_ok.1 hm
  obtain ⟨agg?, hagg, hm⟩ := Outcome.bind_eq_ok.1 hm
  have hwritten : Aggregation.ofRequest (.text word) = .ok agg? := h.agg ▸ hagg
  rw [Aggregation.ofRequest_text h.ne_empty] at hwritten
  obtain rfl := Except.ok.inj hwritten
  have hfield : name = .text field := by
    simp only [required, h.field, Option.getD_some] at hname
    split at hname
    · cases hname
    · exact (Except.ok.inj hname).symm
  cases hfound : Aggregation.ofName? (Aggregation.plainSpelling word) with
  | none =>
    rw [hfound] at hm
    cases hm
  | some agg =>
    rw [hfound] at hm
    obtain rfl := Outcome.pure_eq_ok.1 hm
    exact ⟨hfield ▸ rfl, rfl⟩

/-! ## Sorts -/

namespace ItemSort

/-- The sort is under a column value, and names a field and a word for the aggregation; it leaves
the direction open. -/
structure Names (members : List (String × Value)) (field word : String) : Prop where
  columnValue : memberOf members "columnValue" ≠ .null
  direction : memberOf members "direction" = .null
  field : memberOf members "valueField" = .text field
  agg : memberOf members "agg" = .text word
  ne_empty : word ≠ ""

/-- The metric is of the field, and its aggregation has the word in lower case for its name. -/
def isNamed (field word : String) (m : Metric) : Bool :=
  m.field == field && m.agg.name == lower word

variable {members : List (String × Value)} {field word : String}

/-- A sort takes the first metric that it names. -/
theorem ofRequest_eq (h : Names members field word) (metrics : List Metric) :
    ofRequest (.record members) metrics =
      match metrics.find? (isNamed field word) with
      | some m => .ok (some ⟨Filter.normalizeKey (memberOf members "columnValue"), m, true⟩)
      | none => reject .invalidSort s!"no metric {field}/{lower word}" := by
  have hword : (Value.text word).displayOr "" = word := by
    rw [Value.displayOr, if_pos (Value.truthy_text h.ne_empty)]
    rfl
  have hempty : (lower word).isEmpty = false :=
    String.isEmpty_eq_false_iff.2 (lower_ne_empty h.ne_empty)
  have hcolumn : (memberOf members "columnValue" == .null) = false :=
    beq_eq_false_iff_ne.2 h.columnValue
  have hnamed : (fun m : Metric => Value.text field == .text m.field &&
      (false || m.agg.name == lower word)) = isNamed field word := by
    funext m
    have hfield : (Value.text field == .text m.field) = (m.field == field) := by
      rw [Bool.eq_iff_iff, beq_iff_eq, beq_iff_eq, Value.text.injEq, eq_comm]
    rw [hfield, Bool.false_or, isNamed]
  have hdescending : upper (Value.null.displayOr "desc") = "DESC" := by decide +kernel
  unfold ofRequest
  simp only [h.direction, h.field, h.agg, hword, hcolumn, hdescending, hempty, hnamed]
  cases metrics.find? (isNamed field word) <;> rfl

/-- What a sort names is a metric of the field with the aggregation that the word is the name of. -/
theorem isNamed_iff {m : Metric} :
    isNamed field word m = true ↔ m.field = field ∧ m.agg.name = lower word := by
  rw [isNamed, Bool.and_eq_true, beq_iff_eq, beq_iff_eq]

/-- A sort that spells an aggregation as an entry of the request does finds a metric of the field
with the aggregation if the spelling in lower case is the name of the aggregation, and is rejected
if it is not. -/
theorem finds_metrics_by_plain_names {entries : List Value} {what : String} {metrics : List Metric}
    {entry sort : List (String × Value)} {field word : String}
    (hmetrics : entries.mapM (Metric.ofRequest what) = .ok metrics)
    (hentry : .record entry ∈ entries) (hwritten : Metric.IsWritten entry field word)
    (hsort : Names sort field word) :
    ∃ agg, Aggregation.ofName? (Aggregation.plainSpelling word) = some agg ∧
      (lower word = agg.name → ∃ m ∈ metrics, m.field = field ∧ m.agg = agg ∧
        ofRequest (.record sort) metrics =
          .ok (some ⟨Filter.normalizeKey (memberOf sort "columnValue"), m, true⟩)) ∧
      (lower word ≠ agg.name → ofRequest (.record sort) metrics =
        reject .invalidSort s!"no metric {field}/{lower word}") := by
  obtain ⟨own, hown, hread⟩ := Outcome.mem_of_mapM hmetrics hentry
  obtain ⟨hfield, hagg⟩ := hwritten.metric hread
  refine ⟨own.agg, hagg, fun hplain => ?_, fun hother => ?_⟩
  · have hfinds : (metrics.find? (isNamed field word)).isSome = true :=
      List.find?_isSome.2 ⟨own, hown, isNamed_iff.2 ⟨hfield, hplain.symm⟩⟩
    obtain ⟨m, hm⟩ := Option.isSome_iff_exists.1 hfinds
    obtain ⟨hmfield, hmagg⟩ := isNamed_iff.1 (List.find?_some hm)
    refine ⟨m, List.mem_of_find?_eq_some hm, hmfield, ?_, ?_⟩
    · exact Aggregation.name_inj (hmagg.trans hplain)
    · rw [ofRequest_eq hsort, hm]
  · have hnone : metrics.find? (isNamed field word) = none := by
      rw [List.find?_eq_none]
      intro m _ hnamed
      -- the word would be the plain name of this aggregation, and then it spells this one
      obtain ⟨-, hmagg⟩ := isNamed_iff.1 hnamed
      have hsame := hagg.symm.trans (Aggregation.ofName?_of_lower hmagg.symm)
      exact hother (Option.some.inj hsame ▸ hmagg.symm)
    rw [ofRequest_eq hsort, hnone]

/-- An entry that counts the bytes, in capital letters. -/
def inCapitals : List (String × Value) :=
  [("field", .text "bytes"), ("agg", .text "COUNT")]

/-- A sort under a status that names the bytes. -/
def underStatus (agg : String) : List (String × Value) :=
  [("columnValue", .text "200"), ("valueField", .text "bytes"), ("agg", .text agg)]

theorem underStatus_names {agg : String} (hne : agg ≠ "") : Names (underStatus agg) "bytes" agg :=
  ⟨by simp [underStatus, memberOf, valueOf?], rfl, rfl, rfl, hne⟩

theorem capitals_find_the_count :
    [Value.record [("field", .text "bytes")], .record inCapitals].mapM (Metric.ofRequest "values") =
      .ok [⟨"bytes", .sum, .null⟩, .countOf "bytes"] ∧
    ofRequest (.record (underStatus "COUNT")) [⟨"bytes", .sum, .null⟩, .countOf "bytes"] =
      .ok (some ⟨"200", .countOf "bytes", true⟩) := by
  have hmetrics : [Value.record [("field", .text "bytes")], .record inCapitals].mapM
      (Metric.ofRequest "values") = .ok [⟨"bytes", .sum, .null⟩, .countOf "bytes"] := by
    decide +kernel
  have hwritten : Metric.IsWritten inCapitals "bytes" "COUNT" := ⟨rfl, rfl, by decide⟩
  obtain ⟨agg, hagg, hfound, -⟩ := finds_metrics_by_plain_names hmetrics
    (List.mem_cons_of_mem _ List.mem_cons_self) hwritten (underStatus_names (by decide))
  obtain rfl : Aggregation.count = agg := by
    have hcount : Aggregation.ofName? (Aggregation.plainSpelling "COUNT") = some .count := by
      decide +kernel
    exact Option.some.inj (hcount.symm.trans hagg)
  obtain ⟨m, hm, -, hmagg, hsort⟩ := hfound (by decide +kernel)
  obtain rfl : m = .countOf "bytes" := by
    rcases List.mem_pair.1 hm with rfl | rfl
    · cases hmagg
    · rfl
  exact ⟨hmetrics, hsort⟩

/-- A mean is an average, and a sort by the mean does not find it. -/
theorem means_are_not_found :
    [Value.record [("field", .text "bytes"), ("agg", .text "mean")]].mapM
      (Metric.ofRequest "values") = .ok [⟨"bytes", .avg, .null⟩] ∧
    ofRequest (.record (underStatus "mean")) [⟨"bytes", .avg, .null⟩] =
      reject .invalidSort "no metric bytes/mean" := by
  constructor
  · decide +kernel
  · decide +kernel

end ItemSort

end Pivot

end Crosstab
