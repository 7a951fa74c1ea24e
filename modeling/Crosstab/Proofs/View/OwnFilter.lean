import Crosstab.Proofs.Filter.Conditions
import Crosstab.Proofs.Names
import Crosstab.Proofs.View.DistinctQuery
import Crosstab.Proofs.View.Workspace

/-!
# The picker does not see its own filter

The values of a column are chosen from all rows that the filters on the other columns leave. Entries
on the column itself are taken out by the column that their name resolves to, before any of their
values is read, so they can neither narrow the values nor fail the request.
-/

namespace Crosstab

open Crosstab.Filter Sql

/-! ## What is left of a filter -/

namespace Filter.Scope

variable {scope : Scope} {target : String}

/-- The entry is on another column, or on none. -/
def isElsewhere (schema : Schema) (target : String) (e : Entry) : Bool :=
  schema.resolve? e.field != some target

/-- Without the entries on a column, the condition is determined by the others, in their order. -/
theorem entries_elsewhere (hplain : scope.schema.HasPlainNames) {name : Value}
    (htarget : scope.schema.resolve? name = some target) (es : List Entry) :
    scope.entries es (.text target) = (do
      return Predicate.all?
        (← (es.filter (isElsewhere scope.schema target)).mapM scope.entry)) := by
  have hself := Schema.resolve?_resolved hplain htarget
  have htruthy : (Value.text target).truthy = true := by
    have hidentifier := Schema.isIdentifier_resolved hplain htarget
    refine Value.truthy_text ?_
    rintro rfl
    exact absurd hidentifier (by decide)
  have hkept : (fun e : Entry => !(scope.schema.resolve? e.field == some target)) =
      isElsewhere scope.schema target := rfl
  rw [entries, if_pos htruthy, hself]
  simp only [Option.isSome_some, Bool.true_and, hkept]

/-- Filters that agree on the other columns are the same filter for a column. -/
theorem whereFilter_congr (hplain : scope.schema.HasPlainNames) {name : Value}
    (htarget : scope.schema.resolve? name = some target) {f g : Value} {es fs : List Entry}
    (hf : readEntries f = .ok es) (hg : readEntries g = .ok fs)
    (hagree : es.filter (isElsewhere scope.schema target) =
      fs.filter (isElsewhere scope.schema target)) (time : Value) :
    scope.whereFilter f time (.text target) = scope.whereFilter g time (.text target) := by
  have hentries : scope.entries es (.text target) = scope.entries fs (.text target) := by
    rw [entries_elsewhere hplain htarget, entries_elsewhere hplain htarget, hagree]
  simp only [whereFilter, hf, hg, hentries, bind, Except.bind]

end Filter.Scope

/-! ## The picker -/

namespace View

open Scope (isElsewhere)

variable {w : Workspace} {r : DistinctRequest} {schema : Schema} {f g : Value} {es fs : List Entry}

/-- The filter of the column itself has no influence on its values: two filters that agree on all
other columns, whatever they say of this one, lead to the same queries and the same limit, or to the
same failure, and so to the same session with the channel. -/
theorem own_filter_is_not_seen (hschema : w.schema r.layer = .ok schema)
    (hplain : schema.HasPlainNames) (hself : r.includeSelf = false)
    (hf : readEntries f = .ok es) (hg : readEntries g = .ok fs)
    (hagree : ∀ target, schema.resolve? r.field = some target →
      es.filter (isElsewhere schema target) = fs.filter (isElsewhere schema target)) :
    distinctQueries w { r with filters := f } = distinctQueries w { r with filters := g } ∧
      distinct w { r with filters := f } = distinct w { r with filters := g } := by
  have hqueries : distinctQueries w { r with filters := f } =
      distinctQueries w { r with filters := g } := by
    cases hrequire : schema.require r.field with
    | error e => simp only [distinctQueries, hschema, hrequire, bind, Except.bind]
    | ok target =>
      have htarget := Schema.require_eq_ok.1 hrequire
      have hwhere : ∀ column,
          distinctWhere ⟨schema, w.settings⟩ { r with filters := f } target column =
            distinctWhere ⟨schema, w.settings⟩ { r with filters := g } target column := by
        intro column
        have hsame : Scope.whereFilter ⟨schema, w.settings⟩ f r.time (.text target) =
            Scope.whereFilter ⟨schema, w.settings⟩ g r.time (.text target) :=
          Scope.whereFilter_congr hplain htarget hf hg (hagree target htarget) r.time
        simp only [distinctWhere, hself, Bool.false_eq_true, if_false, hsame]
      have horder : DistinctRequest.orderWord { r with filters := f } =
          DistinctRequest.orderWord { r with filters := g } := rfl
      have hafter : ∀ order, afterCursor { r with filters := f } target order =
          afterCursor { r with filters := g } target order := fun _ => rfl
      simp only [distinctQueries, hschema, hrequire, hwhere, horder, hafter, bind, Except.bind]
  refine ⟨hqueries, ?_⟩
  unfold distinct
  rw [hqueries]

/-- A request for the sizes of packets. -/
def packetSizes : DistinctRequest where
  layer := .text "TCP"
  field := .text "Size"
  filters := .null
  time := .null
  search := .null
  cursor := .null
  limit := .null
  includeSelf := false
  order := .text "ASC"

/-- A filter on ports, with one on sizes that cannot be read as numbers. -/
def unreadableSize : Value :=
  .record [("SIZE", .record [("op", .text "GT"), ("value", .text "large")]),
    ("port", .record [("op", .text "EQ"), ("value", .text "80")])]

/-- The same filter on ports, with one on sizes under another name. -/
def flaggedSize : Value :=
  .list [.record [("field", .text "port"), ("op", .text "EQ"), ("value", .text "80")],
    .record [("field", .text "size-x"), ("mode", .text "checkbox"), ("values", .list [.bool true])]]

theorem filter_of_sizes_is_not_seen :
    Scope.packets.schema.HasPlainNames ∧ packetSizes.includeSelf = false ∧
    (∃ es fs, readEntries unreadableSize = .ok es ∧ readEntries flaggedSize = .ok fs ∧ es ≠ fs) ∧
    (distinctQueries .ofPackets { packetSizes with filters := flaggedSize }).isOk = true ∧
    distinctQueries .ofPackets { packetSizes with filters := unreadableSize } =
      distinctQueries .ofPackets { packetSizes with filters := flaggedSize } ∧
    distinct .ofPackets { packetSizes with filters := unreadableSize } =
      distinct .ofPackets { packetSizes with filters := flaggedSize } := by
  have hschema : Workspace.ofPackets.schema packetSizes.layer = .ok Scope.packets.schema := by
    decide +kernel
  have hplain : Scope.packets.schema.HasPlainNames := by decide +kernel
  have hfield : Scope.packets.schema.resolve? packetSizes.field = some "size" := by decide +kernel
  have hunreadable : readEntries unreadableSize = .ok [
      ⟨.text "SIZE", .conditions [⟨.gt, [.text "large"]⟩] [], none, false⟩,
      ⟨.text "port", .conditions [⟨.eq, [.text "80"]⟩] [], none, false⟩] := by decide +kernel
  have hflagged : readEntries flaggedSize = .ok [
      ⟨.text "port", .conditions [⟨.eq, [.text "80"]⟩] [], none, false⟩,
      ⟨.text "size-x", .checkbox [.bool true], none, false⟩] := by decide +kernel
  have hbase : (distinctBase .packets { packetSizes with filters := flaggedSize } "size").isOk =
      true := by decide +kernel
  obtain ⟨base, hbase⟩ := Outcome.isOk_iff.1 hbase
  obtain ⟨_, _, hqueries, -⟩ := distinctQueries_eq
    (r := { packetSizes with filters := flaggedSize }) (n := 50)
    hschema hfield hbase (.inl rfl) rfl (by decide) (by decide +kernel)
    (afterCursor_null rfl _ _) rfl (show IsAfter "ASC" none .empty from rfl)
  refine ⟨hplain, rfl, ⟨_, _, hunreadable, hflagged, by decide⟩, Outcome.isOk_iff.2 ⟨_, hqueries⟩,
    ?_⟩
  refine own_filter_is_not_seen hschema hplain rfl hunreadable hflagged ?_
  intro target htarget
  obtain rfl := Option.some.inj (hfield.symm.trans htarget)
  decide +kernel

end View

end Crosstab
