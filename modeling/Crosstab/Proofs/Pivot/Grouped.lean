import Crosstab.Proofs.Pivot.AxisKeys
import Crosstab.Proofs.Pivot.Condition
import Crosstab.Proofs.Pivot.Shape
import Crosstab.Proofs.Sql.Paged

/-!
# Pages of groups

The statements of a pivot request select groups of its rows, in an order and a page at a time. Such
a statement comes together, and what it reads as tells the groups, the order and the page.
-/

namespace Crosstab.Pivot.Context

open Crosstab.Filter Sql

/-! ## Pages -/

/-- The number of rows before a page, if there are any. -/
def startOf (offset : Int) : Option Int :=
  if offset = 0 then none else some offset

/-- The statement for a page. -/
def onPage (s : Select) (limit? offset? : Option Int) : Select :=
  { s with limit? := limit?, offset? := offset? }

theorem paged_int {n o : Int} (hn : 1 ≤ n) (ho : 0 ≤ o) {s : Select} (hs : s.offset? = none) :
    paged (.int n) (.int o) s = .ok (onPage s (some n) (startOf o)) := by
  have hlimit : ((Value.int n) == .null) = false := rfl
  simp only [paged, hlimit, Bool.false_eq_true, if_false, Select.limitTo_int hn, bind, Except.bind]
  by_cases h : o = 0
  · subst h
    have hfirst : (Value.int 0).truthy = false := rfl
    simp only [hfirst, Bool.false_eq_true, if_false, startOf, if_true, pure, Except.pure, onPage,
      ← hs]
  · have hlater : (Value.int o).truthy = true := bne_iff_ne.2 h
    simp only [hlater, if_true, startOf, h, if_false, Select.startAt_int ho, onPage]

/-- A page changes no other clause. -/
theorem paged_changes {limit offset : Value} {s t : Select} (h : paged limit offset s = .ok t) :
    ∃ l? o?, t = onPage s l? o? := by
  have hsteps : paged limit offset s =
      ((if limit == .null then .ok s else s.limitTo limit) >>= fun limited =>
        if offset.truthy then limited.startAt offset else .ok limited) := by
    unfold paged
    cases limit == Value.null with
    | true => rfl
    | false => rfl
  rw [hsteps] at h
  obtain ⟨limited, hlimited, h⟩ := Outcome.bind_eq_ok.1 h
  have hlimit : ∃ l?, limited = { s with limit? := l? } := by
    split at hlimited
    · exact ⟨s.limit?, (Except.ok.inj hlimited).symm⟩
    · obtain ⟨n, hn⟩ := (Select.limitTo_yields limit s).of_ok hlimited
      exact ⟨some n, hn⟩
  obtain ⟨l?, rfl⟩ := hlimit
  split at h
  · obtain ⟨o, ho⟩ := (Select.startAt_yields offset _).of_ok h
    exact ⟨l?, some o, ho⟩
  · exact ⟨l?, s.offset?, (Except.ok.inj h).symm⟩

section Page

variable {s : Select} {table order : String}

theorem sound_onPage (hs : s.Sound) (l? o? : Option Int) : (onPage s l? o?).Sound :=
  ⟨hs.columns, hs.table, hs.condition, hs.groups, hs.orders⟩

theorem filled_onPage (horders : s.orders = [order]) (l? o? : Option Int) :
    (onPage s l? o?).filled table =
      lines (Select.pagedLines (s.headLines table) order l? o?) := by
  rw [Select.filled_eq_lines]
  exact congrArg lines (Select.clauseLines_of_order (s := onPage s l? o?) horders table)

/-- A page of a sound statement in an order comes together. -/
theorem page_builds (hs : s.Sound) (htable : s.table? = some table)
    (hblank : Text.isBlank table = false) (horders : s.orders = [order])
    (hoffset : s.offset? = none) {n o : Int} (hn : 1 ≤ n) (hnfits : Number.isWritable n = true)
    (ho : 0 ≤ o) (hofits : Number.isWritable o = true) :
    ∃ q, (do (← paged (.int n) (.int o) s).build) = .ok q ∧
      q.filled = lines (Select.pagedLines (s.headLines table) order (some n) (startOf o)) := by
  have hwritable : (onPage s (some n) (startOf o)).Writable := by
    refine ⟨fun m hm => Option.mem_some_iff.1 hm ▸ hnfits, fun m hm => ?_⟩
    have hstart : m ∈ startOf o := hm
    by_cases h : o = 0
    · rw [startOf, if_pos h] at hstart
      cases hstart
    · rw [startOf, if_neg h] at hstart
      exact Option.mem_some_iff.1 hstart ▸ hofits
  obtain ⟨q, hq, -, hfilled⟩ := Select.build_of_sound
    (sound_onPage hs (some n) (startOf o)) htable hblank hwritable
  refine ⟨q, ?_, ?_⟩
  · rw [paged_int hn ho hoffset]
    exact hq
  · rw [hfilled, ← Select.filled_eq_lines, filled_onPage horders]

/-- A page that comes together tells its order. -/
theorem page_reads (hs : s.Sound) (htable : s.table? = some table) (horders : s.orders = [order])
    {limit offset : Value} {q : Fragment} (h : (do (← paged limit offset s).build) = .ok q) :
    ∃ l? o?, q.filled = lines (Select.pagedLines (s.headLines table) order l? o?) := by
  obtain ⟨t, ht, hq⟩ := Outcome.bind_eq_ok.1 h
  obtain ⟨l?, o?, rfl⟩ := paged_changes ht
  obtain ⟨-, table', htable', hfilled⟩ := (Select.build_yields (sound_onPage hs l? o?)).of_ok hq
  obtain rfl := Option.some.inj ((Option.mem_def.1 htable').symm.trans htable)
  exact ⟨l?, o?, hfilled.trans (filled_onPage horders l? o?)⟩

end Page

/-! ## Groups without an order -/

variable {c : Context}

/-- Groups end in what they are grouped by. -/
theorem grouped_reads {columns keys : List String} {f q : Fragment}
    (hs : ((c.selectWhere columns f).groupBy keys).Sound) (hkeys : keys ≠ [])
    (hnonempty : ∀ k ∈ keys, k.isEmpty = false)
    (h : ((c.selectWhere columns f).groupBy keys).build = .ok q) :
    ∃ rs, rs ≠ [] ∧ q.filled = lines (rs ++ [clause "GROUP BY" (", ".intercalate keys)]) := by
  obtain ⟨-, horders, hlimit, hoffset⟩ := c.grouped_parts columns keys f
  obtain ⟨-, table, -, hfilled⟩ := (Select.build_yields hs).of_ok h
  have hgroups : ((c.selectWhere columns f).groupBy keys).groups = keys := by
    rw [selectWhere, Select.filter_eq]
    exact List.filter_eq_self.2 fun k hk => by rw [hnonempty k hk]; rfl
  have horder : Select.listedFilled "ORDER BY" [] = [] := rfl
  have hcounted : ∀ keyword, Select.countedFilled keyword none = [] := fun _ => rfl
  rw [Select.filled_eq_lines, Select.clauseLines, horders, hlimit, hoffset, hgroups,
    Select.listedFilled_of_ne_nil "GROUP BY" hkeys, horder, hcounted, hcounted, List.append_nil,
    List.append_nil, List.append_nil] at hfilled
  refine ⟨_, ?_, hfilled⟩
  refine List.append_ne_nil_of_left_ne_nil (List.append_ne_nil_of_right_ne_nil _ ?_) _
  rw [Select.listedFilled_singleton]
  exact List.cons_ne_nil _ _

/-- What the query for the number of keys reads as, by the query for the groups. -/
def countLines (groups : List Symbol) : List (List Symbol) :=
  [symbols "WITH pv_groups AS (\n" ++ groups ++ symbols "\n)",
    clause "SELECT" "COUNT(*) AS pv_count"] ++ [clause "FROM" "pv_groups"]

/-- The query for the number of keys comes together. -/
theorem keyCount_builds (hc : c.Sound) {field : Value} {key : String} {f : Fragment}
    (hkey : c.key field = .ok key) (hf : c.whereWith [] = .ok f) :
    ∃ q groups, c.keyCount field [] = .ok q ∧ q.filled = lines (countLines groups) := by
  have hinert := inert_key hkey
  have hcolumns : ∀ x ∈ [key ++ " AS " ++ keyColumn], Inert x :=
    List.forall_mem_singleton.2 (inert_named hinert (by decide))
  have hgroups : ((c.selectWhere [key ++ " AS " ++ keyColumn] f).groupBy [key]).Sound :=
    sound_grouped hcolumns (where_balanced hc hf) (List.forall_mem_singleton.2 hinert)
  obtain ⟨groups, hgroupsBuild⟩ := grouped_builds (c := c) hcolumns (where_balanced hc hf)
    (List.forall_mem_singleton.2 hinert)
  have hgroupsBalanced := ((Select.build_yields hgroups).of_ok hgroupsBuild).1
  have hsound : ((Select.ofColumns ["COUNT(*) AS pv_count"]).fromTable "pv_groups").Sound := by
    refine ⟨List.forall_mem_singleton.2 (by decide), ?_, rfl, nofun, nofun⟩
    rintro _ ⟨⟩
    decide
  obtain ⟨counted, hcounted, hcountedBalanced, hcountedFilled⟩ :=
    Select.build_of_sound hsound rfl (by decide) ⟨nofun, nofun⟩
  obtain ⟨q, hq, -, hfilled⟩ := With.build_subquery (by decide : Inert "pv_groups") hgroupsBalanced
    hcountedBalanced
  refine ⟨q, groups.filled, ?_, ?_⟩
  · refine Outcome.bind_eq_ok.2 ⟨key, hkey, Outcome.bind_eq_ok.2 ⟨f, hf, ?_⟩⟩
    refine Outcome.bind_eq_ok.2 ⟨groups, hgroupsBuild, ?_⟩
    rw [hcounted]
    exact hq
  · have hclauses : ((Select.ofColumns ["COUNT(*) AS pv_count"]).fromTable "pv_groups").clauseLines
        "pv_groups" = [clause "SELECT" "COUNT(*) AS pv_count", clause "FROM" "pv_groups"] := rfl
    have hopen :
        symbols ("WITH " ++ "pv_groups" ++ " AS (\n") = symbols "WITH pv_groups AS (\n" := by
      decide
    have hclose : symbols "\n)\n" = symbols "\n)" ++ symbols "\n" := by decide
    rw [hfilled, hcountedFilled, hclauses, With.oneFilled, hopen, hclose, countLines]
    simp [lines, List.intercalate_cons_cons]

/-! ## Keys in their order -/

/-- The groups of a key in the order of the key. -/
def sorted (key : String) (condition : Fragment) (c : Context) : Select :=
  { (c.selectWhere [key ++ " AS " ++ keyColumn] condition).groupBy [key] with
    orders := [keyColumn ++ " ASC"] }

section Sorted

variable {field : Value} {key : String} {f : Fragment}

theorem sortedKeys_eq (hkey : c.key field = .ok key) (hf : c.whereWith [] = .ok f)
    (offset limit : Value) :
    c.sortedKeys field offset limit = (do (← paged limit offset (c.sorted key f)).build) := by
  have horder : ∀ s : Select, s.orders = [] →
      s.orderBy keyColumn (.text "ASC") = .ok { s with orders := [keyColumn ++ " ASC"] } := by
    intro s hs
    have hword : Text.upper (Text.trim ((Value.text "ASC").displayOr "")) = "ASC" := by
      decide +kernel
    simp only [Select.orderBy, hword, hs]
    rfl
  have hnone := (c.grouped_parts [key ++ " AS " ++ keyColumn] [key] f).2.1
  unfold sortedKeys
  rw [hkey, hf]
  exact congrArg (· >>= fun s => (do (← paged limit offset s).build)) (horder _ hnone)

theorem sound_sorted (hc : c.Sound) (hkey : c.key field = .ok key) (hf : c.whereWith [] = .ok f) :
    (c.sorted key f).Sound := by
  have hinert := inert_key hkey
  have hgroups : ((c.selectWhere [key ++ " AS " ++ keyColumn] f).groupBy [key]).Sound :=
    sound_grouped (List.forall_mem_singleton.2 (inert_named hinert (by decide)))
      (where_balanced hc hf) (List.forall_mem_singleton.2 hinert)
  exact ⟨hgroups.columns, hgroups.table, hgroups.condition, hgroups.groups,
    List.forall_mem_singleton.2 (by decide)⟩

/-- The query for all keys in their order comes together. -/
theorem sortedKeys_builds (hc : c.Sound) (hkey : c.key field = .ok key)
    (hf : c.whereWith [] = .ok f) :
    ∃ q, c.sortedKeys field .null .null = .ok q ∧
      q.filled = lines (Select.pagedLines ((c.sorted key f).headLines c.schema.fromClause)
        (keyColumn ++ " ASC") none none) := by
  obtain ⟨htable, -, hlimit, hoffset⟩ := c.grouped_parts [key ++ " AS " ++ keyColumn] [key] f
  have hnoLimit : (c.sorted key f).limit? = none := hlimit
  have hnoOffset : (c.sorted key f).offset? = none := hoffset
  have hwritable : (c.sorted key f).Writable := by
    constructor
    · rw [hnoLimit]
      exact nofun
    · rw [hnoOffset]
      exact nofun
  obtain ⟨q, hq, -, hfilled⟩ :=
    Select.build_of_sound (sound_sorted hc hkey hf) htable c.schema.fromClause_not_blank hwritable
  refine ⟨q, ?_, ?_⟩
  · rw [sortedKeys_eq hkey hf]
    exact hq
  · rw [hfilled, Select.clauseLines_of_order (s := c.sorted key f) rfl, hnoLimit, hnoOffset]

/-- The query for a page of them comes together. -/
theorem sortedKeys_page_builds (hc : c.Sound) (hkey : c.key field = .ok key)
    (hf : c.whereWith [] = .ok f) {n o : Int} (hn : 1 ≤ n) (hnfits : Number.isWritable n = true)
    (ho : 0 ≤ o) (hofits : Number.isWritable o = true) :
    ∃ q, c.sortedKeys field (.int o) (.int n) = .ok q ∧
      q.filled = lines (Select.pagedLines ((c.sorted key f).headLines c.schema.fromClause)
        (keyColumn ++ " ASC") (some n) (startOf o)) := by
  obtain ⟨htable, -, -, hoffset⟩ := c.grouped_parts [key ++ " AS " ++ keyColumn] [key] f
  rw [sortedKeys_eq hkey hf]
  exact page_builds (sound_sorted hc hkey hf) htable c.schema.fromClause_not_blank rfl hoffset hn
    hnfits ho hofits

/-- The query for a page of keys tells the page. -/
theorem sortedKeys_reads (hc : c.Sound) {n o : Int} (ho : 0 ≤ o) {q : Fragment}
    (h : c.sortedKeys field (.int o) (.int n) = .ok q) :
    ∃ head, head ≠ [] ∧ q.filled =
      lines (Select.pagedLines head (keyColumn ++ " ASC") (some n) (startOf o)) := by
  have hsteps := h
  unfold sortedKeys at hsteps
  obtain ⟨key, hkey, hsteps⟩ := Outcome.bind_eq_ok.1 hsteps
  obtain ⟨f, hf, -⟩ := Outcome.bind_eq_ok.1 hsteps
  rw [sortedKeys_eq hkey hf] at h
  obtain ⟨s, hs, hbuild⟩ := Outcome.bind_eq_ok.1 h
  obtain ⟨htable, -, -, hoffset⟩ := c.grouped_parts [key ++ " AS " ++ keyColumn] [key] f
  have hn : 1 ≤ n := by
    by_contra hless
    have hlimit : ((Value.int n) == .null) = false := rfl
    have hrefused : n < 1 := Int.not_le.1 hless
    simp only [paged, hlimit, Select.limitTo, Value.toInt, bind, Except.bind, hrefused, if_true,
      Bool.false_eq_true, if_false] at hs
    cases hs
  obtain rfl := Except.ok.inj ((paged_int hn ho (s := c.sorted key f) hoffset).symm.trans hs)
  obtain ⟨-, table, htable', hfilled⟩ :=
    (Select.build_yields (sound_onPage (sound_sorted hc hkey hf) _ _)).of_ok hbuild
  exact ⟨_, Select.headLines_ne_nil _ _, hfilled.trans (filled_onPage rfl _ _)⟩

end Sorted

/-! ## Metrics of combinations -/

/-- Terms with the names of their places are inert. -/
theorem inert_places {terms : List String} (h : ∀ t ∈ terms, Inert t) {name : Nat → String}
    (hname : ∀ i, Inert (name i)) :
    ∀ x ∈ terms.zipIdx.map fun (t, i) => t ++ " AS " ++ name i, Inert x := by
  intro x hx
  obtain ⟨⟨t, i⟩, hmem, rfl⟩ := List.mem_map.1 hx
  exact inert_named (h t (List.fst_mem_of_mem_zipIdx hmem)) (hname i)

section Combinations

variable {fields : List Value} {metrics : List Metric} {keys values : List String} {f : Fragment}

/-- The columns of the statement for combinations of keys. -/
def combinationColumns (keys values : List String) : List String :=
  (keys.zipIdx.map fun (k, i) => k ++ " AS " ++ groupKeyColumn i) ++
    values.zipIdx.map fun (v, i) => v ++ " AS " ++ groupMetricColumn i

theorem inert_combinations (hkeys : fields.mapM c.key = .ok keys)
    (hvalues : metrics.mapM (·.expr c.schema) = .ok values) :
    (∀ x ∈ combinationColumns keys values, Inert x) ∧ ∀ k ∈ keys, Inert k := by
  have hplace : ∀ {start : String}, Inert start → ∀ i : Nat, Inert (start ++ toString i) :=
    fun h i => h.append (inert_intText (.ofNat i))
  have hkeysInert : ∀ k ∈ keys, Inert k := by
    intro k hk
    obtain ⟨i, hi⟩ := List.getElem?_of_mem hk
    obtain ⟨x, -, hx⟩ := Outcome.getElem?_of_mapM hkeys hi
    exact inert_key hx
  have hvaluesInert : ∀ v ∈ values, Inert v := by
    intro v hv
    obtain ⟨i, hi⟩ := List.getElem?_of_mem hv
    obtain ⟨m, -, hm⟩ := Outcome.getElem?_of_mapM hvalues hi
    exact inert_expr hm
  refine ⟨List.forall_mem_append.2 ⟨?_, ?_⟩, hkeysInert⟩
  · exact inert_places hkeysInert (hplace (by decide : Inert "pv_k"))
  · exact inert_places hvaluesInert (hplace (by decide : Inert "pv_m"))

/-- The query for the metrics of combinations of keys comes together. -/
theorem combinations_build (hc : c.Sound) (hkeys : ∀ x ∈ fields, ∃ key, c.key x = .ok key)
    (hvalues : ∀ m ∈ metrics, ∃ value, m.expr c.schema = .ok value)
    (hf : c.whereWith [] = .ok f) : ∃ q, c.grouped fields metrics = .ok q := by
  obtain ⟨keys, hkeys⟩ := Outcome.mapM_isOk hkeys
  obtain ⟨values, hvalues⟩ := Outcome.mapM_isOk hvalues
  obtain ⟨hcolumns, hinert⟩ := inert_combinations hkeys hvalues
  obtain ⟨q, hq⟩ := grouped_builds (c := c) hcolumns (where_balanced hc hf) hinert
  refine ⟨q, Outcome.bind_eq_ok.2 ⟨keys, hkeys, Outcome.bind_eq_ok.2 ⟨values, hvalues, ?_⟩⟩⟩
  exact Outcome.bind_eq_ok.2 ⟨f, hf, hq⟩

/-- It ends in the keys of its fields. -/
theorem combinations_read (hc : c.Sound) (hkeys : fields.mapM c.key = .ok keys) (hsome : keys ≠ [])
    (hnonempty : ∀ k ∈ keys, k.isEmpty = false) {q : Fragment}
    (h : c.grouped fields metrics = .ok q) :
    ∃ rs, rs ≠ [] ∧ q.filled = lines (rs ++ [clause "GROUP BY" (", ".intercalate keys)]) := by
  unfold grouped at h
  rw [hkeys] at h
  obtain ⟨_, hsame, h⟩ := Outcome.bind_eq_ok.1 h
  obtain rfl := Except.ok.inj hsame
  obtain ⟨values, hvalues, h⟩ := Outcome.bind_eq_ok.1 h
  obtain ⟨f, hf, h⟩ := Outcome.bind_eq_ok.1 h
  obtain ⟨hcolumns, hinert⟩ := inert_combinations hkeys hvalues
  exact grouped_reads (sound_grouped hcolumns (where_balanced hc hf) hinert) hsome hnonempty h

end Combinations

/-! ## Restrictions to keys -/

/-- The type of the field reads the key, as far as it has to. -/
def Takes (c : Context) (field key : Value) : Prop :=
  ∀ t, c.scope.target field none = .ok t → t.type ≠ .date → isEmptyMarker key = false →
    ∃ bound, c.scope.operand t key = .ok bound

/-- A field of texts takes every text. -/
theorem takes_text {field : Value} (h : (c.schema.fieldType field).isTextual = true) (s : String) :
    c.Takes field (.text s) := by
  intro t ht _ _
  obtain ⟨_, -, ht⟩ := Outcome.bind_eq_ok.1 ht
  obtain ⟨_, -, ht⟩ := Outcome.bind_eq_ok.1 ht
  obtain rfl := Except.ok.inj ht
  exact ⟨_, Scope.operand_text h s⟩

theorem membership_of_takes {field : Value} {t : Scope.Target}
    (ht : c.scope.target field none = .ok t) (hdate : t.type ≠ .date) {keys : List Value}
    (htakes : ∀ k ∈ keys, c.Takes field k) : ∃ p?, c.scope.membership t keys false = .ok p? := by
  have hbound : ∃ bound, (keys.filter (!isEmptyMarker ·)).mapM (c.scope.operand t) = .ok bound := by
    refine Outcome.mapM_isOk fun k hk => ?_
    obtain ⟨hmem, hpresent⟩ := List.mem_filter.1 hk
    exact htakes k hmem t ht hdate (Bool.not_eq_true' _ ▸ hpresent)
  obtain ⟨bound, hbound⟩ := hbound
  simp only [Scope.membership, hbound, bind, Except.bind, Bool.false_eq_true, if_false]
  split
  · exact ⟨_, rfl⟩
  · split
    · exact ⟨_, rfl⟩
    · split
      · exact ⟨_, rfl⟩
      · exact ⟨_, rfl⟩

/-- The restriction of a field to keys that its type reads. -/
theorem axisFilter_of_takes {field : Value} {column : String}
    (hcolumn : c.schema.column field = .ok column) {keys : List Value}
    (htakes : ∀ k ∈ keys, c.Takes field k) :
    ∃ r, c.axisFilter field keys = .ok r ∧ ∀ e ∈ r.entryPart, ∃ p?, c.scope.entry e = .ok p? := by
  by_cases hdate : c.schema.fieldType field = .date
  · have hother : (c.schema.fieldType field != .date) = false := by rw [hdate]; rfl
    unfold axisFilter
    rw [hother]
    cases keys with
    | nil => exact ⟨_, rfl, nofun⟩
    | cons k ks =>
      have hplain : IsPlain column := (c.schema.column_yields field).of_ok hcolumn
      have hsound : (Predicate.atom (.member (.asKey column) false (k :: ks))).Sound := hplain
      obtain ⟨f, hf, -⟩ := hsound.fragment
      refine ⟨.fragment f, ?_, nofun⟩
      simp only [Bool.false_eq_true, if_false, List.isEmpty_cons, hcolumn, hf, bind, Except.bind]
      rfl
  · have hother : (c.schema.fieldType field != .date) = true := bne_iff_ne.2 hdate
    refine ⟨.entry (.checkbox field keys), if_pos hother, ?_⟩
    rintro e ⟨⟩
    obtain ⟨name, htarget, hentry⟩ := Scope.entry_of_column c.scope hcolumn
    obtain ⟨p?, hp⟩ := membership_of_takes htarget hdate htakes
    exact ⟨p?, (hentry keys).trans hp⟩

/-- Entries come together if each of them does. -/
theorem entries_builds {es : List Entry} (h : ∀ e ∈ es, ∃ p?, c.scope.entry e = .ok p?) :
    ∃ p?, c.scope.entries es .null = .ok p? := by
  have hall : es.filter (fun e => !((none : Option String).isSome &&
      c.scope.schema.resolve? e.field == none)) = es := List.filter_eq_self.2 fun _ _ => rfl
  obtain ⟨ps, hps⟩ := Outcome.mapM_isOk h
  refine ⟨Predicate.all? ps, ?_⟩
  have hnull : Value.null.truthy = false := rfl
  simp only [Scope.entries, hnull, Bool.false_eq_true, if_false, hall, hps, bind, Except.bind, pure,
    Except.pure]

/-- The query for a matrix ends in the keys of its fields. -/
theorem matrix_reads (hc : c.Sound) {colField rowField : Value} {metric : Metric}
    {colKey rowKey : String} (hcol : c.key colField = .ok colKey)
    (hrow : c.key rowField = .ok rowKey) (hcolSome : colKey.isEmpty = false)
    (hrowSome : rowKey.isEmpty = false) {xs ys : List Value} {q : Fragment}
    (h : c.matrix colField rowField metric xs ys = .ok q) :
    ∃ rs, rs ≠ [] ∧
      q.filled = lines (rs ++ [clause "GROUP BY" (", ".intercalate [colKey, rowKey])]) := by
  unfold matrix matrixWith at h
  rw [hcol, hrow] at h
  obtain ⟨_, hcolKey, h⟩ := Outcome.bind_eq_ok.1 h
  obtain ⟨_, hrowKey, h⟩ := Outcome.bind_eq_ok.1 h
  obtain rfl := Except.ok.inj hcolKey
  obtain rfl := Except.ok.inj hrowKey
  obtain ⟨r, hr, h⟩ := Outcome.bind_eq_ok.1 h
  obtain ⟨s, hs, h⟩ := Outcome.bind_eq_ok.1 h
  obtain ⟨value, hvalue, h⟩ := Outcome.bind_eq_ok.1 h
  obtain ⟨f, hf, h⟩ := Outcome.bind_eq_ok.1 h
  have hsound : ∀ t ∈ [r, s], t.Sound :=
    List.forall_mem_cons.2 ⟨axisFilter_sound hr, List.forall_mem_singleton.2 (axisFilter_sound hs)⟩
  refine grouped_reads (sound_grouped ?_ (whereWith_balanced hc hsound hf) ?_)
    (List.cons_ne_nil _ _) ?_ h
  · simp only [List.forall_mem_cons]
    exact ⟨inert_named (inert_key hcol) (by decide), inert_named (inert_key hrow) (by decide),
      inert_named (inert_expr hvalue) (by decide), nofun⟩
  · exact List.forall_mem_cons.2 ⟨inert_key hcol, List.forall_mem_singleton.2 (inert_key hrow)⟩
  · exact List.forall_mem_cons.2 ⟨hcolSome, List.forall_mem_singleton.2 hrowSome⟩

/-- The matrix of keys that the types of their fields read comes together. -/
theorem matrix_builds (hc : c.Sound) {colField rowField : Value} {metric : Metric}
    {colColumn rowColumn value : String} {base : Fragment}
    (hcol : c.schema.column colField = .ok colColumn)
    (hrow : c.schema.column rowField = .ok rowColumn) (hvalue : metric.expr c.schema = .ok value)
    (hbase : c.baseWhere = .ok base) {xs ys : List Value} (hxs : ∀ k ∈ xs, c.Takes colField k)
    (hys : ∀ k ∈ ys, c.Takes rowField k) :
    ∃ q, c.matrix colField rowField metric xs ys = .ok q := by
  obtain ⟨r, hr, hrEntry⟩ := axisFilter_of_takes hcol hxs
  obtain ⟨s, hs, hsEntry⟩ := axisFilter_of_takes hrow hys
  have hentries : ∀ e ∈ (parts [r, s]).1, ∃ p?, c.scope.entry e = .ok p? := by
    intro e he
    obtain ⟨t, ht, hpart⟩ := List.mem_filterMap.1 he
    rcases List.mem_cons.1 ht with rfl | ht
    · exact hrEntry e hpart
    · obtain rfl := List.mem_singleton.1 ht
      exact hsEntry e hpart
  have hsound : ∀ t ∈ [r, s], t.Sound :=
    List.forall_mem_cons.2 ⟨axisFilter_sound hr, List.forall_mem_singleton.2 (axisFilter_sound hs)⟩
  obtain ⟨p?, hp⟩ := entries_builds hentries
  obtain ⟨f, hf, hbalanced⟩ := whereWith_builds hc hsound hbase hp
  have hkey : ∀ {field : Value} {column : String}, c.schema.column field = .ok column →
      c.key field = .ok (keyExpr column) := fun h => by rw [key, h]; rfl
  exact matrixWith_succeeds (hkey hcol) (hkey hrow) hr hs hvalue hf hbalanced

/-! ## Series over time -/

theorem inert_bucketExpr {column start : String} {kind? : Option TemporalKind} {bucket : Value}
    (hcolumn : Inert column) (h : bucketExpr column kind? bucket = .ok start) : Inert start := by
  have hseconds : Inert (epochExpr column kind?) := by
    unfold epochExpr
    split
    · exact ((by decide : Inert "epoch(").append hcolumn).append (by decide)
    · exact hcolumn
  obtain ⟨width?, -, h⟩ := Outcome.bind_eq_ok.1 h
  cases width? with
  | none =>
    obtain rfl := Outcome.pure_eq_ok.1 h
    exact hseconds
  | some width =>
    obtain rfl := Outcome.pure_eq_ok.1 h
    have hwidth : Inert (toString width) := inert_intText width
    exact (((((by decide : Inert "FLOOR(").append hseconds).append (by decide)).append
      hwidth).append (by decide)).append hwidth

/-- Groups in an order always come together. -/
theorem ordered_builds {columns keys : List String} {f : Fragment} {terms : String}
    (hcolumns : ∀ x ∈ columns, Inert x) (hf : Balanced f.sql) (hkeys : ∀ k ∈ keys, Inert k)
    (hterms : Inert terms) :
    ∃ q, (((c.selectWhere columns f).groupBy keys).orderByTerms terms).build = .ok q := by
  set groups := (c.selectWhere columns f).groupBy keys with hgroups
  obtain ⟨htable, -, hlimit, hoffset⟩ := c.grouped_parts columns keys f
  have hsound : (groups.run [.orderByTerms terms]).Sound :=
    Select.run_sound (sound_grouped hcolumns hf hkeys) (List.forall_mem_singleton.2 hterms)
  have hclauses : (groups.orderByTerms terms).table? = groups.table? ∧
      (groups.orderByTerms terms).limit? = groups.limit? ∧
      (groups.orderByTerms terms).offset? = groups.offset? := by
    unfold Select.orderByTerms
    split <;> exact ⟨rfl, rfl, rfl⟩
  have hwritable : (groups.orderByTerms terms).Writable := by
    constructor
    · rw [hclauses.2.1, hlimit]
      exact nofun
    · rw [hclauses.2.2, hoffset]
      exact nofun
  obtain ⟨q, hq, -⟩ := Select.build_of_sound hsound (hclauses.1.trans htable)
    c.schema.fromClause_not_blank hwritable
  exact ⟨q, hq⟩

/-- The query for series comes together if its parts do. -/
theorem timeSeries_builds {rowField bucket : Value} {metric : Metric} {extra : List Restriction}
    {column start rowKey value : String} {f : Fragment}
    (hcolumn : c.schema.column (.text c.timeField) = .ok column)
    (hstart : bucketExpr column (c.schema.temporalKind? (.text c.timeField)) bucket = .ok start)
    (hrow : c.key rowField = .ok rowKey) (hvalue : metric.expr c.schema = .ok value)
    (hf : c.whereWith extra = .ok f) (hbalanced : Balanced f.sql) :
    ∃ q, c.timeSeries rowField metric bucket extra = .ok q := by
  have hrowInert := inert_key hrow
  have hstartInert := inert_bucketExpr ((c.schema.column_yields _).of_ok hcolumn).1.1 hstart
  have hcolumns : ∀ x ∈ [rowKey ++ " AS " ++ rowColumn, start ++ " AS " ++ timeColumn,
      value ++ " AS " ++ metricColumn], Inert x := by
    simp only [List.forall_mem_cons]
    exact ⟨inert_named hrowInert (by decide), inert_named hstartInert (by decide),
      inert_named (inert_expr hvalue) (by decide), nofun⟩
  have hkeys : ∀ k ∈ [rowKey, start], Inert k :=
    List.forall_mem_cons.2 ⟨hrowInert, List.forall_mem_singleton.2 hstartInert⟩
  have horder : Inert (timeColumn ++ " ASC, " ++ rowColumn ++ " ASC") := by decide
  obtain ⟨q, hq⟩ := ordered_builds (c := c) hcolumns hbalanced hkeys horder
  refine ⟨q, ?_⟩
  unfold timeSeries
  simp only [hcolumn, hstart, hrow, hvalue, hf, bind, Except.bind]
  exact hq

end Crosstab.Pivot.Context
