import Crosstab.Proofs.Outcome
import Crosstab.Proofs.Sql.Composition
import Mathlib.Data.List.TakeWhile

/-!
# Statements keep their arguments

A statement is set up by steps, of which those that fail change nothing. Whatever the steps, the
statement is sound: its terms are inert and its condition is balanced. A sound statement never
miscounts placeholders, and it reads as its clauses do, the condition with the arguments that the
steps gave it.
-/

namespace Crosstab.Sql

open Text

/-- The failure is that of a text whose placeholders do not match its arguments. -/
def IsMiscount (e : Failure) : Prop :=
  ∃ expected actual sql, e = .miscompiled (.placeholders expected actual sql)

/-- The fragments are balanced and read as given. -/
def ReadAs (fs : List Fragment) (rs : List (List Symbol)) : Prop :=
  (∀ f ∈ fs, Balanced f.sql) ∧ fs.map (·.filled) = rs

theorem ReadAs.nil : ReadAs [] [] :=
  ⟨nofun, rfl⟩

theorem ReadAs.append {fs gs : List Fragment} {rs ts : List (List Symbol)} (hf : ReadAs fs rs)
    (hg : ReadAs gs ts) : ReadAs (fs ++ gs) (rs ++ ts) :=
  ⟨List.forall_mem_append.2 ⟨hf.1, hg.1⟩, by rw [List.map_append, hf.2, hg.2]⟩

/-- A fragment that comes together is a list of one. -/
theorem Carries.yields_singleton {E : Failure → Prop} {x : Outcome Fragment} {r : List Symbol}
    (h : Carries x r) : Outcome.Yields E (ReadAs · [r]) (do return [← x]) := by
  obtain ⟨f, rfl, hf, hr⟩ := h
  exact .ok ⟨fun g hg => by rwa [List.mem_singleton.1 hg], by rw [List.map_singleton, hr]⟩

/-! ## Texts of terms -/

/-- A scan that starts outside stands outside or inside one of the two quotes. -/
theorem scanFrom_none (cs : List Char) {q : Char} (h : scanFrom none cs = some q) :
    q = '\'' ∨ q = '"' := by
  have key : ∀ (cs : List Char) (p : Option Char), (∀ q ∈ p, q = '\'' ∨ q = '"') →
      ∀ q ∈ scanFrom p cs, q = '\'' ∨ q = '"' := by
    intro cs
    induction cs with
    | nil => exact fun p hp => hp
    | cons c cs ih =>
      refine fun p hp => ih _ fun q hq => ?_
      cases p with
      | some p =>
        simp only [quoteAfter] at hq
        split at hq
        · exact absurd hq (by simp)
        · exact hp q hq
      | none =>
        simp only [quoteAfter] at hq
        split at hq
        · next hc =>
          cases hq
          simpa using hc
        · exact absurd hq (by simp)
  exact key cs none (by simp) q h

/-- Characters that are neither quotes nor placeholders leave any scan where it is. -/
theorem scanFrom_of_plain {q : Option Char} {cs : List Char} (hq : ∀ c ∈ q, c = '\'' ∨ c = '"')
    (h : ∀ c ∈ cs, c ≠ '\'' ∧ c ≠ '"' ∧ c ≠ '?') : scanFrom q cs = q := by
  cases q with
  | none => exact (scan_plain h).1
  | some q =>
    refine (scan_quoted fun hmem => ?_).1
    rcases hq q rfl with rfl | rfl
    · exact (h _ hmem).1 rfl
    · exact (h _ hmem).2.1 rfl

/-- An inert text stays inert between fewer blanks. -/
theorem Inert.trim {s : String} (h : Inert s) : Inert (trim s) := by
  set rest := dropLeading isBlankChar s.toList with hrest
  set core := dropTrailing isBlankChar rest with hcore
  have hlead : s.toList = s.toList.takeWhile isBlankChar ++ rest :=
    List.takeWhile_append_dropWhile.symm
  have htail : rest = core ++ (rest.reverse.takeWhile isBlankChar).reverse := by
    have := congrArg List.reverse
      (List.takeWhile_append_dropWhile (p := isBlankChar) (l := rest.reverse)).symm
    rwa [List.reverse_reverse, List.reverse_append] at this
  have hplain : ∀ cs : List Char, ∀ c ∈ cs.takeWhile isBlankChar,
      c ≠ '\'' ∧ c ≠ '"' ∧ c ≠ '?' := fun cs c hc =>
    plain_of_isBlankChar (List.mem_takeWhile_imp hc)
  obtain ⟨hscan, hcount⟩ := h
  rw [Balanced, hlead, scanFrom_append, (scan_plain (hplain _)).1, htail, scanFrom_append] at hscan
  rw [countPlaceholders, hlead, countFrom_append, (scan_plain (hplain _)).1,
    (scan_plain (hplain _)).2, htail, countFrom_append] at hcount
  have htrim : (Text.trim s).toList = core := String.toList_ofList
  refine ⟨?_, ?_⟩
  · rw [Balanced, htrim]
    rw [scanFrom_of_plain (fun c hc => scanFrom_none core hc)
      (fun c hc => hplain _ c (List.mem_reverse.1 hc))] at hscan
    exact hscan
  · rw [countPlaceholders, htrim]
    omega

theorem isDigit_of_mem_repr {k : Nat} {c : Char} (h : c ∈ (Nat.repr k).toList) :
    c.isDigit = true := by
  rw [Nat.repr_eq_ofList_toDigits, String.toList_ofList] at h
  exact Nat.isDigit_of_mem_toDigits (by decide) (by decide) h

theorem inert_intText (n : Int) : Inert (Number.intText n) := by
  have hdigits : ∀ k : Nat, ∀ c ∈ (Nat.repr k).toList, c ≠ '\'' ∧ c ≠ '"' ∧ c ≠ '?' := by
    intro k c hc
    have hdigit := isDigit_of_mem_repr hc
    refine ⟨?_, ?_, ?_⟩ <;> rintro rfl <;> exact absurd hdigit (by decide)
  cases n with
  | ofNat k => exact inert_of_plain (hdigits k)
  | negSucc k => exact Inert.append (by decide) (inert_of_plain (hdigits (k + 1)))

namespace Select

/-! ## Soundness -/

/-- Why a sound statement does not come together: it has no table, or a number that is too wide to
be written. -/
def Unbuildable (s : Select) (e : Failure) : Prop :=
  e = .miscompiled .noTable ∧ (∀ table ∈ s.table?, isBlank table = true) ∨
  e = .unusable (.numeral .tooWide) ∧
    ∃ n, (n ∈ s.limit? ∨ n ∈ s.offset?) ∧ Number.isWritable n = false

/-- The terms of the statement are inert and its condition is balanced. -/
structure Sound (s : Select) : Prop where
  columns : ∀ c ∈ s.columns, Inert c
  table : ∀ t ∈ s.table?, Inert t
  condition : Balanced s.condition.sql
  groups : ∀ g ∈ s.groups, Inert g
  orders : ∀ o ∈ s.orders, Inert o

/-- A step that changes one clause of a statement. -/
inductive Step where
  | fromTable (table : String)
  | filter (f : Fragment)
  | andFilter (f : Fragment)
  | groupBy (terms : List String)
  | orderBy (column : String) (direction : Value)
  | orderByTerms (terms : String)
  | limitTo (n : Value)
  | startAt (n : Value)

namespace Step

/-- What the step does to a statement. -/
def apply : Step → Select → Outcome Select
  | .fromTable table, s => .ok (s.fromTable table)
  | .filter f, s => .ok (s.filter f)
  | .andFilter f, s => s.andFilter f
  | .groupBy terms, s => .ok (s.groupBy terms)
  | .orderBy column direction, s => s.orderBy column direction
  | .orderByTerms terms, s => .ok (s.orderByTerms terms)
  | .limitTo n, s => s.limitTo n
  | .startAt n, s => s.startAt n

/-- The fragment of the step is balanced and its texts are inert. -/
def Sound : Step → Prop
  | .fromTable table => Inert table
  | .filter f | .andFilter f => Balanced f.sql
  | .groupBy terms => ∀ t ∈ terms, Inert t
  | .orderBy column _ => Inert column
  | .orderByTerms terms => Inert terms
  | .limitTo _ | .startAt _ => True

instance (t : Step) : Decidable t.Sound :=
  match t with
  | .fromTable table => inferInstanceAs (Decidable (Inert table))
  | .filter f | .andFilter f => inferInstanceAs (Decidable (Balanced f.sql))
  | .groupBy terms => inferInstanceAs (Decidable (∀ t ∈ terms, Inert t))
  | .orderBy column _ => inferInstanceAs (Decidable (Inert column))
  | .orderByTerms terms => inferInstanceAs (Decidable (Inert terms))
  | .limitTo _ | .startAt _ => inferInstanceAs (Decidable True)

/-- What the step makes of the reading of a condition. -/
def onCondition : Step → List Symbol → List Symbol
  | .filter f, r => if f.isBlank then r else f.filled
  | .andFilter f, r => andFilled r f.filled
  | _, r => r

end Step

/-- The statement after the steps; one that fails changes nothing. -/
def run (steps : List Step) (s : Select) : Select :=
  steps.foldl (fun s step => (step.apply s).toOption.getD s) s

theorem sound_ofColumns {columns : List String} (h : ∀ c ∈ columns, Inert c) :
    (ofColumns columns).Sound where
  columns := h
  table := by simp [ofColumns]
  condition := rfl
  groups := by simp [ofColumns]
  orders := by simp [ofColumns]

/-! ## Steps -/

/-- A filter replaces the condition, unless it is blank. -/
theorem filter_eq (f : Fragment) (s : Select) :
    s.filter f = { s with condition := if f.isBlank then s.condition else f } := by
  unfold filter
  split
  · rfl
  · rfl

/-- An ordering step adds a term in one of the two directions, or fails. -/
theorem orderBy_cases (column : String) (direction : Value) (s : Select) :
    (∃ d, (d = "ASC" ∨ d = "DESC") ∧
      s.orderBy column direction = .ok { s with orders := s.orders ++ [column ++ " " ++ d] }) ∨
    s.orderBy column direction = .error (.miscompiled (.direction direction.shown)) := by
  unfold orderBy
  generalize upper (trim (direction.displayOr "")) = d
  by_cases hd : (d == "ASC" || d == "DESC") = true
  · refine .inl ⟨d, ?_, by simp only [hd, if_true]; rfl⟩
    rcases Bool.or_eq_true_iff.1 hd with h | h
    · exact .inl (eq_of_beq h)
    · exact .inr (eq_of_beq h)
  · exact .inr (by simp only [hd]; rfl)

theorem not_isMiscount_of_toInt {n : Value} {e : Failure} (h : n.toInt = .error e) :
    ¬IsMiscount e := by
  rintro ⟨_, _, _, rfl⟩
  cases n with
  | null => cases h
  | bool b => cases h
  | int k => cases h
  | real x => cases x <;> cases h
  | text t =>
    simp only [Value.toInt] at h
    cases hr : Number.readInt t with
    | ok k =>
      rw [hr] at h
      cases h
    | error f =>
      rw [hr] at h
      cases h
  | list _ => cases h
  | record _ => cases h
  | decimal d => cases h
  | date _ => cases h
  | moment _ => cases h

/-- A number that is at least so much sets what it is for; another is refused, but not for a
miscount. -/
theorem set_yields {least : Int} {fault : Failure} {t : Int → Select} (n : Value)
    (hfault : ¬IsMiscount fault) :
    Outcome.Yields (¬IsMiscount ·) (fun s => ∃ k, s = t k) (do
      let k ← n.toInt
      if k < least then throw fault
      return t k) := by
  cases hn : n.toInt with
  | error e => exact .error (not_isMiscount_of_toInt hn)
  | ok k =>
    by_cases hk : k < least
    · simp only [bind, Except.bind, hk, if_true]
      exact .error hfault
    · simp only [bind, Except.bind, hk, if_false]
      exact .ok ⟨k, rfl⟩

/-- A step that sets a number sets nothing else, or fails for another reason than a miscount. -/
theorem limitTo_yields (n : Value) (s : Select) :
    Outcome.Yields (¬IsMiscount ·) (fun t => ∃ k, t = { s with limit? := some k })
      (s.limitTo n) := by
  refine set_yields n ?_
  rintro ⟨_, _, _, h⟩
  cases h

theorem startAt_yields (n : Value) (s : Select) :
    Outcome.Yields (¬IsMiscount ·) (fun t => ∃ k, t = { s with offset? := some k })
      (s.startAt n) := by
  refine set_yields n ?_
  rintro ⟨_, _, _, h⟩
  cases h

/-- A sound statement stays so with one more inert term to order by. -/
theorem Sound.ordered {s : Select} (hs : s.Sound) {term : String} (hterm : Inert term) :
    ({ s with orders := s.orders ++ [term] } : Select).Sound :=
  { hs with
    orders := List.forall_mem_append.2 ⟨hs.orders, List.forall_mem_singleton.2 hterm⟩ }

/-- One step keeps a statement sound, never miscounts, and changes the reading of the condition only
by the fragment it brings. -/
theorem Step.apply_yields {s : Select} {step : Step} (hs : s.Sound) (hstep : step.Sound) :
    Outcome.Yields (¬IsMiscount ·)
      (fun t => t.Sound ∧ t.condition.filled = step.onCondition s.condition.filled)
      (step.apply s) := by
  cases step with
  | fromTable table =>
    refine .ok ⟨{ hs with table := fun t ht => ?_ }, rfl⟩
    cases ht
    exact hstep
  | filter f =>
    show Outcome.Yields _ _ (.ok (if f.isBlank then s else { s with condition := f }))
    cases hf : f.isBlank with
    | true => exact .ok ⟨hs, by simp [onCondition, hf]⟩
    | false => exact .ok ⟨{ hs with condition := hstep }, by simp [onCondition, hf]⟩
  | andFilter f =>
    obtain ⟨g, hg, hbalanced, hfilled⟩ := and_carries hs.condition hstep
    have happly : Select.andFilter f s = .ok { s with condition := g } := by
      rw [Select.andFilter, hg]
      rfl
    show Outcome.Yields _ _ (Select.andFilter f s)
    rw [happly]
    exact .ok ⟨{ hs with condition := hbalanced }, hfilled⟩
  | groupBy terms =>
    have hgiven : ∀ g ∈ terms.filter (!·.isEmpty), Inert g := fun g hg =>
      hstep g (List.mem_filter.1 hg).1
    exact .ok ⟨{ hs with groups := List.forall_mem_append.2 ⟨hs.groups, hgiven⟩ }, rfl⟩
  | orderBy column direction =>
    show Outcome.Yields _ _ (Select.orderBy column direction s)
    rcases orderBy_cases column direction s with ⟨d, hd, h⟩ | h
    · rw [h]
      have hspace : Inert " " := by decide
      have hword : Inert d := by rcases hd with rfl | rfl <;> decide
      exact .ok ⟨hs.ordered ((Inert.append hstep hspace).append hword), rfl⟩
    · rw [h]
      refine .error ?_
      rintro ⟨_, _, _, h⟩
      cases h
  | orderByTerms terms =>
    show Outcome.Yields _ _ (.ok (if isBlank terms then s else _))
    cases isBlank terms with
    | true => exact .ok ⟨hs, rfl⟩
    | false => exact .ok ⟨hs.ordered (Inert.trim hstep), rfl⟩
  | limitTo n =>
    refine (limitTo_yields n s).mono ?_
    rintro _ ⟨k, rfl⟩
    exact ⟨{ hs with }, rfl⟩
  | startAt n =>
    refine (startAt_yields n s).mono ?_
    rintro _ ⟨k, rfl⟩
    exact ⟨{ hs with }, rfl⟩

/-- Steps keep a statement sound, and its condition reads as they leave it. -/
theorem run_sound {s : Select} (hs : s.Sound) {steps : List Step} (hsteps : ∀ t ∈ steps, t.Sound) :
    (s.run steps).Sound := by
  induction steps generalizing s with
  | nil => exact hs
  | cons t ts ih =>
    obtain ⟨ht, hts⟩ := List.forall_mem_cons.1 hsteps
    rw [run, List.foldl_cons]
    refine ih ?_ hts
    cases happly : t.apply s with
    | error e => exact hs
    | ok u => exact ((Step.apply_yields hs ht).of_ok happly).1

/-- The steps whose fragment comes to the condition, all but those that fail. -/
theorem run_condition {s : Select} (hs : s.Sound) {steps : List Step}
    (hsteps : ∀ t ∈ steps, t.Sound) :
    (s.run steps).condition.filled =
      steps.foldl (fun r t => t.onCondition r) s.condition.filled := by
  induction steps generalizing s with
  | nil => rfl
  | cons t ts ih =>
    obtain ⟨ht, hts⟩ := List.forall_mem_cons.1 hsteps
    rw [run, List.foldl_cons, List.foldl_cons]
    cases happly : t.apply s with
    | ok u =>
      obtain ⟨hu, hcondition⟩ := (Step.apply_yields hs ht).of_ok happly
      rw [← hcondition]
      exact ih hu hts
    | error e =>
      -- a step that fails brings no fragment
      have hskip : t.onCondition s.condition.filled = s.condition.filled := by
        cases t with
        | filter f => cases happly
        | andFilter f =>
          obtain ⟨g, hg, -⟩ := and_carries hs.condition ht
          have : Select.andFilter f s = .ok { s with condition := g } := by
            rw [Select.andFilter, hg]
            rfl
          exact nomatch this.symm.trans happly
        | fromTable _ => rfl
        | groupBy _ => rfl
        | orderBy _ _ => rfl
        | orderByTerms _ => rfl
        | limitTo _ => rfl
        | startAt _ => rfl
      rw [hskip]
      exact ih hs hts

/-! ## Building -/

/-- The reading of a keyword and its terms. -/
def listedFilled (keyword : String) (terms : List String) : List (List Symbol) :=
  if terms.isEmpty then [] else [symbols (keyword ++ " " ++ ", ".intercalate terms)]

/-- The reading of a keyword and its number. -/
def countedFilled (keyword : String) (n? : Option Int) : List (List Symbol) :=
  (n?.map fun n => symbols (keyword ++ " " ++ Number.intText n)).toList

/-- The reading of the condition behind its keyword. -/
def filteredFilled (r : List Symbol) : List (List Symbol) :=
  if allBlank r then [] else [symbols "WHERE" ++ symbols " " ++ r]

/-- What the statement reads as: its clauses, each on a line of its own. -/
def filled (s : Select) (table : String) : List Symbol :=
  joinFilled (symbols "\n")
    (listedFilled (if s.distinct then "SELECT DISTINCT" else "SELECT")
        (if s.columns.isEmpty then ["*"] else s.columns) ++
      listedFilled "FROM" [table] ++ filteredFilled s.condition.filled ++
      listedFilled "GROUP BY" s.groups ++ listedFilled "ORDER BY" s.orders ++
      countedFilled "LIMIT" s.limit? ++ countedFilled "OFFSET" s.offset?)

theorem listed_yields {E : Failure → Prop} {keyword : String} {terms : List String}
    (hk : Inert keyword) (ht : ∀ t ∈ terms, Inert t) :
    Outcome.Yields E (ReadAs · (listedFilled keyword terms)) (listed keyword terms) := by
  rw [listed, listedFilled]
  cases terms.isEmpty with
  | true => exact .ok .nil
  | false =>
    have hspace : Inert " " := by decide
    have hcomma : Inert ", " := by decide
    have hclause : Inert (keyword ++ " " ++ ", ".intercalate terms) :=
      (hk.append hspace).append (Inert.intercalate hcomma ht)
    exact (Fills.inert hclause).carries.yields_singleton

theorem counted_yields {keyword : String} (hk : Inert keyword) (n? : Option Int) :
    Outcome.Yields
      (fun e => e = .unusable (.numeral .tooWide) ∧ ∃ n ∈ n?, Number.isWritable n = false)
      (ReadAs · (countedFilled keyword n?)) (counted keyword n?) := by
  cases n? with
  | none => exact .ok .nil
  | some n =>
    rw [counted]
    cases hw : Number.isWritable n with
    | true =>
      have htext : Value.wholeText n = .ok (Number.intText n) := by
        rw [Value.wholeText, Number.writeInt, hw]
        rfl
      have hspace : Inert " " := by decide
      rw [htext]
      exact (Fills.inert ((hk.append hspace).append (inert_intText n))).carries.yields_singleton
    | false =>
      have htext : Value.wholeText n = .error (.unusable (.numeral .tooWide)) := by
        rw [Value.wholeText, Number.writeInt, hw]
        rfl
      rw [htext]
      exact .error ⟨rfl, n, rfl, hw⟩

theorem filtered_yields {E : Failure → Prop} {f : Fragment} (hf : Balanced f.sql) :
    Outcome.Yields E (ReadAs · (filteredFilled f.filled)) (filtered f) := by
  rw [filtered, filteredFilled, allBlank_filled]
  cases hb : f.isBlank with
  | true => exact .ok .nil
  | false =>
    have hword : Inert "WHERE" := by decide
    obtain ⟨w, hw, hbalanced, hfilled⟩ := (Fills.inert hword).carries
    have hpair : ∀ g ∈ [w, f], Balanced g.sql :=
      List.forall_mem_cons.2 ⟨hbalanced, List.forall_mem_cons.2 ⟨hf, nofun⟩⟩
    have hsequence := sequence_carries hpair
    have hreading : joinFilled (symbols " ") ([w, f].map (·.filled)) =
        symbols "WHERE" ++ symbols " " ++ f.filled := by
      have hblank : allBlank (symbols "WHERE") = false := by decide
      simp [joinFilled, hfilled, hblank, hb]
    rw [hreading] at hsequence
    show Outcome.Yields E _ (Fragment.raw "WHERE" >>= fun w => do
      return [← Fragment.sequence [w, f]])
    rw [Fragment.raw, hw]
    exact hsequence.yields_singleton

theorem clauses_yields {s : Select} (hs : s.Sound) {table : String} (ht : Inert table) :
    Outcome.Yields s.Unbuildable
      (ReadAs ·
        (listedFilled (if s.distinct then "SELECT DISTINCT" else "SELECT")
            (if s.columns.isEmpty then ["*"] else s.columns) ++
          listedFilled "FROM" [table] ++ filteredFilled s.condition.filled ++
          listedFilled "GROUP BY" s.groups ++ listedFilled "ORDER BY" s.orders ++
          countedFilled "LIMIT" s.limit? ++ countedFilled "OFFSET" s.offset?))
      (s.clauses table) := by
  have hkeyword : Inert (if s.distinct then "SELECT DISTINCT" else "SELECT") := by
    cases s.distinct <;> decide
  have hcolumns : ∀ c ∈ (if s.columns.isEmpty then ["*"] else s.columns), Inert c := by
    cases s.columns.isEmpty with
    | true => exact fun c hc => by rw [List.mem_singleton.1 hc]; decide
    | false => exact hs.columns
  have htable : ∀ t ∈ [table], Inert t := fun t h => by rwa [List.mem_singleton.1 h]
  have hlimit := (counted_yields (by decide : Inert "LIMIT") s.limit?).weaken
    fun e ⟨he, n, hn, hw⟩ => (.inr ⟨he, n, .inl hn, hw⟩ : s.Unbuildable e)
  have hoffset := (counted_yields (by decide : Inert "OFFSET") s.offset?).weaken
    fun e ⟨he, n, hn, hw⟩ => (.inr ⟨he, n, .inr hn, hw⟩ : s.Unbuildable e)
  refine (listed_yields hkeyword hcolumns).bind fun _ head => ?_
  refine (listed_yields (by decide) htable).bind fun _ source => ?_
  refine (filtered_yields hs.condition).bind fun _ condition => ?_
  refine (listed_yields (by decide) hs.groups).bind fun _ groups => ?_
  refine (listed_yields (by decide) hs.orders).bind fun _ orders => ?_
  refine hlimit.bind fun _ limit => ?_
  refine hoffset.bind fun _ offset => .ok ?_
  exact (((((head.append source).append condition).append groups).append orders).append
    limit).append offset

/-- A sound statement comes together if it has a table and its numbers can be written, and reads as
its clauses do. -/
theorem build_yields {s : Select} (hs : s.Sound) :
    Outcome.Yields s.Unbuildable
      (fun f : Fragment => Balanced f.sql ∧ ∃ table ∈ s.table?, f.filled = s.filled table)
      s.build := by
  rw [build]
  cases ht : s.table? with
  | none => exact .error (.inl ⟨rfl, by simp [ht]⟩)
  | some table =>
    cases hblank : isBlank table with
    | true =>
      simp only [hblank, if_true]
      exact .error (.inl ⟨rfl, by simp [ht, hblank]⟩)
    | false =>
      simp only [hblank, Bool.false_eq_true, if_false]
      refine (clauses_yields hs (hs.table table ht)).bind fun fs hfs => ?_
      obtain ⟨f, hf, hbalanced, hfilled⟩ := join_carries (by decide : Inert "\n") hfs.1
      rw [hf]
      refine .ok ⟨hbalanced, table, rfl, ?_⟩
      rw [hfilled, hfs.2]
      rfl

/-- What keeps a statement from coming together is never a miscount. -/
theorem not_isMiscount_of_unbuildable {s : Select} {e : Failure} (h : s.Unbuildable e) :
    ¬IsMiscount e := by
  rintro ⟨_, _, _, rfl⟩
  rcases h with ⟨h, -⟩ | ⟨h, -⟩ <;> cases h

end Select

end Crosstab.Sql
