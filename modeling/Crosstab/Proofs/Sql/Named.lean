import Crosstab.Proofs.Columns

/-!
# The names in a condition

A name stands between double quotes, unless these are part of a literal. What a condition puts
around that which it compares has no names of its own, so the names in its text are those of the
columns, and of the expressions over them, that it compares.
-/

namespace Crosstab.Sql

/-! ## Names in a text -/

/-- The names in what is left of a text, for a scan that stands inside the given quote, with what it
has seen of a name so far. -/
def namesFrom : Option Char → List Char → List Char → List String
  | _, _, [] => []
  | q, seen, c :: cs =>
    if q = some '"' then
      if c = '"' then .ofList seen :: namesFrom none [] cs else namesFrom q (seen ++ [c]) cs
    else namesFrom (quoteAfter q c) [] cs

/-- The names in a text. -/
def namesIn (s : String) : List String :=
  namesFrom none [] s.toList

/-- The text ends outside of any quote and has the names. -/
def Names (s : String) (names : List String) : Prop :=
  Balanced s ∧ namesIn s = names

instance (s : String) (names : List String) : Decidable (Names s names) :=
  inferInstanceAs (Decidable (_ ∧ _))

/-- The names behind a place where the scan stands outside of any quote add to those before it. -/
theorem namesFrom_append {q : Option Char} {a : List Char} (h : scanFrom q a = none)
    (seen b : List Char) :
    namesFrom q seen (a ++ b) = namesFrom q seen a ++ namesFrom none [] b := by
  induction a generalizing q seen with
  | nil =>
    obtain rfl : q = none := h
    cases b <;> rfl
  | cons c cs ih =>
    by_cases hq : q = some '"'
    · subst hq
      by_cases hc : c = '"'
      · subst hc
        have hrest : scanFrom none cs = none := h
        simp only [List.cons_append, namesFrom, if_true, ih hrest]
      · have hinside : quoteAfter (some '"') c = some '"' := by simp [quoteAfter, hc]
        rw [scanFrom_cons, hinside] at h
        simp only [List.cons_append, namesFrom, if_true, if_neg hc, ih h]
    · simp only [List.cons_append, namesFrom, if_neg hq, ih h]

namespace Names

variable {a b c : String} {xs ys : List String}

theorem append (ha : Names a xs) (hb : Names b ys) : Names (a ++ b) (xs ++ ys) := by
  refine ⟨ha.1.append hb.1, ?_⟩
  rw [namesIn, String.toList_append, namesFrom_append ha.1]
  exact congrArg₂ (· ++ ·) ha.2 hb.2

/-- A text without names behind another leaves it its own. -/
theorem before (ha : Names a xs) (hb : Names b []) : Names (a ++ b) xs := by
  simpa using ha.append hb

/-- Texts without names around another leave it its own. -/
theorem between (ha : Names a []) (hb : Names b xs) (hc : Names c []) :
    Names (a ++ b ++ c) xs :=
  (ha.append hb).before hc

theorem intercalate_nil {sep : String} (hsep : Names sep []) {parts : List String}
    (h : ∀ x ∈ parts, Names x []) : Names (sep.intercalate parts) [] := by
  induction parts with
  | nil => exact ⟨rfl, rfl⟩
  | cons x parts ih =>
    obtain ⟨hx, hrest⟩ := List.forall_mem_cons.1 h
    cases parts with
    | nil => rwa [String.intercalate_singleton]
    | cons y parts =>
      rw [String.intercalate_cons_cons]
      exact (hx.append hsep).append (ih hrest)

/-- A name in quotes is the one name there. -/
theorem quoted {s : String} (h : '"' ∉ s.toList) : Names ("\"" ++ s ++ "\"") [s] := by
  have hfrom : ∀ seen cs, '"' ∉ cs →
      namesFrom (some '"') seen (cs ++ ['"']) = [.ofList (seen ++ cs)] := by
    intro seen cs hcs
    induction cs generalizing seen with
    | nil => simp [namesFrom]
    | cons c cs ih =>
      obtain ⟨hne, hrest⟩ := not_or.1 (mt List.mem_cons.2 hcs)
      simp [namesFrom, Ne.symm hne, ih _ hrest]
  have hchars : ("\"" ++ s ++ "\"").toList = '"' :: (s.toList ++ ['"']) := by simp
  refine ⟨(isWord_quoted (.inr rfl) h).1.1, ?_⟩
  rw [namesIn, hchars]
  exact (hfrom [] _ h).trans (by rw [List.nil_append, String.ofList_toList])

/-- A literal has no names, whatever stands in it. -/
theorem literal {s : String} (h : '\'' ∉ s.toList) : Names ("'" ++ s ++ "'") [] := by
  have hfrom : ∀ cs, '\'' ∉ cs → namesFrom (some '\'') [] (cs ++ ['\'']) = [] := by
    intro cs hcs
    induction cs with
    | nil => rfl
    | cons c cs ih =>
      obtain ⟨hne, hrest⟩ := not_or.1 (mt List.mem_cons.2 hcs)
      have hinside : quoteAfter (some '\'') c = some '\'' := by simp [quoteAfter, Ne.symm hne]
      simpa [namesFrom, hinside] using ih hrest
  have hchars : ("'" ++ s ++ "'").toList = '\'' :: (s.toList ++ ['\'']) := by simp
  refine ⟨(isWord_quoted (.inl rfl) h).1.1, ?_⟩
  rw [namesIn, hchars]
  exact hfrom _ h

end Names

/-! ## Expressions over a column -/

section Column

variable {column : String} {names : List String} (h : Names column names)

include h

theorem names_textExpr : Names (textExpr column) names :=
  Names.between (a := "CAST(") (by decide) h (by decide)

theorem names_keyExpr : Names (keyExpr column) names := by
  have hsql : keyExpr column =
      "COALESCE(NULLIF(CAST(" ++ column ++ " AS VARCHAR), ''), '(empty)')" := by
    show "COALESCE(NULLIF(" ++ ("CAST(" ++ column ++ " AS VARCHAR)") ++ ", ''), '" ++ "(empty)" ++
      "')" = _
    rw [← String.toList_inj]
    simp
  rw [hsql]
  exact .between (by decide) h (by decide)

theorem names_epoch : Names (Subject.asEpoch column).sql names :=
  Names.between (a := "epoch(") (by decide) h (by decide)

theorem names_castDate : Names ("CAST(" ++ column ++ " AS DATE)") names :=
  .between (by decide) h (by decide)

/-- A function of a zone and a time has the names of the time: the zone is a literal. -/
theorem names_timezone {zone : String} (hzone : '\'' ∉ zone.toList) :
    Names ("timezone('" ++ zone ++ "', " ++ column ++ ")") names := by
  have hsql : "timezone('" ++ zone ++ "', " ++ column ++ ")" =
      "timezone(" ++ ("'" ++ zone ++ "'") ++ ", " ++ column ++ ")" := by
    rw [← String.toList_inj]
    simp
  have hfront : Names ("timezone(" ++ ("'" ++ zone ++ "'") ++ ", ") [] :=
    .between (by decide) (.literal hzone) (by decide)
  rw [hsql]
  exact hfront.between h (by decide)

/-- The calendar date of a column has the names of the column. -/
theorem names_dateExpr {kind? : Option TemporalKind} {zone : String} {unzonedIsUtc : Bool}
    {expr : String} (hexpr : dateExpr column kind? zone unzonedIsUtc = .ok expr) :
    Names expr names := by
  cases kind? with
  | none =>
    obtain rfl := Except.ok.inj hexpr
    have hsql : "CAST(to_timestamp(" ++ column ++ ") AS DATE)" =
        "CAST(" ++ ("to_timestamp(" ++ column ++ ")") ++ " AS DATE)" := by
      rw [← String.toList_inj]
      simp
    have htime : Names ("to_timestamp(" ++ column ++ ")") names :=
      .between (by decide) h (by decide)
    exact hsql ▸ names_castDate htime
  | some kind =>
    cases kind with
    | date =>
      obtain rfl := Except.ok.inj hexpr
      exact h
    | zoned =>
      obtain ⟨z, hz, hexpr⟩ := Outcome.bind_eq_ok.1 hexpr
      obtain rfl := Outcome.pure_eq_ok.1 hexpr
      have hsql : "CAST(timezone('" ++ z ++ "', " ++ column ++ ") AS DATE)" =
          "CAST(" ++ ("timezone('" ++ z ++ "', " ++ column ++ ")") ++ " AS DATE)" := by
        rw [← String.toList_inj]
        simp
      exact hsql ▸ names_castDate (names_timezone h ((zoneName_yields zone).of_ok hz).2)
    | unzoned =>
      rw [dateExpr] at hexpr
      split at hexpr
      · obtain ⟨z, hz, hexpr⟩ := Outcome.bind_eq_ok.1 hexpr
        obtain rfl := Outcome.pure_eq_ok.1 hexpr
        have hsql : "CAST(timezone('" ++ z ++ "', timezone('UTC', " ++ column ++ ")) AS DATE)" =
            "CAST(" ++ ("timezone('" ++ z ++ "', " ++ ("timezone('" ++ "UTC" ++ "', " ++ column ++
              ")") ++ ")") ++ " AS DATE)" := by
          rw [← String.toList_inj]
          simp
        have hutc := names_timezone h (by decide : '\'' ∉ "UTC".toList)
        exact hsql ▸ names_castDate (names_timezone hutc ((zoneName_yields zone).of_ok hz).2)
      · obtain rfl := Except.ok.inj hexpr
        exact names_castDate h

end Column

/-! ## Conditions -/

/-- What a comparison compares. -/
def Atom.subjects : Atom → List Subject
  | .isNull column _ => [.stored column]
  | .isEmptyText column _ | .like column _ => [.asText column]
  | .compare subject _ _ | .between subject _ _ | .member subject _ _ => [subject]
  | .never => []

/-- What the comparisons of a condition compare. -/
def Predicate.subjects : Predicate → List Subject
  | .atom a => a.subjects
  | .group p | .negation p => p.subjects
  | .link left _ right => left.subjects ++ right.subjects

theorem Subject.names_placeholder (s : Subject) : Names s.placeholder [] := by
  have hplain : Names "?" [] := by decide
  have hdate : Names "CAST(? AS DATE)" [] := by decide
  cases s with
  | asDate column expr => exact hdate
  | _ => exact hplain

/-- A comparison has the names of what it compares. -/
theorem Atom.names_sql {a : Atom} (h : ∀ s ∈ a.subjects, Balanced s.sql) :
    Names a.sql (a.subjects.flatMap (namesIn ·.sql)) := by
  have hfront : ∀ {s : Subject} {b : String}, (∀ s' ∈ [s], Balanced s'.sql) → Names b [] →
      Names (s.sql ++ b) ([s].flatMap (namesIn ·.sql)) := fun hs hb => by
    rw [List.flatMap_singleton]
    exact Names.before ⟨hs _ (List.mem_singleton_self _), rfl⟩ hb
  cases a with
  | isNull column negated =>
    cases negated with
    | false => exact hfront (s := .stored column) h (by decide : Names " IS NULL" [])
    | true => exact hfront (s := .stored column) h (by decide : Names " IS NOT NULL" [])
  | isEmptyText column negated =>
    cases negated with
    | false => exact hfront (s := .asText column) h (by decide : Names " = ''" [])
    | true => exact hfront (s := .asText column) h (by decide : Names " <> ''" [])
  | compare s c arg =>
    have hsign : Names (" " ++ c.sql ++ " ") [] := by cases c <;> decide
    have hsql : (Atom.compare s c arg).sql = s.sql ++ (" " ++ c.sql ++ " " ++ s.placeholder) := by
      show s.sql ++ " " ++ c.sql ++ " " ++ s.placeholder = _
      simp only [String.append_assoc]
    rw [hsql]
    exact hfront h (hsign.before s.names_placeholder)
  | between s low high =>
    have hsql : (Atom.between s low high).sql =
        s.sql ++ (" BETWEEN " ++ s.placeholder ++ " AND " ++ s.placeholder) := by
      show s.sql ++ " BETWEEN " ++ s.placeholder ++ " AND " ++ s.placeholder = _
      simp only [String.append_assoc]
    have hlow : Names (" BETWEEN " ++ s.placeholder ++ " AND ") [] :=
      .between (by decide) s.names_placeholder (by decide)
    rw [hsql]
    exact hfront h (hlow.before s.names_placeholder)
  | member s negated args =>
    have hplaces : Names (", ".intercalate (args.map fun _ => s.placeholder)) [] := by
      refine Names.intercalate_nil (by decide) fun place hplace => ?_
      obtain ⟨_, -, rfl⟩ := List.mem_map.1 hplace
      exact s.names_placeholder
    have hlist : ∀ {word : String}, Names word [] →
        Names (s.sql ++ word ++ ", ".intercalate (args.map fun _ => s.placeholder) ++ ")")
          ([s].flatMap (namesIn ·.sql)) := fun hword => by
      rw [String.append_assoc, String.append_assoc]
      exact hfront h (hword.before (hplaces.before (by decide)))
    cases negated with
    | false => exact hlist (by decide : Names " IN (" [])
    | true => exact hlist (by decide : Names " NOT IN (" [])
  | like column pattern =>
    exact hfront (s := .asText column) h (by decide : Names " ILIKE ? ESCAPE '\\'" [])
  | never => decide

/-- A condition has the names of what its comparisons compare. -/
theorem Predicate.names_sql {p : Predicate} (h : ∀ s ∈ p.subjects, Balanced s.sql) :
    Names p.sql (p.subjects.flatMap (namesIn ·.sql)) := by
  induction p with
  | atom a => exact Atom.names_sql h
  | group p ih =>
    have hopen : Names "(" [] := by decide
    exact hopen.between (ih h) (by decide)
  | negation p ih =>
    have hnot : Names "NOT " [] := by decide
    exact hnot.append (ih h)
  | link left logic right hl hr =>
    obtain ⟨hleft, hright⟩ := List.forall_mem_append.1 h
    have hlogic : Names (" " ++ logic.sql ++ " ") [] := by cases logic <;> decide
    have hsql : (Predicate.link left logic right).sql =
        left.sql ++ (" " ++ logic.sql ++ " ") ++ right.sql := by
      show left.sql ++ " " ++ logic.sql ++ " " ++ right.sql = _
      simp only [String.append_assoc]
    rw [hsql, Predicate.subjects, List.flatMap_append]
    exact ((hl hleft).before hlogic).append (hr hright)

end Crosstab.Sql
