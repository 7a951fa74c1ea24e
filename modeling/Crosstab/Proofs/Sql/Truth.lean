import Crosstab.Proofs.Sql.Clauses

/-!
# The truth of conditions on texts

A row stores a text in a column, or nothing. A condition has one of three truth values for it: what
is compared with nothing is neither so nor not so, and a row is kept only by a condition that is so.
The key of a stored text is the text, and that of an empty one or of nothing is the label.
-/

namespace Crosstab.Sql

/-! ## Truth values -/

/-- A truth value of SQL. -/
inductive Truth where
  | yes
  | no
  | unknown
  deriving Repr, DecidableEq

namespace Truth

def ofBool (b : Bool) : Truth :=
  if b then .yes else .no

def not : Truth → Truth
  | .yes => .no
  | .no => .yes
  | .unknown => .unknown

def both : Truth → Truth → Truth
  | .no, _ | _, .no => .no
  | .yes, t => t
  | .unknown, _ => .unknown

def either : Truth → Truth → Truth
  | .yes, _ | _, .yes => .yes
  | .no, t => t
  | .unknown, _ => .unknown

/-- The truth value, or the opposite one. -/
def under (negated : Bool) (t : Truth) : Truth :=
  if negated then t.not else t

@[simp]
theorem either_eq_yes {s t : Truth} : s.either t = .yes ↔ s = .yes ∨ t = .yes := by
  cases s <;> cases t <;> decide

@[simp]
theorem ofBool_eq_yes {b : Bool} : ofBool b = .yes ↔ b = true := by
  cases b <;> decide

end Truth

/-! ## Stored texts -/

/-- What the columns of a row hold. -/
abbrev Texts := String → Option String

/-- Nothing in the place of a text that equals the given one. -/
def nullIf (v? : Option String) (s : String) : Option String :=
  if v? = some s then none else v?

/-- The key of what a row stores. -/
def keyOf (v? : Option String) : String :=
  (nullIf v? "").getD emptyLabel

/-- What the subject shows of a row; texts are no times. -/
def Subject.text? (row : Texts) : Subject → Option (Option String)
  | .stored column | .asText column => some (row column)
  | .asKey column => some (some (keyOf (row column)))
  | .asEpoch _ | .asDate _ _ => none

/-- Whether something is among values. -/
def among (v? : Option String) (args : List Value) : Truth :=
  match v? with
  | none => .unknown
  | some s => if .text s ∈ args then .yes else if .null ∈ args then .unknown else .no

/-- The truth of a comparison for a row, if it compares texts for equality. -/
def Atom.truth? (row : Texts) : Atom → Option Truth
  | .isNull column negated => some ((Truth.ofBool (row column).isNone).under negated)
  | .isEmptyText column negated => some ((among (row column) [.text ""]).under negated)
  | .member subject negated args =>
    (subject.text? row).map fun v? => (among v? args).under negated
  | .never => some .no
  | .compare .. | .between .. | .like .. => none

/-- Whether something equals a value. -/
def equalTo (v? : Option String) (arg : Value) : Truth :=
  match v? with
  | none => .unknown
  | some s => if arg = .null then .unknown else .ofBool (decide (arg = .text s))

/-- The truth of a comparison for a row, if it compares texts for equality with a list or with one
value. -/
def Atom.equalityTruth? (row : Texts) : Atom → Option Truth
  | .compare subject .eq arg => (subject.text? row).map fun v? => equalTo v? arg
  | .compare subject .ne arg => (subject.text? row).map fun v? => (equalTo v? arg).not
  | a => a.truth? row

/-- The truth of a condition made of comparisons, if parentheses stand around all parts that have
connectives. -/
def Predicate.truthBy (truth? : Atom → Option Truth) : Predicate → Option Truth
  | .atom a => truth? a
  | .group p => p.truthBy truth?
  | .negation p => if p.isClosed then (p.truthBy truth?).map Truth.not else none
  | .link p logic q =>
    if p.isClosed && q.isClosed then do
      let s ← p.truthBy truth?
      let t ← q.truthBy truth?
      return match logic with
        | .and => s.both t
        | .or => s.either t
    else none

/-- The truth of a condition for a row, if it compares texts for equality. -/
def Predicate.truth? (row : Texts) (p : Predicate) : Option Truth :=
  p.truthBy (Atom.truth? row)

/-- One of two closed conditions holds. -/
theorem Predicate.truthBy_or {truth? : Atom → Option Truth} {p q : Predicate} {s t : Truth}
    (hp : p.isClosed = true) (hq : q.isClosed = true) (hs : p.truthBy truth? = some s)
    (ht : q.truthBy truth? = some t) :
    (Predicate.group (.link p .or q)).truthBy truth? = some (s.either t) := by
  simp only [truthBy, hp, hq, hs, ht]
  rfl

/-- The formula has the truth value: its clauses are what comparisons of the predicate read as, each
with the truth of the comparison. -/
inductive Formula.HasTruth (p : Predicate) (truth? : Atom → Option Truth) :
    Formula → Truth → Prop where
  | clause {a : Atom} (part : .atom a ∈ p.parts) {g : Fragment}
      (text : (Predicate.atom a).fragment = .ok g) {f : Formula} (reads : g.formula? = some f)
      {t : Truth} (truth : truth? a = some t) : HasTruth p truth? f t
  | negation {f : Formula} {t : Truth} (h : HasTruth p truth? f t) :
      HasTruth p truth? (.negation f) t.not
  | both {f g : Formula} {s t : Truth} (hf : HasTruth p truth? f s) (hg : HasTruth p truth? g t) :
      HasTruth p truth? (.both f g) (s.both t)
  | either {f g : Formula} {s t : Truth} (hf : HasTruth p truth? f s)
      (hg : HasTruth p truth? g t) : HasTruth p truth? (.either f g) (s.either t)

/-- The fragment is that of the predicate, and what SQL reads in it has the truth value that the
predicate has. -/
structure Predicate.Judges (truth? : Atom → Option Truth) (p : Predicate) (f : Fragment)
    (truth : Truth) : Prop where
  fragment : p.fragment = .ok f
  tree : p.truthBy truth? = some truth
  text : ∃ formula, f.formula? = some formula ∧ formula.HasTruth p truth? truth

namespace Predicate.Sound

variable {truth? : Atom → Option Truth} {p whole : Predicate} {t : Truth}

/-- A sound predicate reads as a chain that has its truth value. -/
theorem hasTruth (h : p.Sound) (hparts : p.parts ⊆ whole.parts) (ht : p.truthBy truth? = some t) :
    ∃ c, Says p.sql p.args c ∧ (p.isClosed = true → c.rest = []) ∧
      c.formula.HasTruth whole truth? t := by
  induction p generalizing t with
  | atom a =>
    obtain ⟨f, hf⟩ := Atom.Sound.meaning h
    obtain ⟨g, hg, -⟩ := Sound.fragment (p := .atom a) h
    obtain ⟨-, -, hformula⟩ := formula_of_meaning hg hf
    exact ⟨⟨f, []⟩, hf, fun _ => rfl, .clause (hparts List.mem_cons_self) hg hformula ht⟩
  | group p ih =>
    obtain ⟨c, hc, -, htruth⟩ := ih h (fun _ hq => hparts (List.mem_cons_of_mem _ hq)) ht
    exact ⟨⟨c.formula, []⟩, hc.group, fun _ => rfl, htruth⟩
  | negation p ih =>
    obtain ⟨hclosed, ht⟩ := Option.ite_none_right_eq_some.1 ht
    obtain ⟨s, hs, rfl⟩ := Option.map_eq_some_iff.1 ht
    obtain ⟨⟨f, rest⟩, hc, hrest, htruth⟩ :=
      ih h (fun _ hq => hparts (List.mem_cons_of_mem _ hq)) hs
    obtain rfl : rest = [] := hrest hclosed
    exact ⟨⟨.negation f, []⟩, Says.not hc, fun _ => rfl, htruth.negation⟩
  | link left logic right hl hr =>
    obtain ⟨hclosed, ht⟩ := Option.ite_none_right_eq_some.1 ht
    obtain ⟨hleft, hright⟩ := Bool.and_eq_true_iff.1 hclosed
    obtain ⟨s, hs, ht⟩ := Option.bind_eq_some_iff.1 ht
    obtain ⟨u, hu, ht⟩ := Option.bind_eq_some_iff.1 ht
    obtain rfl := Option.some.inj ht
    obtain ⟨⟨f, rest⟩, hc, hrest, hf⟩ :=
      hl h.1 (fun _ hq => hparts (List.mem_cons_of_mem _ (List.mem_append_left _ hq))) hs
    obtain ⟨⟨g, rest'⟩, hd, hrest', hg⟩ :=
      hr h.2 (fun _ hq => hparts (List.mem_cons_of_mem _ (List.mem_append_right _ hq))) hu
    -- nothing comes between the two sides, so the chain is one connective
    obtain rfl : rest = [] := hrest hleft
    obtain rfl : rest' = [] := hrest' hright
    refine ⟨_, hc.link logic hd, nofun, ?_⟩
    cases logic with
    | and => exact hf.both hg
    | or => exact hf.either hg

/-- The fragment of a sound predicate has the truth value of the predicate. -/
theorem judges (h : p.Sound) {f : Fragment} (hf : p.fragment = .ok f)
    (ht : p.truthBy truth? = some t) : p.Judges truth? f t := by
  obtain ⟨c, hc, -, htruth⟩ := h.hasTruth (List.Subset.refl _) ht
  exact ⟨hf, ht, c.formula, (formula_of_meaning hf hc).2.2, htruth⟩

end Predicate.Sound

theorem keyOf_of_ne {s : String} (h : s ≠ "") : keyOf (some s) = s := by
  have hne : some s ≠ some "" := fun heq => h (Option.some.inj heq)
  rw [keyOf, nullIf, if_neg hne]
  rfl

theorem keyOf_none : keyOf none = emptyLabel := rfl

theorem keyOf_empty : keyOf (some "") = emptyLabel := rfl

theorem among_texts_eq_yes {v? : Option String} {keys : List String} :
    among v? (keys.map .text) = .yes ↔ ∃ s ∈ v?, s ∈ keys := by
  cases v? with
  | none => simp [among]
  | some s =>
    by_cases h : s ∈ keys
    · simp [among, h]
    · simp [among, h]

end Crosstab.Sql
