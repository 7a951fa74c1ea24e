import Crosstab.Sql.Fragment

/-!
# The scan of quotes

Placeholders are counted by a scan that knows whether it stands inside a quote. The scan of a text
starts where that of the text before it has ended, so counting is additive for parts that end
outside of any quote.

The arguments of a fragment can be put in the place of its placeholders by the same scan. What comes
out, a list of symbols, tells which argument each placeholder stands for: it is the form in which
fragments are compared here.
-/

namespace Crosstab.Sql

/-! ## The state of a scan -/

/-- The quote that the scan is inside of after one more character. -/
def quoteAfter : Option Char → Char → Option Char
  | some q, c => if c == q then none else some q
  | none, c => if c == '\'' || c == '"' then some c else none

/-- The quote that the scan is inside of after a text. -/
def scanFrom (q : Option Char) (cs : List Char) : Option Char :=
  cs.foldl quoteAfter q

/-- Whether the character is a placeholder where the scan is. -/
def isPlaceholder (q : Option Char) (c : Char) : Bool :=
  q.isNone && c == '?'

/-- The text ends outside of any quote. -/
def Balanced (s : String) : Prop :=
  scanFrom none s.toList = none

/-- The text ends outside of any quote and has no placeholder. -/
def Inert (s : String) : Prop :=
  Balanced s ∧ countPlaceholders s = 0

instance (s : String) : Decidable (Balanced s) :=
  inferInstanceAs (Decidable (_ = _))

instance (s : String) : Decidable (Inert s) :=
  inferInstanceAs (Decidable (_ ∧ _))

@[simp]
theorem scanFrom_nil (q : Option Char) : scanFrom q [] = q := rfl

@[simp]
theorem scanFrom_cons (q : Option Char) (c : Char) (cs : List Char) :
    scanFrom q (c :: cs) = scanFrom (quoteAfter q c) cs := rfl

/-- A quote ends at the character that began it. -/
theorem quoteAfter_same (q : Char) : quoteAfter (some q) q = none := by
  simp [quoteAfter]

theorem quoteAfter_none {q : Char} (hq : q = '\'' ∨ q = '"') : quoteAfter none q = some q := by
  rcases hq with rfl | rfl <;> rfl

theorem isPlaceholder_quote {q : Char} (hq : q = '\'' ∨ q = '"') (inside : Option Char) :
    isPlaceholder inside q = false := by
  rcases hq with rfl | rfl <;> simp [isPlaceholder]

theorem scanFrom_append (q : Option Char) (a b : List Char) :
    scanFrom q (a ++ b) = scanFrom (scanFrom q a) b :=
  List.foldl_append

@[simp]
theorem countFrom_nil (q : Option Char) : countFrom q [] = 0 := by
  cases q <;> rfl

theorem countFrom_cons (q : Option Char) (c : Char) (cs : List Char) :
    countFrom q (c :: cs) = (isPlaceholder q c).toNat + countFrom (quoteAfter q c) cs := by
  cases q with
  | some q => simp [countFrom, quoteAfter, isPlaceholder]
  | none =>
    simp only [countFrom, quoteAfter, isPlaceholder, Option.isNone_none, Bool.true_and]
    by_cases hq : (c == '\'' || c == '"') = true
    · have hp : (c == '?') = false := by
        rcases Bool.or_eq_true_iff.1 hq with h | h <;> rw [eq_of_beq h] <;> rfl
      simp [hq, hp]
    · by_cases hp : (c == '?') = true
      · simp [hq, hp, Nat.add_comm]
      · simp [hq, hp]

theorem countFrom_append (q : Option Char) (a b : List Char) :
    countFrom q (a ++ b) = countFrom q a + countFrom (scanFrom q a) b := by
  induction a generalizing q with
  | nil => simp
  | cons c cs ih =>
    rw [List.cons_append, countFrom_cons, countFrom_cons, ih, scanFrom_cons, Nat.add_assoc]

/-- A balanced text in front adds its own placeholders. -/
theorem countPlaceholders_append {a : String} (ha : Balanced a) (b : String) :
    countPlaceholders (a ++ b) = countPlaceholders a + countPlaceholders b := by
  rw [countPlaceholders, String.toList_append, countFrom_append, ha]
  rfl

theorem Balanced.append {a b : String} (ha : Balanced a) (hb : Balanced b) : Balanced (a ++ b) := by
  rw [Balanced, String.toList_append, scanFrom_append, ha]
  exact hb

theorem Inert.append {a b : String} (ha : Inert a) (hb : Inert b) : Inert (a ++ b) :=
  ⟨ha.1.append hb.1, by rw [countPlaceholders_append ha.1, ha.2, hb.2]⟩

theorem Inert.intercalate {sep : String} (hsep : Inert sep) {xs : List String}
    (hxs : ∀ x ∈ xs, Inert x) : Inert (sep.intercalate xs) := by
  induction xs with
  | nil => exact ⟨rfl, rfl⟩
  | cons x xs ih =>
    obtain ⟨hx, hrest⟩ := List.forall_mem_cons.1 hxs
    cases xs with
    | nil => rwa [String.intercalate_singleton]
    | cons y ys =>
      rw [String.intercalate_cons_cons]
      exact (hx.append hsep).append (ih hrest)

/-- Characters that are neither quotes nor the question mark leave the scan where it is, outside. -/
theorem scan_plain {cs : List Char} (h : ∀ c ∈ cs, c ≠ '\'' ∧ c ≠ '"' ∧ c ≠ '?') :
    scanFrom none cs = none ∧ countFrom none cs = 0 := by
  induction cs with
  | nil => exact ⟨rfl, rfl⟩
  | cons c cs ih =>
    obtain ⟨⟨h1, h2, h3⟩, hrest⟩ := List.forall_mem_cons.1 h
    have hq : quoteAfter none c = none := by simp [quoteAfter, h1, h2]
    have hp : isPlaceholder none c = false := by simp [isPlaceholder, h3]
    rw [scanFrom_cons, countFrom_cons, hq, hp]
    simpa using ih hrest

theorem inert_of_plain {s : String} (h : ∀ c ∈ s.toList, c ≠ '\'' ∧ c ≠ '"' ∧ c ≠ '?') :
    Inert s :=
  scan_plain h

/-- A text inside a quote that it does not hold stays inside and has no placeholder. -/
theorem scan_quoted {q : Char} {cs : List Char} (h : q ∉ cs) :
    scanFrom (some q) cs = some q ∧ countFrom (some q) cs = 0 := by
  induction cs with
  | nil => exact ⟨rfl, rfl⟩
  | cons c cs ih =>
    obtain ⟨hne, hrest⟩ := not_or.1 (mt List.mem_cons.2 h)
    have hq : quoteAfter (some q) c = some q := by simp [quoteAfter, Ne.symm hne]
    rw [scanFrom_cons, countFrom_cons, hq]
    simpa [isPlaceholder] using ih hrest

/-! ## Arguments in their places -/

/-- A character of a text, or a value in the place of a placeholder. -/
inductive Symbol where
  | char (c : Char)
  | value (v : Value)
  deriving DecidableEq

/-- The characters of a text as symbols. -/
def symbols (s : String) : List Symbol :=
  s.toList.map .char

/-- The text with the values put in order in the place of its placeholders, from a scan that stands
inside the given quote or outside of any. -/
def fillFrom : Option Char → List Char → List Value → List Symbol
  | _, [], _ => []
  | q, c :: cs, [] => .char c :: fillFrom (quoteAfter q c) cs []
  | q, c :: cs, v :: vs =>
    if isPlaceholder q c then .value v :: fillFrom (quoteAfter q c) cs vs
    else .char c :: fillFrom (quoteAfter q c) cs (v :: vs)

/-- The fragment with its arguments in the place of their placeholders. -/
def Fragment.filled (f : Fragment) : List Symbol :=
  fillFrom none f.sql.toList f.args

@[simp]
theorem symbols_append (a b : String) : symbols (a ++ b) = symbols a ++ symbols b := by
  simp [symbols]

theorem fillFrom_nil (q : Option Char) (cs : List Char) :
    fillFrom q cs [] = cs.map .char := by
  induction cs generalizing q with
  | nil => rfl
  | cons c cs ih => rw [fillFrom, ih, List.map_cons]

/-- The values of a concatenation go to the part whose placeholders they belong to. -/
theorem fillFrom_append {q : Option Char} {a : List Char} (b : List Char) {xs : List Value}
    (ys : List Value) (h : countFrom q a = xs.length) :
    fillFrom q (a ++ b) (xs ++ ys) = fillFrom q a xs ++ fillFrom (scanFrom q a) b ys := by
  induction a generalizing q xs with
  | nil =>
    obtain rfl : xs = [] := List.length_eq_zero_iff.1 (by simpa using h.symm)
    rfl
  | cons c cs ih =>
    rw [countFrom_cons] at h
    rw [List.cons_append, scanFrom_cons]
    cases hp : isPlaceholder q c with
    | true =>
      -- the placeholder takes the first value, of which there is one
      cases xs with
      | nil => simp [hp] at h
      | cons v vs =>
        have hvs : countFrom (quoteAfter q c) cs = vs.length := by
          simp only [hp, Bool.toNat_true, List.length_cons] at h
          omega
        simp only [List.cons_append, fillFrom, hp, if_true, ih hvs]
    | false =>
      have hxs : countFrom (quoteAfter q c) cs = xs.length := by simpa [hp] using h
      have key := ih hxs
      cases xs with
      | nil =>
        cases ys with
        | nil => simpa [fillFrom] using key
        | cons y ys => simpa [fillFrom, hp] using key
      | cons v vs => simpa [fillFrom, hp] using key

/-! ## Texts put together -/

/-- The text with its arguments is whole, ends outside of any quote and reads as the symbols. -/
structure Fills (sql : String) (args : List Value) (r : List Symbol) : Prop where
  balanced : Balanced sql
  arity : countPlaceholders sql = args.length
  filled : fillFrom none sql.toList args = r

/-- The fragment comes together, ends outside of any quote and reads as the symbols. -/
def Carries (x : Outcome Fragment) (r : List Symbol) : Prop :=
  ∃ f, x = .ok f ∧ Balanced f.sql ∧ f.filled = r

theorem Fills.inert {s : String} (h : Inert s) : Fills s [] (symbols s) :=
  ⟨h.1, h.2, fillFrom_nil _ _⟩

theorem Fills.fragment {f : Fragment} (h : Balanced f.sql) : Fills f.sql f.args f.filled :=
  ⟨h, f.arity, rfl⟩

theorem Fills.append {a b : String} {xs ys : List Value} {r s : List Symbol} (ha : Fills a xs r)
    (hb : Fills b ys s) : Fills (a ++ b) (xs ++ ys) (r ++ s) where
  balanced := ha.balanced.append hb.balanced
  arity := by rw [countPlaceholders_append ha.balanced, ha.arity, hb.arity, List.length_append]
  filled := by
    rw [String.toList_append, fillFrom_append _ _ ha.arity, ha.balanced, ha.filled, hb.filled]

/-- An inert text in front needs no arguments. -/
theorem Fills.after {a b : String} {ys : List Value} {s : List Symbol} (ha : Inert a)
    (hb : Fills b ys s) : Fills (a ++ b) ys (symbols a ++ s) :=
  (Fills.inert ha).append hb

/-- An inert text behind needs no arguments. -/
theorem Fills.before {a b : String} {xs : List Value} {r : List Symbol} (ha : Fills a xs r)
    (hb : Inert b) : Fills (a ++ b) xs (r ++ symbols b) := by
  simpa using ha.append (Fills.inert hb)

theorem Fragment.of_eq_ok {sql : String} {args : List Value}
    (h : countPlaceholders sql = args.length) : Fragment.of sql args = .ok ⟨sql, args, h⟩ :=
  dif_pos h

/-- A fragment is made just if there are as many arguments as placeholders. -/
theorem Fragment.exists_of_iff {sql : String} {args : List Value} :
    (∃ f, Fragment.of sql args = .ok f) ↔ countPlaceholders sql = args.length := by
  constructor
  · rintro ⟨f, hf⟩
    unfold Fragment.of at hf
    split at hf
    · assumption
    · cases hf
  · intro h
    exact ⟨_, Fragment.of_eq_ok h⟩

theorem Fills.carries {sql : String} {args : List Value} {r : List Symbol} (h : Fills sql args r) :
    Carries (Fragment.of sql args) r :=
  ⟨⟨sql, args, h.arity⟩, Fragment.of_eq_ok h.arity, h.balanced, h.filled⟩

end Crosstab.Sql
