import Crosstab.Proofs.Sql.Literal

/-!
# The terms of a text

A text of SQL is read as terms: words between blanks, and groups of terms between parentheses.
Quoted text is opaque, so it never ends a word, and a comma is a word of its own. Arguments stand in
the place of their placeholders, so the terms of a fragment tell which value stands where.

A text put together from parts with blanks or parentheses between them has the terms of its parts.
The rules say so twice: `Reads` of symbols, `Tells` of a text with its arguments.
-/

namespace Crosstab.Sql

/-- A word, or the terms between a pair of parentheses. -/
inductive Term where
  | word (w : List Symbol)
  | group (ts : List Term)

/-! ## Reading terms -/

/-- What has been read of a text. -/
structure Reader where
  /-- The terms in front of each parenthesis that is open, the innermost first. -/
  outer : List (List Term)
  /-- The terms behind the last parenthesis that is open. -/
  terms : List Term
  /-- The quote that the end stands inside of. -/
  quote? : Option Char
  /-- The word that is not at its end. -/
  word : List Symbol

namespace Reader

/-- Before anything is read. -/
def start : Reader := ⟨[], [], none, []⟩

/-- The terms with the last word ended, if there is one. -/
def flushed (r : Reader) : List Term :=
  if r.word.isEmpty then r.terms else r.terms ++ [.word r.word]

/-- Reads one symbol; none if it closes a parenthesis that is not open. -/
def step (r : Reader) (s : Symbol) : Option Reader :=
  match r.quote?, s with
  | none, .char c =>
    if c.isWhitespace then some { r with terms := r.flushed, word := [] }
    else if c == '(' then some ⟨r.flushed :: r.outer, [], none, []⟩
    else if c == ')' then
      match r.outer with
      | ts :: outer => some ⟨outer, ts ++ [.group r.flushed], none, []⟩
      | [] => none
    else if c == ',' then some { r with terms := r.flushed ++ [.word [s]], word := [] }
    else some { r with quote? := quoteAfter none c, word := r.word ++ [s] }
  | some q, .char c => some { r with quote? := quoteAfter (some q) c, word := r.word ++ [s] }
  | _, .value _ => some { r with word := r.word ++ [s] }

end Reader

/-- The terms of a text, unless a parenthesis or a quote is left open. -/
def termsOf? (ss : List Symbol) : Option (List Term) := do
  let r ← ss.foldlM Reader.step .start
  if r.outer.isEmpty && r.quote?.isNone then some r.flushed else none

/-! ## Rules for symbols -/

/-- Behind a term that is at its end, the symbols read as the terms. -/
def Reads (ss : List Symbol) (ts : List Term) : Prop :=
  ∀ outer terms, ∃ r : Reader, ss.foldlM Reader.step ⟨outer, terms, none, []⟩ = some r ∧
    r.outer = outer ∧ r.quote? = none ∧ r.flushed = terms ++ ts

/-- The symbols are one word or the end of one, which starts inside the given quote. -/
def isWordFrom : Option Char → List Symbol → Bool
  | q, [] => q.isNone
  | none, .char c :: ss =>
    !(c.isWhitespace || c == '(' || c == ')' || c == ',') && isWordFrom (quoteAfter none c) ss
  | some q, .char c :: ss => isWordFrom (quoteAfter (some q) c) ss
  | q, .value _ :: ss => isWordFrom q ss

theorem Reads.termsOf? {ss : List Symbol} {ts : List Term} (h : Reads ss ts) :
    termsOf? ss = some ts := by
  obtain ⟨r, hr, houter, hquote, hterms⟩ := h [] []
  have hstart : ss.foldlM Reader.step .start = some r := hr
  simp [Crosstab.Sql.termsOf?, hstart, houter, hquote, hterms]

theorem Reads.nil : Reads [] [] :=
  fun outer terms => ⟨⟨outer, terms, none, []⟩, rfl, rfl, rfl, (List.append_nil terms).symm⟩

theorem foldlM_step_word {ss : List Symbol} {q : Option Char} (h : isWordFrom q ss = true)
    (outer : List (List Term)) (terms : List Term) (w : List Symbol) :
    ss.foldlM Reader.step ⟨outer, terms, q, w⟩ = some ⟨outer, terms, none, w ++ ss⟩ := by
  induction ss generalizing q w with
  | nil =>
    obtain rfl : q = none := Option.isNone_iff_eq_none.1 h
    rw [List.append_nil]
    rfl
  | cons s ss ih =>
    have hstep : ∃ p, Reader.step ⟨outer, terms, q, w⟩ s = some ⟨outer, terms, p, w ++ [s]⟩ ∧
        isWordFrom p ss = true := by
      cases s with
      | value v => exact ⟨q, by cases q <;> rfl, by cases q <;> exact h⟩
      | char c =>
        cases q with
        | some q => exact ⟨_, rfl, h⟩
        | none =>
          obtain ⟨hc, hrest⟩ := Bool.and_eq_true_iff.1 h
          simp only [Bool.not_eq_true', Bool.or_eq_false_iff] at hc
          obtain ⟨⟨⟨h1, h2⟩, h3⟩, h4⟩ := hc
          exact ⟨_, by simp [Reader.step, h1, h2, h3, h4], hrest⟩
    obtain ⟨p, hp, hrest⟩ := hstep
    rw [List.foldlM_cons, hp]
    have := ih hrest (w ++ [s])
    rwa [List.append_assoc] at this

theorem Reads.word {w : List Symbol} (hne : w ≠ []) (h : isWordFrom none w = true) :
    Reads w [.word w] := by
  intro outer terms
  refine ⟨_, foldlM_step_word h outer terms [], rfl, rfl, ?_⟩
  have hw : w.isEmpty = false := by simpa using hne
  simp [Reader.flushed, hw]

/-- A blank ends a word. -/
theorem Reads.gap {a b : List Symbol} {x y : List Term} (ha : Reads a x) {c : Char}
    (hc : c.isWhitespace = true) (hb : Reads b y) : Reads (a ++ .char c :: b) (x ++ y) := by
  intro outer terms
  obtain ⟨r, hr, houter, hquote, hterms⟩ := ha outer terms
  obtain ⟨t, ht, htouter, htquote, htterms⟩ := hb outer (terms ++ x)
  refine ⟨t, ?_, htouter, htquote, by rw [htterms, List.append_assoc]⟩
  have hgap : r.step (.char c) = some ⟨outer, terms ++ x, none, []⟩ := by
    simp [Reader.step, hquote, hc, hterms, houter]
  rw [List.foldlM_append, hr, Option.bind_eq_bind, Option.bind_some, List.foldlM_cons, hgap]
  exact ht

/-- A comma is a word. -/
theorem Reads.comma {a b : List Symbol} {x y : List Term} (ha : Reads a x) (hb : Reads b y) :
    Reads (a ++ .char ',' :: b) (x ++ .word [.char ','] :: y) := by
  intro outer terms
  obtain ⟨r, hr, houter, hquote, hterms⟩ := ha outer terms
  obtain ⟨t, ht, htouter, htquote, htterms⟩ := hb outer (terms ++ x ++ [.word [.char ',']])
  refine ⟨t, ?_, htouter, htquote, by rw [htterms]; simp⟩
  have hspace : Char.isWhitespace ',' = false := by decide
  have hcomma : r.step (.char ',') = some ⟨outer, terms ++ x ++ [.word [.char ',']], none, []⟩ := by
    simp [Reader.step, hquote, hspace, hterms, houter]
  rw [List.foldlM_append, hr, Option.bind_eq_bind, Option.bind_some, List.foldlM_cons, hcomma]
  exact ht

/-- What stands between parentheses is one term, behind a word or not. -/
theorem Reads.call {a b : List Symbol} {x y : List Term} (ha : Reads a x) (hb : Reads b y) :
    Reads (a ++ .char '(' :: b ++ [.char ')']) (x ++ [.group y]) := by
  intro outer terms
  obtain ⟨r, hr, houter, hquote, hterms⟩ := ha outer terms
  obtain ⟨t, ht, htouter, htquote, htterms⟩ := hb ((terms ++ x) :: outer) []
  have hspace : Char.isWhitespace '(' = false ∧ Char.isWhitespace ')' = false := by decide
  have hopen : r.step (.char '(') = some ⟨(terms ++ x) :: outer, [], none, []⟩ := by
    simp [Reader.step, hquote, hspace, hterms, houter]
  have hclose : t.step (.char ')') = some ⟨outer, terms ++ x ++ [.group y], none, []⟩ := by
    simp [Reader.step, htquote, htouter, htterms, hspace]
  refine ⟨⟨outer, terms ++ x ++ [.group y], none, []⟩, ?_, rfl, rfl, by simp [Reader.flushed]⟩
  rw [List.append_assoc, List.foldlM_append, hr, Option.bind_eq_bind, Option.bind_some,
    List.cons_append, List.foldlM_cons, hopen, Option.bind_eq_bind, Option.bind_some,
    List.foldlM_append, ht, Option.bind_eq_bind, Option.bind_some, List.foldlM_cons, hclose]
  rfl

/-! ## Rules for texts -/

/-- The text with its arguments reads as the terms. -/
def Tells (sql : String) (args : List Value) (ts : List Term) : Prop :=
  ∃ r, Fills sql args r ∧ Reads r ts

/-- The text is one word without placeholders. -/
def IsWord (s : String) : Prop :=
  Inert s ∧ s ≠ "" ∧ isWordFrom none (symbols s) = true

instance (s : String) : Decidable (IsWord s) :=
  inferInstanceAs (Decidable (_ ∧ _))

/-- A text as a word. -/
def Term.ofWord (s : String) : Term :=
  .word (symbols s)

theorem isWordFrom_append {q : Option Char} {a b : List Symbol} (ha : isWordFrom q a = true)
    (hb : isWordFrom none b = true) : isWordFrom q (a ++ b) = true := by
  induction a generalizing q with
  | nil =>
    obtain rfl : q = none := Option.isNone_iff_eq_none.1 ha
    exact hb
  | cons s ss ih =>
    cases s with
    | value v => cases q <;> exact ih ha
    | char c =>
      cases q with
      | some q => exact ih ha
      | none =>
        obtain ⟨hc, hrest⟩ := Bool.and_eq_true_iff.1 ha
        exact Bool.and_eq_true_iff.2 ⟨hc, ih hrest⟩

theorem IsWord.append {a b : String} (ha : IsWord a) (hb : IsWord b) : IsWord (a ++ b) := by
  obtain ⟨hinert, hne, hword⟩ := ha
  refine ⟨hinert.append hb.1, ?_, ?_⟩
  · simp [hne]
  · rw [symbols_append]
    exact isWordFrom_append hword hb.2.2

theorem isWordFrom_quoted {q : Char} {cs : List Char} (h : q ∉ cs) :
    isWordFrom (some q) ((cs ++ [q]).map .char) = true := by
  induction cs with
  | nil => simp [isWordFrom, quoteAfter]
  | cons c cs ih =>
    obtain ⟨hne, hrest⟩ := not_or.1 (mt List.mem_cons.2 h)
    have hquote : quoteAfter (some q) c = some q := by simp [quoteAfter, Ne.symm hne]
    rw [List.cons_append, List.map_cons, isWordFrom, hquote]
    exact ih hrest

/-- A text between quotes that it does not hold is one word. -/
theorem isWord_quoted {q : Char} (hq : q = '\'' ∨ q = '"') {s : String} (h : q ∉ s.toList) :
    IsWord (String.singleton q ++ s ++ String.singleton q) := by
  have hword : (q.isWhitespace || q == '(' || q == ')' || q == ',') = false := by
    rcases hq with rfl | rfl <;> decide
  rw [← quotedBy_of_notMem h]
  refine ⟨inert_quotedBy hq s, by simp [quotedBy], ?_⟩
  rw [symbols, toList_quotedBy, flatMap_doubled h, List.map_cons, isWordFrom, quoteAfter_none hq,
    hword]
  exact isWordFrom_quoted h

theorem Tells.nil : Tells "" [] [] :=
  ⟨[], ⟨rfl, rfl, rfl⟩, .nil⟩

theorem Tells.word {s : String} (h : IsWord s) : Tells s [] [.ofWord s] := by
  obtain ⟨hinert, hne, hword⟩ := h
  refine ⟨symbols s, .inert hinert, .word (fun hnil => hne ?_) hword⟩
  exact String.toList_eq_nil_iff.1 (List.map_eq_nil_iff.1 hnil)

/-- A placeholder is the word of its value. -/
theorem Tells.placeholder (v : Value) : Tells "?" [v] [.word [.value v]] :=
  ⟨[.value v], ⟨rfl, rfl, rfl⟩, .word (by simp) rfl⟩

theorem Tells.space {a b : String} {xs ys : List Value} {x y : List Term} (ha : Tells a xs x)
    (hb : Tells b ys y) : Tells (a ++ " " ++ b) (xs ++ ys) (x ++ y) := by
  obtain ⟨r, hr, hx⟩ := ha
  obtain ⟨s, hs, hy⟩ := hb
  have hspace : Inert " " := by decide
  have hfills := (hr.before hspace).append hs
  rw [List.append_assoc] at hfills
  exact ⟨_, hfills, hx.gap (by decide) hy⟩

theorem Tells.comma {a b : String} {xs ys : List Value} {x y : List Term} (ha : Tells a xs x)
    (hb : Tells b ys y) : Tells (a ++ ", " ++ b) (xs ++ ys) (x ++ .ofWord "," :: y) := by
  obtain ⟨r, hr, hx⟩ := ha
  obtain ⟨s, hs, hy⟩ := hb
  have hcomma : Inert ", " := by decide
  have hfills := (hr.before hcomma).append hs
  rw [List.append_assoc] at hfills
  have hspace : Reads (.char ' ' :: s) y := Reads.nil.gap (by decide) hy
  exact ⟨_, hfills, hx.comma hspace⟩

theorem Tells.call {a b : String} {xs ys : List Value} {x y : List Term} (ha : Tells a xs x)
    (hb : Tells b ys y) : Tells (a ++ "(" ++ b ++ ")") (xs ++ ys) (x ++ [.group y]) := by
  obtain ⟨r, hr, hx⟩ := ha
  obtain ⟨s, hs, hy⟩ := hb
  have hopen : Inert "(" := by decide
  have hclose : Inert ")" := by decide
  have hfills := ((hr.before hopen).append hs).before hclose
  rw [List.append_assoc r] at hfills
  exact ⟨_, hfills, hx.call hy⟩

/-- Parentheses around a text make it one term. -/
theorem Tells.parens {b : String} {ys : List Value} {y : List Term} (hb : Tells b ys y) :
    Tells ("(" ++ b ++ ")") ys [.group y] :=
  Tells.nil.call hb

/-- Items with commas between them are the terms of the items with commas between them. -/
theorem Tells.items {α : Type} {text : α → String} {args : α → List Value} {terms : α → List Term}
    {xs : List α} (h : ∀ x ∈ xs, Tells (text x) (args x) (terms x)) :
    Tells (", ".intercalate (xs.map text)) (xs.flatMap args)
      ([Term.ofWord ","].intercalate (xs.map terms)) := by
  induction xs with
  | nil => exact .nil
  | cons x xs ih =>
    obtain ⟨hx, hrest⟩ := List.forall_mem_cons.1 h
    cases xs with
    | nil => simpa using hx
    | cons y ys =>
      simp only [List.map_cons, String.intercalate_cons_cons, List.intercalate_cons_cons,
        List.flatMap_cons, List.append_assoc, List.singleton_append] at ih ⊢
      exact hx.comma (ih hrest)

/-- The terms of a fragment, with its arguments in their places. -/
def Fragment.terms? (f : Fragment) : Option (List Term) :=
  termsOf? f.filled

/-- A text that reads as terms makes a fragment that does. -/
theorem Tells.fragment {sql : String} {args : List Value} {ts : List Term} (h : Tells sql args ts) :
    ∃ f, Fragment.of sql args = .ok f ∧ f.sql = sql ∧ f.args = args ∧ Balanced f.sql ∧
      f.terms? = some ts := by
  obtain ⟨r, hr, hreads⟩ := h
  refine ⟨⟨sql, args, hr.arity⟩, Fragment.of_eq_ok hr.arity, rfl, rfl, hr.balanced, ?_⟩
  rw [Fragment.terms?, Fragment.filled, hr.filled]
  exact hreads.termsOf?

end Crosstab.Sql
