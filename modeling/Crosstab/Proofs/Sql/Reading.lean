import Crosstab.Proofs.Sql.Composition
import Crosstab.Proofs.Sql.Formula

/-!
# Predicates as SQL reads them

The columns of a sound predicate are single words. Its text then counts as many placeholders as it
has values, ends outside of any quote, and reads as a chain of conditions: a comparison is a clause,
a group is what stands in it, and a link is its two sides with the connective between them. A
predicate that shows no disjunction outside of its groups reads as a conjunction.
-/

namespace Crosstab.Sql

open Text

/-! ## Words without a meaning of their own -/

/-- The words that the clauses of a statement start with. -/
def openers : List String := ["WHERE", "GROUP", "ORDER", "LIMIT", "OFFSET"]

namespace Term

/-- The term starts a clause of a statement. -/
def isOpener (t : Term) : Bool :=
  openers.any fun keyword => t.spells keyword

/-- The term takes part in how a statement is read. -/
def isKeyword (t : Term) : Bool :=
  t.isJoint || t.spells "NOT" || t.isOpener

end Term

/-- The text is one word without placeholders and no keyword. -/
def IsPlain (s : String) : Prop :=
  IsWord s ∧ (Term.ofWord s).isKeyword = false

instance (s : String) : Decidable (IsPlain s) :=
  inferInstanceAs (Decidable (_ ∧ _))

/-- The text has no arguments, and reads as terms that start with a word and are no keywords. -/
def IsPhrase (s : String) : Prop :=
  ∃ w ts, Tells s [] (.word w :: ts) ∧ ∀ t ∈ Term.word w :: ts, t.isKeyword = false

theorem not_joint_of_not_keyword {t : Term} (h : t.isKeyword = false) :
    t.isJoint = false ∧ t.spells "NOT" = false ∧ t.isOpener = false := by
  simp only [Term.isKeyword, Bool.or_eq_false_iff] at h
  exact ⟨h.1.1, h.1.2, h.2⟩

/-- Terms that are no keywords neither join conditions nor start clauses. -/
theorem neither_of_not_keyword {ts : List Term} (h : ∀ t ∈ ts, t.isKeyword = false) :
    ∀ t ∈ ts, t.isJoint = false ∧ t.isOpener = false := by
  intro t ht
  obtain ⟨hjoint, -, hopener⟩ := not_joint_of_not_keyword (h t ht)
  exact ⟨hjoint, hopener⟩

theorem IsPlain.isPhrase {s : String} (h : IsPlain s) : IsPhrase s :=
  ⟨symbols s, [], .word h.1, fun t ht => by rw [List.mem_singleton.1 ht]; exact h.2⟩

/-- A function applied to a text is a phrase. -/
theorem isPhrase_call {name inner : String} (hname : IsPlain name) {ts : List Term}
    (h : Tells inner [] ts) : IsPhrase (name ++ "(" ++ inner ++ ")") := by
  refine ⟨symbols name, [.group ts], (Tells.word hname.1).call h, fun t ht => ?_⟩
  rcases List.mem_cons.1 ht with rfl | ht
  · exact hname.2
  · rw [List.mem_singleton.1 ht]
    rfl

/-! ## Subjects -/

theorem textExpr_eq (column : String) :
    textExpr column =
      "CAST" ++ "(" ++ (column ++ " " ++ ("AS" ++ " " ++ "VARCHAR")) ++ ")" := by
  show "CAST(" ++ column ++ " AS VARCHAR)" = _
  rw [← String.toList_inj]
  simp

theorem keyExpr_eq (column : String) :
    keyExpr column = "COALESCE" ++ "(" ++ ("NULLIF" ++ "(" ++ (textExpr column ++ ", " ++ "''") ++
      ")" ++ ", " ++ "'(empty)'") ++ ")" := by
  show "COALESCE(NULLIF(" ++ textExpr column ++ ", ''), '" ++ "(empty)" ++ "')" = _
  generalize textExpr column = text
  rw [← String.toList_inj]
  simp

theorem isPhrase_textExpr {column : String} (h : IsPlain column) : IsPhrase (textExpr column) := by
  rw [textExpr_eq]
  have hcast : IsPlain "CAST" := by decide
  have htype := (Tells.word (by decide : IsWord "AS")).space
    (Tells.word (by decide : IsWord "VARCHAR"))
  exact isPhrase_call hcast ((Tells.word h.1).space htype)

namespace Subject

/-- The column of the subject is one word, and what it is compared as is a phrase. -/
def Sound : Subject → Prop
  | .stored column | .asText column | .asEpoch column | .asKey column => IsPlain column
  | .asDate _ expr => IsPhrase expr

/-- The terms of the placeholder of a value. -/
def placeTerms (v : Value) : Subject → List Term
  | .asDate _ _ => [.ofWord "CAST", .group [.word [.value v], .ofWord "AS", .ofWord "DATE"]]
  | .stored _ | .asText _ | .asEpoch _ | .asKey _ => [.word [.value v]]

theorem Sound.isPhrase {s : Subject} (h : s.Sound) : IsPhrase s.sql := by
  cases s with
  | stored column => exact IsPlain.isPhrase h
  | asText column => exact isPhrase_textExpr h
  | asEpoch column =>
    have hsql : Subject.sql (.asEpoch column) = "epoch" ++ "(" ++ column ++ ")" := by
      rw [← String.toList_inj]
      simp [Subject.sql, toString]
    have hepoch : IsPlain "epoch" := by decide
    rw [hsql]
    exact isPhrase_call hepoch (Tells.word h.1)
  | asDate column expr => exact h
  | asKey column =>
    obtain ⟨w, ts, htext, -⟩ := isPhrase_textExpr h
    have hcoalesce : IsPlain "COALESCE" := by decide
    have hnull : IsWord "NULLIF" := by decide
    have hempty : IsWord "''" := by decide
    have hlabel : IsWord "'(empty)'" := by decide
    show IsPhrase (keyExpr column)
    rw [keyExpr_eq]
    exact isPhrase_call hcoalesce
      (((Tells.word hnull).call (htext.comma (Tells.word hempty))).comma (Tells.word hlabel))

theorem placeholder_tells (s : Subject) (v : Value) :
    Tells s.placeholder [v] (s.placeTerms v) := by
  cases s with
  | asDate column expr =>
    have hdate := (Tells.word (by decide : IsWord "AS")).space
      (Tells.word (by decide : IsWord "DATE"))
    have hcast := (Tells.word (by decide : IsWord "CAST")).call
      ((Tells.placeholder v).space hdate)
    have hsql : "CAST" ++ "(" ++ ("?" ++ " " ++ ("AS" ++ " " ++ "DATE")) ++ ")" =
        "CAST(? AS DATE)" := by decide
    rw [hsql] at hcast
    exact hcast
  | stored column => exact .placeholder v
  | asText column => exact .placeholder v
  | asEpoch column => exact .placeholder v
  | asKey column => exact .placeholder v

theorem placeTerms_not_keyword (s : Subject) (v : Value) :
    ∀ t ∈ s.placeTerms v, t.isKeyword = false := by
  have hvalue : (Term.word [.value v]).isKeyword = false := rfl
  have hcast : (Term.ofWord "CAST").isKeyword = false := by decide
  intro t ht
  cases s with
  | asDate column expr =>
    rcases List.mem_cons.1 ht with rfl | ht
    · exact hcast
    · rw [List.mem_singleton.1 ht]
      rfl
  | stored column => rw [List.mem_singleton.1 ht]; exact hvalue
  | asText column => rw [List.mem_singleton.1 ht]; exact hvalue
  | asEpoch column => rw [List.mem_singleton.1 ht]; exact hvalue
  | asKey column => rw [List.mem_singleton.1 ht]; exact hvalue

end Subject

/-! ## Conditions -/

/-- The text with its arguments reads as the chain, and starts no clause of a statement. -/
def Says (sql : String) (args : List Value) (c : Links) : Prop :=
  ∃ ts, Tells sql args ts ∧ Parses ts c ∧ ∀ t ∈ ts, t.isOpener = false

/-- A phrase and what it is compared with are one clause. -/
theorem IsPhrase.meaning {s b : String} {args : List Value} {ys : List Term} (hs : IsPhrase s)
    (hb : Tells b args ys) (hys : ∀ t ∈ ys, t.isJoint = false ∧ t.isOpener = false) :
    ∃ f, Says (s ++ " " ++ b) args ⟨f, []⟩ := by
  obtain ⟨w, xs, htells, hplain⟩ := hs
  have hall : ∀ t ∈ Term.word w :: xs ++ ys, t.isJoint = false ∧ t.isOpener = false :=
    List.forall_mem_append.2 ⟨neither_of_not_keyword hplain, hys⟩
  have hnot := (not_joint_of_not_keyword (hplain _ List.mem_cons_self)).2.1
  exact ⟨_, _, htells.space hb, .clause hnot fun t ht => (hall t ht).1, fun t ht => (hall t ht).2⟩

theorem Says.link {a b : String} {xs ys : List Value} {c d : Links} (ha : Says a xs c)
    (logic : Logic) (hb : Says b ys d) :
    Says (a ++ " " ++ logic.sql ++ " " ++ b) (xs ++ ys) (c.append logic d) := by
  obtain ⟨ts, htells, hparses, hopener⟩ := ha
  obtain ⟨us, hutells, huparses, huopener⟩ := hb
  have hword : Tells logic.sql [] [Term.ofLogic logic] := by
    cases logic <;> exact .word (by decide)
  have htext := (htells.space hword).space hutells
  rw [List.append_nil, List.append_assoc] at htext
  have hlogic : (Term.ofLogic logic).isOpener = false := by cases logic <;> rfl
  refine ⟨_, htext, hparses.append logic huparses, ?_⟩
  exact List.forall_mem_append.2 ⟨hopener, List.forall_mem_cons.2 ⟨hlogic, huopener⟩⟩

theorem Says.group {a : String} {xs : List Value} {c : Links} (ha : Says a xs c) :
    Says ("(" ++ a ++ ")") xs ⟨c.formula, []⟩ := by
  obtain ⟨ts, htells, hparses, -⟩ := ha
  exact ⟨_, htells.parens, hparses.group, fun t ht => by rw [List.mem_singleton.1 ht]; rfl⟩

theorem Says.not {a : String} {xs : List Value} {c : Links} (ha : Says a xs c) :
    Says ("NOT" ++ " " ++ a) xs ⟨.negation c.first, c.rest⟩ := by
  obtain ⟨ts, htells, hparses, hopener⟩ := ha
  have hnot : IsWord "NOT" := by decide
  exact ⟨_, (Tells.word hnot).space htells, hparses.not, List.forall_mem_cons.2 ⟨rfl, hopener⟩⟩

namespace Atom

/-- The columns of the comparison are single words. -/
def Sound : Atom → Prop
  | .isNull column _ | .isEmptyText column _ | .like column _ => IsPlain column
  | .compare s _ _ | .between s _ _ | .member s _ _ => s.Sound
  | .never => True

/-- The placeholders of values, with commas between them. -/
theorem places_tell (s : Subject) (vs : List Value) :
    Tells (", ".intercalate (vs.map fun _ => s.placeholder)) vs
      ([Term.ofWord ","].intercalate (vs.map fun v => s.placeTerms v)) := by
  have hplace : ∀ v ∈ vs, Tells s.placeholder [v] (s.placeTerms v) := fun v _ =>
    s.placeholder_tells v
  have hitems := Tells.items hplace
  simpa using hitems

/-- The sign of a comparison, or a list of words behind a column, in front of more terms. -/
theorem tells_word_space {s b : String} {args : List Value} {ys : List Term} (hs : IsWord s)
    (hb : Tells b args ys) : Tells (s ++ " " ++ b) args (.ofWord s :: ys) :=
  (Tells.word hs).space hb

theorem between_meaning {s : Subject} (h : s.Sound) (low high : Value) :
    ∃ f, Says (Atom.between s low high).sql [low, high] ⟨f, []⟩ := by
  obtain ⟨w, xs, htells, hplain⟩ := h.isPhrase
  have hbetween : IsWord "BETWEEN" := by decide
  have hand : IsWord "AND" := by decide
  have hlow := s.placeholder_tells low
  have hhigh := s.placeholder_tells high
  have htext := htells.space (tells_word_space hbetween (hlow.space (tells_word_space hand hhigh)))
  have hsql : (Atom.between s low high).sql =
      s.sql ++ " " ++ ("BETWEEN" ++ " " ++ (s.placeholder ++ " " ++ ("AND" ++ " " ++
        s.placeholder))) := by
    show s.sql ++ " BETWEEN " ++ s.placeholder ++ " AND " ++ s.placeholder = _
    rw [← String.toList_inj]
    simp
  have hphrase := neither_of_not_keyword hplain
  have hlowTerms := neither_of_not_keyword (s.placeTerms_not_keyword low)
  have hhighTerms := neither_of_not_keyword (s.placeTerms_not_keyword high)
  have hnot := (not_joint_of_not_keyword (hplain _ List.mem_cons_self)).2.1
  rw [hsql]
  refine ⟨_, _, htext, .between hnot (fun t ht => (hphrase t ht).1)
    (fun t ht => (hlowTerms t ht).1) fun t ht => (hhighTerms t ht).1, ?_⟩
  have hbounds := List.forall_mem_append.2 ⟨fun t ht => (hlowTerms t ht).2,
    List.forall_mem_cons.2 ⟨(rfl : (Term.ofWord "AND").isOpener = false),
      fun t ht => (hhighTerms t ht).2⟩⟩
  exact List.forall_mem_append.2 ⟨fun t ht => (hphrase t ht).2,
    List.forall_mem_cons.2 ⟨(rfl : (Term.ofWord "BETWEEN").isOpener = false), hbounds⟩⟩

theorem isNull_meaning {column : String} (h : IsPlain column) (negated : Bool) :
    ∃ f, Says (Atom.isNull column negated).sql [] ⟨f, []⟩ := by
  have hnull : Tells "NULL" [] [.ofWord "NULL"] := .word (by decide)
  have his : IsWord "IS" := by decide
  have hnot : IsWord "NOT" := by decide
  cases negated with
  | false =>
    have hsql : (Atom.isNull column false).sql = column ++ " " ++ ("IS" ++ " " ++ "NULL") := by
      show column ++ " IS NULL" = _
      rw [← String.toList_inj]
      simp
    rw [hsql]
    exact h.isPhrase.meaning (tells_word_space his hnull) (by decide)
  | true =>
    have hsql : (Atom.isNull column true).sql =
        column ++ " " ++ ("IS" ++ " " ++ ("NOT" ++ " " ++ "NULL")) := by
      show column ++ " IS NOT NULL" = _
      rw [← String.toList_inj]
      simp
    rw [hsql]
    exact h.isPhrase.meaning (tells_word_space his (tells_word_space hnot hnull)) (by decide)

theorem isEmptyText_meaning {column : String} (h : IsPlain column) (negated : Bool) :
    ∃ f, Says (Atom.isEmptyText column negated).sql [] ⟨f, []⟩ := by
  have hempty : Tells "''" [] [.ofWord "''"] := .word (by decide)
  cases negated with
  | false =>
    have hsign : IsWord "=" := by decide
    have hsql : (Atom.isEmptyText column false).sql =
        textExpr column ++ " " ++ ("=" ++ " " ++ "''") := by
      show textExpr column ++ " = ''" = _
      rw [← String.toList_inj]
      simp
    rw [hsql]
    exact (isPhrase_textExpr h).meaning (tells_word_space hsign hempty) (by decide)
  | true =>
    have hsign : IsWord "<>" := by decide
    have hsql : (Atom.isEmptyText column true).sql =
        textExpr column ++ " " ++ ("<>" ++ " " ++ "''") := by
      show textExpr column ++ " <> ''" = _
      rw [← String.toList_inj]
      simp
    rw [hsql]
    exact (isPhrase_textExpr h).meaning (tells_word_space hsign hempty) (by decide)

theorem compare_meaning {s : Subject} (h : s.Sound) (c : Comparison) (arg : Value) :
    ∃ f, Says (Atom.compare s c arg).sql [arg] ⟨f, []⟩ := by
  have hsign : IsPlain c.sql := by cases c <;> decide
  have hsql : (Atom.compare s c arg).sql = s.sql ++ " " ++ (c.sql ++ " " ++ s.placeholder) := by
    show s.sql ++ " " ++ c.sql ++ " " ++ s.placeholder = _
    simp only [String.append_assoc]
  rw [hsql]
  refine h.isPhrase.meaning (tells_word_space hsign.1 (s.placeholder_tells arg)) ?_
  exact neither_of_not_keyword (List.forall_mem_cons.2 ⟨hsign.2, s.placeTerms_not_keyword arg⟩)

theorem member_meaning {s : Subject} (h : s.Sound) (negated : Bool) (vs : List Value) :
    ∃ f, Says (Atom.member s negated vs).sql vs ⟨f, []⟩ := by
  have hplaces := (places_tell s vs).parens
  have hin : IsWord "IN" := by decide
  have hnot : IsWord "NOT" := by decide
  cases negated with
  | false =>
    have hsql : (Atom.member s false vs).sql = s.sql ++ " " ++ ("IN" ++ " " ++
        ("(" ++ ", ".intercalate (vs.map fun _ => s.placeholder) ++ ")")) := by
      show s.sql ++ " IN (" ++ ", ".intercalate (vs.map fun _ => s.placeholder) ++ ")" = _
      rw [← String.toList_inj]
      simp
    rw [hsql]
    refine h.isPhrase.meaning (tells_word_space hin hplaces) ?_
    exact List.forall_mem_cons.2 ⟨by decide, List.forall_mem_singleton.2 ⟨rfl, rfl⟩⟩
  | true =>
    have hsql : (Atom.member s true vs).sql = s.sql ++ " " ++ ("NOT" ++ " " ++ ("IN" ++ " " ++
        ("(" ++ ", ".intercalate (vs.map fun _ => s.placeholder) ++ ")"))) := by
      show s.sql ++ " NOT IN (" ++ ", ".intercalate (vs.map fun _ => s.placeholder) ++ ")" = _
      rw [← String.toList_inj]
      simp
    rw [hsql]
    refine h.isPhrase.meaning (tells_word_space hnot (tells_word_space hin hplaces)) ?_
    exact List.forall_mem_cons.2 ⟨by decide, List.forall_mem_cons.2 ⟨by decide,
      List.forall_mem_singleton.2 ⟨rfl, rfl⟩⟩⟩

theorem like_meaning {column : String} (h : IsPlain column) (pattern : String) :
    ∃ f, Says (Atom.like column pattern).sql [.text pattern] ⟨f, []⟩ := by
  have hlike : IsWord "ILIKE" := by decide
  have hescape : IsWord "ESCAPE" := by decide
  have hsign : Tells "'\\'" [] [.ofWord "'\\'"] := .word (by decide)
  have hsql : (Atom.like column pattern).sql = textExpr column ++ " " ++
      ("ILIKE" ++ " " ++ ("?" ++ " " ++ ("ESCAPE" ++ " " ++ "'\\'"))) := by
    show textExpr column ++ " ILIKE ? ESCAPE '\\'" = _
    rw [← String.toList_inj]
    simp
  rw [hsql]
  refine (isPhrase_textExpr h).meaning (tells_word_space hlike
    ((Tells.placeholder (.text pattern)).space (tells_word_space hescape hsign))) ?_
  exact List.forall_mem_cons.2 ⟨by decide, List.forall_mem_cons.2 ⟨⟨rfl, rfl⟩, by decide⟩⟩

/-- A sound comparison is a clause of its own. -/
theorem Sound.meaning {a : Atom} (h : a.Sound) : ∃ f, Says a.sql a.args ⟨f, []⟩ := by
  cases a with
  | isNull column negated => exact isNull_meaning h negated
  | isEmptyText column negated => exact isEmptyText_meaning h negated
  | compare s c arg => exact compare_meaning h c arg
  | between s low high => exact between_meaning h low high
  | member s negated vs => exact member_meaning h negated vs
  | like column pattern => exact like_meaning h pattern
  | never =>
    have hnever : IsWord "1=0" := by decide
    exact ⟨_, _, .word hnever, .clause (by decide) (by decide), by decide⟩

/-- No comparison has a blank text. -/
theorem isBlank_sql (a : Atom) : isBlank a.sql = false := by
  cases a with
  | isNull column negated =>
    cases negated with
    | false => exact isBlank_behind (by decide : isBlank " IS NULL" = false) column
    | true => exact isBlank_behind (by decide : isBlank " IS NOT NULL" = false) column
  | isEmptyText column negated =>
    cases negated with
    | false => exact isBlank_behind (by decide : isBlank " = ''" = false) (textExpr column)
    | true => exact isBlank_behind (by decide : isBlank " <> ''" = false) (textExpr column)
  | compare s c arg =>
    have hsign : isBlank c.sql = false := by cases c <;> decide
    show isBlank (s.sql ++ " " ++ c.sql ++ " " ++ s.placeholder) = false
    simp [isBlank_append, hsign]
  | between s low high =>
    show isBlank (s.sql ++ " BETWEEN " ++ s.placeholder ++ " AND " ++ s.placeholder) = false
    simp [isBlank_append, show isBlank " AND " = false by decide]
  | member s negated vs =>
    cases negated with
    | false => exact isBlank_behind (by decide : isBlank ")" = false) _
    | true => exact isBlank_behind (by decide : isBlank ")" = false) _
  | like column pattern =>
    exact isBlank_behind (by decide : isBlank " ILIKE ? ESCAPE '\\'" = false) (textExpr column)
  | never => decide

end Atom

/-! ## Predicates -/

namespace Predicate

/-- The comparisons of the predicate are sound. -/
def Sound : Predicate → Prop
  | .atom a => a.Sound
  | .group p | .negation p => p.Sound
  | .link left _ right => left.Sound ∧ right.Sound

/-- The predicate is no link, so nothing can come between its parts. -/
def isClosed : Predicate → Bool
  | .atom _ | .group _ => true
  | .negation p => p.isClosed
  | .link _ _ _ => false

/-- The predicate shows no disjunction outside of its groups. -/
def isConjunctive : Predicate → Bool
  | .link left logic right => left.isConjunctive && logic == .and && right.isConjunctive
  | p => p.isClosed

/-- The predicate and all that it is put together from. -/
def parts : Predicate → List Predicate
  | .atom a => [.atom a]
  | .group p => .group p :: p.parts
  | .negation p => .negation p :: p.parts
  | .link left logic right => .link left logic right :: (left.parts ++ right.parts)

/-- A sound predicate reads as a chain, of one formula if the predicate is closed, and without
disjunctions if it is conjunctive. -/
theorem Sound.meaning {p : Predicate} (h : p.Sound) :
    ∃ c, Says p.sql p.args c ∧ (p.isClosed = true → c.rest = []) ∧
      (p.isConjunctive = true → c.Conjunctive) := by
  have hsingle : ∀ {c : Links}, c.rest = [] → c.Conjunctive := fun hc p hp => by
    rw [hc] at hp
    exact nomatch hp
  induction p with
  | atom a =>
    obtain ⟨f, hf⟩ := Atom.Sound.meaning h
    exact ⟨⟨f, []⟩, hf, fun _ => rfl, fun _ => hsingle rfl⟩
  | group p ih =>
    obtain ⟨c, hc, -⟩ := ih h
    exact ⟨⟨c.formula, []⟩, hc.group, fun _ => rfl, fun _ => hsingle rfl⟩
  | negation p ih =>
    obtain ⟨c, hc, hclosed, -⟩ := ih h
    have hsql : (Predicate.negation p).sql = "NOT" ++ " " ++ p.sql := by
      show "NOT " ++ p.sql = _
      rw [← String.toList_inj]
      simp
    rw [hsql]
    exact ⟨⟨.negation c.first, c.rest⟩, hc.not, hclosed, fun hp => hsingle (hclosed hp)⟩
  | link left logic right hl hr =>
    obtain ⟨c, hc, -, hcand⟩ := hl h.1
    obtain ⟨d, hd, -, hdand⟩ := hr h.2
    have hsql : (Predicate.link left logic right).sql =
        left.sql ++ " " ++ logic.sql ++ " " ++ right.sql := rfl
    rw [hsql]
    refine ⟨c.append logic d, hc.link logic hd, nofun, fun hp => ?_⟩
    simp only [isConjunctive, Bool.and_eq_true, beq_iff_eq] at hp
    obtain ⟨⟨hleft, rfl⟩, hright⟩ := hp
    exact (hcand hleft).append (hdand hright)

/-- Whatever a sound predicate is put together from is sound. -/
theorem Sound.parts {p q : Predicate} (h : p.Sound) (hq : q ∈ p.parts) : q.Sound := by
  induction p with
  | atom a =>
    rw [List.mem_singleton.1 hq]
    exact h
  | group p ih =>
    rcases List.mem_cons.1 hq with rfl | hq
    · exact h
    · exact ih h hq
  | negation p ih =>
    rcases List.mem_cons.1 hq with rfl | hq
    · exact h
    · exact ih h hq
  | link left logic right hl hr =>
    rcases List.mem_cons.1 hq with rfl | hq
    · exact h
    · rcases List.mem_append.1 hq with hq | hq
      · exact hl h.1 hq
      · exact hr h.2 hq

/-- A sound predicate makes a fragment. -/
theorem Sound.fragment {p : Predicate} (h : p.Sound) :
    ∃ f, p.fragment = .ok f ∧ f.sql = p.sql ∧ f.args = p.args ∧ Balanced f.sql := by
  obtain ⟨c, ⟨ts, htells, -⟩, -⟩ := h.meaning
  obtain ⟨f, hf, hsql, hargs, hbalanced, -⟩ := htells.fragment
  exact ⟨f, hf, hsql, hargs, hbalanced⟩

/-- No predicate has a blank text. -/
theorem isBlank_sql (p : Predicate) : isBlank p.sql = false := by
  cases p with
  | atom a => exact a.isBlank_sql
  | group p => exact isBlank_behind (by decide : isBlank ")" = false) ("(" ++ p.sql)
  | negation p =>
    show isBlank ("NOT " ++ p.sql) = false
    rw [isBlank_append, show isBlank "NOT " = false by decide, Bool.false_and]
  | link left logic right =>
    have hlogic : isBlank logic.sql = false := by cases logic <;> decide
    show isBlank (left.sql ++ " " ++ logic.sql ++ " " ++ right.sql) = false
    simp [isBlank_append, hlogic]

end Predicate

end Crosstab.Sql
