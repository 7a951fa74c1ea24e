import Crosstab.Sql.Expression
import Mathlib.Data.List.Forall2
import Mathlib.Data.List.Infix

/-!
# Patterns and what they match

A pattern is read sign by sign: a percent sign stands for any characters, an underscore for any one,
and a backslash lets the character behind it stand for itself. What is escaped is read as its own
characters, so it matches itself and nothing else, and where it has to stand in a text depends only
on the wildcards that are put around it.
-/

namespace Crosstab.Sql

open Text

/-! ## Signs -/

/-- What a pattern asks for at a place. -/
inductive Sign where
  /-- Any characters, or none. -/
  | anything
  /-- Any one character. -/
  | anyOne
  | letter (c : Char)
  deriving DecidableEq

/-- The sign of a character that is not escaped. -/
def signOf (c : Char) : Sign :=
  if c = '%' then .anything else if c = '_' then .anyOne else .letter c

/-- The signs of a pattern; a pattern has none if nothing stands behind an escape. -/
def signs? : List Char → Option (List Sign)
  | [] => some []
  | [c] => if c = '\\' then none else some [signOf c]
  | c :: d :: cs =>
    if c = '\\' then (signs? cs).map (.letter d :: ·) else (signs? (d :: cs)).map (signOf c :: ·)

/-- A character as it is escaped: wildcards and the escape itself stand behind an escape. -/
def escaped (c : Char) : List Char :=
  if c = '\\' ∨ c = '%' ∨ c = '_' then ['\\', c] else [c]

/-- The three replacements one after the other escape each character once: no later one changes what
an earlier one has put in. -/
theorem toList_escapeLike (s : String) : (escapeLike s).toList = s.toList.flatMap escaped := by
  simp only [escapeLike, replaceChar, String.toList_ofList, List.flatMap_assoc]
  refine List.flatMap_congr fun c _ => ?_
  by_cases hescape : c = '\\'
  · subst hescape
    decide
  by_cases hmany : c = '%'
  · subst hmany
    decide
  by_cases hone : c = '_'
  · subst hone
    decide
  simp [escaped, hescape, hmany, hone]

theorem signs?_cons {c : Char} (h : c ≠ '\\') (cs : List Char) :
    signs? (c :: cs) = (signs? cs).map (signOf c :: ·) := by
  cases cs with
  | nil => simp [signs?, h]
  | cons d cs => rw [signs?, if_neg h]

/-- An escaped text is read as its characters. -/
theorem signs?_escaped (v rest : List Char) :
    signs? (v.flatMap escaped ++ rest) = (signs? rest).map (v.map .letter ++ ·) := by
  induction v with
  | nil => simp
  | cons c v ih =>
    have hhead : signs? (escaped c ++ (v.flatMap escaped ++ rest)) =
        (signs? (v.flatMap escaped ++ rest)).map (.letter c :: ·) := by
      unfold escaped
      split
      · rw [List.cons_append, List.cons_append, List.nil_append, signs?, if_pos rfl]
      · next hplain =>
        obtain ⟨hescape, hmany, hone⟩ : c ≠ '\\' ∧ c ≠ '%' ∧ c ≠ '_' := by simpa using hplain
        rw [List.singleton_append, signs?_cons hescape, signOf, if_neg hmany, if_neg hone]
    rw [List.flatMap_cons, List.append_assoc, hhead, ih, Option.map_map]
    rfl

/-- A wildcard for any characters may stand in front of any pattern. -/
theorem signs?_behind (pattern : String) :
    signs? ("%" ++ pattern).toList = (signs? pattern.toList).map (.anything :: ·) := by
  have hcons : ("%" ++ pattern).toList = '%' :: pattern.toList := String.toList_append
  rw [hcons, signs?_cons (by decide)]
  rfl

/-- An escaped text and what comes behind it. -/
theorem signs?_escapeLike (v pattern : String) :
    signs? (escapeLike v ++ pattern).toList =
      (signs? pattern.toList).map (v.toList.map .letter ++ ·) := by
  rw [String.toList_append, toList_escapeLike, signs?_escaped]

/-! ## Matches -/

section Match

variable (same : Char → Char → Bool)

/-- Whether characters match signs, where a letter matches the characters that count as the same.
For any characters all ends of what is left are tried. -/
def accepts : List Sign → List Char → Bool
  | [], cs => cs.isEmpty
  | .letter _ :: _, [] => false
  | .letter c :: signs, d :: ds => same c d && accepts signs ds
  | .anyOne :: _, [] => false
  | .anyOne :: signs, _ :: ds => accepts signs ds
  | .anything :: signs, cs => cs.tails.any (accepts signs)

/-- Whether a text matches a pattern. -/
def isLike (pattern s : String) : Bool :=
  (signs? pattern.toList).any (accepts same · s.toList)

/-- The characters of a text stand, as they count as the same, at a place in another one: anywhere,
at its start or at its end. -/
def Stands (place : List Char → List Char → Prop) (v s : String) : Prop :=
  ∃ part, List.Forall₂ (fun c d => same c d = true) v.toList part ∧ place part s.toList

variable {same}

theorem stands_beq {place : List Char → List Char → Prop} {v s : String} :
    Stands (· == ·) place v s ↔ place v.toList s.toList := by
  simp [Stands, List.forall₂_eq_eq_eq]

theorem accepts_anything {signs : List Sign} {cs : List Char} :
    accepts same (.anything :: signs) cs = true ↔
      ∃ before after, before ++ after = cs ∧ accepts same signs after = true := by
  rw [accepts, List.any_eq_true]
  constructor
  · rintro ⟨after, hafter, haccepts⟩
    obtain ⟨before, hcs⟩ := (List.mem_tails _ _).1 hafter
    exact ⟨before, after, hcs, haccepts⟩
  · rintro ⟨before, after, hcs, haccepts⟩
    exact ⟨after, (List.mem_tails _ _).2 ⟨before, hcs⟩, haccepts⟩

/-- Letters match the same ones, and what follows them matches what is left. -/
theorem accepts_letters {v : List Char} {signs : List Sign} {cs : List Char} :
    accepts same (v.map .letter ++ signs) cs = true ↔
      ∃ part after, part ++ after = cs ∧ List.Forall₂ (fun c d => same c d = true) v part ∧
        accepts same signs after = true := by
  induction v generalizing cs with
  | nil => simp
  | cons c v ih =>
    cases cs with
    | nil => simp [accepts]
    | cons d ds =>
      rw [List.map_cons, List.cons_append, accepts, Bool.and_eq_true, ih]
      constructor
      · rintro ⟨hsame, part, after, rfl, hpart, hafter⟩
        exact ⟨d :: part, after, rfl, .cons hsame hpart, hafter⟩
      · rintro ⟨part, after, hcs, hpart, hafter⟩
        obtain ⟨e, rest, hsame, hrest, rfl⟩ := List.forall₂_cons_left_iff.1 hpart
        obtain ⟨rfl, rfl⟩ := List.cons.inj hcs
        exact ⟨hsame, rest, after, rfl, hrest, hafter⟩

theorem accepts_rest (cs : List Char) : accepts same [.anything] cs = true :=
  accepts_anything.2 ⟨cs, [], List.append_nil cs, rfl⟩

/-! ## Escaped texts in patterns -/

section Escaped

variable {v s : String}

theorem isLike_iff {pattern : String} {signs : List Sign}
    (h : signs? pattern.toList = some signs) :
    isLike same pattern s = true ↔ accepts same signs s.toList = true := by
  rw [isLike, h]
  rfl

/-- In front of any characters an escaped text matches the texts that start with it. -/
theorem isLike_start :
    isLike same (escapeLike v ++ "%") s = true ↔ Stands same (· <+: ·) v s := by
  have hsigns : signs? (escapeLike v ++ "%").toList = some (v.toList.map .letter ++ [.anything]) :=
    signs?_escapeLike v "%"
  rw [isLike_iff hsigns, accepts_letters]
  constructor
  · rintro ⟨part, after, hs, hpart, -⟩
    exact ⟨part, hpart, after, hs⟩
  · rintro ⟨part, hpart, after, hs⟩
    exact ⟨part, after, hs, hpart, accepts_rest after⟩

/-- Behind any characters it matches the texts that end with it. -/
theorem isLike_end :
    isLike same ("%" ++ escapeLike v) s = true ↔ Stands same (· <:+ ·) v s := by
  have hsigns : signs? ("%" ++ escapeLike v).toList =
      some (.anything :: (v.toList.map .letter ++ [])) := by
    rw [signs?_behind, ← String.append_empty (s := escapeLike v), signs?_escapeLike]
    rfl
  rw [isLike_iff hsigns, accepts_anything]
  constructor
  · rintro ⟨before, behind, hs, hbehind⟩
    obtain ⟨part, after, rfl, hpart, hafter⟩ := accepts_letters.1 hbehind
    obtain rfl := List.isEmpty_iff.1 hafter
    exact ⟨part, hpart, before, by rw [← hs, List.append_nil]⟩
  · rintro ⟨part, hpart, before, hs⟩
    exact ⟨before, part, hs, accepts_letters.2 ⟨part, [], List.append_nil part, hpart, rfl⟩⟩

/-- Between any characters it matches the texts that have it in them. -/
theorem isLike_within :
    isLike same ("%" ++ escapeLike v ++ "%") s = true ↔ Stands same (· <:+: ·) v s := by
  have hsigns : signs? ("%" ++ escapeLike v ++ "%").toList =
      some (.anything :: (v.toList.map .letter ++ [.anything])) := by
    rw [String.append_assoc, signs?_behind, signs?_escapeLike]
    rfl
  rw [isLike_iff hsigns, accepts_anything]
  constructor
  · rintro ⟨before, behind, hs, hbehind⟩
    obtain ⟨part, after, rfl, hpart, -⟩ := accepts_letters.1 hbehind
    exact ⟨part, hpart, before, after, by rw [← hs, List.append_assoc]⟩
  · rintro ⟨part, hpart, before, after, hs⟩
    refine ⟨before, part ++ after, by rw [← hs, List.append_assoc], ?_⟩
    exact accepts_letters.2 ⟨part, after, rfl, hpart, accepts_rest after⟩

end Escaped

end Match

end Crosstab.Sql
