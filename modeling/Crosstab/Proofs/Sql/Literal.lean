import Crosstab.Loading
import Crosstab.Proofs.Sql.Scan

/-!
# Quoted text

A text is quoted by writing each quote of its own twice and one quote on either side. To the scan of
placeholders the two are the end of a quote and the beginning of another with nothing in between, so
it never looks at what is quoted: a quoted text is inert whatever it holds, and a text has the same
placeholders with it as without.
-/

namespace Crosstab.Sql

open Text

/-- The text between quotes, with each quote that it holds written twice. -/
def quotedBy (q : Char) (s : String) : String :=
  String.singleton q ++ replaceChar q (String.ofList [q, q]) s ++ String.singleton q

/-- A character as it is written between quotes. -/
def doubled (q c : Char) : List Char :=
  if c = q then [q, q] else [c]

theorem toList_quotedBy (q : Char) (s : String) :
    (quotedBy q s).toList = q :: (s.toList.flatMap (doubled q) ++ [q]) := by
  have hdoubled : (fun d => if d == q then [q, q] else [d]) = doubled q := by
    funext d
    simp only [doubled, beq_iff_eq]
  simp only [quotedBy, replaceChar, String.toList_append, String.toList_ofList,
    String.toList_singleton, hdoubled, List.cons_append, List.nil_append]

theorem flatMap_doubled {q : Char} {cs : List Char} (h : q ∉ cs) :
    cs.flatMap (doubled q) = cs := by
  induction cs with
  | nil => rfl
  | cons c cs ih =>
    obtain ⟨hne, hrest⟩ := not_or.1 (mt List.mem_cons.2 h)
    rw [List.flatMap_cons, doubled, if_neg (Ne.symm hne), ih hrest, List.singleton_append]

/-- A text without quotes of its own is only put between quotes. -/
theorem quotedBy_of_notMem {q : Char} {s : String} (h : q ∉ s.toList) :
    quotedBy q s = String.singleton q ++ s ++ String.singleton q := by
  refine String.toList_inj.1 ?_
  rw [toList_quotedBy, flatMap_doubled h]
  simp

section Quote

variable {q : Char} (hq : q = '\'' ∨ q = '"')

include hq

/-- What is written between quotes leaves the scan inside of them. -/
theorem scan_doubled (cs : List Char) :
    scanFrom (some q) (cs.flatMap (doubled q)) = some q ∧
      countFrom (some q) (cs.flatMap (doubled q)) = 0 := by
  induction cs with
  | nil => exact ⟨rfl, rfl⟩
  | cons c cs ih =>
    obtain ⟨hscan, hcount⟩ := ih
    rw [List.flatMap_cons, scanFrom_append, countFrom_append]
    by_cases hc : c = q
    · -- the first quote ends what the second begins
      have hpair : scanFrom (some q) (doubled q c) = some q ∧
          countFrom (some q) (doubled q c) = 0 := by
        rw [doubled, if_pos hc, scanFrom_cons, countFrom_cons, quoteAfter_same, scanFrom_cons,
          countFrom_cons, quoteAfter_none hq, isPlaceholder_quote hq, isPlaceholder_quote hq]
        exact ⟨rfl, rfl⟩
      rw [hpair.1, hpair.2, hscan, hcount]
      exact ⟨rfl, rfl⟩
    · have hother : q ∉ doubled q c := by
        rw [doubled, if_neg hc]
        exact mt List.mem_singleton.1 (Ne.symm hc)
      obtain ⟨hinside, hnone⟩ := scan_quoted hother
      rw [hinside, hnone, hscan, hcount]
      exact ⟨rfl, rfl⟩

/-- Quoted text is inert, whatever it holds. -/
theorem inert_quotedBy (s : String) : Inert (quotedBy q s) := by
  obtain ⟨hscan, hcount⟩ := scan_doubled hq s.toList
  constructor
  · rw [Balanced, toList_quotedBy, scanFrom_cons, quoteAfter_none hq, scanFrom_append, hscan,
      scanFrom_cons, quoteAfter_same]
    rfl
  · rw [countPlaceholders, toList_quotedBy, countFrom_cons, quoteAfter_none hq, countFrom_append,
      hscan, hcount, countFrom_cons, isPlaceholder_quote hq, isPlaceholder_quote hq]
    simp

end Quote

/-- The statement that creates a table from its files has no placeholder, whatever characters the
path of the files has: it is quoted. -/
theorem inert_createStatement {table : String} (htable : Inert table) (format : FileFormat)
    (d : Directory) : Inert (d.createStatement table format) := by
  have hsql : d.createStatement table format =
      "CREATE OR REPLACE TABLE " ++ table ++ " AS SELECT * FROM " ++ format.reader ++ "(" ++
        quotedBy '\'' (d.pathOf (table ++ "*." ++ format.suffix)) ++ ")" := by
    have hopen : "('" = "(" ++ "'" := rfl
    have hclose : "')" = "'" ++ ")" := rfl
    show "CREATE OR REPLACE TABLE " ++ table ++ " AS SELECT * FROM " ++ format.reader ++ "('" ++
      replaceChar '\'' "''" (d.pathOf (table ++ "*." ++ format.suffix)) ++ "')" = _
    rw [hopen, hclose, quotedBy]
    simp only [String.append_assoc]
    rfl
  have hreader : Inert format.reader := by cases format <;> decide
  have hfront : Inert ("CREATE OR REPLACE TABLE " ++ table ++ " AS SELECT * FROM ") :=
    (Inert.append (by decide) htable).append (by decide)
  have hopen : Inert "(" := by decide
  rw [hsql]
  exact (((hfront.append hreader).append hopen).append (inert_quotedBy (.inl rfl) _)).append
    (by decide)

/-! ## Placeholders around quoted text -/

/-- Quoted text neither hides placeholders nor makes any. Behind a balanced text it ends outside of
any quote, and what stands around it has the placeholders that it has by itself, so it is these that
the arguments of a fragment have to agree with. The count of a balanced text and that of any other
text behind it add up, too. -/
theorem quoted_text_is_not_counted {a : String} (ha : Balanced a) :
    (∀ q, q = '\'' ∨ q = '"' → ∀ s b,
      countPlaceholders (a ++ quotedBy q s ++ b) = countPlaceholders a + countPlaceholders b ∧
      Balanced (a ++ quotedBy q s) ∧
      ∀ args, (∃ f, Fragment.of (a ++ quotedBy q s ++ b) args = .ok f) ↔
        countPlaceholders a + countPlaceholders b = args.length) ∧
    ∀ b, countPlaceholders (a ++ b) = countPlaceholders a + countPlaceholders b := by
  refine ⟨fun q hq s b => ?_, countPlaceholders_append ha⟩
  obtain ⟨hbalanced, hnone⟩ := inert_quotedBy hq s
  have hfront : Balanced (a ++ quotedBy q s) := ha.append hbalanced
  have hcount : countPlaceholders (a ++ quotedBy q s ++ b) =
      countPlaceholders a + countPlaceholders b := by
    rw [countPlaceholders_append hfront, countPlaceholders_append ha, hnone, Nat.add_zero]
  exact ⟨hcount, hfront, fun args => by rw [Fragment.exists_of_iff, hcount]⟩

/-- A label with quotes of both kinds, a question mark and a backslash between two placeholders. -/
theorem odd_label_is_not_counted :
    quotedBy '\'' "it's \"what?\" \\" = "'it''s \"what?\" \\'" ∧
      countPlaceholders ("\"a?\" = ? AND b <> " ++ quotedBy '\'' "it's \"what?\" \\" ++
        " OR c < ?") = 2 ∧
      Balanced ("\"a?\" = ? AND b <> " ++ quotedBy '\'' "it's \"what?\" \\") := by
  obtain ⟨hquoted, -⟩ := quoted_text_is_not_counted
    (by decide : Balanced "\"a?\" = ? AND b <> ")
  obtain ⟨hcount, hbalanced, -⟩ := hquoted '\'' (.inl rfl) "it's \"what?\" \\" " OR c < ?"
  exact ⟨by decide, hcount, hbalanced⟩

end Crosstab.Sql
