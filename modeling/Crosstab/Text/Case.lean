import Crosstab.Text.CaseTable

/-!
# Upper and lower case

All letters are put in upper or lower case with the full mappings: a letter may become several.
Lower case looks at the context in one place: a capital sigma that ends a word becomes the final
sigma.

Models `upper` and `lower`.
-/

namespace Crosstab.Text

namespace CaseRun

/-- The letter that the run maps the character to, if it is in the run. -/
def image? (r : CaseRun) (c : Char) : Option Char :=
  if r.first ≤ c.toNat && c.toNat ≤ r.last && (c.toNat - r.first) % r.stride == 0 then
    some (Char.ofNat (c.toNat + r.shift).toNat)
  else none

end CaseRun

/-- The characters a table of runs and expansions maps a character to; one in neither stays. -/
def mapCase (runs : List CaseRun) (expansions : List (Nat × List Nat)) (c : Char) : List Char :=
  match runs.findSome? (·.image? c) with
  | some d => [d]
  | none =>
    match expansions.lookup c.toNat with
    | some ds => ds.map Char.ofNat
    | none => [c]

/-- The upper-case form of a character. -/
def upperChar (c : Char) : List Char :=
  if c.toNat < 128 then [c.toUpper] else mapCase upperRuns upperExpansions c

/-- The lower-case form of a character outside of any word. -/
def lowerChar (c : Char) : List Char :=
  if c.toNat < 128 then [c.toLower] else mapCase lowerRuns lowerExpansions c

/-- The text in upper case. -/
def upper (s : String) : String :=
  String.ofList (s.toList.flatMap upperChar)

/-! ## Lower case -/

/-- Whether the nearest character that is not skipped is a cased one. -/
def startsCased (cs : List Char) : Bool :=
  match cs.dropWhile (inRanges caseIgnorableRanges) with
  | [] => false
  | c :: _ => inRanges casedRanges c

/-- The capital sigma, which has two lower-case forms. -/
def capitalSigma : Char := 'Σ'

/-- The lower-case form of the characters, of which `before` are the preceding ones, the nearest
first: a capital sigma that follows a cased character and precedes none is final. -/
def lowerAfter (before : List Char) : List Char → List Char
  | [] => []
  | c :: rest =>
    let form :=
      if c == capitalSigma then
        if startsCased before && !startsCased rest then ['ς'] else ['σ']
      else lowerChar c
    form ++ lowerAfter (c :: before) rest

/-- The text in lower case. -/
def lower (s : String) : String :=
  String.ofList (lowerAfter [] s.toList)

end Crosstab.Text
