/-!
# Searching and cutting text

Texts are searched, cut and replaced character by character.

Models `in`, `split`, `partition` and `replace` on texts.
-/

namespace Crosstab.Text

/-- Whether the part stands somewhere in the characters. -/
def occursIn (part : List Char) : List Char → Bool
  | [] => part.isEmpty
  | c :: cs => part.isPrefixOf (c :: cs) || occursIn part cs

/-- Whether the text has the part in it. -/
def holds (s part : String) : Bool :=
  occursIn part.toList s.toList

/-- The characters between the separators; there is one part more than separators. -/
def splitChars (separator : Char) : List Char → List (List Char)
  | [] => [[]]
  | c :: cs =>
    let parts := splitChars separator cs
    if c == separator then [] :: parts
    else
      match parts with
      | [] => [[c]]
      | p :: ps => (c :: p) :: ps

/-- The parts of the text between the separators. -/
def splitOn (separator : Char) (s : String) : List String :=
  (splitChars separator s.toList).map String.ofList

/-- The text with other text in place of a character. -/
def replaceChar (c : Char) (by_ : String) (s : String) : String :=
  String.ofList (s.toList.flatMap fun d => if d == c then by_.toList else [d])

/-- The text up to the first occurrence of the character, all of it if there is none. -/
def upTo (c : Char) (s : String) : String :=
  String.ofList (s.toList.takeWhile (· != c))

/-- The text before the first separator and, if there is one, the text behind it. -/
def cutAt (separator : Char) (s : String) : String × Option String :=
  match s.toList.dropWhile (· != separator) with
  | [] => (s, none)
  | _ :: behind => (upTo separator s, some (String.ofList behind))

end Crosstab.Text
