import Crosstab.Text.Range

/-!
# Blank characters

A character is blank when Unicode counts it as white space, or when it is one of the four
information separators U+001C to U+001F. The zero-width space and the byte-order mark are not blank.

Models `strip`.
-/

namespace Crosstab.Text

/-- The blank characters, as inclusive ranges in increasing order. -/
def blankRanges : List CodeRange := [
  ⟨0x9, 0xD⟩, ⟨0x1C, 0x20⟩, ⟨0x85, 0x85⟩, ⟨0xA0, 0xA0⟩, ⟨0x1680, 0x1680⟩, ⟨0x2000, 0x200A⟩,
  ⟨0x2028, 0x2029⟩, ⟨0x202F, 0x202F⟩, ⟨0x205F, 0x205F⟩, ⟨0x3000, 0x3000⟩]

/-- Whether the character is blank. -/
def isBlankChar (c : Char) : Bool :=
  inRanges blankRanges c

/-- Whether the text has no character that is not blank. -/
def isBlank (s : String) : Bool :=
  s.toList.all isBlankChar

/-- The characters without the leading ones of a class. -/
def dropLeading (p : Char → Bool) (cs : List Char) : List Char :=
  cs.dropWhile p

/-- The characters without the trailing ones of a class. -/
def dropTrailing (p : Char → Bool) (cs : List Char) : List Char :=
  (cs.reverse.dropWhile p).reverse

/-- The characters without the leading and the trailing ones of a class. -/
def dropAround (p : Char → Bool) (cs : List Char) : List Char :=
  dropTrailing p (dropLeading p cs)

/-- The text without its leading and trailing blanks. -/
def trim (s : String) : String :=
  String.ofList (dropAround isBlankChar s.toList)

end Crosstab.Text
