import Crosstab.Text.Printable
import Crosstab.Text.Surrogate

/-!
# Quoted texts

Error messages and composite values show a text in its quoted form. The quote is `'`, or `"` for a
text that holds `'` and no `"`. The quote itself, the backslash and the characters without a visible
form are escaped.

Models `repr` of a text.
-/

namespace Crosstab.Text

/-- The lower-case hexadecimal digits of a number, with leading zeros up to the given width. -/
def hexDigits (width n : Nat) : List Char :=
  let ds := Nat.toDigits 16 n
  List.replicate (width - ds.length) '0' ++ ds

/-- The escape that names a character by its code point, in the shortest of three widths. -/
def codeEscape (c : Char) : List Char :=
  let code := Surrogate.code c
  if code < 0x100 then '\\' :: 'x' :: hexDigits 2 code
  else if code < 0x10000 then '\\' :: 'u' :: hexDigits 4 code
  else '\\' :: 'U' :: hexDigits 8 code

/-- A character as it stands between the given quotes. -/
def quotedChar (quote c : Char) : List Char :=
  if c == quote || c == '\\' then ['\\', c]
  else if c == '\n' then ['\\', 'n']
  else if c == '\r' then ['\\', 'r']
  else if c == '\t' then ['\\', 't']
  else if isPrintable c then [c]
  else codeEscape c

/-- The quote a text is written between. -/
def quoteFor (s : String) : Char :=
  if s.toList.contains '\'' && !s.toList.contains '"' then '"' else '\''

/-- The text between quotes, escaped. -/
def quoted (s : String) : String :=
  let q := quoteFor s
  String.ofList (q :: s.toList.flatMap (quotedChar q) ++ [q])

end Crosstab.Text
