import Crosstab.Value.Display
import Crosstab.Text.Quoted

/-!
# Writing JSON

All characters outside of printable ASCII are escaped. Decimals, dates and moments are written as
strings of their plain form. The compact layout has no blanks; the other one puts each item on a
line of its own, indented by two blanks for each level.

Models `dumps`.
-/

namespace Crosstab.Json

open Number Text

/-- A character outside of printable ASCII as one code escape or a pair of them. -/
def codeEscapes (c : Char) : List Char :=
  let unit (n : Nat) : List Char := '\\' :: 'u' :: hexDigits 4 n
  let code := Surrogate.code c
  if code < 0x10000 then unit code
  else
    let n := code - 0x10000
    unit (0xD800 + n / 0x400) ++ unit (0xDC00 + n % 0x400)

/-- A character as it stands in a string. -/
def escapedChar (c : Char) : List Char :=
  if c == '"' || c == '\\' then ['\\', c]
  else if c == '\n' then ['\\', 'n']
  else if c == '\r' then ['\\', 'r']
  else if c == '\t' then ['\\', 't']
  else if c == '\x0c' then ['\\', 'f']
  else if c == '\x08' then ['\\', 'b']
  else if 32 ≤ c.toNat && c.toNat < 127 then [c]
  else codeEscapes c

/-- A string between its quotes. -/
def stringText (s : String) : String :=
  String.ofList ('"' :: s.toList.flatMap escapedChar ++ ['"'])

/-- A binary number, where what is not finite is spelled out. -/
def realText : Binary64 → String
  | .nan => "NaN"
  | .infinite s => if s then "-Infinity" else "Infinity"
  | x => x.text

/-- A value that has no parts. -/
def scalarText : Value → String
  | .null => "null"
  | .bool b => if b then "true" else "false"
  | .int n => intText n
  | .real x => realText x
  | v => stringText v.display

/-! ## Compact layout -/

mutual

/-- A value without blanks. -/
def compact : Value → String
  | .list items => "[" ++ ",".intercalate (compactItems items) ++ "]"
  | .record members => "\x7b" ++ ",".intercalate (compactMembers members) ++ "\x7d"
  | v => scalarText v

/-- The items of a list without blanks. -/
def compactItems : List Value → List String
  | [] => []
  | v :: rest => compact v :: compactItems rest

/-- The members of a record without blanks. -/
def compactMembers : List (String × Value) → List String
  | [] => []
  | (k, v) :: rest => (stringText k ++ ":" ++ compact v) :: compactMembers rest

end

/-! ## Indented layout -/

/-- A line break and the indentation of a level. -/
def lineBreak (level : Nat) : String :=
  String.ofList ('\n' :: List.replicate (2 * level) ' ')

/-- Parts on lines of their own between brackets that stand at the given level. -/
def block (level : Nat) (opening closing : String) (parts : List String) : String :=
  if parts.isEmpty then opening ++ closing
  else
    opening ++ lineBreak (level + 1) ++ ("," ++ lineBreak (level + 1)).intercalate parts ++
      lineBreak level ++ closing

mutual

/-- A value at the given level. -/
def indented (level : Nat) : Value → String
  | .list items => block level "[" "]" (indentedItems (level + 1) items)
  | .record members => block level "\x7b" "\x7d" (indentedMembers (level + 1) members)
  | v => scalarText v

/-- The items of a list at the given level. -/
def indentedItems (level : Nat) : List Value → List String
  | [] => []
  | v :: rest => indented level v :: indentedItems level rest

/-- The members of a record at the given level. -/
def indentedMembers (level : Nat) : List (String × Value) → List String
  | [] => []
  | (k, v) :: rest => (stringText k ++ ": " ++ indented level v) :: indentedMembers level rest

end

end Crosstab.Json
