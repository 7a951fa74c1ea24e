import Crosstab.Value.Basic
import Crosstab.Number.Numeral
import Crosstab.Text.Surrogate

/-!
# Reading JSON

A number with a fraction or an exponent is a binary number, any other a whole number of any size;
`NaN` and the infinities are taken as numbers. Members keep their order, and a repeated key keeps
its first place and its last value. An error tells what was expected and where.

The reader works on the remaining characters and their position. Each value takes at least one
character, so the number of characters bounds the depth of the recursion.

Models `loads`.
-/

namespace Crosstab.Json

open Number
open Text.Surrogate (isHigh isLow ofUnit ofPair)

/-! ## Errors -/

/-- What a text breaks of the grammar. -/
inductive Fault where
  | byteOrderMark
  | value
  | extraData
  | propertyName
  | colon
  | comma
  | unterminated
  | controlCharacter
  | escape
  | codeEscape
  deriving Repr, DecidableEq

/-- The fault in words. -/
def Fault.message : Fault → String
  | .byteOrderMark => "Unexpected UTF-8 BOM (decode using utf-8-sig)"
  | .value => "Expecting value"
  | .extraData => "Extra data"
  | .propertyName => "Expecting property name enclosed in double quotes"
  | .colon => "Expecting ':' delimiter"
  | .comma => "Expecting ',' delimiter"
  | .unterminated => "Unterminated string starting at"
  | .controlCharacter => "Invalid control character at"
  | .escape => "Invalid \\escape"
  | .codeEscape => "Invalid \\uXXXX escape"

/-- A fault and its place: the position counts from zero, line and column from one. -/
structure SyntaxError where
  fault : Fault
  position : Nat
  line : Nat
  column : Nat
  deriving Repr, DecidableEq

/-- The error in words, with its place. -/
def SyntaxError.message (e : SyntaxError) : String :=
  s!"{e.fault.message}: line {e.line} column {e.column} (char {e.position})"

/-- Why a text is not read: it breaks the grammar, or a number in it is too long. -/
inductive ReadError where
  | malformed (e : SyntaxError)
  | numeral (e : NumeralError)
  deriving Repr, DecidableEq

/-- A fault with its position, or a numeral that is too long. -/
inductive Failed where
  | at_ (fault : Fault) (position : Nat)
  | numeral (e : NumeralError)

/-- The rest of a text, with its position. -/
abbrev Rest := Nat × List Char

/-! ## Characters -/

/-- The blanks that may stand between the parts of JSON text. -/
def isSpace (c : Char) : Bool :=
  c == ' ' || c == '\t' || c == '\n' || c == '\r'

/-- Passes over blanks. -/
def skipSpace (position : Nat) : List Char → Rest
  | [] => (position, [])
  | c :: cs => if isSpace c then skipSpace (position + 1) cs else (position, c :: cs)

/-- The value of a hexadecimal digit. -/
def hexValue? (c : Char) : Option Nat :=
  if '0' ≤ c && c ≤ '9' then some (c.toNat - 48)
  else if 'a' ≤ c && c ≤ 'f' then some (c.toNat - 87)
  else if 'A' ≤ c && c ≤ 'F' then some (c.toNat - 55)
  else none

/-- The number that four hexadecimal digits at the front spell. -/
def hexUnit? : List Char → Option Nat
  | a :: b :: c :: d :: _ => do
    return ((← hexValue? a) * 16 + (← hexValue? b)) * 256 + (← hexValue? c) * 16 + (← hexValue? d)
  | _ => none

/-- The character that a letter after a backslash stands for. -/
def simpleEscape? (c : Char) : Option Char :=
  if c == '"' || c == '\\' || c == '/' then some c
  else if c == 'b' then some '\x08'
  else if c == 'f' then some '\x0c'
  else if c == 'n' then some '\n'
  else if c == 'r' then some '\r'
  else if c == 't' then some '\t'
  else none

/-- Reads the four digits of a code escape at the given position, and of the pair they open the
second half too; `cs` follows the letter `u`. -/
def readUnit (position : Nat) (cs : List Char) : Except Failed (Char × Rest) :=
  if cs.length ≤ 4 then .error (.at_ .codeEscape (position - 1))
  else
    match hexUnit? cs with
    | none => .error (.at_ .codeEscape (position - 1))
    | some high =>
      let rest := cs.drop 4
      match rest with
      | '\\' :: 'u' :: tail =>
        if isHigh high && 6 < rest.length then
          match hexUnit? tail with
          | none => .error (.at_ .codeEscape (position + 5))
          | some low =>
            if isLow low then .ok (ofPair high low, position + 10, tail.drop 4)
            else .ok (ofUnit high, position + 4, rest)
        else .ok (ofUnit high, position + 4, rest)
      | _ => .ok (ofUnit high, position + 4, rest)

/-- Reads the characters of a string after its opening quote at `start`, at most `fuel` of
them. -/
def readChars (start : Nat) : Nat → Nat → List Char → Except Failed (List Char × Rest)
  | 0, _, _ => .error (.at_ .unterminated start)
  | _, _, [] => .error (.at_ .unterminated start)
  | fuel + 1, position, c :: cs =>
    if c == '"' then .ok ([], position + 1, cs)
    else if c == '\\' then
      match cs with
      | [] => .error (.at_ .unterminated start)
      | 'u' :: more => do
        let (d, position, rest) ← readUnit (position + 2) more
        let (ds, position, rest) ← readChars start fuel position rest
        .ok (d :: ds, position, rest)
      | e :: more =>
        match simpleEscape? e with
        | none => .error (.at_ .escape position)
        | some d => do
          let (ds, position, rest) ← readChars start fuel (position + 2) more
          .ok (d :: ds, position, rest)
    else if c.toNat ≤ 0x1f then .error (.at_ .controlCharacter position)
    else do
      let (ds, position, rest) ← readChars start fuel (position + 1) cs
      .ok (c :: ds, position, rest)

/-- Reads a string of at most `fuel` characters after its opening quote, which stands just before
`position`. -/
def readString (fuel position : Nat) (cs : List Char) : Except Failed (String × Rest) := do
  let (ds, position, rest) ← readChars (position - 1) (fuel + 1) position cs
  .ok (String.ofList ds, position, rest)

/-! ## Numbers -/

/-- The digits of the whole part: a zero stands alone. -/
def wholeDigits (cs : List Char) : List Char :=
  match cs with
  | '0' :: _ => ['0']
  | _ => cs.takeWhile isPlainDigit

/-- A point and the digits after it, nothing without a digit. -/
def fractionPart (cs : List Char) : List Char :=
  match cs with
  | '.' :: rest =>
    let ds := rest.takeWhile isPlainDigit
    if ds.isEmpty then [] else '.' :: ds
  | _ => []

/-- An exponent, nothing without a digit. -/
def exponentPart (cs : List Char) : List Char :=
  match cs with
  | e :: rest =>
    if e == 'e' || e == 'E' then
      let sign := rest.take 1 |>.filter fun c => c == '+' || c == '-'
      let ds := (rest.drop sign.length).takeWhile isPlainDigit
      if ds.isEmpty then [] else e :: (sign ++ ds)
    else []
  | [] => []

/-- Reads a number. -/
def readNumber (position : Nat) (cs : List Char) : Except Failed (Value × Rest) :=
  let sign := cs.take 1 |>.filter (· == '-')
  let body := cs.drop sign.length
  let whole := wholeDigits body
  if whole.isEmpty then .error (.at_ .value position)
  else
    let fraction := fractionPart (body.drop whole.length)
    let exponent := exponentPart (body.drop (whole.length + fraction.length))
    let numeral := sign ++ whole ++ fraction ++ exponent
    let rest := cs.drop numeral.length
    let next := position + numeral.length
    let s := String.ofList numeral
    if fraction.isEmpty && exponent.isEmpty then
      match readInt s with
      | .ok n => .ok (.int n, next, rest)
      | .error e => .error (.numeral e)
    else
      match readReal s with
      | .ok x => .ok (.real x, next, rest)
      | .error e => .error (.numeral e)

/-- The values that are spelled as words. -/
def words : List (String × Value) :=
  [("null", .null), ("true", .bool true), ("false", .bool false), ("NaN", .real .nan),
    ("Infinity", .real (.infinite false)), ("-Infinity", .real (.infinite true))]

/-- Reads a value that is a word or a number. -/
def readScalar (position : Nat) (cs : List Char) : Except Failed (Value × Rest) :=
  match words.find? fun w => w.1.toList.isPrefixOf cs with
  | some (w, v) => .ok (v, position + w.length, cs.drop w.length)
  | none => readNumber position cs

/-! ## Values -/

mutual

/-- Reads a value. The fuel is at least the number of characters left. -/
def readValue : Nat → Nat → List Char → Except Failed (Value × Rest)
  | _, position, [] => .error (.at_ .value position)
  | 0, position, _ => .error (.at_ .value position)
  | fuel + 1, position, c :: cs =>
    if c == '"' then do
      let (s, position, rest) ← readString fuel (position + 1) cs
      .ok (.text s, position, rest)
    else if c == '[' then
      match skipSpace (position + 1) cs with
      | (position, ']' :: rest) => .ok (.list [], position + 1, rest)
      | (position, rest) => do
        let (items, position, rest) ← readItems fuel position rest
        .ok (.list items, position, rest)
    else if c == '\x7b' then
      match skipSpace (position + 1) cs with
      | (position, '\x7d' :: rest) => .ok (.record [], position + 1, rest)
      | (position, rest) => do
        let (members, position, rest) ← readMembers fuel position rest
        .ok (Value.ofMembers members, position, rest)
    else readScalar position (c :: cs)

/-- Reads the items of a list up to its closing bracket. -/
def readItems : Nat → Nat → List Char → Except Failed (List Value × Rest)
  | 0, position, _ => .error (.at_ .value position)
  | fuel + 1, position, cs => do
    let (v, position, rest) ← readValue fuel position cs
    match skipSpace position rest with
    | (position, ']' :: rest) => .ok ([v], position + 1, rest)
    | (position, ',' :: rest) =>
      let (position, rest) := skipSpace (position + 1) rest
      let (vs, position, rest) ← readItems fuel position rest
      .ok (v :: vs, position, rest)
    | (position, _) => .error (.at_ .comma position)

/-- Reads the members of a record up to its closing brace. -/
def readMembers : Nat → Nat → List Char → Except Failed (List (String × Value) × Rest)
  | 0, position, _ => .error (.at_ .value position)
  | fuel + 1, position, cs =>
    match cs with
    | '"' :: rest => do
      let (key, position, rest) ← readString fuel (position + 1) rest
      match skipSpace position rest with
      | (position, ':' :: rest) =>
        let (position, rest) := skipSpace (position + 1) rest
        let (v, position, rest) ← readValue fuel position rest
        match skipSpace position rest with
        | (position, '\x7d' :: rest) => .ok ([(key, v)], position + 1, rest)
        | (position, ',' :: rest) =>
          let (position, rest) := skipSpace (position + 1) rest
          let (ms, position, rest) ← readMembers fuel position rest
          .ok ((key, v) :: ms, position, rest)
        | (position, _) => .error (.at_ .comma position)
      | (position, _) => .error (.at_ .colon position)
    | _ => .error (.at_ .propertyName position)

end

/-- Reads a value between blanks that is all of the text. -/
def readAll (cs : List Char) : Except Failed Value := do
  if cs.head? == some '\ufeff' then throw (.at_ .byteOrderMark 0)
  let (position, cs) := skipSpace 0 cs
  let (v, position, rest) ← readValue (2 * cs.length + 2) position cs
  match skipSpace position rest with
  | (_, []) => return v
  | (position, _) => throw (.at_ .extraData position)

/-- The line of a position and the characters of that line before it. -/
def lineAndColumn (cs : List Char) (position : Nat) : Nat × Nat :=
  let before := cs.take position
  let current := before.reverse.takeWhile (· != '\n')
  (before.count '\n' + 1, current.length + 1)

/-- Reads JSON text. -/
def read (s : String) : Except ReadError Value :=
  match readAll s.toList with
  | .ok v => .ok v
  | .error (.numeral e) => .error (.numeral e)
  | .error (.at_ fault position) =>
    let (line, column) := lineAndColumn s.toList position
    .error (.malformed ⟨fault, position, line, column⟩)

end Crosstab.Json
