/-!
# Base 64

Texts hold bytes in base 64, with the alphabet that is safe in addresses, `-` and `_` as the last
two digits. Writing leaves the padding off. Reading is lenient: it takes `+` and `/` as well, passes
over characters outside the alphabet and stops at complete padding.

Models `urlsafe_b64encode` and `urlsafe_b64decode`.
-/

namespace Crosstab.Text.Base64

/-! ## Writing -/

/-- The character of a digit below 64. -/
def digitChar (n : Nat) : Char :=
  if n < 26 then Char.ofNat (65 + n)
  else if n < 52 then Char.ofNat (97 + (n - 26))
  else if n < 62 then Char.ofNat (48 + (n - 52))
  else if n == 62 then '-' else '_'

/-- The digits of bytes, four for three bytes, and of the one or two that remain only as many as
hold bits. -/
def encode : List UInt8 → List Char
  | [] => []
  | [a] => [digitChar (a.toNat / 4), digitChar (a.toNat % 4 * 16)]
  | [a, b] =>
    [digitChar (a.toNat / 4), digitChar (a.toNat % 4 * 16 + b.toNat / 16),
      digitChar (b.toNat % 16 * 4)]
  | a :: b :: c :: rest =>
    digitChar (a.toNat / 4) :: digitChar (a.toNat % 4 * 16 + b.toNat / 16) ::
      digitChar (b.toNat % 16 * 4 + c.toNat / 64) :: digitChar (c.toNat % 64) :: encode rest

/-! ## Reading -/

/-- Why a text is not base 64. -/
inductive DecodeError where
  /-- A character that is not ASCII. -/
  | notAscii
  /-- A single digit is left over after so many whole groups; it holds too few bits. -/
  | loneDigit (groups : Nat)
  /-- Two or three digits are left over and not padded. -/
  | incorrectPadding
  deriving Repr, DecidableEq

/-- The error in words. -/
def DecodeError.message : DecodeError → String
  | .notAscii => "string argument should contain only ASCII characters"
  | .loneDigit groups =>
    s!"Invalid base64-encoded string: number of data characters ({groups * 4 + 1}) cannot be " ++
      "1 more than a multiple of 4"
  | .incorrectPadding => "Incorrect padding"

/-- The value of a digit of either alphabet. -/
def digitValue? (c : Char) : Option Nat :=
  let n := c.toNat
  if 65 ≤ n && n ≤ 90 then some (n - 65)
  else if 97 ≤ n && n ≤ 122 then some (n - 97 + 26)
  else if 48 ≤ n && n ≤ 57 then some (n - 48 + 52)
  else if c == '+' || c == '-' then some 62
  else if c == '/' || c == '_' then some 63
  else none

/-- The bytes that a group of up to four digits completes. -/
def groupBytes : List Nat → List UInt8
  | [a, b] => [(a * 4 + b / 16).toUInt8]
  | [a, b, c] => [(a * 4 + b / 16).toUInt8, (b % 16 * 16 + c / 4).toUInt8]
  | [a, b, c, d] =>
    [(a * 4 + b / 16).toUInt8, (b % 16 * 16 + c / 4).toUInt8, (c % 4 * 64 + d).toUInt8]
  | _ => []

/-- Reads the characters after `groups` whole groups and the digits of an open one, of which
`pads` padding marks have been seen since the last digit. -/
def decodeFrom (groups : Nat) (open_ : List Nat) (pads : Nat) :
    List Char → Except DecodeError (List UInt8)
  | [] =>
    match open_ with
    | [] => .ok []
    | [_] => .error (.loneDigit groups)
    | _ => .error .incorrectPadding
  | c :: rest =>
    if c == '=' then
      if 2 ≤ open_.length then
        if 4 ≤ open_.length + pads + 1 then .ok (groupBytes open_)
        else decodeFrom groups open_ (pads + 1) rest
      else decodeFrom groups open_ pads rest
    else
      match digitValue? c with
      | none => decodeFrom groups open_ pads rest
      | some d =>
        if open_.length == 3 then
          (decodeFrom (groups + 1) [] 0 rest).map (groupBytes (open_ ++ [d]) ++ ·)
        else decodeFrom groups (open_ ++ [d]) 0 rest

/-- The bytes that the text holds. -/
def decode (s : String) : Except DecodeError (List UInt8) :=
  if s.toList.all (·.toNat < 128) then decodeFrom 0 [] 0 s.toList
  else .error .notAscii

end Crosstab.Text.Base64
