import Crosstab.Text.Quoted

/-!
# Reading UTF-8

A text is read from bytes one character at a time; the leading byte says which ranges the following
bytes must lie in, and the first byte outside of them is the error. An error covers the bytes of the
broken character that were read before it.

Models `decode` of bytes.
-/

namespace Crosstab.Text.Utf8

/-- Why bytes are not UTF-8. -/
inductive Fault where
  /-- A byte that starts no character. -/
  | invalidStart
  /-- A character is broken off by a byte that does not continue it. -/
  | invalidContinuation
  /-- The bytes end inside a character. -/
  | unexpectedEnd
  deriving Repr, DecidableEq

/-- A fault with the place of the broken character: its position, its first byte and the number
of bytes that belong to it. -/
structure DecodeError where
  fault : Fault
  position : Nat
  first : UInt8
  count : Nat
  deriving Repr, DecidableEq

/-- What is wrong, in words. -/
def Fault.reason : Fault → String
  | .invalidStart => "invalid start byte"
  | .invalidContinuation => "invalid continuation byte"
  | .unexpectedEnd => "unexpected end of data"

/-- The error in words: one byte is shown with its value, several by their positions. -/
def DecodeError.message (e : DecodeError) : String :=
  let place :=
    if e.count ≤ 1 then
      let shown := String.ofList (hexDigits 2 e.first.toNat)
      s!"byte 0x{shown} in position {e.position}"
    else s!"bytes in position {e.position}-{e.position + e.count - 1}"
  s!"'utf-8' codec can't decode {place}: {e.fault.reason}"

/-- The ranges that the bytes after a leading byte must lie in, and the bits that the leading
byte contributes. -/
def tailRanges? (b : UInt8) : Option (Nat × List (Nat × Nat)) :=
  let n := b.toNat
  let any := (0x80, 0xBF)
  if n < 0x80 then some (n, [])
  else if n < 0xC2 then none
  else if n < 0xE0 then some (n - 0xC0, [any])
  else if n == 0xE0 then some (0, [(0xA0, 0xBF), any])
  else if n == 0xED then some (n - 0xE0, [(0x80, 0x9F), any])
  else if n < 0xF0 then some (n - 0xE0, [any, any])
  else if n == 0xF0 then some (0, [(0x90, 0xBF), any, any])
  else if n < 0xF4 then some (n - 0xF0, [any, any, any])
  else if n == 0xF4 then some (n - 0xF0, [(0x80, 0x8F), any, any])
  else none

/-- Reads the bytes that continue a character, six bits each. An error counts the bytes that
were in range. -/
def readTail (bits : Nat) : List (Nat × Nat) → List UInt8 → Except (Fault × Nat) Nat
  | [], _ => .ok bits
  | _ :: _, [] => .error (.unexpectedEnd, 0)
  | r :: rs, b :: bs =>
    if r.1 ≤ b.toNat && b.toNat ≤ r.2 then
      match readTail (bits * 64 + (b.toNat - 0x80)) rs bs with
      | .ok code => .ok code
      | .error (fault, count) => .error (fault, count + 1)
    else .error (.invalidContinuation, 0)

/-- Reads the characters of bytes that start at the given position. -/
def decodeFrom (position : Nat) : List UInt8 → Except DecodeError (List Char)
  | [] => .ok []
  | b :: bs =>
    match tailRanges? b with
    | none => .error ⟨.invalidStart, position, b, 1⟩
    | some (bits, ranges) =>
      match readTail bits ranges bs with
      | .error (fault, count) => .error ⟨fault, position, b, count + 1⟩
      | .ok code =>
        match decodeFrom (position + 1 + ranges.length) (bs.drop ranges.length) with
        | .ok cs => .ok (Char.ofNat code :: cs)
        | .error e => .error e
termination_by bs => bs.length
decreasing_by simp only [List.length_drop, List.length_cons]; omega

/-- The text that the bytes are the UTF-8 form of. -/
def decode (bytes : List UInt8) : Except DecodeError String :=
  (decodeFrom 0 bytes).map String.ofList

end Crosstab.Text.Utf8
