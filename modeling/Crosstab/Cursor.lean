import Crosstab.Failure
import Crosstab.Json.Writer

/-!
# Cursors

A cursor is a record as clients carry it: its JSON text in the digits of base 64, which are safe in
an address, without padding. Clients do not look into it; a text that is not the text of a record
with a value is rejected.

Models `CursorCodec`.
-/

namespace Crosstab.Cursor

open Text

/-- The text of a cursor. -/
def encode (payload : Value) : String :=
  String.ofList (Base64.encode (Json.compact payload).toUTF8.toList)

/-- The padding that brings a text to whole groups of four. -/
def padding (length : Nat) : String :=
  String.ofList (List.replicate ((4 - length % 4) % 4) '=')

/-- The value that the digits of a cursor spell. -/
def read (token : String) : Outcome Value := do
  let bytes ← (Base64.decode (token ++ padding token.length)).mapError
    fun e => .unusable (.base64 e)
  let text ← (Utf8.decode bytes).mapError fun e => .unusable (.utf8 e)
  (Json.read text).mapError .ofRead

/-- The members of the record that a cursor spells; null and blank text are no cursor. -/
def decode (cursor : Value) : Outcome (Option (List (String × Value))) :=
  let token := if cursor == .null then "" else trim cursor.display
  if token.isEmpty then .ok none
  else
    match read token with
    | .error e => reject .invalidCursor e.message
    | .ok (.record members) =>
      if (valueOf? "v" members).isSome then .ok (some members)
      else reject .invalidCursor "unrecognized cursor"
    | .ok _ => reject .invalidCursor "unrecognized cursor"

end Crosstab.Cursor
