import Crosstab.Number.Notation
import Crosstab.Proofs.Sql.Truth

/-!
# The truth of conditions on stored values

Besides texts a row stores flags and whole numbers. A column that a condition names as it is stored
is compared by its value: a flag with flags, a text with texts, and a number in the way of the
database, which may find a whole number among others that are not whole. Everything else that a
condition compares is a text, and each value has a text for its key.
-/

namespace Crosstab.Sql

open Number

/-! ## Stored values -/

/-- What the columns of a row hold: nothing, a flag, a whole number or a text. -/
abbrev Stored := String → Value

/-- The text of a stored value. -/
def storedText? : Value → Option String
  | .bool b => some (if b then "true" else "false")
  | .int n => some (intText n)
  | .text s => some s
  | _ => none

/-- The key of a stored value. -/
def storedKey (v : Value) : String :=
  keyOf (storedText? v)

/-- The texts of a row. -/
def Stored.texts (row : Stored) : Texts :=
  fun column => storedText? (row column)

/-- Whether a stored value is among values, for a database that finds numbers among values. -/
def amongValues (finds : Int → List Value → Bool) (v : Value) (args : List Value) : Truth :=
  let found : Bool :=
    match v with
    | .int n => finds n args
    | v => decide (v ∈ args)
  if v = .null then .unknown
  else if found then .yes
  else if .null ∈ args then .unknown else .no

/-! ## Conditions -/

/-- The truth of a comparison for a row, if it is one for equality. -/
def Atom.storedTruth? (finds : Int → List Value → Bool) (row : Stored) : Atom → Option Truth
  | .member (.stored column) negated args =>
    some ((amongValues finds (row column) args).under negated)
  | a => a.truth? row.texts

/-! ## Values among values -/

/-- A flag is found among values that hold it. -/
theorem amongValues_bool (finds : Int → List Value → Bool) {b : Bool} {args : List Value} :
    amongValues finds (.bool b) args = .yes ↔ .bool b ∈ args := by
  by_cases hmem : Value.bool b ∈ args
  · simp [amongValues, hmem]
  · by_cases hnull : Value.null ∈ args <;> simp [amongValues, hmem, hnull]

/-- A number is found among values where the database finds it. -/
theorem amongValues_int (finds : Int → List Value → Bool) {n : Int} {args : List Value} :
    amongValues finds (.int n) args = .yes ↔ finds n args = true := by
  cases hfound : finds n args with
  | true => simp [amongValues, hfound]
  | false => by_cases hnull : Value.null ∈ args <;> simp [amongValues, hfound, hnull]

end Crosstab.Sql
