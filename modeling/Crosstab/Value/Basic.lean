import Crosstab.Number.Decimal
import Crosstab.Calendar.Moment

/-!
# Values

A value is what requests carry, statements bind and rows hold. Requests are documents without a
fixed shape, and a result column may be of any type, so one type holds them all; a whole number and
a binary number are different values even when they are equal.

Models what `loads` returns and what rows of a `QueryResult` hold.
-/

namespace Crosstab

open Number Calendar

/-- A value of a request, of a statement's arguments or of a result row. -/
inductive Value where
  | null
  | bool (b : Bool)
  | int (n : Int)
  | real (x : Binary64)
  | text (s : String)
  | list (items : List Value)
  | record (members : List (String × Value))
  | decimal (d : Decimal)
  | date (d : Date)
  | moment (m : Moment)
  deriving Inhabited

namespace Value

/-! ## Identity of values -/

/-- Two constructors' arguments decide whether the values are the same. -/
private def decideOf {α : Type} {a b : α} (f : α → Value) (inj : f a = f b → a = b) :
    Decidable (a = b) → Decidable (f a = f b)
  | .isTrue h => .isTrue (h ▸ rfl)
  | .isFalse h => .isFalse (h ∘ inj)

mutual

/-- Decides whether two values are the same. -/
def decideEq : (a b : Value) → Decidable (a = b)
  | .null, b =>
    match b with
    | .null => .isTrue rfl
    | .bool _ | .int _ | .real _ | .text _ | .list _ | .record _ | .decimal _ | .date _
    | .moment _ => .isFalse nofun
  | .bool x, b =>
    match b with
    | .bool y => decideOf .bool (by simp) (decEq x y)
    | .null | .int _ | .real _ | .text _ | .list _ | .record _ | .decimal _ | .date _
    | .moment _ => .isFalse nofun
  | .int x, b =>
    match b with
    | .int y => decideOf .int (by simp) (decEq x y)
    | .null | .bool _ | .real _ | .text _ | .list _ | .record _ | .decimal _ | .date _
    | .moment _ => .isFalse nofun
  | .real x, b =>
    match b with
    | .real y => decideOf .real (by simp) (decEq x y)
    | .null | .bool _ | .int _ | .text _ | .list _ | .record _ | .decimal _ | .date _
    | .moment _ => .isFalse nofun
  | .text x, b =>
    match b with
    | .text y => decideOf .text (by simp) (decEq x y)
    | .null | .bool _ | .int _ | .real _ | .list _ | .record _ | .decimal _ | .date _
    | .moment _ => .isFalse nofun
  | .list x, b =>
    match b with
    | .list y => decideOf .list (by simp) (decideItems x y)
    | .null | .bool _ | .int _ | .real _ | .text _ | .record _ | .decimal _ | .date _
    | .moment _ => .isFalse nofun
  | .record x, b =>
    match b with
    | .record y => decideOf .record (by simp) (decideMembers x y)
    | .null | .bool _ | .int _ | .real _ | .text _ | .list _ | .decimal _ | .date _
    | .moment _ => .isFalse nofun
  | .decimal x, b =>
    match b with
    | .decimal y => decideOf .decimal (by simp) (decEq x y)
    | .null | .bool _ | .int _ | .real _ | .text _ | .list _ | .record _ | .date _
    | .moment _ => .isFalse nofun
  | .date x, b =>
    match b with
    | .date y => decideOf .date (by simp) (decEq x y)
    | .null | .bool _ | .int _ | .real _ | .text _ | .list _ | .record _ | .decimal _
    | .moment _ => .isFalse nofun
  | .moment x, b =>
    match b with
    | .moment y => decideOf .moment (by simp) (decEq x y)
    | .null | .bool _ | .int _ | .real _ | .text _ | .list _ | .record _ | .decimal _
    | .date _ => .isFalse nofun

/-- Decides whether two lists of values are the same. -/
def decideItems : (xs ys : List Value) → Decidable (xs = ys)
  | [], [] => .isTrue rfl
  | [], _ :: _ => .isFalse nofun
  | _ :: _, [] => .isFalse nofun
  | x :: xs, y :: ys =>
    match decideEq x y, decideItems xs ys with
    | .isTrue h, .isTrue hs => .isTrue (h ▸ hs ▸ rfl)
    | .isFalse h, _ => .isFalse fun e => h (List.cons.inj e).1
    | _, .isFalse h => .isFalse fun e => h (List.cons.inj e).2

/-- Decides whether two lists of members are the same. -/
def decideMembers : (xs ys : List (String × Value)) → Decidable (xs = ys)
  | [], [] => .isTrue rfl
  | [], _ :: _ => .isFalse nofun
  | _ :: _, [] => .isFalse nofun
  | (k, x) :: xs, (l, y) :: ys =>
    match decEq k l, decideEq x y, decideMembers xs ys with
    | .isTrue hk, .isTrue h, .isTrue hs => .isTrue (hk ▸ h ▸ hs ▸ rfl)
    | .isFalse h, _, _ => .isFalse fun e => h (Prod.mk.inj (List.cons.inj e).1).1
    | _, .isFalse h, _ => .isFalse fun e => h (Prod.mk.inj (List.cons.inj e).1).2
    | _, _, .isFalse h => .isFalse fun e => h (List.cons.inj e).2

end

instance : DecidableEq Value := decideEq

/-! ## Truth -/

/-- Whether the value counts as true: null, zero and what is empty do not. -/
def truthy : Value → Bool
  | .null => false
  | .bool b => b
  | .int n => n != 0
  | .real x => !x.isZero
  | .text s => !s.isEmpty
  | .list items => !items.isEmpty
  | .record members => !members.isEmpty
  | .decimal d => !d.isZero
  | .date _ => true
  | .moment _ => true

/-- The value itself if it counts as true, otherwise the other one. -/
def orElse (v w : Value) : Value :=
  if v.truthy then v else w

end Value

/-! ## Named values -/

/-- Sets the value of a name: a known name keeps its place, a new one goes to the end. -/
def setNamed {α : Type} (name : String) (v : α) : List (String × α) → List (String × α)
  | [] => [(name, v)]
  | (k, w) :: rest => if k == name then (k, v) :: rest else (k, w) :: setNamed name v rest

/-- Named values, of which a repeated name keeps its first place and its last value. -/
def namedValues {α : Type} (pairs : List (String × α)) : List (String × α) :=
  pairs.foldl (fun acc p => setNamed p.1 p.2 acc) []

/-- The value of a name. -/
def valueOf? {α : Type} (name : String) (pairs : List (String × α)) : Option α :=
  pairs.lookup name

namespace Value

/-- A record of the given members; of a repeated name the last value counts. -/
def ofMembers (members : List (String × Value)) : Value :=
  .record (namedValues members)

end Value

end Crosstab
