import Crosstab.Calendar.Moment
import Crosstab.Text.Quoted

/-!
# The notation of dates and moments

Dates and moments are written and read as ISO 8601 says. Writing pads every part and leaves a zero
fraction out. Reading takes a date by month or by week, with dashes or without, any one character,
and a time of day with colons or without, with a fraction and an offset. The text is read by its
bytes.

Models `isoformat` and `fromisoformat` of dates and moments.
-/

namespace Crosstab.Calendar

open Crosstab.Text

/-! ## Writing -/

/-- A number with leading zeros up to the given width. -/
def padded (width n : Nat) : String :=
  let ds := Nat.toDigits 10 n
  String.ofList (List.replicate (width - ds.length) '0' ++ ds)

/-- The date as `2024-01-02`. -/
def Date.text (d : Date) : String :=
  padded 4 d.year ++ "-" ++ padded 2 d.month ++ "-" ++ padded 2 d.day

/-- A fraction of a second, absent when zero. -/
def fractionText (micro : Nat) : String :=
  if micro == 0 then "" else "." ++ padded 6 micro

/-- The time of day as `03:04:05` with its fraction. -/
def Clock.text (c : Clock) : String :=
  padded 2 c.hour ++ ":" ++ padded 2 c.minute ++ ":" ++ padded 2 c.second ++ fractionText c.micro

/-- An offset as `+09:00`, with seconds and a fraction when it has them. -/
def offsetText (offset : Int) : String :=
  let n := offset.natAbs
  let micro := n % 1000000
  let seconds := n / 1000000
  let tail :=
    if seconds % 60 == 0 && micro == 0 then ""
    else ":" ++ padded 2 (seconds % 60) ++ fractionText micro
  (if offset < 0 then "-" else "+") ++ padded 2 (seconds / 3600) ++ ":" ++
    padded 2 (seconds / 60 % 60) ++ tail

/-- The moment with the given text between date and time. -/
def Moment.textWith (separator : String) (m : Moment) : String :=
  let offset :=
    match m.offset? with
    | some o => offsetText o
    | none => ""
  m.date.text ++ separator ++ m.clock.text ++ offset

/-- The moment with a space between date and time. -/
def Moment.text (m : Moment) : String :=
  m.textWith " "

/-- The moment with `T` between date and time. -/
def Moment.isoText (m : Moment) : String :=
  m.textWith "T"

/-! ## Reading -/

/-- Why a text is no moment. -/
inductive MomentError where
  /-- The text does not have the form of one. -/
  | malformed (text : String)
  /-- A part is out of its range. -/
  | range (e : RangeError)
  /-- The offset, in microseconds, is a day or longer. -/
  | offset (micros : Int)
  deriving Repr, DecidableEq

/-- A duration as days, seconds of a day and microseconds of a second, the latter two never
negative; parts that are zero are left out. -/
def durationText (micros : Int) : String :=
  let days := Int.fdiv micros dayMicros
  let rest := (micros - days * dayMicros).toNat
  let part (name : String) (n : Int) : List String := if n == 0 then [] else [s!"{name}={n}"]
  let parts := part "days" days ++ part "seconds" (rest / 1000000) ++
    part "microseconds" (rest % 1000000)
  "datetime.timedelta(" ++ (if parts.isEmpty then "0" else ", ".intercalate parts) ++ ")"

/-- The error in words. -/
def MomentError.message : MomentError → String
  | .malformed text => "Invalid isoformat string: " ++ quoted text
  | .range e => e.message
  | .offset micros =>
    "offset must be a timedelta strictly between -timedelta(hours=24) and " ++
      s!"timedelta(hours=24), not {durationText micros}."

namespace Iso

/-- The characters of a text's bytes, each below 256. -/
def byteChars (s : String) : List Char :=
  s.toUTF8.toList.map fun b => Char.ofNat b.toNat

/-- Reads exactly so many digits. -/
def takeNumber? (count : Nat) (cs : List Char) : Option (Nat × List Char) :=
  let ds := cs.take count
  if ds.length == count && ds.all Char.isDigit then
    some (ds.foldl (fun n c => n * 10 + (c.toNat - 48)) 0, cs.drop count)
  else none

/-- Reads a dash if one is expected. -/
def takeDash? (expected : Bool) (cs : List Char) : Option (List Char) :=
  if expected then if cs.head? == some '-' then some cs.tail else none else some cs

/-- The length of the date that a text starts with, if that can be told. -/
def dateLength? (cs : List Char) : Option Nat :=
  let digitAt (i : Nat) : Bool := cs[i]?.any Char.isDigit
  if cs.length < 7 then none
  else if cs.length == 7 then some 7
  else if cs[4]? == some '-' then
    if cs[5]? == some 'W' then
      if cs[8]? == some '-' then
        if cs.length == 9 then none else if digitAt 10 then some 8 else some 10
      else some 8
    else some 10
  else if cs[4]? == some 'W' then
    let stop := 7 + ((cs.drop 7).takeWhile Char.isDigit).length
    if stop < 9 then some stop else if stop % 2 == 0 then some 7 else some 8
  else some 8

/-- Reads a date that is followed by nothing, by month or by week. -/
def readDate? (cs : List Char) : Option (Nat × Nat × Nat) := do
  let (year, cs) ← takeNumber? 4 cs
  let dashed := cs.head? == some '-'
  let cs ← takeDash? dashed cs
  match cs with
  | 'W' :: cs =>
    let (week, cs) ← takeNumber? 2 cs
    if cs.isEmpty then ofWeek? year week 1
    else
      let cs ← takeDash? dashed cs
      let (weekday, _) ← takeNumber? 1 cs
      ofWeek? year week weekday
  | cs =>
    let (month, cs) ← takeNumber? 2 cs
    let cs ← takeDash? dashed cs
    let (day, cs) ← takeNumber? 2 cs
    if cs.isEmpty then some (year, month, day) else none

/-- Hours, minutes, seconds and microseconds, and whether all of the text was read. -/
structure ClockParts where
  hour : Nat
  minute : Nat
  second : Nat
  micro : Nat
  complete : Bool

/-- Reads a fraction of a second; digits after the sixth are dropped. -/
def readFraction? (cs : List Char) : Option (Nat × Bool) := do
  let count := min 6 cs.length
  let (n, rest) ← takeNumber? count cs
  some (n * Number.tenTo (6 - count), (rest.dropWhile Char.isDigit).isEmpty)

/-- Reads the numbers of a time of day, of which `left` may still come, and then the fraction.
Whether they are separated by colons shows after the first. One character that does not belong
may follow; the text is then not complete. -/
def readParts? (colons? : Option Bool) : Nat → List Char → Option (List Nat × Nat × Bool)
  | left, cs => do
    let (n, cs) ← takeNumber? 2 cs
    match cs with
    | [] => some ([n], 0, true)
    | [_] => some ([n], 0, false)
    | c :: more =>
      let colons := colons?.getD (c == ':')
      let next :=
        if colons && c == ':' then some more
        else if c == '.' || c == ',' then none
        else if colons then none
        else some cs
      match next, left with
      | some cs, left + 1 =>
        let (ns, micro, complete) ← readParts? (some colons) left cs
        some (n :: ns, micro, complete)
      | some cs, 0 =>
        let (micro, complete) ← readFraction? cs
        some ([n], micro, complete)
      | none, _ =>
        if c == '.' || c == ',' then
          let (micro, complete) ← readFraction? more
          some ([n], micro, complete)
        else none

/-- Reads a time of day. -/
def readClock? (cs : List Char) : Option ClockParts := do
  let (ns, micro, complete) ← readParts? none 2 cs
  some ⟨ns[0]?.getD 0, ns[1]?.getD 0, ns[2]?.getD 0, micro, complete⟩

/-- Whether the character starts an offset. -/
def isOffsetMark (c : Char) : Bool :=
  c == '+' || c == '-' || c == 'Z'

/-- Reads a time of day and its offset in microseconds; one of less than a second is none. Only in
front of an offset may a character that does not belong follow the time. -/
def readTime? (cs : List Char) : Option (ClockParts × Option Int) := do
  let front := cs.takeWhile (!isOffsetMark ·)
  let parts ← readClock? front
  match cs.drop front.length with
  | [] => if parts.complete then some (parts, none) else none
  | 'Z' :: rest => if rest.isEmpty then some (parts, some 0) else none
  | mark :: rest =>
    let o ← readClock? rest
    if o.complete then
      let seconds := (o.hour * 60 + o.minute) * 60 + o.second
      let micros : Int := if seconds == 0 then 0 else seconds * 1000000 + o.micro
      some (parts, some (if mark == '-' then -micros else micros))
    else none

/-- The number of bytes of the character that a byte starts. -/
def leadLength (c : Char) : Nat :=
  if c.toNat < 0x80 then 1
  else if c.toNat / 16 == 0xE then 3
  else if c.toNat / 16 == 0xF then 4
  else 2

/-- The numbers of a date and, if a time follows, of that. -/
def readForm? (cs : List Char) : Option ((Nat × Nat × Nat) × Option (ClockParts × Option Int)) := do
  let length ← dateLength? cs
  let date ← readDate? (cs.take length)
  match cs.drop length with
  | [] => some (date, none)
  | separator :: rest =>
    let time ← readTime? (rest.drop (leadLength separator - 1))
    some (date, some time)

/-- Reads a moment. -/
def read (s : String) : Except MomentError Moment :=
  match readForm? (byteChars s) with
  | none => .error (.malformed s)
  | some ((year, month, day), time) => do
    let offset? := time.bind (·.2)
    if let some o := offset? then
      if (dayMicros : Int) ≤ o.natAbs then throw (.offset o)
    let date ← (Date.of? year month day).mapError .range
    let clock ←
      match time with
      | none => pure .midnight
      | some (p, _) => (Clock.of? p.hour p.minute p.second p.micro).mapError .range
    return ⟨date, clock, offset?⟩

/-- Reads a date as it is written. -/
def readPlainDate? (s : String) : Option Date := do
  let (year, month, day) ← readDate? (byteChars s)
  (Date.of? year month day).toOption

end Iso

end Crosstab.Calendar
