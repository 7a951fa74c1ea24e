import Crosstab.Text.Digit
import Crosstab.Text.Quoted
import Crosstab.Text.Search

/-!
# The words of a command line

A word names an option, or is the value of one. An option may be shortened as long as only one
name starts like that; its value follows in the next word or is attached, to a long name by an
equals sign and to a short one directly. A word that starts with a dash is a value all the same if
it spells a negative number, or has a blank in it and names no option. Every word must be taken by
an option in the end.

Models `parse_args` as far as the options of `main` need it.
-/

namespace Crosstab.Command

open Text

/-! ## Options -/

/-- What an option does to settings of a type. -/
inductive Use (σ : Type) where
  /-- It stands alone. -/
  | flag (set : σ → σ)
  /-- It takes a value, which must be one that it reads. -/
  | value (set : String → Option (σ → σ))
  /-- It asks for help, and nothing behind it counts. -/
  | help

/-- An option by its names. -/
structure Switch (σ : Type) where
  names : List String
  use : Use σ

/-- What is wrong with a command line. -/
inductive WordFault where
  /-- The word is the start of several names. -/
  | ambiguous (word : String) (names : List String)
  | missingValue (name : String)
  /-- The option takes no value and has one attached. -/
  | strayValue (name value : String)
  | unreadable (name value : String)
  /-- No option takes these words. -/
  | unrecognized (words : List String)
  deriving Repr, DecidableEq

/-- The fault in words. -/
def WordFault.message : WordFault → String
  | .ambiguous word names =>
    s!"ambiguous option: {word} could match " ++ ", ".intercalate names
  | .missingValue name => s!"argument {name}: expected one argument"
  | .strayValue name value => s!"argument {name}: ignored explicit argument {quoted value}"
  | .unreadable name value => s!"argument {name}: invalid value: {quoted value}"
  | .unrecognized words => "unrecognized arguments: " ++ " ".intercalate words

/-! ## Single words -/

/-- What a word is. -/
inductive Word (σ : Type) where
  /-- A word that can be the value of an option. -/
  | plain (text : String)
  /-- The name of an option, with the value that is attached to it. -/
  | named (name : String) (use : Use σ) (attached? : Option String)
  /-- A word that looks like an option and is none. -/
  | unknown (text : String)
  /-- The mark behind which no word is an option. -/
  | mark

/-- The mark behind which no word is an option. -/
def endMark : String := "--"

/-- Whether the characters are a dash and a number without exponent; a line break may follow. -/
def isNegativeNumber (cs : List Char) : Bool :=
  let isDecimal (c : Char) : Bool := (decimalValue? c).isSome
  let ends (cs : List Char) : Bool := cs.isEmpty || cs == ['\n']
  match cs with
  | '-' :: number =>
    match number.dropWhile isDecimal with
    | '.' :: fraction =>
      fraction.head?.any isDecimal && ends (fraction.dropWhile isDecimal)
    | rest => number.head?.any isDecimal && ends rest
  | _ => false

section

variable {σ : Type}

/-- The names of options with their uses. -/
def namedUses (switches : List (Switch σ)) : List (String × Use σ) :=
  switches.flatMap fun s => s.names.map fun name => (name, s.use)

/-- The options that a word may mean that is not the full name of one. -/
def candidates (uses : List (String × Use σ)) (word : String) : List (String × Word σ) :=
  let named (u : String × Use σ) (attached? : Option String) : String × Word σ :=
    (u.1, .named u.1 u.2 attached?)
  match word.toList with
  | '-' :: '-' :: _ =>
    let (start, attached?) := cutAt '=' word
    (uses.filter fun u => start.toList.isPrefixOf u.1.toList).map (named · attached?)
  | '-' :: letter :: attached =>
    (uses.filter (·.1 == String.ofList ['-', letter])).map
      (named · (some (String.ofList attached)))
  | _ => []

/-- What a word is that starts with a dash and is longer than that. -/
def readDashed (uses : List (String × Use σ)) (word : String) : Except WordFault (Word σ) :=
  let (front, attached?) := cutAt '=' word
  match uses.lookup word, attached?, uses.lookup front with
  | some use, _, _ => .ok (.named word use none)
  | none, some value, some use => .ok (.named front use (some value))
  | none, _, _ =>
    match candidates uses word with
    | [] =>
      if isNegativeNumber word.toList || word.toList.contains ' ' then .ok (.plain word)
      else .ok (.unknown word)
    | [(_, w)] => .ok w
    | several => .error (.ambiguous word (several.map (·.1)))

/-- What each word is. -/
def readEach (uses : List (String × Use σ)) : List String → Except WordFault (List (Word σ))
  | [] => .ok []
  | word :: rest =>
    if word == endMark then .ok (.mark :: rest.map .plain)
    else do
      let w ←
        match word.toList with
        | '-' :: _ :: _ => readDashed uses word
        | _ => pure (.plain word)
      return w :: (← readEach uses rest)

/-! ## Whole command lines -/

/-- Why the options of a command line are not read to the end. -/
inductive Halt where
  | help
  | fault (e : WordFault)
  deriving Repr, DecidableEq

/-- The word as it was given, as far as it can be left over. -/
def Word.given : Word σ → String
  | .plain text => text
  | .named name _ _ => name
  | .unknown text => text
  | .mark => endMark

/-- Sets an option to a value. -/
def setValue (name value : String) (set : String → Option (σ → σ)) (s : σ) : Except Halt σ :=
  match set value with
  | some f => .ok (f s)
  | none => .error (.fault (.unreadable name value))

/-- Follows words one after the other; those that no option takes are left over. -/
def follow (leftOver : List String) (s : σ) : List (Word σ) → Except Halt σ
  | [] =>
    if leftOver.isEmpty then .ok s else .error (.fault (.unrecognized leftOver.reverse))
  | .named _ .help none :: _ => .error .help
  | .named name .help (some value) :: _ => .error (.fault (.strayValue name value))
  | .named _ (.flag set) none :: rest => follow leftOver (set s) rest
  | .named name (.flag _) (some value) :: _ => .error (.fault (.strayValue name value))
  | .named name (.value set) (some value) :: rest => do
    follow leftOver (← setValue name value set s) rest
  | .named name (.value set) none :: .plain value :: rest => do
    follow leftOver (← setValue name value set s) rest
  | .named name (.value _) none :: _ => .error (.fault (.missingValue name))
  | w :: rest => follow (w.given :: leftOver) s rest

/-- Reads a command line, starting from given settings. What each word is is told first, so an
ambiguous word fails whatever stands before it. -/
def readLine (switches : List (Switch σ)) (start : σ) (words : List String) : Except Halt σ := do
  let ws ← (readEach (namedUses switches) words).mapError .fault
  follow [] start ws

end

end Crosstab.Command
