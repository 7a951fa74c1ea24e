import Crosstab.Command.Words
import Crosstab.Text.Blank
import Crosstab.View.Run

/-!
# Options

The options of the command line. Some say how the program runs; the others are parts of the
request, and go into it as they are given.

Models the arguments that `main` adds to its parser.
-/

namespace Crosstab.Command

open Text

/-- What the command line gives for a request. Null stands for what it does not give. -/
structure Wanted where
  view : String
  layer : Value
  fromTime : Value
  toTime : Value
  filter : Value
  col : Value
  row : Value
  metric : Value
  topN : Value
  colKey : Value
  rowKeys : Value
  timeBucket : Value
  columns : Value
  /-- The items of a row group are wanted, not the groups. -/
  rowItems : Value
  offset : Value
  limit : Value
  search : Value
  cursor : Value
  includeSelf : Value
  deriving DecidableEq

/-- The options of a run. -/
structure Options where
  /-- The directory of files to load, empty if none is given. -/
  dataDir : String
  wanted : Wanted
  /-- The name of the format that tables are printed in. -/
  format : String
  /-- The response is printed as JSON. -/
  json : Bool
  threads? : Option Int
  deriving DecidableEq

/-- What is wanted by default: a chart of sums. -/
def Wanted.standard : Wanted where
  view := ViewName.chart.name
  layer := .text Layer.httpPage.code
  fromTime := .null
  toTime := .null
  filter := .null
  col := .null
  row := .null
  metric := .text "bytes:sum"
  topN := .null
  colKey := .null
  rowKeys := .null
  timeBucket := .null
  columns := .null
  rowItems := .bool false
  offset := .int 0
  limit := .null
  search := .null
  cursor := .null
  includeSelf := .bool false

/-- The options of a command line without words, given the directory of the environment. -/
def Options.standard (dataDir : String) : Options :=
  ⟨dataDir, .standard, "grid", false, none⟩

/-! ## Values of options -/

/-- A value that is taken as it is. -/
def readText (s : String) : Option Value :=
  some (.text s)

/-- A whole number. -/
def readWhole (s : String) : Option Value :=
  (Number.readInt s).toOption.map .int

/-- Keys between commas; empty ones are left out. -/
def readKeys (s : String) : Option Value :=
  some (.list (((splitOn ',' s).filter (!·.isEmpty)).map .text))

/-- Names between commas without the blanks around them; blank ones are left out. -/
def readNames (s : String) : Option Value :=
  let names := (splitOn ',' s).map trim
  some (.list ((names.filter (!·.isEmpty)).map .text))

/-! ## The options -/

/-- An option whose value is part of a request. -/
def wantedOption (names : List String) (read : String → Option Value)
    (set : Value → Wanted → Wanted) : Switch Options :=
  ⟨names, .value fun s => (read s).map fun v o => { o with wanted := set v o.wanted }⟩

/-- A flag that is part of a request. -/
def wantedFlag (name : String) (set : Value → Wanted → Wanted) : Switch Options :=
  ⟨[name], .flag fun o => { o with wanted := set (.bool true) o.wanted }⟩

/-- The view of a name, which must be one of the views. -/
def setView (name : String) : Option (Options → Options) :=
  (ViewName.ofName? name).map fun view o => { o with wanted.view := view.name }

/-- The options that say where data comes from and what is wanted of it. -/
def requestSwitches : List (Switch Options) := [
  ⟨["-d", "--datadir"], .value fun s => some fun o => { o with dataDir := s }⟩,
  ⟨["--view"], .value setView⟩,
  wantedOption ["--layer"] readText fun v w => { w with layer := v },
  wantedOption ["--from"] readText fun v w => { w with fromTime := v },
  wantedOption ["--to"] readText fun v w => { w with toTime := v },
  wantedOption ["-f", "--filter"] readText fun v w => { w with filter := v },
  wantedOption ["--col"] readText fun v w => { w with col := v },
  wantedOption ["--row"] readText fun v w => { w with row := v },
  wantedOption ["--metric"] readText fun v w => { w with metric := v },
  wantedOption ["--top-n"] readWhole fun v w => { w with topN := v },
  wantedOption ["--col-key"] readText fun v w => { w with colKey := v },
  wantedOption ["--row-keys"] readKeys fun v w => { w with rowKeys := v },
  wantedOption ["--time-bucket"] readText fun v w => { w with timeBucket := v },
  wantedOption ["--columns"] readNames fun v w => { w with columns := v },
  wantedFlag "--row-items" fun v w => { w with rowItems := v },
  wantedOption ["--offset"] readWhole fun v w => { w with offset := v },
  wantedOption ["--limit"] readWhole fun v w => { w with limit := v },
  wantedOption ["--search"] readText fun v w => { w with search := v },
  wantedOption ["--cursor"] readText fun v w => { w with cursor := v },
  wantedFlag "--include-self" fun v w => { w with includeSelf := v }]

/-- The options that say how the program runs. A run keeps no log, so the options for one change
nothing. -/
def runSwitches : List (Switch Options) := [
  ⟨["--format"], .value fun s => some fun o => { o with format := s }⟩,
  ⟨["--json"], .flag fun o => { o with json := true }⟩,
  ⟨["--duckdb-threads"], .value fun s =>
    (Number.readInt s).toOption.map fun n o => { o with threads? := some n }⟩,
  ⟨["--debug"], .flag id⟩,
  ⟨["--debuglog"], .value fun _ => some id⟩]

/-- All options. -/
def switches : List (Switch Options) :=
  ⟨["-h", "--help"], .help⟩ :: requestSwitches ++ runSwitches

/-- Reads the words of a command line. -/
def Options.read (dataDir : String) (words : List String) : Except Halt Options :=
  readLine switches (.standard dataDir) words

/-- What help tells. -/
def helpText : String :=
  "Shows views of captured flows.\n\nOptions:\n" ++
    String.join (switches.map fun s => "  " ++ ", ".intercalate s.names ++ "\n")

end Crosstab.Command
