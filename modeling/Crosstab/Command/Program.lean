import Crosstab.Command.Report
import Crosstab.Command.Request
import Crosstab.Json.Writer
import Crosstab.Loading

/-!
# Runs of the program

A run reads its options, loads the files of a directory, asks the queries of one view and prints
the response. It stops as soon as something is wrong; what it prints and its exit code are its
ending. Loading and asking are left to what runs the program: between the stages here stand the
statements that it has to run.

Models `main`, with the stages of `FlowPivotTester`.
-/

namespace Crosstab.Command

/-! ## Endings -/

/-- How a run ends. -/
structure Ending where
  exitCode : Nat
  out : List Part
  err : List String
  /-- The failure that the run breaks off with, without an exit code of its own. -/
  crash? : Option Failure
  deriving DecidableEq

namespace Ending

/-- The ending of a run that is given up with messages. -/
def givenUp (exitCode : Nat) (messages : List String) : Ending :=
  ⟨exitCode, [], messages, none⟩

/-- The ending of a run that breaks off before it prints anything. -/
def crashed (f : Failure) : Ending :=
  ⟨0, [], [], some f⟩

/-- The ending of a run that does not get past its options. -/
def ofHalt : Halt → Ending
  | .help => ⟨0, [.line helpText], [], none⟩
  | .fault e => givenUp 2 [s!"error: {e.message}"]

/-! ## Printing -/

/-- The text of a key in JSON; only simple values are keys. -/
def jsonKey (v : Value) : Outcome String :=
  match v with
  | .text s => .ok s
  | .null | .bool _ | .int _ | .real _ => .ok (Json.scalarText v)
  | _ => mismatch .kind

/-- The ending that prints a report on what a view came to. -/
def reported (format : String) (view : ViewName) (outcome : Outcome Response) : Ending :=
  match outcome with
  | .ok r =>
    let report := Report.ofView format view r
    ⟨0, report.parts, [], report.failure?⟩
  | .error f => if f.isAnswered then givenUp 1 [s!"ERROR: {f.message}"] else crashed f

/-- The ending that prints JSON about what a view came to. -/
def written (view : ViewName) (outcome : Outcome Response) : Ending :=
  let text (v : Value) : List Part := [.line (Json.indented 0 v)]
  match outcome with
  | .ok r =>
    match r.toValue jsonKey with
    | .ok v => ⟨0, text v, [], none⟩
    | .error f => crashed f
  | .error f =>
    if f.isAnswered then
      ⟨1, text (.record [("view", .text view.name), ("error", .text f.message)]), [], none⟩
    else crashed f

end Ending

/-! ## Stages -/

/-- The variable that names a directory for a command line without one. -/
def directoryVariable : String := "FLOWPIVOT_DATADIR"

/-- The options of a run that knows the directory it loads. -/
def readOptions (environment : String → Option String) (words : List String) :
    Except Ending Options := do
  let options ← (Options.read ((environment directoryVariable).getD "") words).mapError .ofHalt
  if options.dataDir.isEmpty then
    throw (.givenUp 1 ["Error: Data directory not specified.", "Please either:",
      s!"  1. Set the {directoryVariable} environment variable",
      "  2. Use the -d/--datadir command line option"])
  return { options with dataDir := Directory.plainPath options.dataDir }

/-- A run that knows what to load. -/
structure Prepared where
  options : Options
  settings : Settings
  directory : Directory

/-- The value of a variable; null for one that is not set. -/
def variableValue (environment : String → Option String) (name : String) : Value :=
  ((environment name).map .text).getD .null

/-- Prepares a run with the directory that its options name, if there is one. -/
def prepare (environment : String → Option String) (options : Options)
    (directory? : Option Directory) : Except Ending Prepared :=
  match directory? with
  | none => .error (.givenUp 1 [s!"Error: Data directory not found: {options.dataDir}"])
  | some directory =>
    match Settings.ofEnvironment (variableValue environment) with
    | .ok settings => .ok ⟨options, settings, directory⟩
    | .error f => .error (.crashed f)

namespace Prepared

/-- The number of threads that the run sets: zero on the command line leaves it to the
settings. -/
def threads? (p : Prepared) : Option Int :=
  match p.options.threads? with
  | some n => if n == 0 then p.settings.threads? else some n
  | none => p.settings.threads?

/-- The statements that load the directory. -/
def statements (p : Prepared) : List String :=
  loadStatements p.threads? Layer.all p.directory

/-- The view of the run. -/
def view (p : Prepared) : ViewName :=
  (ViewName.ofName? p.options.wanted.view).getD .chart

/-- The session of the run's view over what was loaded, at a time in microseconds since the start
of 1970. -/
def session (p : Prepared) (loaded : Tables) (now : Int) : Except Ending (Session Response) :=
  match p.options.wanted.request now with
  | .ok request =>
    .ok (p.view.run ⟨p.settings, fun layer => loaded.schema layer⟩ request)
  | .error f =>
    .error (if f.isValueFault then .givenUp 1 [s!"Error: {f.message}"] else .crashed f)

/-- The ending of a run whose view came to an outcome. -/
def finish (p : Prepared) (outcome : Outcome Response) : Ending :=
  if p.options.json then .written p.view outcome
  else .reported p.options.format p.view outcome

end Prepared

end Crosstab.Command
