import Crosstab.Command.Exchange
import Crosstab.Command.Layout
import Crosstab.Command.Program
import Crosstab.Command.Survey
import Std.Time.DateTime.Timestamp

/-!
# The program

The stages of a run over the real world: its arguments, the environment, a directory, the clock and
the standard streams. Statements go out on the output and their rows come back on the input; the
report follows them on the output.

Models `main` with `FlowPivotTester`, where these touch the world.
-/

namespace Crosstab.Command

/-! ## The world -/

/-- Sends a statement and waits for the reply. -/
def exchange (sql : String) (args : List Value) : IO Session.Reply := do
  let output ← IO.getStdout
  output.putStrLn (Exchange.statementLine sql args)
  output.flush
  return Exchange.replyOfLine (← (← IO.getStdin).getLine)

/-- The variables of the environment that a run looks at. -/
def environment : IO (String → Option String) := do
  let names := directoryVariable :: Settings.fields.map fun f => Settings.variableOf f.1
  let known ← names.mapM fun name => return (name, ← IO.getEnv name)
  return fun name => (known.lookup name).join

/-- The directory of a path, if there is anything. -/
def directoryAt (path : String) : IO (Option Directory) := do
  let place := (← IO.currentDir) / path
  if !(← place.pathExists) then return none
  if !(← place.isDir) then return some ⟨path, []⟩
  return some ⟨path, (← place.readDir).toList.map (·.fileName)⟩

/-- The microseconds since the start of 1970. -/
def clock : IO Int := do
  return (← Std.Time.Timestamp.now).toNanosecondsSinceUnixEpoch.val / 1000

/-! ## Runs -/

/-- Runs the statements that load the directory, until one fails. -/
def load : List String → IO (Outcome Unit)
  | [] => return .ok ()
  | sql :: rest => do
    match ← exchange sql [] with
    | .ok _ => load rest
    | .error detail => return .error (.channel detail sql)

/-- Runs a session over the standard streams. -/
def converse {α : Type} (s : Session α) : IO (Outcome α) :=
  s.runWith fun q => exchange q.sql q.args

/-- Loads what a run needs and tells what there is. -/
def Prepared.tables (p : Prepared) : IO (Outcome Tables) := do
  match ← load p.statements with
  | .ok _ => converse (Survey.tables p.directory (p.directory.loaded Layer.all))
  | .error f => return .error f

/-- Runs the view of a run. -/
def Prepared.run (p : Prepared) : IO Ending := do
  match ← p.tables with
  | .error f => return .crashed f
  | .ok loaded =>
    match p.session loaded (← clock) with
    | .error ending => return ending
    | .ok session => return p.finish (← converse session)

/-- Runs the program on the words of its command line. -/
def run (words : List String) : IO Ending := do
  let lookup ← environment
  match readOptions lookup words with
  | .error ending => return ending
  | .ok options =>
    match prepare lookup options (← directoryAt options.dataDir) with
    | .error ending => return ending
    | .ok p => p.run

/-- Prints an ending and gives its exit code; a run that breaks off has the code 1. -/
def Ending.print (e : Ending) : IO UInt32 := do
  for line in e.out.flatMap Layout.part do
    IO.println line
  for line in e.err do
    IO.eprintln line
  match e.crash? with
  | some f =>
    IO.eprintln s!"error: {f.message}"
    return 1
  | none => return e.exitCode.toUInt32

end Crosstab.Command

/-- The program: its arguments are the words of the command line. -/
def main (args : List String) : IO UInt32 := do
  (← Crosstab.Command.run args).print
