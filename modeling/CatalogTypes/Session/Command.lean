import CatalogTypes.Command.Arguments
import CatalogTypes.Command.Texts
import CatalogTypes.Session.Generate
import CatalogTypes.Settings.Layered

/-!
# The command

The command reads its arguments, puts the settings together, and generates.  It ends with a number
that tells how it went: zero if all is well, one if the run has failed for a reason that it reports,
two if the arguments are invalid.  Failures of other kinds are not its to report, and it fails with
them.

Log lines are written from the moment on when the settings are known, or known to be at fault.
-/

namespace CatalogTypes

/-- Whether the output is to be written to the standard output. -/
def Settings.printsOutput (s : Settings) : Bool :=
  s.printOutput || !((s.outFile.filter (!·.isEmpty)).isSome || s.verify)

/-- The threshold that a setting's word stands for. -/
def thresholdOf (word : String) : Log.Level :=
  match Log.Level.ofWord word with
  | .ok level => level
  | .error _ => Log.Level.info

namespace Run

variable {α : Type}

/-- Writes a text to the standard output, if the terminal shows it. -/
def print (text : String) : Run Unit := do
  match (← get).terminal text with
  | some failure => throw failure
  | none => modify fun s => { s with stdout := s.stdout ++ text }

/-- Writes a text to the standard error output. -/
def complain (text : String) : Run Unit := modify fun s => { s with stderr := s.stderr ++ text }

/-- Writes log lines from now on, from the level on that a word names. -/
def openLog (word : String) : Run Unit :=
  modify fun s => { s with sink := some (Log.configure (thresholdOf word) false s.environment) }

/-- A step whose failure is a value. -/
def attempt (step : Run α) : Run (Except Failure α) := of fun s =>
  let (a, after) := step.result s
  (.ok a, after)

/-! ## Ends -/

/-- The number for a good end. -/
def success : Nat := 0

/-- The number for an end on a failure. -/
def failed : Nat := 1

/-- The number for invalid arguments. -/
def misused : Nat := 2

/-- Ends the command, reporting a failure. -/
def giveUp (failure : Failure) : Run Nat := do
  note .command Log.Level.error failure.message
  pure failed

/-! ## Steps of the command -/

/-- The message after a run. -/
def generatedMessage (g : Generated) : String :=
  "Introspected " ++ toString g.tableCount ++ " tables (" ++ g.dialect.name ++ ")"

/-- Generates as the settings say, and prints the output if it is to be printed. -/
def produce (settings : Settings) : Run Nat := do
  match ← attempt (generate settings) with
  | .ok generated =>
    if settings.printsOutput then print generated.output
    note .command Log.Level.info (generatedMessage generated)
    pure success
  | .error failure => if failure.isReported then giveUp failure else throw failure

/-- Puts the settings together and generates. -/
def execute (a : Command.Arguments) : Run Nat := do
  let s ← get
  match layered s.environment s.files a.document a.stated with
  | .ok layer =>
    let settings := Settings.ofLayer layer
    openLog settings.logLevel
    produce settings
  | .error e =>
    if !e.isReported then throw (.settings e)
    openLog ((entriesLayer a.stated .logLevel).getD (Settings.logLevel {}))
    giveUp (.settings e)

/-- Runs the command, and yields the number with which it ends. -/
def command (arguments : List String) : Run Nat :=
  match Command.parse arguments with
  | .run a => execute a
  | .help => do
    print Command.helpText
    pure success
  | .version => do
    print Command.versionText
    pure success
  | .invalid e => do
    complain (Command.usageText ++ Command.commandName ++ ": error: " ++ e.message ++ "\n")
    pure misused

end Run

end CatalogTypes
