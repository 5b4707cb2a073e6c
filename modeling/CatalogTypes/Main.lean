import CatalogTypes.Json.Parser
import CatalogTypes.Session.Command
import CatalogTypes.Session.Document

/-!
# The command line

The command runs in a session that a document on the standard input describes; an empty input is
an empty session.  The run reads and writes the files of the session, not those of the machine, so
that it can be tried out anywhere: what it generates is seen with `--print`.
-/

namespace CatalogTypes

/-- The point in time of a session whose document gives none. -/
def defaultNow : Log.Instant where
  year := 1970
  month := 1
  day := 1
  hour := 0
  minute := 0
  second := 0

/-- The place that log lines come from. -/
def defaultSite : Log.CallSite := { file := "Main.lean", line := 1, function := "main" }

/-- The session that a text describes. -/
def Session.ofText (text : String) : Except String Session :=
  if (Text.trim text).isEmpty then .ok (.ofDocument defaultNow defaultSite .null)
  else
    match Json.parse text with
    | .ok document => .ok (.ofDocument defaultNow defaultSite document)
    | .error e => .error (e.message text.toList)

end CatalogTypes

open CatalogTypes in
/-- Runs the command in the session on the standard input. -/
def main (arguments : List String) : IO UInt32 := do
  let stdout ← IO.getStdout
  let stderr ← IO.getStderr
  match Session.ofText (← (← IO.getStdin).readToEnd) with
  | .error message =>
    stderr.putStr ("The session is not valid JSON: " ++ message ++ "\n")
    return UInt32.ofNat Run.misused
  | .ok session =>
    let (result, after) := (Run.command arguments).result session
    stdout.putStr after.stdout
    stderr.putStr after.stderr
    match result with
    | .ok exit => return UInt32.ofNat exit
    | .error failure =>
      stderr.putStr (failure.message ++ "\n")
      return UInt32.ofNat Run.failed
