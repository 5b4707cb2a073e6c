import CatalogTypes.Log.Channel
import CatalogTypes.Log.Line
import CatalogTypes.Session.World

/-!
# Sessions

A session is a world together with what a run leaves in it: the connections that were made, the
blocks that the run is in, and what has been written.  A step of a run, `Run α`, yields a value or
fails, and either way leaves a session behind.
-/

namespace CatalogTypes

/-! ## Sessions -/

/-- A connection that was tried, whether it was opened, and how often it was closed. -/
structure Connection where
  dialect : Dialect
  target : String
  opened : Bool := false
  closed : Nat := 0
deriving Repr, DecidableEq, Inhabited

/-- What a run reads and changes. -/
structure Session extends World where
  connections : List Connection := []
  nesting : Log.Nesting := []
  sink : Option Log.Sink := none
  now : Log.Instant
  site : Log.CallSite
  stdout : String := ""
  stderr : String := ""

instance : Inhabited Session := ⟨{ now := default, site := default }⟩

namespace Session

/-- The world of a session. -/
abbrev world (s : Session) : World := s.toWorld

/-- The circumstances of a log line. -/
def circumstances (s : Session) : Log.Circumstances where
  now := s.now
  site := s.site
  context := s.nesting.current

/-- The session after a record has been logged. -/
def log (s : Session) (r : Log.Record) : Session :=
  match s.sink with
  | none => s
  | some sink => { s with stderr := s.stderr ++ sink.write s.circumstances r }

/-- The record of a message on a channel. -/
def record (s : Session) (c : Log.Channel) (level : Log.Level) (message : String) : Log.Record :=
  let r : Log.Record := { level, logger := c.name, message }
  if c.carriesContext then r.withContext s.nesting.current [] else r

/-- The session after a message on a channel. -/
def note (s : Session) (c : Log.Channel) (level : Log.Level) (message : String) : Session :=
  s.log (s.record c level message)

/-- The session with a connection more. -/
def connect (s : Session) (c : Connection) : Session :=
  { s with connections := s.connections ++ [c] }

/-- The session after a connection has been closed. -/
def close (s : Session) (place : Nat) : Session :=
  { s with connections := s.connections.modify place fun c => { c with closed := c.closed + 1 } }

end Session

/-! ## Steps of a run -/

/-- A step of a run: it changes the session, and yields a value or fails. -/
abbrev Run := ExceptT Failure (StateM Session)

namespace Run

variable {α : Type}

/-- What a step yields in a session, and the session after it. -/
def result (step : Run α) (s : Session) : Except Failure α × Session := step s

/-- A step from what it yields in each session. -/
def of (step : Session → Except Failure α × Session) : Run α := step

/-- The value of a reading, whose error becomes a failure. -/
def ofExcept {ε : Type} (failure : ε → Failure) : Except ε α → Run α
  | .ok a => pure a
  | .error e => throw (failure e)

/-- The content of the file under a name, if there is one. -/
def findFile (name : String) : Run (Option Content) := do
  let path := Path.ofString name
  ofExcept (.inaccessible · path) ((← get).files.fileAt path)

/-- A message on a channel. -/
def note (c : Log.Channel) (level : Log.Level) (message : String) : Run Unit :=
  modify fun s => s.note c level message

/-- A step within a block.  The block is left whether the step fails or not. -/
def within (f : Log.Fields) (step : Run α) : Run α := of fun s =>
  let (a, after) := step.result { s with nesting := s.nesting.enter f }
  (a, { after with nesting := after.nesting.leave })

/-- A step after which a connection is closed, whether it fails or not. -/
def closing (place : Nat) (step : Run α) : Run α := of fun s =>
  let (a, after) := step.result s
  (a, after.close place)

end Run

end CatalogTypes
