import CatalogTypes.Json.Display
import CatalogTypes.Json.Printer
import CatalogTypes.Log.Context
import CatalogTypes.Log.Level

/-!
# Log lines

A record becomes a line for people, `time level logger [context]: message data`, or a line for
programs, an object of JSON.  An exception is put below a line for people and into a field of an
object.
-/

namespace CatalogTypes.Log

/-! ## Times -/

/-- A point in time, in universal time. -/
structure Instant where
  year : Nat
  month : Nat
  day : Nat
  hour : Nat
  minute : Nat
  second : Nat
  microsecond : Nat := 0
deriving Repr, Inhabited, DecidableEq

namespace Instant

/-- The month and the day. -/
def dayText (t : Instant) : String := Text.padDecimal 2 t.month ++ "-" ++ Text.padDecimal 2 t.day

/-- The time of the day in whole seconds. -/
def clockText (t : Instant) : String :=
  Text.padDecimal 2 t.hour ++ ":" ++ Text.padDecimal 2 t.minute ++ ":" ++ Text.padDecimal 2 t.second

/-- The point in time for people, in whole seconds. -/
def plainText (t : Instant) : String := toString t.year ++ "-" ++ t.dayText ++ " " ++ t.clockText

/-- The point in time for programs, with a fraction unless it is zero. -/
def isoText (t : Instant) : String :=
  let fraction := if t.microsecond = 0 then "" else "." ++ Text.padDecimal 6 t.microsecond
  Text.padDecimal 4 t.year ++ "-" ++ t.dayText ++ "T" ++ t.clockText ++ fraction ++ "Z"

end Instant

/-! ## Records -/

/-- The place in a program that a line comes from. -/
structure CallSite where
  file : String
  line : Nat
  function : String
deriving Repr, Inhabited, DecidableEq

/-- What is to be logged.  `data` goes with the message unless it is void, and `exception` is the
text of an exception. -/
structure Record where
  level : Level
  logger : String
  message : String
  data : Json := .null
  exception : Option String := none
deriving Inhabited

/-- The circumstances under which a record becomes a line. -/
structure Circumstances where
  now : Instant
  site : CallSite
  context : Context := {}
deriving Inhabited

/-- The name of the logger that is asked for under a name. -/
def loggerName (name : String) : String := if name.isEmpty then "root" else name

/-! ## Lines for people -/

/-- The parts of a context that a line for people shows, under their names there. -/
def shownParts (c : Context) : List (String × Json) :=
  [("dialect", c.dialect), ("table", c.table), ("op", c.operation)]

/-- The context in brackets, if something of it is shown. -/
def contextText (c : Context) : String :=
  match (shownParts c).filter (fun part => !part.2.isVoid) with
  | [] => ""
  | parts =>
    " [" ++ Text.joinWith ", " (parts.map fun (name, value) => name ++ "=" ++ value.shown) ++ "]"

/-- A text with blanks after it up to a width. -/
def padRight (width : Nat) (s : String) : String :=
  s ++ String.ofList (List.replicate (width - s.length) ' ')

/-- The line for people. -/
def plainLine (c : Circumstances) (r : Record) : String :=
  let data := if r.data.isVoid then "" else " " ++ r.data.shown
  let exception := (r.exception.map ("\n" ++ ·)).getD ""
  c.now.plainText ++ " " ++ padRight 8 r.level.name ++ " " ++ r.logger ++
    contextText c.context ++ ": " ++ r.message ++ data ++ exception

/-! ## Lines for programs -/

/-- Which fields a line for programs has. -/
structure Inclusion where
  timestamp : Bool := true
  level : Bool := true
  logger : Bool := true
  context : Bool := true
deriving Repr, Inhabited, DecidableEq

/-- A field, if it is to be there. -/
def fieldIf (present : Bool) (name : String) (value : Json) : List (String × Json) :=
  if present then [(name, value)] else []

/-- The fields of a line for programs. -/
def lineFields (i : Inclusion) (c : Circumstances) (r : Record) : List (String × Json) :=
  let entries := c.context.entries
  fieldIf i.timestamp "timestamp" (.str c.now.isoText) ++
    fieldIf i.level "level" (.str r.level.name) ++
    fieldIf i.logger "logger" (.str r.logger) ++
    [("message", .str r.message)] ++
    fieldIf (i.context && !entries.isEmpty) "context" (.obj entries) ++
    fieldIf (!r.data.isVoid) "data" r.data ++
    (r.exception.map fun e => ("exception", Json.str e)).toList ++
    [("source", .obj [("file", .str c.site.file), ("line", .int c.site.line),
      ("function", .str c.site.function)])]

/-- The line for programs. -/
def jsonLine (i : Inclusion) (c : Circumstances) (r : Record) : String :=
  (Json.obj (lineFields i c r)).print

/-! ## Sinks -/

/-- The style of the lines. -/
inductive Style where
  | plain
  | json
deriving DecidableEq, Repr, Inhabited

/-- What lines are written: those from a level on, in one style. -/
structure Sink where
  threshold : Level
  style : Style
deriving Repr, Inhabited, DecidableEq

namespace Sink

/-- A record as a line of a style. -/
def line (s : Sink) (c : Circumstances) (r : Record) : String :=
  match s.style with
  | .plain => plainLine c r
  | .json => jsonLine {} c r

/-- What is written for a record: its line, or nothing below the threshold. -/
def write (s : Sink) (c : Circumstances) (r : Record) : String :=
  if s.threshold ≤ r.level then s.line c r ++ "\n" else ""

end Sink

/-- The variable of the environment that asks for lines for programs. -/
def formatVariable : String := "LOG_FORMAT"

/-- The style of the lines, as asked for or as the environment says. -/
def styleFor (json : Bool) (environment : Keyed String) : Style :=
  if json || Text.lower ((environment.find? formatVariable).getD "") = "json" then .json else .plain

/-- The sink for a threshold. -/
def configure (threshold : Level) (json : Bool) (environment : Keyed String) : Sink :=
  ⟨threshold, styleFor json environment⟩

/-- A record with the context as its data, under the data it has. -/
def Record.withContext (r : Record) (c : Context) (data : Keyed Json) : Record :=
  { r with data := .obj (Keyed.update data c.entries) }

end CatalogTypes.Log
