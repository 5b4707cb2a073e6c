import CatalogTypes.Keyed
import CatalogTypes.Text.Case
import CatalogTypes.Text.Quoted

/-!
# Levels of log lines

A level is a number, and the greater of two is the graver.  Some levels have names.  A threshold is
named by a word in any case: the name of a level, or `silent`, which lies above all of them.  A word
that names nothing is taken for the level of information.
-/

namespace CatalogTypes.Log

/-- The gravity of a log line. -/
abbrev Level := Int

namespace Level

/-- Whatever helps to follow a run. -/
def debug : Level := 10
/-- What a run does. -/
def info : Level := 20
/-- What may be amiss. -/
def warning : Level := 30
/-- What has failed. -/
def error : Level := 40
/-- What ends a run. -/
def critical : Level := 50
/-- Above every level of a line. -/
def silent : Level := critical + 1

/-- The levels under their names and further names. -/
def named : Keyed Level :=
  [("CRITICAL", critical), ("ERROR", error), ("WARNING", warning), ("INFO", info),
    ("DEBUG", debug), ("NOTSET", 0), ("FATAL", critical), ("WARN", warning)]

/-- The name of a level; one without a name is numbered. -/
def name (level : Level) : String :=
  match List.find? (fun entry => entry.2 = level) named with
  | some entry => entry.1
  | none => "Level " ++ toString level

/-- The default layout of a line, which has a name like those of the levels but is none. -/
def layoutName : String := "BASIC_FORMAT"

/-- What stands under `layoutName`. -/
def layout : String := "%(levelname)s:%(name)s:%(message)s"

/-- The threshold that a word names; the error is what it names instead. -/
def ofWord (word : String) : Except String Level :=
  if Text.lower word = "silent" then .ok silent
  else if Text.upper word = layoutName then .error layout
  else .ok ((named.find? (Text.upper word)).getD info)

/-- The message for what is no level. -/
def unknownMessage (text : String) : String := "Unknown level: " ++ Text.quoted text

end Level

end CatalogTypes.Log
