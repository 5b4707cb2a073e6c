import CatalogTypes.EnvFile.Expand
import CatalogTypes.EnvFile.Statement
import CatalogTypes.Keyed
import CatalogTypes.Text.Case

/-!
# Loading environment files

An environment is a table of variables.  Loading a file into it adds the variables of the file that
are not set yet.  A variable that is set is never changed.

References are resolved in the environment first, then among the earlier variables of the file, of
which those without a value stand for nothing.
-/

namespace CatalogTypes

/-- The variables of an environment with their values. -/
abbrev Environment := Keyed String

namespace EnvFile

/-! ## The variables of a file -/

/-- The assignments of a file. -/
def assignments (text : String) : List (String × Option String) :=
  (statements text).filterMap fun
    | .assignment key value => some (key, value)
    | _ => none

/-- The lines on which the statements begin that cannot be read. -/
def unreadableLines (text : String) : List Nat :=
  (statements text).filterMap fun
    | .unreadable line => some line
    | _ => none

/-- The value of a variable that is referred to in a file. -/
def lookup (e : Environment) (known : Keyed (Option String)) (name : String) : Option String :=
  match e.find? name with
  | some value => some value
  | none => (known.find? name).map fun value => value.getD ""

/-- The variables of assignments with their values, later ones replacing earlier ones. -/
def variableValues (e : Environment) (assigned : List (String × Option String)) :
    Keyed (Option String) :=
  assigned.foldl (fun known (key, value) => known.set key (value.map (expand (lookup e known)))) []

/-! ## Setting variables -/

/-- Why a variable cannot be set. -/
inductive VariableFault where
  | holdsNull
  | holdsEquals
deriving DecidableEq, Repr

/-- The wording of a fault. -/
def VariableFault.message : VariableFault → String
  | holdsNull => "embedded null byte"
  | holdsEquals => "illegal environment variable name"

/-- The fault of a variable, if it has one. -/
def fault? (key value : String) : Option VariableFault :=
  if key.toList.contains '\x00' || value.toList.contains '\x00' then some .holdsNull
  else if key.toList.contains '=' then some .holdsEquals
  else none

/-- The environment with the variables that have a value and are not set yet.  A variable that
cannot be set ends the work, and those before it stay. -/
def setAll (e : Environment) : List (String × Option String) → Environment × Option VariableFault
  | [] => (e, none)
  | (_, none) :: rest => setAll e rest
  | (key, some value) :: rest =>
    if e.has key then setAll e rest
    else
      match fault? key value with
      | some fault => (e, some fault)
      | none => setAll (e.set key value) rest

/-- The environment after a file has been loaded. -/
def load (e : Environment) (text : String) : Environment × Option VariableFault :=
  setAll e (variableValues e (assignments text))

/-! ## Switching loading off -/

/-- The variable that switches loading off. -/
def disablingVariable : String := "PYTHON_DOTENV_DISABLED"

/-- The words by which loading is switched off. -/
def disablingWords : List String := ["1", "true", "t", "yes", "y"]

/-- A letter as its case aside; the long s is an s. -/
def foldLetter (c : Char) : Char := if c = 'ſ' then 's' else c.toLower

/-- Whether loading is switched off. -/
def isDisabled (e : Environment) : Bool :=
  match e.find? disablingVariable with
  | some word => disablingWords.contains (String.ofList (word.toList.map foldLetter))
  | none => false

end EnvFile

end CatalogTypes
