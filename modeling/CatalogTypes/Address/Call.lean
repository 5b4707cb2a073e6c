import CatalogTypes.Json.Parser
import CatalogTypes.Text.Blank

/-!
# Addresses written as calls

The address of a database is written out, or as a call `env(KEY)` that names the variable of the
environment which holds it.  The key stands as it is, or as a JSON string when it holds a double
quote anywhere.
-/

namespace CatalogTypes

/-- A call: a name in small letters and the text between its parentheses, blanks at the ends of
which do not count. -/
structure Call where
  name : String
  argument : String
deriving DecidableEq, Repr

namespace Call

/-- A letter of a call's name. -/
def isNameChar (c : Char) : Bool := 'a' ≤ c && c ≤ 'z'

/-- The text without a closing parenthesis at its end. -/
def dropClosing? (cs : List Char) : Option (List Char) :=
  match cs.getLast? with
  | some ')' => some cs.dropLast
  | _ => none

/-- The call that an address is, if it is one.  The argument stays on one line. -/
def parseChars? (cs : List Char) : Option (List Char × List Char) :=
  let cs := Text.trimChars cs
  let name := cs.takeWhile isNameChar
  match (cs.dropWhile isNameChar).dropWhile Text.isBlank with
  | '(' :: rest =>
    match dropClosing? rest with
    | some inner =>
      let argument := Text.trimChars inner
      if name.isEmpty || argument.contains '\n' then none else some (name, argument)
    | none => none
  | _ => none

/-- The call that an address is, if it is one. -/
def parse? (address : String) : Option Call :=
  (parseChars? address.toList).map fun (name, argument) =>
    ⟨String.ofList name, String.ofList argument⟩

/-- The key that the argument of a call spells.  No key is empty. -/
def key? (c : Call) : Option String :=
  let key :=
    if c.argument.toList.contains '"' then
      match Json.parse c.argument with
      | .ok value => value.str?
      | .error _ => none
    else some c.argument
  key.filter (!·.isEmpty)

end Call

/-- The name of the call that reads the environment. -/
def environmentCall : String := "env"

/-! ## Failures -/

/-- Why an address cannot be found out. -/
inductive AddressError where
  | undefinedCall (name : String)
  | invalidKey (address : String)
  | noEnvFile (address envFile : String)
  | noVariable (key : String)
deriving DecidableEq, Repr

namespace AddressError

/-- The wording of an error. -/
def message : AddressError → String
  | undefinedCall name => "Function '" ++ name ++ "' is not defined."
  | invalidKey address => "Invalid connection string: '" ++ address ++ "'"
  | noEnvFile address envFile =>
    "Could not resolve connection string '" ++ address ++ "'. Environment file '" ++ envFile ++
      "' could not be found. Use '--env-file' to specify a different file."
  | noVariable key => "Environment variable '" ++ key ++ "' could not be found."

/-- What could not be found out. -/
def symbol : AddressError → String
  | undefinedCall name => name
  | invalidKey address => address
  | noEnvFile _ envFile => envFile
  | noVariable key => key

end AddressError

/-! ## Keys of addresses -/

/-- The key of the variable that an address asks for, and none for an address written out. -/
def environmentKey (address : String) : Except AddressError (Option String) :=
  match Call.parse? address with
  | none => .ok none
  | some call =>
    if call.name ≠ environmentCall then .error (.undefinedCall call.name)
    else
      match call.key? with
      | some key => .ok (some key)
      | none => .error (.invalidKey address)

/-- The value of a variable that is set and not empty. -/
def setVariable (environment : Keyed String) (key : String) : Except AddressError String :=
  match environment.find? key with
  | some value => if value.isEmpty then .error (.noVariable key) else .ok value
  | none => .error (.noVariable key)

end CatalogTypes
