import CatalogTypes.Session.Basic

/-!
# Finding out an address

An address that asks for a variable is read from the environment, into which an environment file is
loaded first.  A file that was asked for must be there; the file `.env` is loaded if it is there.
-/

namespace CatalogTypes.Run

/-- The environment file that is loaded if it is there. -/
def defaultEnvFile : String := ".env"

/-- Loads an environment file. -/
def loadEnvFile (content : Content) : Run Unit := do
  let s ← get
  (s.loader.reports s.environment content).forM fun (level, message) =>
    note .envFile level message
  let (environment, fault?) := s.loader.load s.environment content
  modify fun s => { s with environment }
  match fault? with
  | some fault => throw (.ofLoading fault)
  | none => pure ()

/-- Loads the environment file for an address, if there is one. -/
def prepareEnvironment (address : String) (envFile : Option String) : Run Unit := do
  let name := envFile.getD defaultEnvFile
  match ← findFile name, envFile with
  | some content, _ =>
    loadEnvFile content
    note .address Log.Level.info ("Loaded environment variables from '" ++ name ++ "'.")
  | none, some file => throw (.address (.noEnvFile address file))
  | none, none => pure ()

/-- The value of a variable that an address asks for.  The system cannot be asked for a name that it
has no bytes for; no variable has one. -/
def requestVariable (environment : Environment) (key : String) : Except Failure String :=
  match environment.find? key, Text.systemError? key with
  | none, some e => .error (.unencodable e)
  | _, _ => (setVariable environment key).mapError .address

/-- The address that is meant. -/
def resolveAddress (address : String) (envFile : Option String) : Run String := do
  match ← ofExcept .address (environmentKey address) with
  | none => pure address
  | some key =>
    prepareEnvironment address envFile
    ofExcept id (requestVariable (← get).environment key)

end CatalogTypes.Run
