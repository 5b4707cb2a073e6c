import CatalogTypes.Address.Call
import CatalogTypes.Catalog.Postgres
import CatalogTypes.Catalog.Sqlite
import CatalogTypes.Dialect
import CatalogTypes.EnvFile.Loader
import CatalogTypes.Files.Disk
import CatalogTypes.Settings.Sources
import CatalogTypes.Url.Split

/-!
# The world of a run

A run looks at the environment, the files and the databases that answer.  It does so through others:
a loader of environment files, the disk, a terminal and the drivers of the databases.  Each of them
may refuse, and what they do then is as much a part of the world as the files are.

The driver of SQLite makes the file of a database that is not there, where databases are files.
-/

namespace CatalogTypes

/-! ## Failures -/

/-- Why an output file is not up to date. -/
inductive StaleReason where
  | noFile
  | differs
deriving DecidableEq, Repr

/-- The wording of a reason. -/
def StaleReason.message : StaleReason → String
  | noFile => "file does not exist"
  | differs => "contents differ"

/-- Why a run fails. -/
inductive Failure where
  /-- The address cannot be found out. -/
  | address (error : AddressError)
  /-- A variable of an environment file cannot be set. -/
  | environment (fault : EnvFile.VariableFault)
  /-- A file cannot be looked for under its path. -/
  | inaccessible (fault : FileFault) (path : Path)
  /-- A file is no text. -/
  | undecodable (error : Text.Utf8Error)
  /-- There are no bytes for a text. -/
  | unencodable (error : Text.EncodeError)
  /-- There is no dialect of the name. -/
  | unknownDialect (name : String)
  /-- The address is no URL. -/
  | url (error : UrlError)
  /-- The database has refused with an error of its own. -/
  | database (text : String)
  /-- A driver has failed with an error that is none of its database. -/
  | driver (kind text : String)
  /-- The catalog could not be read because the database refused. -/
  | introspection (dialect : Dialect) (message : String)
  /-- The catalog's rows are at fault. -/
  | catalog (fault : CatalogFault)
  /-- There is no output file to compare with. -/
  | noOutputFile
  /-- The output file cannot be written. -/
  | unwritable (outFile detail : String)
  /-- A path holds a null character. -/
  | nullInPath
  /-- The output file is not up to date. -/
  | stale (outFile : String) (reason : StaleReason)
  /-- The settings are at fault. -/
  | settings (error : SettingsError)
deriving DecidableEq, Repr

namespace Failure

/-- The wording of a failure, if it has one. -/
def message? : Failure → Option String
  | address e => some e.message
  | environment f => some f.message
  | inaccessible fault path => some (fault.message path)
  | undecodable e => some e.message
  | unencodable e => some e.message
  | unknownDialect name => some (Dialect.unknownMessage name)
  | url e => some e.message
  | database text => some text
  | driver _ text => some text
  | introspection _ text => some text
  | catalog f => f.message?
  | noOutputFile => some "Verification requires an output file"
  | unwritable outFile detail => some ("Could not write '" ++ outFile ++ "': " ++ detail)
  | nullInPath => some Text.NameFault.holdsNull.message
  | stale outFile reason =>
    some ("Generated types are not up-to-date with '" ++ outFile ++ "': " ++ reason.message)
  | settings e => some e.message

/-- The wording of a failure, empty if it has none. -/
def message (f : Failure) : String := f.message?.getD ""

/-- Whether a run ends on a failure in good order, reporting it. -/
def isReported : Failure → Bool
  | address _ | unknownDialect _ | introspection _ _ | noOutputFile | unwritable _ _
  | stale _ _ => true
  | _ => false

/-- The failure of a run that hands the system a name which is none. -/
def ofName : Text.NameFault → Failure
  | .unencodable e => unencodable e
  | .holdsNull => nullInPath

/-- The failure of a run that cannot load an environment file. -/
def ofLoading : LoadFault → Failure
  | .undecodable e => undecodable e
  | .variable f => environment f

/-- The failure of a run that cannot write its output file. -/
def ofWriting (outFile : String) : WriteFault → Failure
  | .refused text => unwritable outFile text
  | .unnamable f => ofName f
  | .unencodable e => unencodable e

end Failure

/-! ## Databases that answer -/

/-- How a driver refuses: with an error of its database, or in another way. -/
inductive DriverFault where
  | database (text : String)
  | other (kind text : String)
  | unnamable (fault : Text.NameFault)
deriving DecidableEq, Repr

/-- The failure of a run that a driver has refused. -/
def DriverFault.failure : DriverFault → Failure
  | database text => .database text
  | other kind text => .driver kind text
  | unnamable f => .ofName f

/-- A database that can be connected to.  Its driver may refuse to connect to a target, and to
answer the first question that it is asked on a connection, or a later one. -/
structure Server (α : Type) where
  catalog : α
  connectFault : String → Option DriverFault := fun _ => none
  queryFault : Nat → Option DriverFault := fun _ => none
deriving Inhabited

/-! ## Worlds -/

/-- Why a terminal that is written to in UTF-8 does not show a text, if it does not. -/
def plainTerminal (text : String) : Option Failure :=
  match Text.encodeUtf8 text with
  | .error e => some (.unencodable e)
  | .ok _ => none

/-- What counts for a run. -/
structure World where
  environment : Environment := []
  files : FileTree := {}
  loader : Loader := EnvFile.loader
  disk : Disk := {}
  /-- Why a text is not shown on the standard output. -/
  terminal : String → Option Failure := plainTerminal
  sqlite : Server SqliteCatalog := { catalog := {} }
  postgres : Server PostgresCatalog := { catalog := {} }

namespace World

/-- Why the driver of a dialect refuses to connect to a target. -/
def connectFault (w : World) : Dialect → String → Option DriverFault
  | .sqlite => w.sqlite.connectFault
  | .postgres => w.postgres.connectFault

/-- The files after a database of SQLite has been opened, or why it cannot be. -/
def openDatabase (w : World) (target : String) : Except DriverFault FileTree :=
  -- a database without a name, or in memory, has no file
  if !w.disk.holdsDatabases || target.isEmpty || target = ":memory:" then .ok w.files
  else
    match Text.nameFault? target with
    | some fault => .error (.unnamable fault)
    | none =>
      match w.files.touch (.ofString target) with
      | .ok files => .ok files
      | .error _ => .error (.database "unable to open database file")

/-- The files after a connection to a target has been opened, or why it cannot be. -/
def opening (w : World) (d : Dialect) (target : String) : Except DriverFault FileTree :=
  match w.connectFault d target with
  | some fault => .error fault
  | none =>
    match d with
    | .sqlite => w.openDatabase target
    | .postgres => .ok w.files

end World

end CatalogTypes
