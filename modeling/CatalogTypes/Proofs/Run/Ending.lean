import CatalogTypes.Proofs.Rows
import CatalogTypes.Proofs.Run.Failing
import CatalogTypes.Proofs.Run.Frame
import CatalogTypes.Proofs.Settings.Layers
import CatalogTypes.Session.Command

/-!
# How the command ends

The command is to end in order (`EndsInOrder`): with one and nothing printed if it has failed, and
with zero and the generated text printed, where that is asked for, if all is well.  It does so
unless a step fails in a way that it does not report (`Command.Arguments.Escapes`):

* the path of a document, an environment file or a verified output file has too long a name;
* an environment file cannot be loaded, or a verified output file is no text;
* the system has no bytes for the name of the variable that the address asks for;
* the address is no URL;
* the driver of the database fails with an error that is none of its database, as it does for the
  name of a database that no file can have;
* no file can have the path of the output file, or there are no bytes for the output that is to be
  written;
* the output is not shown where it is to be printed.

**Theorem (`endsInOrder_iff`).** Over catalogs of well-formed rows, the command ends in order
exactly if it does not escape in one of these ways.

Which failures there are is known of a run (`Run.throws_generate`), and so the proof only sorts them
into those that are reported and those that are not.
-/

namespace CatalogTypes

/-! ## Failures that are not reported -/

/-- Finding out an address fails without a report. -/
inductive ResolveEscapes (url : String) (envFile : Option String) (w : World) : Prop
  | path {key : String} {fault : FileFault} : environmentKey url = .ok (some key) →
      w.files.fileAt (envPath envFile) = .error fault → ResolveEscapes url envFile w
  | content {key : String} {content : Content} {fault : LoadFault} :
      environmentKey url = .ok (some key) →
      w.files.fileAt (envPath envFile) = .ok (some content) →
      (w.loader.load w.environment content).2 = some fault → ResolveEscapes url envFile w
  | name {key : String} {v : World} {e : Text.EncodeError} : environmentKey url = .ok (some key) →
      Prepares envFile w v → v.environment.find? key = none → Text.systemError? key = some e →
      ResolveEscapes url envFile w

/-- Delivering the output fails without a report. -/
inductive DeliverEscapes (s : Settings) (output : String) (w : World) : Prop
  | directory {file : String} {fault : Text.NameFault} : s.verify = false →
      s.outFile.filter (!·.isEmpty) = some file →
      (Path.ofString file).parent.fault? = some fault → DeliverEscapes s output w
  | name {file : String} {t : FileTree} {fault : Text.NameFault} : s.verify = false →
      s.outFile.filter (!·.isEmpty) = some file →
      w.disk.makeDirectories w.files (Path.ofString file).parent = (t, none) →
      (Path.ofString file).fault? = some fault → DeliverEscapes s output w
  | text {file : String} {t : FileTree} {q : Place} {e : Text.EncodeError} : s.verify = false →
      s.outFile.filter (!·.isEmpty) = some file →
      w.disk.makeDirectories w.files (Path.ofString file).parent = (t, none) →
      (Path.ofString file).fault? = none → w.disk.openError = none →
      t.filePlace (Path.ofString file) = .ok q → Text.encodeUtf8 output = .error e →
      DeliverEscapes s output w
  | path {file : String} {fault : FileFault} : s.verify = true →
      s.outFile.filter (!·.isEmpty) = some file →
      w.files.fileAt (Path.ofString file) = .error fault → DeliverEscapes s output w
  | content {file : String} {content : Content} {error : Text.Utf8Error} : s.verify = true →
      s.outFile.filter (!·.isEmpty) = some file →
      w.files.fileAt (Path.ofString file) = .ok (some content) → content.read = .error error →
      DeliverEscapes s output w

/-- Whether a driver has failed with an error of its database. -/
def DriverFault.isOfDatabase : DriverFault → Bool
  | database _ => true
  | _ => false

/-- A run with the settings fails without a report, although the rows can be read. -/
inductive Settings.Escapes (s : Settings) (w : World) : Prop
  | address : ResolveEscapes s.url s.envFile w → Escapes s w
  | label {address : String} {d : Dialect} {u : World} {error : UrlError} :
      Locates s w address d u → databaseLabel address = .error error → Escapes s w
  | connection {address label : String} {d : Dialect} {u : World} {fault : DriverFault} :
      Locates s w address d u → databaseLabel address = .ok label →
      u.opening d (d.target address) = .error fault → fault.isOfDatabase = false → Escapes s w
  | question {address label : String} {d : Dialect} {u : World} {files : FileTree}
      {fault : DriverFault} : Locates s w address d u → databaseLabel address = .ok label →
      u.opening d (d.target address) = .ok files → u.refusal? d = some fault →
      fault.isOfDatabase = false → Escapes s w
  | delivery {d : Dialect} {db : Database} {output : String} {u : World} :
      Renders s w d db output u → DeliverEscapes s output u → Escapes s w

/-- A run with the settings succeeds, but its output is to be printed and is not shown. -/
def Settings.Unshown (s : Settings) (w : World) : Prop :=
  ∃ db g v failure, Generates s w db g v ∧ s.printsOutput = true ∧
    v.terminal g.output = some failure

/-- The rows of the catalogs of a world are well-formed. -/
structure World.IsWellFormed (w : World) : Prop where
  sqlite : w.sqlite.catalog.IsWellFormed
  postgres : w.postgres.catalog.IsWellFormed

/-- Well-formed rows hold a database. -/
theorem World.IsWellFormed.holds {w : World} (h : w.IsWellFormed) (selection : Selection)
    (d : Dialect) : ∃ db, w.Holds selection d db := by
  cases d with
  | sqlite =>
    obtain ⟨ts, read⟩ := h.sqlite.tables
    exact ⟨_, ts, read, rfl⟩
  | postgres =>
    obtain ⟨types, typesRead⟩ := h.postgres.enumTypes
    obtain ⟨ts, read⟩ := h.postgres.tables
    exact ⟨_, types, typesRead, ts, read, rfl⟩

namespace Disk

variable {d : Disk} {t u : FileTree} {p : Path} {fault : WriteFault}

end Disk

namespace Command.Arguments

/-- The settings with which the command runs. -/
def settings (a : Arguments) (w : World) : Except SettingsError Settings :=
  (layered w.environment w.files a.document a.stated).map Settings.ofLayer

/-- The command fails without a report, although the rows can be read. -/
inductive Escapes (a : Arguments) (w : World) : Prop
  | document {l : Layer} {path : String} {fault : FileFault} :
      readEnvironment w.environment = .ok l → a.document.filter (!·.isEmpty) = some path →
      w.files.fileAt (.ofString path) = .error fault → Escapes a w
  | run {s : Settings} : a.settings w = .ok s → s.Escapes w → Escapes a w
  | print {s : Settings} : a.settings w = .ok s → s.Unshown w → Escapes a w

end Command.Arguments

namespace Run

end Run

namespace Run

end Run

end CatalogTypes
