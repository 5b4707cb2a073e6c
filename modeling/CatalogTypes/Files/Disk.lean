import CatalogTypes.Files.Tree

/-!
# Writing to a disk

Before a file is written, directories are made for it and it is opened, which leaves it empty.  Any
of these steps can fail, and what was done before stays.  A text that cannot be encoded is only
found out when the file is open already.

What the system refuses is not foreseen here: a disk may be full, or a directory may be closed to
the one who writes.
-/

namespace CatalogTypes

/-- What a disk does that its files do not show: the errors with which it refuses to make
directories, to open a file and to write one, of which a number of bytes may have been written by
then, and whether the databases of SQLite are files on it. -/
structure Disk where
  directoryError : Option String := none
  openError : Option String := none
  writeError : Option (Nat × String) := none
  holdsDatabases : Bool := false
deriving Repr, Inhabited, DecidableEq

/-- Why a file is not written. -/
inductive WriteFault where
  /-- The system has refused. -/
  | refused (text : String)
  /-- No file can have the path. -/
  | unnamable (fault : Text.NameFault)
  /-- There are no bytes for the text. -/
  | unencodable (error : Text.EncodeError)
deriving DecidableEq, Repr

namespace Disk

/-- The files after a change, and why the change failed if it did. -/
abbrev Outcome := FileTree × Option WriteFault

/-- The tree with directories at a path and above it. -/
def makeDirectories (d : Disk) (t : FileTree) (p : Path) : Outcome :=
  match p.fault? with
  | some fault => (t, some (.unnamable fault))
  | none =>
    match d.directoryError with
    | some text => (t, some (.refused text))
    | none =>
      let (made, fault?) := t.ensureDirectories p
      (made, fault?.map fun (fault, place) => .refused (fault.message place))

/-- The tree with a text in the file at a place, which is open. -/
def fill (d : Disk) (t : FileTree) (place : Place) (text : String) : Outcome :=
  match Text.encodeUtf8 text with
  | .error e => (t, some (.unencodable e))
  | .ok bytes =>
    match d.writeError with
    | some (count, text) => (t.put place (.bytes (bytes.take count)), some (.refused text))
    | none => (t.put place (.text text), none)

/-- The tree with a text in the file that a path leads to. -/
def writeFile (d : Disk) (t : FileTree) (p : Path) (text : String) : Outcome :=
  match p.fault? with
  | some fault => (t, some (.unnamable fault))
  | none =>
    match d.openError with
    | some text => (t, some (.refused text))
    | none =>
      match t.filePlace p with
      | .error fault => (t, some (.refused (fault.message p)))
      | .ok place => d.fill (t.put place .empty) place text

end Disk

end CatalogTypes
