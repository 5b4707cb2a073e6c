import CatalogTypes.Files.Path
import CatalogTypes.Text.Quoted
import CatalogTypes.Text.Utf8

/-!
# Files

A tree of files and directories below the directory where a run starts.  A place in the tree is the
list of names that lead to it; a place outside begins with as many double points as it takes to get
there.  Following a path needs a directory at every name but the last, and fails otherwise.  Nothing
is known of what lies outside but the directories on the way there; a path from the root leads
nowhere.

A file's content is kept as it was written: text, or bytes that came from elsewhere.  It is read as
text with every line break as a line feed.  A file that has been made and not yet written to is
empty.
-/

namespace CatalogTypes

/-! ## Contents -/

/-- What a file holds. -/
inductive Content where
  | text (text : String)
  | bytes (bytes : List UInt8)
deriving DecidableEq, Repr, Inhabited

namespace Content

/-- The content of a file that has just been made. -/
def empty : Content := .bytes []

/-- The characters of a content, unless its bytes are no UTF-8. -/
def chars : Content → Except Text.Utf8Error (List Char)
  | text s => .ok s.toList
  | bytes bs => Text.decodeUtf8 bs

/-- The text that is read from a content. -/
def read (c : Content) : Except Text.Utf8Error String :=
  c.chars.map fun cs => String.ofList (Text.unifyNewlines cs)

end Content

/-! ## Faults -/

/-- Why a path cannot be followed or written to. -/
inductive FileFault where
  | missing
  | occupied
  | notDirectory
  | isDirectory
  | tooLong
deriving DecidableEq, Repr

/-- The wording of a fault with the path it is about. -/
def FileFault.message (fault : FileFault) (path : Path) : String :=
  let text :=
    match fault with
    | missing => "[Errno 2] No such file or directory: "
    | occupied => "[Errno 17] File exists: "
    | notDirectory => "[Errno 20] Not a directory: "
    | isDirectory => "[Errno 21] Is a directory: "
    | tooLong => "[Errno 36] File name too long: "
  text ++ Text.quoted path.toString

/-! ## Trees -/

/-- The names that lead to a place, from the outermost on. -/
abbrev Place := List String

/-- The files with their contents and the directories, without the one where a run starts. -/
structure FileTree where
  files : List (Place × Content) := []
  directories : List Place := []
deriving Inhabited

namespace Place

/-- The name that leads out of a directory. -/
def outward : String := ".."

/-- Whether a place is where a run starts or a directory around it. -/
def isAround (place : Place) : Bool := place.all (· = outward)

/-- Whether a place lies outside the directory where a run starts. -/
def isOutside (place : Place) : Bool := place.head? = some outward

/-- The directory in which a place lies. -/
def outer (place : Place) : Place :=
  if place.isAround then place ++ [outward] else place.dropLast

/-- The place that a name leads to from a place, whatever is there. -/
def next (place : Place) (name : String) : Place :=
  if name = outward then place.outer else place ++ [name]

end Place

namespace FileTree

/-- The content of the file at a place. -/
def file? (t : FileTree) (place : Place) : Option Content := t.files.lookup place

/-- Whether there is a directory at a place. -/
def isDirectoryAt (t : FileTree) (place : Place) : Bool :=
  place.isAround || t.directories.contains place

/-- The place that a name leads to from a place, which must be a directory. -/
def follow (t : FileTree) (place : Place) (name : String) : Except FileFault Place :=
  if t.isDirectoryAt place then
    if Path.isLongName name then .error .tooLong else .ok (place.next name)
  else .error (if (t.file? place).isSome then .notDirectory else .missing)

/-- The place that a path leads to. -/
def locate (t : FileTree) (p : Path) : Except FileFault Place :=
  if p.isTooLong then .error .tooLong
  else if p.isRooted then .error .missing
  else p.names.foldlM t.follow []

/-- The content of the file that a path leads to, if there is one.  It is a fault to ask for a name
that is too long, but not for one that leads nowhere or that no file can have. -/
def fileAt (t : FileTree) (p : Path) : Except FileFault (Option Content) :=
  if p.fault?.isSome then .ok none
  else
    match t.locate p with
    | .ok place => .ok (t.file? place)
    | .error .tooLong => .error .tooLong
    | .error _ => .ok none

/-! ## Changes -/

/-- The contents with one replaced or added. -/
def setFile : List (Place × Content) → Place → Content → List (Place × Content)
  | [], place, content => [(place, content)]
  | (p, c) :: rest, place, content =>
    if p = place then (p, content) :: rest else (p, c) :: setFile rest place content

/-- A tree after a change, and why and at which path the change failed if it did.  What was done
before a failure stays. -/
abbrev Changed := FileTree × Option (FileFault × Path)

/-- The tree with a directory at a place, where one may already be. -/
def ensureDirectoryAt (t : FileTree) (place : Place) : Except FileFault FileTree :=
  if t.isDirectoryAt place then .ok t
  else if (t.file? place).isSome then .error .occupied
  else .ok { t with directories := t.directories ++ [place] }

/-- The tree with directories for names, one below the other, from a place on.  The names behind are
those that lead to the place. -/
def ensureBelow (t : FileTree) (place : Place) (behind : List String) : List String → Changed
  | [] => (t, none)
  | name :: ahead =>
    let names := behind ++ [name]
    match t.follow place name with
    | .error fault => (t, some (fault, { names }))
    | .ok place =>
      match t.ensureDirectoryAt place with
      | .error fault => (t, some (fault, { names }))
      | .ok t => ensureBelow t place names ahead

/-- The tree with directories at a path and above it.  They are made from the first one on that is
missing. -/
def ensureDirectories (t : FileTree) (p : Path) : Changed :=
  match t.locate p with
  | .ok place =>
    match t.ensureDirectoryAt place with
    | .ok t => (t, none)
    | .error fault => (t, some (fault, p))
  | .error .missing =>
    if p.isRooted then (t, some (.missing, { p with names := [] })) else t.ensureBelow [] [] p.names
  | .error fault => (t, some (fault, p))

/-- The tree with a content in the file at a place, which may be new. -/
def put (t : FileTree) (place : Place) (content : Content) : FileTree :=
  { t with files := setFile t.files place content }

/-- The place of the file that a path leads to, whether or not it is there. -/
def filePlace (t : FileTree) (p : Path) : Except FileFault Place := do
  let place ← t.locate p
  if t.isDirectoryAt place then .error .isDirectory else .ok place

/-- The tree in which the file that a path leads to is there.  It is made if it was not. -/
def touch (t : FileTree) (p : Path) : Except FileFault FileTree :=
  (t.filePlace p).map fun place => if (t.file? place).isSome then t else t.put place .empty

/-- The tree with a file or a directory at a place, and directories above it. -/
def add (t : FileTree) (place : Place) (content : Option Content) : FileTree :=
  let above := (List.range place.length).map fun n => place.take n
  let t := { t with directories := t.directories ++ above }
  match content with
  | some c => t.put place c
  | none => { t with directories := t.directories ++ [place] }

/-- The files below the start that are new in a tree or have another content than in an earlier
one. -/
def changedSince (t before : FileTree) : List (Place × Content) :=
  t.files.filter fun (place, content) =>
    !place.isOutside && before.file? place ≠ some content

end FileTree

end CatalogTypes
