import CatalogTypes.Catalog.Dump
import CatalogTypes.Session.Basic

/-!
# Sessions from documents

A session can be described by a document: the environment, the files and directories that are
there, and for each dialect the dump of the catalog that its database holds, with the errors of a
database that refuses.  What is missing is empty, and what has another shape is passed over.
-/

namespace CatalogTypes

/-! ## Parts of a session -/

/-- The bytes that pairs of hexadecimal digits spell, up to the first that is none. -/
def bytesOfHex : List Char → List UInt8
  | a :: b :: rest =>
    match Text.hexValue? a, Text.hexValue? b with
    | some high, some low => UInt8.ofNat (high * 16 + low) :: bytesOfHex rest
    | _, _ => []
  | _ => []

/-- The content that a text stands for, or an object whose field `hex` spells its bytes. -/
def Content.ofDocument? : Json → Option Content
  | .str written => some (.text written)
  | value => (value.field? "hex").map fun hex => .bytes (bytesOfHex (hex.str?.getD "").toList)

/-- The variables that an object holds. -/
def Environment.ofDocument (document : Json) : Environment :=
  (fieldsOf document).filterMap fun (name, value) => value.str?.map fun text => (name, text)

/-- The place of a path from the starting point. -/
def placeOf (path : String) : Place := (Path.ofString path).names.foldl Place.next []

/-- The directories of a list of paths, and the files of an object with their contents. -/
def FileTree.ofDocument (files directories : Json) : FileTree :=
  let start := (itemsOf directories).foldl (fun t path => t.add (placeOf (path.str?.getD "")) none)
    ({} : FileTree)
  (fieldsOf files).foldl
    (fun t (path, value) =>
      match Content.ofDocument? value with
      | some content => t.add (placeOf path) (some content)
      | none => t)
    start

/-- The database that holds a catalog.  If it refuses to answer, it does so at once. -/
def Server.ofDocument {α : Type} (catalog : Json → α) (document : Json) : Server α where
  catalog := catalog document
  connectFault _ := (fieldOf document "connect_error").str?.map .database
  queryFault number :=
    if number = 0 then (fieldOf document "query_error").str?.map .database else none

/-- The point in time of a list of year, month, day, hour, minute, second and microsecond. -/
def Log.Instant.ofDocument? : Json → Option Log.Instant
  | .arr [.int year, .int month, .int day, .int hour, .int minute, .int second, .int micro] =>
    some ⟨year.toNat, month.toNat, day.toNat, hour.toNat, minute.toNat, second.toNat, micro.toNat⟩
  | _ => none

/-! ## Sessions -/

namespace Session

/-- A session at a point in time, unless the document gives another, whose log lines come from a
place. -/
def ofDocument (now : Log.Instant) (site : Log.CallSite) (document : Json) : Session where
  environment := Environment.ofDocument (fieldOf document "environ")
  files := FileTree.ofDocument (fieldOf document "files") (fieldOf document "dirs")
  sqlite := Server.ofDocument SqliteCatalog.ofDump (fieldOf document "sqlite")
  postgres := Server.ofDocument PostgresCatalog.ofDump (fieldOf document "postgres")
  now := (Log.Instant.ofDocument? (fieldOf document "now")).getD now
  site := site

end Session

end CatalogTypes
