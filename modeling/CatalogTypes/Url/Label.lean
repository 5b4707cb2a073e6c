import CatalogTypes.Files.Path
import CatalogTypes.Url.Split

/-!
# Labels of databases

The name under which the database at an address is mentioned.  At the address of a server it is
taken from the path, else from the host, and never from what precedes the host, where passwords
stand.  Any other address is that of a file, and the file's name is taken.
-/

namespace CatalogTypes

/-- The schemes of the addresses of servers. -/
def serverSchemes : List String := ["postgres", "postgresql"]

/-- The beginning of the address of an SQLite database that may be left out. -/
def sqliteScheme : List Char := "sqlite://".toList

/-- The text without the first place where the given one stands in it. -/
def eraseFirst (piece : List Char) : List Char → List Char
  | [] => []
  | c :: rest =>
    if piece.isPrefixOf (c :: rest) then (c :: rest).drop piece.length
    else c :: eraseFirst piece rest

/-- The label of a database on a server. -/
def Url.serverLabel (u : Url) : String :=
  match u.path.dropWhile (· = '/') with
  | [] => u.host?.getD "postgres"
  | path => String.ofList path

/-- The label of a database in a file. -/
def fileLabel (address : String) : String :=
  let path := Path.ofString (String.ofList (eraseFirst sqliteScheme address.toList))
  path.name?.getD address

/-- The label of the database at an address. -/
def databaseLabel (address : String) : Except UrlError String :=
  (Url.split address.toList).map fun u =>
    if serverSchemes.contains u.scheme then u.serverLabel else fileLabel address

end CatalogTypes
