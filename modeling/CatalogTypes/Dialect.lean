import CatalogTypes.Adapter

/-!
# Dialects

The database engines that are supported.  A dialect is named by the user, in any case and under
some further names, or inferred from the address of the database.
-/

namespace CatalogTypes

/-- A supported database engine. -/
inductive Dialect where
  | sqlite
  | postgres
deriving DecidableEq, Repr, Inhabited

namespace Dialect

/-- The name of a dialect. -/
def name : Dialect → String
  | sqlite => "sqlite"
  | postgres => "postgres"

/-- The default type knowledge of a dialect. -/
def adapter : Dialect → Adapter
  | sqlite => .sqlite
  | postgres => .postgres

/-- The dialects in the order of their names. -/
def all : List Dialect := [postgres, sqlite]

/-- Further names of dialects. -/
def aliases : Keyed Dialect :=
  [("postgresql", postgres), ("pg", postgres), ("sqlite3", sqlite)]

/-- Every name of a dialect. -/
def table : Keyed Dialect := (all.map fun d => (d.name, d)) ++ aliases

/-- The dialect under a name, blanks around it and the case of its letters aside. -/
def ofName? (name : String) : Option Dialect := table.find? (Text.lower (Text.trim name))

/-- The message for a name under which there is no dialect. -/
def unknownMessage (name : String) : String :=
  "Unknown dialect: '" ++ name ++ "'. Supported: " ++ Text.joinWith ", " (all.map Dialect.name)

/-- The beginnings of the addresses of PostgreSQL databases. -/
def postgresSchemes : List String := ["postgres://", "postgresql://"]

/-- The dialect of the database at an address. -/
def infer (address : String) : Dialect :=
  let address := (Text.lower (Text.trim address)).toList
  if postgresSchemes.any fun s => s.toList.isPrefixOf address then postgres else sqlite

end Dialect

end CatalogTypes
