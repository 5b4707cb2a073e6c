import CatalogTypes.Catalog.Postgres
import CatalogTypes.Catalog.Sqlite

/-!
# Dumps of catalogs

A catalog that was dumped to a document: an object with the rows of the catalog as lists.  What is
missing is empty, and what has another shape is passed over.
-/

namespace CatalogTypes

/-- The items of a list, and none of anything else. -/
def itemsOf : Json → List Json
  | .arr items => items
  | _ => []

/-- The fields of an object, and none of anything else. -/
def fieldsOf : Json → List (String × Json)
  | .obj fields => fields
  | _ => []

/-- The value of a field, or null. -/
def fieldOf (value : Json) (name : String) : Json := (value.field? name).getD .null

/-- A row `[name, kind, definition]` of a table or view. -/
def SqliteObject.ofDump? (row : Json) : Option SqliteObject :=
  match itemsOf row with
  | .str name :: kind :: ddl :: _ => some { name, isView := kind == .str "view", ddl := ddl.str? }
  | _ => none

/-- A row `[place, name, type, not null, default, key]` of a column. -/
def SqliteColumn.ofDump? (row : Json) : Option SqliteColumn :=
  match itemsOf row with
  | _ :: name :: type :: notNull :: default :: _ =>
    some {
      name := name.str?
      declaredType := type.str?
      notNull := !notNull.isVoid
      hasDefault := !(default == .null) }
  | _ => none

/-- The catalog of a dump. -/
def SqliteCatalog.ofDump (dump : Json) : SqliteCatalog where
  objects := (itemsOf (fieldOf dump "objects")).filterMap SqliteObject.ofDump?
  columns := (fieldsOf (fieldOf dump "columns")).map fun (name, rows) =>
    (name, (itemsOf rows).filterMap SqliteColumn.ofDump?)

/-- The catalog of a dump. -/
def PostgresCatalog.ofDump (dump : Json) : PostgresCatalog where
  columns := itemsOf (fieldOf dump "columns")
  enums := itemsOf (fieldOf dump "enums")

end CatalogTypes
