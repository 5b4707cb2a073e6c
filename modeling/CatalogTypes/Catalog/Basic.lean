import CatalogTypes.Keyed
import CatalogTypes.Text.Case

/-!
# Catalogs

What a database's catalog says: tables with their columns in catalog order, and the enumerated
types it declares by name.  The values of a column may be enumerated in two ways: on the column
itself, as read from a check constraint, or through a declared type.
-/

namespace CatalogTypes

/-! ## Columns and tables -/

/-- A column as the catalog reports it.  `enumValues` are the values a check constraint permits. -/
structure Column where
  name : String
  dataType : String
  dataTypeSchema : Option String := none
  isArray : Bool := false
  isAutoIncrementing : Bool := false
  isNullable : Bool := false
  hasDefaultValue : Bool := false
  comment : Option String := none
  enumValues : Option (List String) := none
deriving Repr, Inhabited, DecidableEq

/-- A table or view with its columns. -/
structure Table where
  name : String
  schemaName : Option String := none
  isView : Bool := false
  isPartition : Bool := false
  columns : List Column := []
deriving Repr, Inhabited, DecidableEq

/-- A name after its schema's name, if there is a schema with a name. -/
def qualify (schemaName : Option String) (name : String) : String :=
  match schemaName with
  | none => name
  | some s => if s.isEmpty then name else s ++ "." ++ name

/-- The name of a table after its schema's name. -/
def Table.qualifiedName (t : Table) : String := qualify t.schemaName t.name

/-! ## Enumerated types -/

/-- The enumerated types of a catalog with their values, under their keys. -/
structure EnumTypes where
  entries : Keyed (List String) := []
deriving Repr, Inhabited, DecidableEq

namespace EnumTypes

/-- The key of an enumerated type: its qualified name in lowercase. -/
def key (name : String) (schemaName : Option String) : String :=
  Text.lower (qualify schemaName name)

/-- The table with a value added at the end of a type's values. -/
def addValue (entries : Keyed (List String)) (key value : String) : Keyed (List String) :=
  entries.set key (((entries.find? key).getD []) ++ [value])

/-- The types of rows of a schema, a type and a value, in declaration order. -/
def ofRows (rows : List (Option String × String × String)) : EnumTypes :=
  ⟨rows.foldl (fun entries (schemaName, name, value) =>
    addValue entries (key name schemaName) value) []⟩

/-- The values of a type: under its qualified name, else under its bare name. -/
def get (e : EnumTypes) (name : String) (schemaName : Option String) : Option (List String) :=
  match e.entries.find? (key name schemaName) with
  | some values => some values
  | none => e.entries.find? (key name none)

/-- The number of types. -/
def size (e : EnumTypes) : Nat := e.entries.length

end EnumTypes

/-! ## Databases -/

/-- What a catalog says about one database. -/
structure Database where
  tables : List Table := []
  enums : EnumTypes := {}
deriving Repr, Inhabited, DecidableEq

end CatalogTypes
