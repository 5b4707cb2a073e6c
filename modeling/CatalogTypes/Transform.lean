import CatalogTypes.Catalog.Basic
import CatalogTypes.Naming
import CatalogTypes.Resolve.Column
import CatalogTypes.Resolve.Usage

/-!
# From a catalog to a module

A module holds, in this order, the imports, the helpers sorted by name, one interface for each table
sorted by its type's name, and the interface `DB` that maps the tables' keys to their types.

The interfaces are functions of the tables alone.  What the module imports and which helpers it
declares is read off them by collecting their references column by column.
-/

namespace CatalogTypes

/-- The name of the interface of the whole database. -/
def databaseInterface : String := "DB"

/-! ## Tables in order -/

/-- The text that a table's type is named after. -/
def Adapter.symbolSource (a : Adapter) (t : Table) : String :=
  if a.qualifies t.schemaName then t.qualifiedName else t.name

/-- The name of a table's type. -/
def Adapter.typeName (a : Adapter) (t : Table) : String := Naming.pascalCase (a.symbolSource t)

/-- The tables sorted by the names of their types; tables whose types fall together keep their
order. -/
def Adapter.sortTables (a : Adapter) (tables : List Table) : List Table :=
  tables.mergeSort fun s t => a.typeName s ≤ a.typeName t

/-- The key of a table in the interface of the database. -/
def Adapter.tableKey (a : Adapter) (camel : Bool) (t : Table) : String :=
  let key := Naming.propertyKey camel t.name
  match t.schemaName with
  | some s =>
    if a.qualifies t.schemaName then Naming.propertyKey camel s ++ "." ++ key else key
  | none => key

/-! ## Interfaces -/

/-- The property of a column. -/
def columnProperty (a : Adapter) (o : Options) (enums : EnumTypes) (t : Table) (c : Column) :
    Property where
  key := Naming.propertyKey o.camelCase c.name
  value := columnTypeOf a o enums t c
  comment := c.comment

/-- The interface of a table. -/
def tableInterface (a : Adapter) (o : Options) (enums : EnumTypes) (t : Table) : Interface where
  name := .table (a.typeName t)
  properties := t.columns.map (columnProperty a o enums t)

/-- The interface of the database, for tables in order. -/
def databaseInterfaceOf (a : Adapter) (o : Options) (tables : List Table) : Interface where
  name := .fixed databaseInterface
  properties := tables.map fun t =>
    { key := a.tableKey o.camelCase t, value := .table (a.typeName t) }

/-! ## The module -/

/-- The types of all columns of tables, in order. -/
def columnTypes (a : Adapter) (o : Options) (enums : EnumTypes) (tables : List Table) :
    List TypeExpr :=
  tables.flatMap fun t => t.columns.map (columnTypeOf a o enums t)

/-- What a module with the types needs. -/
def usageOf (a : Adapter) (o : Options) (types : List TypeExpr) : Usage :=
  types.foldl (fun u e => u.collect a e.references) (Usage.start a o)

/-- The declarations of the helpers in use, sorted by name. -/
def helperDeclarations (a : Adapter) (u : Usage) : List Declaration :=
  (u.helpers.mergeSort fun s t => s ≤ t).filterMap fun name =>
    (a.helpers.find? name).map fun h => .typeAlias h.declared

/-- The statements of the module for a database. -/
def transform (a : Adapter) (o : Options) (db : Database) : List Statement :=
  let tables := a.sortTables db.tables
  let usage := usageOf a o (columnTypes a o db.enums tables)
  usage.registry.statements.map .importing ++
    (helperDeclarations a usage).map .exporting ++
    tables.map (fun t => .exporting (.interface (tableInterface a o db.enums t))) ++
    [.exporting (.interface (databaseInterfaceOf a o tables))]

end CatalogTypes
