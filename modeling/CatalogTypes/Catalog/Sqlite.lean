import CatalogTypes.Catalog.Autoincrement
import CatalogTypes.Catalog.Check
import CatalogTypes.Catalog.Enrich
import CatalogTypes.Catalog.Fault

/-!
# SQLite's catalog

SQLite lists its tables and views with their definitions, and answers a statement for the columns
of each.  The statement names the table as a quoted identifier, in which a double quote is doubled,
so no name can end it early.

Enumerated values come from the check constraints in a table's definition.
-/

namespace CatalogTypes

/-! ## What the catalog holds -/

/-- A table or view with its definition, if it has one. -/
structure SqliteObject where
  name : String
  isView : Bool
  ddl : Option String
deriving Repr, Inhabited, DecidableEq

/-- A column as the catalog lists it. -/
structure SqliteColumn where
  name : Option String
  declaredType : Option String
  notNull : Bool
  hasDefault : Bool
deriving Repr, Inhabited, DecidableEq

/-- The tables and views in order, and the columns of each by name. -/
structure SqliteCatalog where
  objects : List SqliteObject := []
  columns : Keyed (List SqliteColumn) := []
deriving Repr, Inhabited

/-! ## Statements -/

/-- A name as a quoted identifier. -/
def quoteIdentifier (name : List Char) : List Char :=
  '"' :: name.flatMap (fun c => if c = '"' then ['"', '"'] else [c]) ++ ['"']

/-- The statement for the columns of a table. -/
def columnsStatement (name : String) : String :=
  "PRAGMA table_info(" ++ String.ofList (quoteIdentifier name.toList) ++ ")"

/-! ## Reading -/

/-- The type of a column that is declared without one. -/
def undeclaredType : String := "any"

namespace SqliteObject

/-- The definition of an object, unless it is empty. -/
def definition (o : SqliteObject) : Option String := o.ddl.filter (!·.isEmpty)

/-- The definition of a table, in which constraints are looked for. -/
def constrained (o : SqliteObject) : Option String := if o.isView then none else o.definition

/-- The column that counts by itself. -/
def counter (o : SqliteObject) : Option String := o.definition.bind autoincrementColumn

/-- A column of the object; one without a name does not fit. -/
def readColumn (o : SqliteObject) (c : SqliteColumn) : Except CatalogFault Column :=
  match c.name with
  | none => .error .misfit
  | some name =>
    .ok {
      name
      dataType := (c.declaredType.filter (!·.isEmpty)).getD undeclaredType
      isNullable := !c.notNull
      hasDefaultValue := c.hasDefault
      isAutoIncrementing := o.counter = some name }

/-- The table of an object with the given columns. -/
def table (o : SqliteObject) (columns : List Column) : Table :=
  let plain : Table := { name := o.name, isView := o.isView, columns }
  match o.constrained with
  | some ddl => plain.enrich (Check.permittedValues ddl)
  | none => plain

/-- The constraints of an object that permit no list of values. -/
def otherConstraints (o : SqliteObject) : List String :=
  match o.constrained with
  | some ddl => Check.otherBodies ddl
  | none => []

end SqliteObject

namespace SqliteCatalog

/-- The columns that the catalog lists for an object. -/
def columnsOf (c : SqliteCatalog) (o : SqliteObject) : List SqliteColumn :=
  (c.columns.find? o.name).getD []

/-- The table of an object. -/
def readTable (c : SqliteCatalog) (o : SqliteObject) : Except CatalogFault Table :=
  ((c.columnsOf o).mapM o.readColumn).map o.table

/-- The tables of the catalog. -/
def tables (c : SqliteCatalog) : Except CatalogFault (List Table) := c.objects.mapM c.readTable

/-- The statements for the columns, in order. -/
def statements (c : SqliteCatalog) : List String := c.objects.map fun o => columnsStatement o.name

end SqliteCatalog

end CatalogTypes
