import CatalogTypes.Catalog.Basic
import CatalogTypes.Catalog.Fault
import CatalogTypes.Json.Display

/-!
# PostgreSQL's catalog

PostgreSQL lists the columns of all tables in one run of rows and the values of its enumerated types
in another.  A row is an object.  `readRows` reads the rows one by one, and `tablesOf` gathers rows
into tables: a table stands where its first row stands, its columns keep the order of the rows, and
its kind is what its first row says.
-/

namespace CatalogTypes

/-- The rows of the columns and of the enumerated types. -/
structure PostgresCatalog where
  columns : List Json := []
  enums : List Json := []
deriving Inhabited

/-- The value of a row's field, which must be there. -/
def cell (row : Json) (name : String) : Except CatalogFault Json :=
  match row.field? name with
  | some value => .ok value
  | none => .error (.noField name)

/-- A text. -/
def textCell : Json → Except CatalogFault String
  | .str s => .ok s
  | _ => .error .misfit

/-- A text or null. -/
def optionalTextCell : Json → Except CatalogFault (Option String)
  | .null => .ok none
  | value => (textCell value).map some

/-- Whether a row's field is the given text. -/
def cellIs (row : Json) (name text : String) : Bool :=
  match row.field? name with
  | some (.str s) => s = text
  | _ => false

/-! ## Rows of columns -/

/-- The table of a row as the row names it. -/
structure TableKey where
  schemaName : Json
  name : Json
deriving DecidableEq

/-- A row of the column listing: the column, the table it belongs to, and that table's kind. -/
structure ColumnRow where
  schemaName : Option String
  tableName : String
  isView : Bool := false
  isPartition : Bool := false
  column : Column
deriving Repr, Inhabited, DecidableEq

namespace ColumnRow

/-- Whether a default draws from a sequence. -/
def isSequenceDefault : Json → Bool
  | .str s => "nextval(".toList.isPrefixOf s.toList
  | _ => false

/-- The type of an array's elements: the array type's name without the mark in front of it. -/
def elementType : Json → Except CatalogFault Json
  | .str s =>
    match s.toList with
    | '_' :: rest => .ok (.str (String.ofList rest))
    | _ => .ok (.str s)
  | _ => .error .namelessElement

/-- The column of a row. -/
def readColumn (row : Json) : Except CatalogFault Column := do
  let kind ← cell row "data_type"
  let typeName ← cell row "udt_name"
  let isArray := kind == .str "ARRAY"
  let typeName ← if isArray then elementType typeName else .ok typeName
  let default ← cell row "column_default"
  let isIdentity := cellIs row "is_identity" "YES"
  let name ← cell row "column_name"
  let typeSchema ← cell row "udt_schema"
  let nullable ← cell row "is_nullable"
  let comment ← cell row "column_comment"
  return {
    name := ← textCell name
    dataType := ← textCell typeName
    dataTypeSchema := ← optionalTextCell typeSchema
    isArray
    isAutoIncrementing := isIdentity || isSequenceDefault default
    isNullable := nullable == .str "YES"
    hasDefaultValue := !(default == .null) || isIdentity
    comment := ← optionalTextCell comment }

/-- A value by which tables can be told apart. -/
def keyCell (value : Json) : Except CatalogFault Unit :=
  match value with
  | .arr _ | .obj _ => .error (.unkeyable value.kindName)
  | _ => .ok ()

/-- The table of a row. -/
def readKey (row : Json) : Except CatalogFault TableKey := do
  let schemaName ← cell row "table_schema"
  let name ← cell row "table_name"
  keyCell schemaName
  keyCell name
  return { schemaName, name }

/-- The kind of a row's table. -/
def readKind (row : Json) : Except CatalogFault (Bool × Bool) := do
  let kind ← cell row "table_type"
  return (kind == .str "VIEW", !((row.field? "is_partition").getD .null).isVoid)

/-- The rows one by one, with the tables they belong to.  The kind of a table is read from its
first row; `seen` are the tables that have had one. -/
def readRows (seen : List TableKey) :
    List Json → Except CatalogFault (List (TableKey × Bool × Bool × Column))
  | [] => .ok []
  | row :: rest => do
    let key ← readKey row
    let fresh := !seen.contains key
    let (isView, isPartition) ← if fresh then readKind row else .ok (false, false)
    let column ← readColumn row
    let more ← readRows (if fresh then key :: seen else seen) rest
    return (key, isView, isPartition, column) :: more

/-- A row whose table has names. -/
def ofRead : TableKey × Bool × Bool × Column → Except CatalogFault ColumnRow
  | (key, isView, isPartition, column) => do
    let tableName ← textCell key.name
    let schemaName ← optionalTextCell key.schemaName
    return { schemaName, tableName, isView, isPartition, column }

/-- The schema's and the table's name. -/
def owner (r : ColumnRow) : Option String × String := (r.schemaName, r.tableName)

end ColumnRow

/-- The table of a row that is its first one. -/
def ColumnRow.table (r : ColumnRow) : Table where
  name := r.tableName
  schemaName := r.schemaName
  isView := r.isView
  isPartition := r.isPartition
  columns := [r.column]

/-- The schema's and the table's name. -/
def Table.owner (t : Table) : Option String × String := (t.schemaName, t.name)

/-- The tables with a row more: its column joins its table, which comes last if it is new. -/
def addRow : List Table → ColumnRow → List Table
  | [], r => [r.table]
  | t :: rest, r =>
    if t.owner = r.owner then { t with columns := t.columns ++ [r.column] } :: rest
    else t :: addRow rest r

/-- The tables that rows describe. -/
def tablesOf (rows : List ColumnRow) : List Table := rows.foldl addRow []

/-! ## Rows of enumerated types -/

/-- A schema's name in a row; anything void is none. -/
def schemaText (value : Json) : Option String := if value.isVoid then none else some value.shown

/-- The row of a value of an enumerated type; the value must be a text. -/
def enumRow (row : Json × Json × Json) : Except CatalogFault (Option String × String × String) :=
  (textCell row.2.2).map fun value => (schemaText row.1, row.2.1.shown, value)

/-- The enumerated types of rows. -/
def EnumTypes.readRows (rows : List (Json × Json × Json)) : Except CatalogFault EnumTypes :=
  (rows.mapM enumRow).map EnumTypes.ofRows

/-- The parts of a row of the enumerated types. -/
def enumCells (row : Json) : Except CatalogFault (Json × Json × Json) := do
  return (← cell row "schema_name", ← cell row "enum_name", ← cell row "enum_value")

/-! ## Reading -/

namespace PostgresCatalog

/-- The enumerated types of the catalog. -/
def enumTypes (c : PostgresCatalog) : Except CatalogFault EnumTypes := do
  EnumTypes.readRows (← c.enums.mapM enumCells)

/-- The tables of the catalog. -/
def tables (c : PostgresCatalog) : Except CatalogFault (List Table) := do
  let read ← ColumnRow.readRows [] c.columns
  return tablesOf (← read.mapM ColumnRow.ofRead)

end PostgresCatalog

end CatalogTypes
