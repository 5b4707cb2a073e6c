import CatalogTypes.Declaration.Render
import CatalogTypes.Session.Basic
import CatalogTypes.Transform

/-!
# Declaring the types of a database

The module is a function of the database, the adapter and the options.  While it is made, what was
decided for each column is reported: an override, a default type, and every import when it is first
requested.
-/

namespace CatalogTypes.Run

/-! ## Reports -/

/-- Reports how the type of a column was found, where that is of note. -/
def reportSource (a : Adapter) (o : Options) (enums : EnumTypes) (t : Table) (c : Column) :
    Run Unit :=
  within { column := some (.str c.name) } do
    if (o.overrideFor t c).isSome then
      note .columnTypes Log.Level.debug ("Using override for " ++ t.name ++ "." ++ c.name)
    else if usesDefaultScalar a o enums t c then
      note .columnTypes Log.Level.debug
        ("No scalar for data type '" ++ c.dataType ++ "', using default")

/-- Reports the imports that a usage requests and an earlier one did not. -/
def reportRequests (before after : Usage) : Run Unit :=
  (before.newSources after).forM fun (name, source) =>
    note .imports Log.Level.debug ("Import requested: " ++ name ++ " from " ++ source.moduleName)

/-- Reports on a column, and yields what is needed after it. -/
def reportColumn (a : Adapter) (o : Options) (enums : EnumTypes) (t : Table) (u : Usage)
    (c : Column) : Run Usage := do
  reportSource a o enums t c
  let after := u.collect a (columnTypeOf a o enums t c).references
  reportRequests u after
  pure after

/-- Reports on the columns of a table, and yields what is needed after them. -/
def reportTable (a : Adapter) (o : Options) (enums : EnumTypes) (u : Usage) (t : Table) :
    Run Usage :=
  within { table := some (.str t.qualifiedName) } (t.columns.foldlM (reportColumn a o enums t) u)

/-- The message at the end of a transformation. -/
def transformedMessage (tables nodes : Nat) (u : Usage) : String :=
  "Transformed " ++ toString tables ++ " tables into " ++ toString nodes ++ " nodes (" ++
    toString u.registry.size ++ " import modules, " ++ toString u.helpers.length ++
    " definitions)"

/-- Yields the statements of the module for a database, reporting on the way. -/
def transform (a : Adapter) (o : Options) (db : Database) : Run (List Statement) := do
  let usage ← (a.sortTables db.tables).foldlM (reportTable a o db.enums) (Usage.start a o)
  let statements := CatalogTypes.transform a o db
  note .transformation Log.Level.debug
    (transformedMessage db.tables.length statements.length usage)
  pure statements

/-! ## The text -/

/-- Yields the text of the module for a database. -/
def declare (a : Adapter) (o : Options) (typesOnly : Bool) (db : Database) : Run String := do
  let statements ← within { operation := some (.str "transform") } (transform a o db)
  note .generator Log.Level.debug ("Rendered " ++ toString statements.length ++ " nodes")
  pure (renderModule typesOnly banner statements)

end CatalogTypes.Run
