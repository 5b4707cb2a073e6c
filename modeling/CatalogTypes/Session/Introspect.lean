import CatalogTypes.Catalog.Filter
import CatalogTypes.Session.Basic

/-!
# Reading the catalog of a database

A connection is opened, the catalog is read through it, and it is closed again, whatever happens in
between.  An error of the database itself is reported and becomes a failure of introspection; a
driver that fails in another way ends the run.
-/

namespace CatalogTypes

/-! ## Connections -/

/-- What is handed to a dialect's driver for an address. -/
def Dialect.target : Dialect → String → String
  | .sqlite, address =>
    let scheme := "sqlite://".toList
    if scheme.isPrefixOf address.toList then String.ofList (address.toList.drop scheme.length)
    else address
  | .postgres, address => address

/-- The channel of a dialect. -/
def Dialect.channel : Dialect → Log.Channel
  | .sqlite => .sqlite
  | .postgres => .postgres

/-- The message before a connection is opened. -/
def Dialect.openingMessage (d : Dialect) (target : String) : String :=
  match d with
  | .sqlite => "Opening SQLite database " ++ target
  | .postgres => "Connecting to PostgreSQL..."

/-- The message that reports an error of a database. -/
def Dialect.errorMessage (d : Dialect) (text : String) : String :=
  match d with
  | .sqlite => "SQLite connection error: " ++ text
  | .postgres => "PostgreSQL connection error: " ++ text

/-- The message of a failure of introspection. -/
def Dialect.failureMessage (d : Dialect) (target text : String) : String :=
  match d with
  | .sqlite => "Could not open SQLite database '" ++ target ++ "': " ++ text
  | .postgres => "PostgreSQL introspection failed: " ++ text

namespace Run

variable {α : Type}

/-- Opens a connection and yields its place among the connections. -/
def connect (d : Dialect) (target : String) : Run Nat := do
  let s ← get
  match s.opening d target with
  | .error fault =>
    set (s.connect { dialect := d, target })
    throw fault.failure
  | .ok files =>
    set (({ s with files } : Session).connect { dialect := d, target, opened := true })
    pure s.connections.length

/-- Reports that a connection is there, where that is done. -/
def reportConnected : Dialect → Run Unit
  | .sqlite => pure ()
  | .postgres => note .postgres Log.Level.debug "PostgreSQL connection established"

/-- A step in which an error of the database is reported and becomes a failure of introspection. -/
def reporting (d : Dialect) (target : String) (step : Run α) : Run α :=
  tryCatch step fun
    | .database text => do
      note d.channel Log.Level.error (d.errorMessage text)
      throw (.introspection d (d.failureMessage target text))
    | failure => throw failure

/-- A step with a connection to the database at an address. -/
def withConnection (d : Dialect) (address : String) (step : Run α) : Run α :=
  let target := d.target address
  reporting d target do
    note d.channel Log.Level.debug (d.openingMessage target)
    let place ← connect d target
    closing place do
      reportConnected d
      step

/-! ## Catalogs -/

/-- Asks a database a question, the first one with the number zero. -/
def query (server : Server α) (number : Nat) : Run Unit :=
  match server.queryFault number with
  | some fault => throw fault.failure
  | none => pure ()

/-- The message for a constraint that permits no list of values. -/
def constraintMessage (body : String) : String :=
  "Skipping CHECK constraint without IN list: " ++ String.ofList (body.toList.take 60)

/-- Reads the table of an SQLite object, for which a question with a number is asked. -/
def readObject (server : Server SqliteCatalog) (o : SqliteObject) (number : Nat) : Run Table :=
  within { table := some (.str o.name) } do
    query server number
    let t ← ofExcept .catalog (server.catalog.readTable o)
    o.otherConstraints.forM fun body =>
      note .constraints Log.Level.debug (constraintMessage body)
    pure t

/-- The wanted tables; the others are reported. -/
def select (selection : Selection) (tables : List Table) : Run (List Table) := do
  (selection.leftOut tables).forM fun t =>
    note .selection Log.Level.debug ("Skipping " ++ t.qualifiedName)
  pure (selection.select tables)

/-- Reads an SQLite database: its objects are asked for first, and then the columns of each. -/
def readSqlite (selection : Selection) : Run Database := do
  let server := (← get).sqlite
  query server 0
  let tables ← select selection (← (server.catalog.objects.zipIdx 1).mapM fun (o, number) =>
    readObject server o number)
  note .sqlite Log.Level.info ("Introspected " ++ toString tables.length ++ " SQLite tables")
  pure { tables }

/-- Reads a PostgreSQL database: the values of its types are asked for first, and then all columns. -/
def readPostgres (selection : Selection) : Run Database := do
  let server := (← get).postgres
  query server 0
  query server 1
  let enums ← ofExcept .catalog server.catalog.enumTypes
  let tables ← select selection (← ofExcept .catalog server.catalog.tables)
  note .postgres Log.Level.info
    ("Introspected " ++ toString tables.length ++ " PostgreSQL tables and " ++
      toString enums.size ++ " enum types")
  pure { tables, enums }

/-- Reads a database of a dialect. -/
def readCatalog : Dialect → Selection → Run Database
  | .sqlite => readSqlite
  | .postgres => readPostgres

/-- Reads the wanted part of the database at an address. -/
def introspect (d : Dialect) (address : String) (selection : Selection) : Run Database := do
  let db ← within { operation := some (.str "introspect") } do
    note .generator Log.Level.info "Introspecting database..."
    withConnection d address (readCatalog d selection)
  if db.tables.isEmpty then note .generator Log.Level.warning "No tables found in database"
  pure db

end Run

end CatalogTypes
