import CatalogTypes.Session.Address
import CatalogTypes.Session.Declare
import CatalogTypes.Session.Introspect
import CatalogTypes.Session.Output
import CatalogTypes.Url.Label

/-!
# A run

A run finds out the address and the dialect, reads the catalog, declares the types, and writes or
verifies the output file.
-/

namespace CatalogTypes

/-- What a run has generated. -/
structure Generated where
  output : String
  dialect : Dialect
  tableCount : Nat
  outFile : Option String
  written : Bool := false
deriving Repr, DecidableEq, Inhabited

namespace Run

/-- The dialect under a name. -/
def findDialect (name : String) : Run Dialect :=
  match Dialect.ofName? name with
  | some d => pure d
  | none => throw (.unknownDialect name)

/-- The dialect that the settings name, or that of the database at an address. -/
def chooseDialect (named : Option String) (address : String) : Run Dialect :=
  match named.filter (!·.isEmpty) with
  | some name => findDialect name
  | none => pure (.infer address)

/-- The address and the dialect that the settings mean. -/
def resolve (s : Settings) : Run (String × Dialect) :=
  within { operation := some (.str "resolve") } do
    let address ← resolveAddress s.url s.envFile
    pure (address, ← chooseDialect s.dialect address)

/-- Verifies or writes the output as the settings say, and yields whether it was written. -/
def deliver (s : Settings) (output : String) : Run Bool :=
  if s.verify then do
    verifyOutput output s.outFile
    pure false
  else
    match s.outFile.filter (!·.isEmpty) with
    | some file => do
      writeOutput output file
      pure true
    | none => pure false

/-- Generates the types as the settings say. -/
def generate (s : Settings) : Run Generated := do
  let (address, dialect) ← resolve s
  let label ← ofExcept .url (databaseLabel address)
  within { dialect := some (.str dialect.name), database := some (.str label) } do
    let db ← introspect dialect address s.selection
    let output ← declare dialect.adapter s.options s.typeOnlyImports db
    let written ← deliver s output
    pure { output, dialect, tableCount := db.tables.length, outFile := s.outFile, written }

end Run

end CatalogTypes
