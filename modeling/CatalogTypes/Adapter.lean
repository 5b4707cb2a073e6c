import CatalogTypes.Helper
import CatalogTypes.Imports
import CatalogTypes.Text.Case
import CatalogTypes.Text.Blank

/-!
# Adapters

An adapter is what a dialect knows about types: the type that stands for each column type by
default, the helpers there are, the names that can be imported, and the schemas whose tables go
without a prefix.
-/

namespace CatalogTypes

/-- The package that the query builder's types come from. -/
def baseModule : String := "kysely"

/-- The types of the query builder. -/
def baseImports : Keyed Specifier :=
  [("ColumnType", ⟨baseModule, "ColumnType"⟩), ("JSONColumnType", ⟨baseModule, "JSONColumnType"⟩)]

/-- The default type knowledge of a dialect. -/
structure Adapter where
  name : String
  scalars : Keyed String
  helpers : Keyed Helper := Helper.common
  imports : Keyed Specifier := baseImports
  defaultScalar : String := "unknown"
  defaultSchemas : List String := []
deriving Repr, Inhabited

namespace Adapter

/-! ## Column types -/

/-- Whether the text from a modifier's opening parenthesis on is a modifier: no line feed stands
before the last closing parenthesis, and only blanks after it. -/
def isModifier (cs : List Char) : Bool :=
  match Text.trimEndBy Text.isBlank cs with
  | '(' :: rest =>
    match rest.getLast? with
    | some ')' => !rest.contains '\n'
    | _ => false
  | _ => false

/-- A column type without the modifier at its end: it is cut at the first parenthesis that opens a
modifier, together with the blanks before it. -/
def withoutModifier : List Char → List Char
  | [] => []
  | c :: rest =>
    if isModifier ((c :: rest).dropWhile Text.isBlank) then [] else c :: withoutModifier rest

/-- The default type of a column type in lowercase: of the whole text if it is known, else of the
text without its modifier. -/
def scalarFor (a : Adapter) (dataType : String) : Option String :=
  let key := Text.lower (Text.trim dataType)
  match a.scalars.find? key with
  | some scalar => some scalar
  | none => a.scalars.find? (String.ofList (withoutModifier key.toList))

/-! ## Schemas -/

/-- Whether the names of a schema's tables carry its name. -/
def qualifies (a : Adapter) (schemaName : Option String) : Bool :=
  match schemaName with
  | none => false
  | some s => !a.defaultSchemas.isEmpty && !s.isEmpty && !a.defaultSchemas.contains s

/-! ## The shipped adapters -/

/-- The adapter of SQLite. -/
def sqlite : Adapter where
  name := "sqlite"
  scalars := [
    ("any", "unknown"), ("blob", "Buffer"), ("boolean", "number"), ("integer", "number"),
    ("numeric", "number"), ("real", "number"), ("text", "string")]

/-- The adapter of PostgreSQL. -/
def postgres : Adapter where
  name := "postgres"
  scalars := [
    ("bool", "boolean"), ("bpchar", "string"), ("bytea", "Buffer"), ("char", "string"),
    ("cidr", "string"), ("citext", "string"), ("date", "Timestamp"), ("float4", "number"),
    ("float8", "number"), ("inet", "string"), ("int2", "number"), ("int4", "number"),
    ("int8", "Int8"), ("json", "Json"), ("jsonb", "Json"), ("money", "string"),
    ("name", "string"), ("numeric", "Numeric"), ("oid", "number"), ("text", "string"),
    ("time", "string"), ("timetz", "string"), ("timestamp", "Timestamp"),
    ("timestamptz", "Timestamp"), ("uuid", "string"), ("varchar", "string"), ("xml", "string")]
  helpers := Helper.postgres
  defaultSchemas := ["public"]

end Adapter

end CatalogTypes
