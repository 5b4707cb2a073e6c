import CatalogTypes.Declaration.References
import CatalogTypes.Keyed

/-!
# Helper aliases

A helper is an alias that a module declares once, and only if some type refers to it.  The text of
a raw body is not looked into for names, so a helper with one lists the names it needs.

The helpers of the PostgreSQL dialect refer to one another in a cycle: a JSON value is an array, an
object or a primitive, and the first two hold JSON values again.
-/

namespace CatalogTypes

/-- The name of the wrapper of generated columns. -/
def generatedWrapper : String := "Generated"

/-- An alias and the names that its body needs but does not show. -/
structure Helper where
  declared : Alias
  requires : List String := []
deriving Repr, Inhabited

namespace Helper

/-- The name of a helper. -/
def name (h : Helper) : String := h.declared.name

/-- The names a helper depends on, the listed ones first. -/
def dependencies (h : Helper) : List String := h.requires ++ h.declared.references

/-! ## The shipped helpers -/

/-- The union of named types. -/
def namedUnion (names : List String) : TypeExpr := .union (names.map .named)

/-- The type of a column that is read as one type and written as any of others. -/
def columnType (read : String) (written : List String) : TypeExpr :=
  .generic "ColumnType" [.named read, namedUnion written, namedUnion written]

/-- The helper with the given name and body. -/
def simple (name : String) (body : TypeExpr) : Helper := { declared := { name, body } }

/-- The wrapper of a column that the database fills when it is left out. -/
def generated : Helper where
  declared := {
    name := generatedWrapper
    params := ["T"]
    body := .raw ("T extends ColumnType<infer S, infer I, infer U>\n" ++
      "  ? ColumnType<S, I | undefined, U>\n" ++
      "  : ColumnType<T, T | undefined, T>") }
  requires := ["ColumnType"]

/-- Helpers under their names. -/
def table (helpers : List Helper) : Keyed Helper := helpers.map fun h => (h.name, h)

/-- The helpers of every dialect. -/
def common : Keyed Helper := table [generated]

/-- The helpers of the PostgreSQL dialect. -/
def postgres : Keyed Helper := table [
  generated,
  simple "Int8" (columnType "string" ["bigint", "number", "string"]),
  simple "Numeric" (columnType "string" ["number", "string"]),
  simple "Timestamp" (columnType "Date" ["Date", "string"]),
  simple "Json" (.generic "ColumnType" [.named "JsonValue", .named "string", .named "string"]),
  simple "JsonArray" (.array (.named "JsonValue")),
  { simple "JsonObject" (.raw "\x7b\n  [x: string]: JsonValue | undefined;\n\x7d") with
    requires := ["JsonValue"] },
  simple "JsonPrimitive" (namedUnion ["boolean", "number", "string", "null"]),
  simple "JsonValue" (namedUnion ["JsonArray", "JsonObject", "JsonPrimitive"])]

end Helper

end CatalogTypes
