import CatalogTypes.Declaration.Basic
import CatalogTypes.Keyed
import CatalogTypes.Text.Case

/-!
# Options of resolution

What a user may say about the types of columns: the casing of keys, the type for a column type, the
type of one column, and where further names come from.
-/

namespace CatalogTypes

/-- The type of one column as the user gave it: an expression, or text to be written as it is. -/
inductive Override where
  | type (expression : TypeExpr)
  | text (text : String)
deriving Repr, Inhabited

/-- The expression an override stands for. -/
def Override.expression : Override → TypeExpr
  | type e => e
  | text s => .raw s

/-- The options of resolution.  The keys of `typeMapping` are in lowercase, those of `overrides` are
a table's and a column's name with a point between. -/
structure Options where
  camelCase : Bool := false
  typeMapping : Keyed String := []
  overrides : Keyed Override := []
  customImports : Keyed String := []
deriving Repr, Inhabited

namespace Options

/-- A type mapping with its keys in lowercase; of two that fall together the later counts. -/
def lowerKeys (mapping : Keyed String) : Keyed String :=
  Keyed.ofPairs (mapping.map fun (key, value) => (Text.lower key, value))

end Options

end CatalogTypes
