import CatalogTypes.Catalog.Decode
import CatalogTypes.Declaration.Decode
import CatalogTypes.Resolve.Options

/-!
# Reading the options of resolution from structured values

The options come as an object, and null stands for the defaults.  A value that does not fit makes
the whole unreadable.
-/

namespace CatalogTypes

/-- An override: an expression, or a text. -/
def Override.ofJson? : Json → Option Override
  | .str s => some (.text s)
  | value => .type <$> TypeExpr.ofJson? value

/-- A map of texts under a key that may be absent. -/
def textsField? (fields : List (String × Json)) (key : String) : Option (Keyed String) :=
  match Keyed.find? fields key with
  | none => some []
  | some (.obj entries) => entries.mapM fun (key, value) => value.str?.map fun s => (key, s)
  | some _ => none

/-- The options that a value describes. -/
def Options.ofJson? : Json → Option Options
  | .null => some {}
  | .obj fields => do
    let camelCase ← (optional fields "camel_case" false readBool).toOption
    let mapping ← textsField? fields "type_mapping"
    let overrides ←
      match Keyed.find? fields "overrides" with
      | none => some []
      | some (.obj entries) =>
        entries.mapM fun (key, value) => (Override.ofJson? value).map fun v => (key, v)
      | some _ => none
    let customImports ← textsField? fields "custom_imports"
    return { camelCase, typeMapping := lowerKeys mapping, overrides, customImports }
  | _ => none

end CatalogTypes
