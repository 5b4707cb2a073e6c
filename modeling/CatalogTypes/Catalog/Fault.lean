import CatalogTypes.Text.Quoted

/-!
# Faults of a catalog

Why the rows of a catalog cannot be read as tables.
-/

namespace CatalogTypes

/-- A fault of a row. -/
inductive CatalogFault where
  /-- A field that every row has is missing. -/
  | noField (name : String)
  /-- An array's element type has no name. -/
  | namelessElement
  /-- A table is named by a value of a kind that cannot be looked up. -/
  | unkeyable (kind : String)
  /-- A part of a table or a column does not fit. -/
  | misfit
deriving DecidableEq, Repr

/-- The wording of a fault, for the faults that have one. -/
def CatalogFault.message? : CatalogFault → Option String
  | noField name => some (Text.quoted name)
  | namelessElement => none
  | unkeyable kind => some ("unhashable type: '" ++ kind ++ "'")
  | misfit => none

end CatalogTypes
