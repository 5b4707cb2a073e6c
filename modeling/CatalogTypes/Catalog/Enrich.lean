import CatalogTypes.Catalog.Basic

/-!
# Attaching permitted values to columns

`Table.enrich` puts the values that constraints permit on the columns they name.  A column matches
by its name in lowercase; every other column, and everything else about a matching one, stays.

The columns are gone through once.  A column that the values are for is replaced by a copy, and the
table by a copy that holds it; a column that they are not for stays the very same, and so does a
table that they are for no column of.
-/

namespace CatalogTypes

/-- The values for a column, by its name in lowercase. -/
def Column.valuesIn (c : Column) (values : Keyed (List String)) : Option (List String) :=
  values.find? (Text.lower c.name)

/-- The copy that replaces a column, if the values are for it. -/
def Column.copy? (values : Keyed (List String)) (c : Column) : Option Column :=
  match c.valuesIn values with
  | some permitted => some { c with enumValues := some permitted }
  | none => none

/-- The column with the values for it, if there are any. -/
def Column.enrich (values : Keyed (List String)) (c : Column) : Column := (c.copy? values).getD c

/-- The columns with their replacements, and whether one of them is replaced. -/
def replaceColumns (values : Keyed (List String)) : List Column → List Column × Bool
  | [] => ([], false)
  | c :: rest =>
    let (columns, changed) := replaceColumns values rest
    match c.copy? values with
    | some copy => (copy :: columns, true)
    | none => (c :: columns, changed)

/-- The copy that replaces a table, if the values are for one of its columns. -/
def Table.copy? (values : Keyed (List String)) (t : Table) : Option Table :=
  if values.isEmpty then none
  else
    let (columns, changed) := replaceColumns values t.columns
    if changed then some { t with columns } else none

/-- The table with the values on the columns they are for. -/
def Table.enrich (values : Keyed (List String)) (t : Table) : Table := (t.copy? values).getD t

/-- Which columns of a table the values are for. -/
def Table.matches (values : Keyed (List String)) (t : Table) : List Bool :=
  t.columns.map fun c => (c.copy? values).isSome

/-- Whether a table stays the very same. -/
def Table.isUntouched (values : Keyed (List String)) (t : Table) : Bool :=
  (t.copy? values).isNone

end CatalogTypes
