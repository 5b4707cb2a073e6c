import CatalogTypes.Catalog.Basic
import CatalogTypes.Catalog.Glob

/-!
# Selecting tables

Views and partitions can be left out, and tables are selected by two patterns.  A table matches a
pattern when its bare or its qualified name does.  An empty pattern selects nothing and leaves
nothing out: it is as if it were not given.
-/

namespace CatalogTypes

/-- Which tables of a catalog are wanted. -/
structure Selection where
  includePattern : Option String := none
  excludePattern : Option String := none
  includeViews : Bool := true
  partitions : Bool := false
deriving Repr, Inhabited, DecidableEq

/-- Whether a table matches a pattern under one of its names. -/
def Table.matchesPattern (t : Table) (pattern : String) : Bool :=
  Glob.isMatch pattern t.name || Glob.isMatch pattern t.qualifiedName

namespace Selection

/-- A pattern that is given and not empty. -/
def given (pattern : Option String) : Option String := pattern.filter (!·.isEmpty)

/-- Whether a table is of a wanted kind. -/
def acceptsKind (s : Selection) (t : Table) : Bool :=
  (s.includeViews || !t.isView) && (s.partitions || !t.isPartition)

/-- Whether a table is wanted. -/
def accepts (s : Selection) (t : Table) : Bool :=
  s.acceptsKind t &&
    (match given s.includePattern with
      | some pattern => t.matchesPattern pattern
      | none => true) &&
    (match given s.excludePattern with
      | some pattern => !t.matchesPattern pattern
      | none => true)

/-- The wanted tables, in order. -/
def select (s : Selection) (tables : List Table) : List Table := tables.filter s.accepts

/-- The tables that are left out, in order. -/
def leftOut (s : Selection) (tables : List Table) : List Table := tables.filter (!s.accepts ·)

end Selection

end CatalogTypes
