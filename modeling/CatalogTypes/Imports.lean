import CatalogTypes.Declaration.Basic
import CatalogTypes.Keyed

/-!
# Imports

A `Specifier` says from where a local name comes.  A `Registry` knows which names can be imported
and which were asked for, each once and in the order of the first request.  The import statements
are read off the requests: one statement for each module, in the order in which the modules first
came, with the names of that module in their order.
-/

namespace CatalogTypes

/-! ## Specifiers -/

/-- The module that a name comes from and its name there. -/
structure Specifier where
  moduleName : String
  exportName : String
deriving Repr, Inhabited, DecidableEq

namespace Specifier

/-- The clause that imports the name under a local name. -/
def clause (s : Specifier) (localName : String) : ImportClause :=
  ⟨s.exportName, if localName = s.exportName then none else some localName⟩

/-- The parts around the last `#`, neither of them empty. -/
def splitAtHash (cs : List Char) : Option (List Char × List Char) :=
  -- read from the end, since the last `#` counts
  let back := cs.reverse
  let name := (back.takeWhile (· ≠ '#')).reverse
  match back.dropWhile (· ≠ '#') with
  | [] => none
  | _ :: path => if path.isEmpty || name.isEmpty then none else some (path.reverse, name)

/-- The specifier that a text stands for: a module and a name there with `#` between them, or a
module that exports the local name.  A `#` at either end belongs to the module. -/
def parse (localName text : String) : Specifier :=
  match splitAtHash text.toList with
  | some (path, name) => ⟨String.ofList path, String.ofList name⟩
  | none => ⟨text, localName⟩

/-- The specifiers of a table of texts. -/
def parseAll (table : Keyed String) : Keyed Specifier :=
  table.map fun (localName, text) => (localName, parse localName text)

end Specifier

/-! ## Registries -/

/-- The names that can be imported and those that were asked for, in order, with where they come
from. -/
structure Registry where
  available : Keyed Specifier
  requested : Keyed Specifier := []
deriving Repr, Inhabited

namespace Registry

/-- The registry of a base table and of custom entries, which win over it. -/
def ofTables (base custom : Keyed Specifier) : Registry := { available := base.update custom }

/-- Whether a name can be imported. -/
def offers (r : Registry) (name : String) : Bool := r.available.has name

/-- The registry after a request; a name that cannot be imported changes nothing. -/
def request (r : Registry) (name : String) : Registry :=
  match r.available.find? name with
  | none => r
  | some s =>
    if r.requested.has name then r else { r with requested := r.requested ++ [(name, s)] }

/-- The modules of the requested names, in the order in which they first came. -/
def moduleNames (r : Registry) : List String :=
  (r.requested.map (·.2.moduleName)).foldl
    (fun seen m => if seen.contains m then seen else seen ++ [m]) []

/-- The import statements that serve the requests. -/
def statements (r : Registry) : List ImportStatement :=
  r.moduleNames.map fun m =>
    { moduleName := m
      clauses := (r.requested.filter (·.2.moduleName = m)).map fun (name, s) => s.clause name }

def size (r : Registry) : Nat := r.moduleNames.length

@[simp] theorem available_request (r : Registry) (name : String) :
    (r.request name).available = r.available := by
  unfold request
  split
  · rfl
  · split <;> rfl

theorem length_statements (r : Registry) : r.statements.length = r.size := by
  simp [statements, size]

end Registry

end CatalogTypes
