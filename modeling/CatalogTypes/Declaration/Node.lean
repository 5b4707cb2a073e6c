import CatalogTypes.Declaration.References
import CatalogTypes.Declaration.Render
import CatalogTypes.Json.Display

/-!
# Pieces of a module

A `Node` is any piece of a module on its own, of any of the forms of `Declaration.Basic`, or a
piece of a kind that is none of them, which refers to nothing and cannot be written.
-/

namespace CatalogTypes

/-- A piece of a module. -/
inductive Node where
  | type (expression : TypeExpr)
  | property (property : Property)
  | declaration (declaration : Declaration)
  | clause (clause : ImportClause)
  | statement (statement : Statement)
  | stray (kind : Json)
deriving Inhabited

/-- A piece of a kind that has no written form. -/
structure UnknownNodeKind where
  kind : Json

/-- The wording of the error. -/
def UnknownNodeKind.message (e : UnknownNodeKind) : String :=
  "Cannot serialize node of type " ++ e.kind.shownWithin

namespace Node

/-- The names a piece refers to. -/
def references : Node → List String
  | type e => e.references
  | property p => p.value.references
  | declaration d => d.references
  | clause _ => []
  | statement (.importing _) => []
  | statement (.exporting d) => d.references
  | stray _ => []

/-- A piece as it is written at the given depth. -/
def render (typesOnly : Bool) (depth : Nat) : Node → Except UnknownNodeKind String
  | type e => .ok (e.render depth)
  | property p => .ok (p.render depth)
  | declaration d => .ok (d.render depth)
  | clause c => .ok c.render
  | statement (.importing s) => .ok (s.render typesOnly)
  | statement (.exporting d) => .ok (renderExport depth d)
  | stray kind => .error ⟨kind⟩

/-- Whether a piece stands among the imports of a module. -/
def isImport : Node → Bool
  | statement (.importing _) => true
  | _ => false

/-- A module of pieces: imports first, all else in order as declarations. -/
def renderAll (typesOnly : Bool) (header : String) (nodes : List Node) :
    Except UnknownNodeKind String := do
  let rendered ← nodes.mapM fun node => return (node.isImport, ← node.render typesOnly 0)
  let imports := rendered.filterMap fun (isImport, text) => if isImport then some text else none
  let others := rendered.filterMap fun (isImport, text) => if isImport then none else some text
  return layout header imports others

end Node

end CatalogTypes
