import CatalogTypes.Declaration.Basic

/-!
# Names a declaration refers to

`references` lists the names of types that a piece of a module refers to, in reading order and
with repeats.  The type of a table is declared in the same module and is not listed; the text of a
raw expression is not looked into; a parameter of an alias hides the name inside it.
-/

namespace CatalogTypes

mutual

/-- The names an expression refers to. -/
def TypeExpr.references : TypeExpr → List String
  | .named name => [name]
  | .table _ | .literal _ | .raw _ => []
  | .generic name args => name :: referencesAll args
  | .union members => referencesAll members
  | .array element => element.references
  | .jsonColumn _ => ["JSONColumnType"]
  | .object properties => referencesOfProperties properties

/-- The names a list of expressions refers to. -/
def referencesAll : List TypeExpr → List String
  | [] => []
  | e :: rest => e.references ++ referencesAll rest

/-- The names the values of properties refer to. -/
def referencesOfProperties : List (Member TypeExpr) → List String
  | [] => []
  | ⟨_, value, _⟩ :: rest => value.references ++ referencesOfProperties rest

end

/-- The names an alias refers to, its parameters aside. -/
def Alias.references (a : Alias) : List String :=
  a.body.references.filter (!a.params.contains ·)

/-- The names an interface refers to. -/
def Interface.references (i : Interface) : List String := referencesOfProperties i.properties

/-- The names a declaration refers to. -/
def Declaration.references : Declaration → List String
  | .typeAlias a => a.references
  | .interface i => i.references

end CatalogTypes
