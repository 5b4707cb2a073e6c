/-!
# Type declarations

What is written to a module of types: expressions that stand for types, declarations that name
them, and the statements that import or export.  The forms are closed; the text of each is fixed
in `Declaration.Render`.
-/

namespace CatalogTypes

/-! ## Expressions -/

/-- A member of an object: its key, its value and a comment on it. -/
structure Member (α : Type) where
  key : String
  value : α
  comment : Option String := none
deriving Repr, Inhabited

/-- An expression that stands for a type.  A table's type is told apart from other named types
because it is declared in the same module and never imported. -/
inductive TypeExpr where
  | named (name : String)
  | table (name : String)
  | literal (value : String)
  | raw (text : String)
  | generic (name : String) (args : List TypeExpr)
  | union (members : List TypeExpr)
  | array (element : TypeExpr)
  | jsonColumn (text : String)
  | object (properties : List (Member TypeExpr))
deriving Repr, Inhabited

/-- A property of an object type. -/
abbrev Property := Member TypeExpr

/-! ## Declarations and statements -/

/-- A named type with parameters. -/
structure Alias where
  name : String
  body : TypeExpr
  params : List String := []
deriving Repr, Inhabited

/-- The name of an interface: of a table, or fixed. -/
inductive InterfaceName where
  | fixed (name : String)
  | table (name : String)
deriving Repr, Inhabited, DecidableEq

/-- The name as it is written. -/
def InterfaceName.text : InterfaceName → String
  | fixed name => name
  | table name => name

/-- A named object type. -/
structure Interface where
  name : InterfaceName
  properties : List Property
deriving Repr, Inhabited

/-- A declaration. -/
inductive Declaration where
  | typeAlias (value : Alias)
  | interface (value : Interface)
deriving Repr, Inhabited

/-- A name taken from another module; `localName` is given only when it differs. -/
structure ImportClause where
  name : String
  localName : Option String := none
deriving Repr, Inhabited, DecidableEq

/-- The name a clause declares. -/
def ImportClause.declared (clause : ImportClause) : String := clause.localName.getD clause.name

/-- The names taken from one module. -/
structure ImportStatement where
  moduleName : String
  clauses : List ImportClause
deriving Repr, Inhabited, DecidableEq

/-- A statement of a module. -/
inductive Statement where
  | importing (statement : ImportStatement)
  | exporting (declaration : Declaration)
deriving Repr, Inhabited

end CatalogTypes
