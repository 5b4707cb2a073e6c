import CatalogTypes.Declaration.Basic
import CatalogTypes.Json.Quote
import CatalogTypes.Text.Blank

/-!
# The text of a module

An expression is written on one line, but for objects, whose properties stand on lines of their
own, two spaces deeper than the brace.  A module is a banner, the imports on consecutive lines, and
the declarations with an empty line before each.

Three places hold text that is not ours: a literal, a key and a comment.  A literal is quoted, a key
is quoted unless it is an identifier, and a comment cannot end early.
-/

namespace CatalogTypes

/-! ## Keys and comments -/

/-- A character that may begin an identifier. -/
def isIdentifierStart (c : Char) : Bool := c.isAlpha || c = '_' || c = '$'

/-- A character that may continue an identifier. -/
def isIdentifierPart (c : Char) : Bool := c.isAlphanum || c = '_' || c = '$'

/-- Whether a text is an identifier. -/
def isIdentifier : List Char → Bool
  | [] => false
  | c :: rest => isIdentifierStart c && rest.all isIdentifierPart

/-- Whether a key is written without quotes: an identifier, which one line feed may follow. -/
def isBareKey (cs : List Char) : Bool :=
  isIdentifier cs || (cs.getLast? = some '\n' && isIdentifier cs.dropLast)

/-- A property key as it is written. -/
def renderKey (key : String) : String :=
  if isBareKey key.toList then key else Json.quoteAscii key

/-- A text in which no comment ends: a backslash stands inside every end mark. -/
def escapeCommentEnd : List Char → List Char
  | [] => []
  | '*' :: '/' :: rest => '*' :: '\\' :: '/' :: escapeCommentEnd rest
  | c :: rest => c :: escapeCommentEnd rest

/-- The spaces before a line at the given depth. -/
def indentation (depth : Nat) : String := String.ofList (List.replicate (2 * depth) ' ')

/-- A documentation comment: on one line, or with a star before each of its lines. -/
def renderComment (indent comment : String) : String :=
  match Text.lines (escapeCommentEnd comment.toList) with
  | [] => indent ++ "/**  */"
  | [line] => indent ++ "/** " ++ String.ofList line ++ " */"
  | many =>
    let starred := many.map fun line =>
      String.ofList (Text.trimEndBy Text.isBlank (indent.toList ++ ' ' :: '*' :: ' ' :: line))
    indent ++ "/**\n" ++ Text.joinWith "\n" starred ++ "\n" ++ indent ++ " */"

/-! ## Expressions -/

/-- Whether an expression is a union of several members, which brackets must hold together. -/
def TypeExpr.isWideUnion : TypeExpr → Bool
  | .union (_ :: _ :: _) => true
  | _ => false

/-- The lines of a property whose value has been written. -/
def renderMember (depth : Nat) (key : String) (comment : Option String) (value : String) : String :=
  let indent := indentation depth
  let line := indent ++ renderKey key ++ ": " ++ value ++ ";"
  match comment with
  | none => line
  | some text => if text.isEmpty then line else renderComment indent text ++ "\n" ++ line

/-- An object whose properties have been written. -/
def renderBraces (depth : Nat) : List String → String
  | [] => "\x7b\x7d"
  | lines => "\x7b\n" ++ Text.joinWith "\n" lines ++ "\n" ++ indentation depth ++ "\x7d"

mutual

/-- An expression as it is written at the given depth. -/
def TypeExpr.render (depth : Nat) : TypeExpr → String
  | .named name => name
  | .table name => name
  | .literal value => Json.quotePlain value
  | .raw text => text
  | .generic name args =>
    match args with
    | [] => name
    | _ => name ++ "<" ++ Text.joinWith ", " (renderAll depth args) ++ ">"
  | .union members =>
    match members with
    | [] => "never"
    | _ => Text.joinWith " | " (renderAll depth members)
  | .array element =>
    let inner := element.render depth
    (if element.isWideUnion then "(" ++ inner ++ ")" else inner) ++ "[]"
  | .jsonColumn text => "JSONColumnType<" ++ text ++ ">"
  | .object properties => renderBraces depth (renderProperties (depth + 1) properties)

/-- Each expression of a list. -/
def renderAll (depth : Nat) : List TypeExpr → List String
  | [] => []
  | e :: rest => e.render depth :: renderAll depth rest

/-- Each property of a list. -/
def renderProperties (depth : Nat) : List (Member TypeExpr) → List String
  | [] => []
  | ⟨key, value, comment⟩ :: rest =>
    renderMember depth key comment (value.render depth) :: renderProperties depth rest

end

/-- A property as it is written at the given depth. -/
def Member.render (depth : Nat) (p : Property) : String :=
  renderMember depth p.key p.comment (p.value.render depth)

theorem renderAll_eq_map (depth : Nat) (es : List TypeExpr) :
    renderAll depth es = es.map (TypeExpr.render depth) := by
  induction es with
  | nil => rfl
  | cons e es ih => rw [renderAll, ih, List.map_cons]

theorem renderProperties_eq_map (depth : Nat) (ps : List Property) :
    renderProperties depth ps = ps.map (Member.render depth) := by
  induction ps with
  | nil => rfl
  | cons p ps ih =>
    obtain ⟨key, value, comment⟩ := p
    rw [renderProperties, ih, List.map_cons]
    rfl

/-! ## Declarations and statements -/

/-- An alias as it is written. -/
def Alias.render (depth : Nat) (a : Alias) : String :=
  let params := if a.params.isEmpty then "" else "<" ++ Text.joinWith ", " a.params ++ ">"
  "type " ++ a.name ++ params ++ " = " ++ a.body.render depth ++ ";"

/-- An interface as it is written. -/
def Interface.render (depth : Nat) (i : Interface) : String :=
  "interface " ++ i.name.text ++ " " ++ (TypeExpr.object i.properties).render depth

/-- A declaration as it is written. -/
def Declaration.render (depth : Nat) : Declaration → String
  | .typeAlias a => a.render depth
  | .interface i => i.render depth

/-- An import clause as it is written. -/
def ImportClause.render (clause : ImportClause) : String :=
  match clause.localName with
  | none => clause.name
  | some l => if l.isEmpty then clause.name else clause.name ++ " as " ++ l

/-- An import as it is written, of types only or of values. -/
def ImportStatement.render (typesOnly : Bool) (s : ImportStatement) : String :=
  (if typesOnly then "import type" else "import") ++ " \x7b " ++
    Text.joinWith ", " (s.clauses.map ImportClause.render) ++ " \x7d from " ++
    Json.quoteAscii s.moduleName ++ ";"

/-- An export as it is written. -/
def renderExport (depth : Nat) (d : Declaration) : String := "export " ++ d.render depth

/-! ## Modules -/

/-- The banner of a generated module. -/
def banner : String :=
  "/**\n * This file was generated by schema-typegen.\n * Please do not edit it manually.\n */\n"

/-- A module from its banner, its imports and its declarations. -/
def layout (header : String) (imports declarations : List String) : String :=
  let blocks := (if imports.isEmpty then [] else [Text.joinWith "\n" imports]) ++ declarations
  let body := Text.joinWith "\n\n" blocks
  if header.isEmpty then body ++ "\n"
  else if body.isEmpty then header
  else header ++ "\n" ++ body ++ "\n"

/-- The imports among statements, as they are written. -/
def renderedImports (typesOnly : Bool) (statements : List Statement) : List String :=
  statements.filterMap fun
    | .importing s => some (s.render typesOnly)
    | .exporting _ => none

/-- The declarations among statements, as they are written. -/
def renderedExports (statements : List Statement) : List String :=
  statements.filterMap fun
    | .importing _ => none
    | .exporting d => some (renderExport 0 d)

/-- A module of statements. -/
def renderModule (typesOnly : Bool) (header : String) (statements : List Statement) : String :=
  layout header (renderedImports typesOnly statements) (renderedExports statements)

end CatalogTypes
