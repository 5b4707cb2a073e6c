import CatalogTypes.Declaration.Node

/-!
# Reading pieces of a module from structured values

A piece is an object whose field `type` names its form and whose other fields hold its parts;
further fields are passed over.  Where only one form can stand, `type` may be left out.
-/

namespace CatalogTypes

open Json

/-! ## Fields -/

theorem sizeOf_of_find? {fields : List (String × Json)} {key : String} {value : Json}
    (h : Keyed.find? fields key = some value) : sizeOf value < sizeOf fields := by
  induction fields with
  | nil => simp [Keyed.find?] at h
  | cons entry rest ih =>
    obtain ⟨k, v⟩ := entry
    simp only [Keyed.find?] at h
    split at h
    · cases h; simp; omega
    · have := ih h; simp; omega

theorem lt_of_field? {fields : List (String × Json)} {key : String} {value : Json}
    (h : Keyed.find? fields key = some value) : sizeOf value < sizeOf (Json.obj fields) := by
  have := sizeOf_of_find? h
  simp
  omega

/-- The text under a key that must have one. -/
def stringField? (fields : List (String × Json)) (key : String) : Option String :=
  (Keyed.find? fields key).bind Json.str?

/-- The text under a key that may be absent or null; `none` is a value of another kind. -/
def optionalStringField? (fields : List (String × Json)) (key : String) : Option (Option String) :=
  match Keyed.find? fields key with
  | none | some .null => some none
  | some (.str s) => some (some s)
  | some _ => none

/-- The texts under a key that may be absent. -/
def stringsField? (fields : List (String × Json)) (key : String) : Option (List String) :=
  match Keyed.find? fields key with
  | none => some []
  | some (.arr items) => items.mapM Json.str?
  | some _ => none

/-- Whether the field `type` is the given form, or absent. -/
def isForm (fields : List (String × Json)) (form : String) : Bool :=
  match Keyed.find? fields "type" with
  | none => true
  | some (.str s) => s = form
  | some _ => false

/-- The text of a raw expression. -/
def rawText? : Json → Option String
  | .obj fields => if isForm fields "RawExpression" then stringField? fields "expression" else none
  | _ => none

/-! ## Expressions -/

mutual

/-- The expression that a value describes. -/
def TypeExpr.ofJson? : Json → Option TypeExpr
  | .obj fields =>
    match Keyed.find? fields "type" with
    | some (.str "Identifier") => .named <$> stringField? fields "name"
    | some (.str "TableIdentifier") => .table <$> stringField? fields "name"
    | some (.str "Literal") => .literal <$> stringField? fields "value"
    | some (.str "RawExpression") => .raw <$> stringField? fields "expression"
    | some (.str "GenericExpression") =>
      match stringField? fields "name", _h : Keyed.find? fields "args" with
      | some name, none => some (.generic name [])
      | some name, some args => .generic name <$> typeExprs? args
      | none, _ => none
    | some (.str "UnionExpression") =>
      match _h : Keyed.find? fields "args" with
      | some args => .union <$> typeExprs? args
      | none => none
    | some (.str "ArrayExpression") =>
      match _h : Keyed.find? fields "values" with
      | some element => .array <$> TypeExpr.ofJson? element
      | none => none
    | some (.str "JsonColumnType") =>
      .jsonColumn <$> (Keyed.find? fields "value").bind rawText?
    | some (.str "ObjectExpression") =>
      match _h : Keyed.find? fields "properties" with
      | some properties => .object <$> properties? properties
      | none => some (.object [])
    | _ => none
  | _ => none
termination_by value => sizeOf value
decreasing_by all_goals exact lt_of_field? _h

/-- The expressions that a list describes. -/
def typeExprs? : Json → Option (List TypeExpr)
  | .arr [] => some []
  | .arr (item :: rest) =>
    match TypeExpr.ofJson? item, typeExprs? (.arr rest) with
    | some e, some es => some (e :: es)
    | _, _ => none
  | _ => none
termination_by value => sizeOf value
decreasing_by all_goals (simp; try omega)

/-- The properties that a list describes. -/
def properties? : Json → Option (List (Member TypeExpr))
  | .arr [] => some []
  | .arr (item :: rest) =>
    match property? item, properties? (.arr rest) with
    | some p, some ps => some (p :: ps)
    | _, _ => none
  | _ => none
termination_by value => sizeOf value
decreasing_by all_goals (simp; try omega)

/-- The property that a value describes. -/
def property? : Json → Option (Member TypeExpr)
  | .obj fields =>
    if isForm fields "Property" then
      match stringField? fields "key", optionalStringField? fields "comment",
        _h : Keyed.find? fields "value" with
      | some key, some comment, some value =>
        (TypeExpr.ofJson? value).map fun value => ⟨key, value, comment⟩
      | _, _, _ => none
    else none
  | _ => none
termination_by value => sizeOf value
decreasing_by all_goals exact lt_of_field? _h

end

/-- The properties of an object expression, which alone may stand here. -/
def objectBody? : Json → Option (List Property)
  | .obj fields =>
    if isForm fields "ObjectExpression" then
      match Keyed.find? fields "properties" with
      | some value => properties? value
      | none => some []
    else none
  | _ => none

/-! ## Declarations and statements -/

/-- The alias that fields describe. -/
def Alias.ofFields? (fields : List (String × Json)) : Option Alias := do
  let name ← stringField? fields "name"
  let body ← (Keyed.find? fields "body").bind TypeExpr.ofJson?
  let params ← stringsField? fields "args"
  return { name, body, params }

/-- The name of an interface that a value describes. -/
def InterfaceName.ofJson? : Json → Option InterfaceName
  | .obj fields =>
    match Keyed.find? fields "type" with
    | some (.str "Identifier") => .fixed <$> stringField? fields "name"
    | some (.str "TableIdentifier") => .table <$> stringField? fields "name"
    | _ => none
  | _ => none

/-- The interface that fields describe. -/
def Interface.ofFields? (fields : List (String × Json)) : Option Interface := do
  let name ← (Keyed.find? fields "id").bind InterfaceName.ofJson?
  let properties ← (Keyed.find? fields "body").bind objectBody?
  return { name, properties }

/-- The declaration that a value describes. -/
def Declaration.ofJson? : Json → Option Declaration
  | .obj fields =>
    match Keyed.find? fields "type" with
    | some (.str "AliasDeclaration") => .typeAlias <$> Alias.ofFields? fields
    | some (.str "InterfaceDeclaration") => .interface <$> Interface.ofFields? fields
    | _ => none
  | _ => none

/-- The import clause that a value describes. -/
def ImportClause.ofJson? : Json → Option ImportClause
  | .obj fields => do
    if !isForm fields "ImportClause" then none
    let name ← stringField? fields "name"
    let localName ← optionalStringField? fields "alias"
    return { name, localName }
  | _ => none

/-- The import that fields describe. -/
def ImportStatement.ofFields? (fields : List (String × Json)) : Option ImportStatement := do
  let moduleName ← stringField? fields "module_name"
  match Keyed.find? fields "clauses" with
  | some (.arr items) => return { moduleName, clauses := ← items.mapM ImportClause.ofJson? }
  | _ => none

/-- The piece that a value describes.  A kind that is not known gives a stray piece; a piece of a
known kind with a part that does not fit gives none. -/
def Node.ofJson? (value : Json) : Option Node :=
  match value with
  | .obj fields =>
    match (Keyed.find? fields "type").getD .null with
    | .str "Property" => .property <$> property? value
    | .str "AliasDeclaration" => .declaration <$> Declaration.ofJson? value
    | .str "InterfaceDeclaration" => .declaration <$> Declaration.ofJson? value
    | .str "ImportClause" => .clause <$> ImportClause.ofJson? value
    | .str "ImportStatement" => (.statement ∘ .importing) <$> ImportStatement.ofFields? fields
    | .str "ExportStatement" =>
      (.statement ∘ .exporting) <$> (Keyed.find? fields "argument").bind Declaration.ofJson?
    | .str kind =>
      if ["Identifier", "TableIdentifier", "Literal", "RawExpression", "GenericExpression",
          "UnionExpression", "ArrayExpression", "JsonColumnType", "ObjectExpression"].contains kind
      then .type <$> TypeExpr.ofJson? value
      else some (.stray (.str kind))
    | kind => some (.stray kind)
  | _ => none

end CatalogTypes
