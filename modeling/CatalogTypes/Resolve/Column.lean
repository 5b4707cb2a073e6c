import CatalogTypes.Adapter
import CatalogTypes.Catalog.Basic
import CatalogTypes.Resolve.Options

/-!
# The type of a column

The first source that applies gives the type of a column:

1. an override for the column, which is taken as it is;
2. enumerated values, of the column or of a declared type, as a union of literals;
3. the type mapping, by the column type in lowercase;
4. the adapter's scalar, or its default scalar.

Under an override nothing more is added.  Otherwise the type is put into an array, null is joined
to it, and it is wrapped as generated, in this order and where the column says so.

Everything here is a function of the column and what is known about it.  What a module needs
because of the type is found afterwards, in `Resolve.Usage`.
-/

namespace CatalogTypes

/-- The column types whose mapped text is a JSON column. -/
def jsonDataTypes : List String := ["json", "jsonb"]

/-! ## Sources -/

/-- The override for a column: under its table's bare name, else under the qualified name. -/
def Options.overrideFor (o : Options) (t : Table) (c : Column) : Option Override :=
  match o.overrides.find? (t.name ++ "." ++ c.name) with
  | some value => some value
  | none =>
    match t.schemaName with
    | none => none
    | some s =>
      if s.isEmpty then none else o.overrides.find? (t.qualifiedName ++ "." ++ c.name)

/-- The values of a column: its own, else those of the declared type it has. -/
def Column.enumerated (enums : EnumTypes) (c : Column) : Option (List String) :=
  match c.enumValues with
  | some values => some values
  | none => enums.get c.dataType c.dataTypeSchema

/-- The union of literals; one literal stands on its own. -/
def literalUnion : List String → TypeExpr
  | [value] => .literal value
  | values => .union (values.map .literal)

/-- The type that a text of the type mapping stands for: a type's name, or the text of an object or
tuple type. -/
def mappedType (dataType text : String) : TypeExpr :=
  let text := Text.trim text
  match text.toList.head? with
  | some c =>
    if c = '{' || c = '[' then
      if jsonDataTypes.contains dataType then .jsonColumn text else .raw text
    else .named text
  | none => .named text

/-- The type of a column apart from its flags, if it has no override. -/
def Column.baseType (a : Adapter) (o : Options) (enums : EnumTypes) (c : Column) : TypeExpr :=
  match c.enumerated enums with
  | some values => literalUnion values
  | none =>
    let dataType := Text.lower c.dataType
    match o.typeMapping.find? dataType with
    | some text => mappedType dataType text
    | none => .named ((a.scalarFor c.dataType).getD a.defaultScalar)

/-! ## Flags -/

/-- A type with null joined to it. -/
def TypeExpr.orNull : TypeExpr → TypeExpr
  | .union members => .union (members ++ [.named "null"])
  | e => .union [e, .named "null"]

/-- A type under the flags of a column. -/
def Column.wrap (c : Column) (e : TypeExpr) : TypeExpr :=
  -- the column is null as a whole, not its entries, and a wrapped type may be null
  let e := if c.isArray then .array e else e
  let e := if c.isNullable then e.orNull else e
  if c.hasDefaultValue || c.isAutoIncrementing then .generic generatedWrapper [e] else e

/-- What the flags keep, one by one, they keep together. -/
theorem Column.wrap_of_closed (P : TypeExpr → Prop) (array : ∀ e, P e → P (.array e))
    (orNull : ∀ e, P e → P e.orNull) (generated : ∀ e, P e → P (.generic generatedWrapper [e]))
    (c : Column) {e : TypeExpr} (h : P e) : P (c.wrap e) := by
  have entries : P (if c.isArray then .array e else e) := by
    split
    · exact array e h
    · exact h
  unfold Column.wrap
  dsimp only
  generalize (if c.isArray then TypeExpr.array e else e) = e' at entries ⊢
  have whole : P (if c.isNullable then e'.orNull else e') := by
    split
    · exact orNull e' entries
    · exact entries
  generalize (if c.isNullable then e'.orNull else e') = e'' at whole ⊢
  split
  · exact generated e'' whole
  · exact whole

/-- The type of a column of a table. -/
def columnTypeOf (a : Adapter) (o : Options) (enums : EnumTypes) (t : Table) (c : Column) :
    TypeExpr :=
  match o.overrideFor t c with
  | some value => value.expression
  | none => c.wrap (c.baseType a o enums)

/-- Whether the type of a column falls back to the adapter's default scalar. -/
def usesDefaultScalar (a : Adapter) (o : Options) (enums : EnumTypes) (t : Table) (c : Column) :
    Bool :=
  (o.overrideFor t c).isNone && (c.enumerated enums).isNone &&
    (o.typeMapping.find? (Text.lower c.dataType)).isNone && (a.scalarFor c.dataType).isNone

end CatalogTypes
