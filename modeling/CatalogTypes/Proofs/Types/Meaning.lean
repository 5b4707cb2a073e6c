import CatalogTypes.Proofs.Types.Enumerated
import Mathlib.Data.Set.Insert

/-!
# What the type of a column means

A type stands for a set of data: a literal for one text, `null` for null, a union for the union of
its members, an array for the lists over its element, and the wrapper of generated columns for what
it wraps.  What any other expression stands for is left open.

**Theorem (`columnTypeOf_meaning`).** The type of a column without an override stands for the data
of the first source that applies, or for the lists over them if the column is an array, and for null
if it is nullable.  What the source gives does not depend on the flags, nor on the sources behind
it: under settings that differ only there, the type stands for the same data.  The type of a
generated column is the wrapper around the type of the same column that is not generated.  The type
of a column with an override depends on the override alone.

Null is put into some unions and beside other expressions; it means the same
(`TypeExpr.meaning_orNull`).
-/

namespace CatalogTypes

/-! ## Data -/

/-- What a column may hold: null, a text, a list, or something else. -/
inductive Datum (α : Type) where
  | null
  | text (value : String)
  | list (items : List (Datum α))
  | other (value : α)

variable {α : Type}

/-- The lists over a set of data. -/
def Datum.listsOver (s : Set (Datum α)) : Set (Datum α) :=
  {d | ∃ items, d = .list items ∧ ∀ i ∈ items, i ∈ s}

/-- The texts of a list of values. -/
def Datum.texts (values : List String) : Set (Datum α) := {d | ∃ value ∈ values, d = .text value}

/-! ## Expressions -/

namespace TypeExpr

mutual

/-- The data that an expression stands for, given those of the expressions whose meaning is
open. -/
def meaning (atoms : TypeExpr → Set (Datum α)) : TypeExpr → Set (Datum α)
  | .literal value => {.text value}
  | .named name => if name = "null" then {.null} else atoms (.named name)
  | .union members => meaningOfAny atoms members
  | .array element => Datum.listsOver (element.meaning atoms)
  | .generic name args =>
    match args with
    | [e] => if name = generatedWrapper then e.meaning atoms else atoms (.generic name [e])
    | _ => atoms (.generic name args)
  | .table name => atoms (.table name)
  | .raw text => atoms (.raw text)
  | .jsonColumn text => atoms (.jsonColumn text)
  | .object properties => atoms (.object properties)

/-- The data that some expression of a list stands for. -/
def meaningOfAny (atoms : TypeExpr → Set (Datum α)) : List TypeExpr → Set (Datum α)
  | [] => ∅
  | e :: rest => e.meaning atoms ∪ meaningOfAny atoms rest

end

variable (atoms : TypeExpr → Set (Datum α))

theorem meaningOfAny_append (es fs : List TypeExpr) :
    meaningOfAny atoms (es ++ fs) = meaningOfAny atoms es ∪ meaningOfAny atoms fs := by
  induction es with
  | nil => exact (Set.empty_union _).symm
  | cons e es ih =>
    show e.meaning atoms ∪ meaningOfAny atoms (es ++ fs) =
      e.meaning atoms ∪ meaningOfAny atoms es ∪ meaningOfAny atoms fs
    rw [ih, Set.union_assoc]

theorem meaning_null : (TypeExpr.named "null").meaning atoms = {.null} := if_pos rfl

theorem meaningOfAny_null : meaningOfAny atoms [.named "null"] = {.null} := by
  rw [meaningOfAny, meaningOfAny, meaning_null, Set.union_empty]

theorem meaning_generated (e : TypeExpr) :
    (TypeExpr.generic generatedWrapper [e]).meaning atoms = e.meaning atoms := if_pos rfl

/-- **Null among the members of a union and null beside an expression mean the same.** -/
theorem meaning_orNull (e : TypeExpr) :
    e.orNull.meaning atoms = e.meaning atoms ∪ {.null} := by
  have beside : (TypeExpr.union [e, .named "null"]).meaning atoms =
      e.meaning atoms ∪ {.null} := by
    show e.meaning atoms ∪ meaningOfAny atoms [.named "null"] = _
    rw [meaningOfAny_null]
  cases e with
  | union members =>
    show meaningOfAny atoms (members ++ [.named "null"]) =
      meaningOfAny atoms members ∪ {.null}
    rw [meaningOfAny_append, meaningOfAny_null]
  | named | table | literal | raw | generic | array | jsonColumn | object => exact beside

theorem meaningOfAny_literals (values : List String) :
    meaningOfAny atoms (literals values) = Datum.texts values := by
  induction values with
  | nil =>
    ext d
    simp [literals, meaningOfAny, Datum.texts]
  | cons value values ih =>
    show ({.text value} : Set (Datum α)) ∪ meaningOfAny atoms (literals values) = _
    rw [ih]
    ext d
    simp [Datum.texts]

theorem meaning_literalUnion (values : List String) :
    (literalUnion values).meaning atoms = Datum.texts values := by
  match values with
  | [] => exact meaningOfAny_literals atoms []
  | [value] =>
    rw [← meaningOfAny_literals atoms]
    exact (Set.union_empty _).symm
  | value :: value' :: more => exact meaningOfAny_literals atoms (value :: value' :: more)

end TypeExpr

/-! ## Columns -/

namespace Column

/-- What a column admits whose values or entries are from a set: the values or the lists of entries,
and null if it is nullable. -/
def admitted (isArray isNullable : Bool) (s : Set (Datum α)) : Set (Datum α) :=
  (if isArray then Datum.listsOver s else s) ∪ if isNullable then {.null} else ∅

theorem meaning_wrap (atoms : TypeExpr → Set (Datum α)) (c : Column) (e : TypeExpr) :
    (c.wrap e).meaning atoms = admitted c.isArray c.isNullable (e.meaning atoms) := by
  have array : (if c.isArray then TypeExpr.array e else e).meaning atoms =
      if c.isArray then Datum.listsOver (e.meaning atoms) else e.meaning atoms := by
    split_ifs <;> rfl
  rw [wrap_eq, admitted, ← array]
  generalize (if c.isArray then TypeExpr.array e else e) = inner
  have whole : (if c.isNullable then inner.orNull else inner).meaning atoms =
      inner.meaning atoms ∪ if c.isNullable then {.null} else ∅ := by
    split_ifs
    · exact inner.meaning_orNull atoms
    · exact (Set.union_empty _).symm
  rw [← whole]
  dsimp only
  split_ifs
  · exact TypeExpr.meaning_generated atoms _
  · exact TypeExpr.meaning_generated atoms _
  · rfl
  · rfl

end Column

/-! ## Sources -/

/-- What gives a column its type apart from its flags: values of its own, the values of a declared
type, the text that the type mapping has for a column type, or the name of a scalar. -/
inductive TypeSource where
  | own (values : List String)
  | declared (values : List String)
  | mapped (dataType text : String)
  | scalar (name : String)

/-- The data of a source. -/
def TypeSource.meaning (atoms : TypeExpr → Set (Datum α)) : TypeSource → Set (Datum α)
  | .own values => Datum.texts values
  | .declared values => Datum.texts values
  | .mapped dataType text => (mappedType dataType text).meaning atoms
  | .scalar name => (TypeExpr.named name).meaning atoms

/-- The first source that applies to a column.  A source is told by itself and by the absence of
those before it. -/
inductive Column.FirstSource (a : Adapter) (o : Options) (enums : EnumTypes) (c : Column) :
    TypeSource → Prop
  | own {values : List String} : c.enumValues = some values → FirstSource a o enums c (.own values)
  | declared {values : List String} : c.enumValues = none →
      enums.get c.dataType c.dataTypeSchema = some values →
      FirstSource a o enums c (.declared values)
  | mapped {text : String} : c.enumValues = none → enums.get c.dataType c.dataTypeSchema = none →
      o.typeMapping.find? (Text.lower c.dataType) = some text →
      FirstSource a o enums c (.mapped (Text.lower c.dataType) text)
  | scalar : c.enumValues = none → enums.get c.dataType c.dataTypeSchema = none →
      o.typeMapping.find? (Text.lower c.dataType) = none →
      FirstSource a o enums c (.scalar ((a.scalarFor c.dataType).getD a.defaultScalar))

/-- Other settings agree with some on what they give a column, as far as a source and those before
it; behind the source they may differ. -/
def TypeSource.AgreesOn (c : Column) (a a' : Adapter) (o o' : Options) (enums enums' : EnumTypes) :
    TypeSource → Prop
  | .own _ => True
  | .declared _ => enums'.get c.dataType c.dataTypeSchema = enums.get c.dataType c.dataTypeSchema
  | .mapped _ _ =>
    enums'.get c.dataType c.dataTypeSchema = enums.get c.dataType c.dataTypeSchema ∧
      o'.typeMapping.find? (Text.lower c.dataType) = o.typeMapping.find? (Text.lower c.dataType)
  | .scalar _ =>
    enums'.get c.dataType c.dataTypeSchema = enums.get c.dataType c.dataTypeSchema ∧
      o'.typeMapping.find? (Text.lower c.dataType) = o.typeMapping.find? (Text.lower c.dataType) ∧
      (a'.scalarFor c.dataType).getD a'.defaultScalar =
        (a.scalarFor c.dataType).getD a.defaultScalar

namespace Column

variable {a a' : Adapter} {o o' : Options} {enums enums' : EnumTypes} {c : Column}

theorem exists_firstSource (a : Adapter) (o : Options) (enums : EnumTypes) (c : Column) :
    ∃ source, c.FirstSource a o enums source := by
  cases own : c.enumValues with
  | some values => exact ⟨_, .own own⟩
  | none =>
    cases declared : enums.get c.dataType c.dataTypeSchema with
    | some values => exact ⟨_, .declared own declared⟩
    | none =>
      cases mapped : o.typeMapping.find? (Text.lower c.dataType) with
      | some text => exact ⟨_, .mapped own declared mapped⟩
      | none => exact ⟨_, .scalar own declared mapped⟩

theorem FirstSource.unique {source source' : TypeSource} (h : c.FirstSource a o enums source)
    (h' : c.FirstSource a o enums source') : source = source' := by
  cases h <;> cases h' <;> simp_all

/-- What stands behind the first source does not matter. -/
theorem FirstSource.of_agrees {source : TypeSource} (h : c.FirstSource a o enums source)
    (agrees : source.AgreesOn c a a' o o' enums enums') : c.FirstSource a' o' enums' source := by
  cases h with
  | own own => exact .own own
  | declared own declared => exact .declared own (agrees.trans declared)
  | mapped own declared mapped =>
    exact .mapped own (agrees.1.trans declared) (agrees.2.trans mapped)
  | scalar own declared mapped =>
    rw [← agrees.2.2]
    exact .scalar own (agrees.1.trans declared) (agrees.2.1.trans mapped)

/-- The type of a column apart from its flags means what its first source gives. -/
theorem FirstSource.meaning_baseType {source : TypeSource} (h : c.FirstSource a o enums source)
    (atoms : TypeExpr → Set (Datum α)) :
    (c.baseType a o enums).meaning atoms = source.meaning atoms := by
  unfold baseType enumerated
  cases h with
  | own own =>
    simp only [own]
    exact TypeExpr.meaning_literalUnion atoms _
  | declared own declared =>
    simp only [own, declared]
    exact TypeExpr.meaning_literalUnion atoms _
  | mapped own declared mapped =>
    simp only [own, declared, mapped]
    rfl
  | scalar own declared mapped =>
    simp only [own, declared, mapped]
    rfl

/-- The column with other flags. -/
def withFlags (c : Column) (isArray isNullable hasDefaultValue isAutoIncrementing : Bool) :
    Column :=
  { c with isArray, isNullable, hasDefaultValue, isAutoIncrementing }

end Column

/-! ## Types of columns -/

/-- **The type of a column means what the first source gives, as the flags say; that of a column with
an override is the override.** -/
theorem columnTypeOf_meaning (atoms : TypeExpr → Set (Datum α)) (a : Adapter) (o : Options)
    (enums : EnumTypes) (t : Table) (c : Column) :
    (o.overrideFor t c = none →
      (∃! source, c.FirstSource a o enums source) ∧
        (∀ source, c.FirstSource a o enums source →
          ∀ (a' : Adapter) (o' : Options) (enums' : EnumTypes), o'.overrideFor t c = none →
            source.AgreesOn c a a' o o' enums enums' →
            ∀ isArray isNullable hasDefaultValue isAutoIncrementing : Bool,
              (columnTypeOf a' o' enums' t
                (c.withFlags isArray isNullable hasDefaultValue isAutoIncrementing)).meaning atoms =
                Column.admitted isArray isNullable (source.meaning atoms)) ∧
        (c.isGenerated = true → columnTypeOf a o enums t c = .generic generatedWrapper
          [columnTypeOf a o enums t (c.withFlags c.isArray c.isNullable false false)])) ∧
      ∀ value, o.overrideFor t c = some value →
        ∀ (a' : Adapter) (o' : Options) (enums' : EnumTypes) (c' : Column),
          o'.overrides = o.overrides → c'.name = c.name →
          columnTypeOf a' o' enums' t c' = value.expression := by
  have unoverridden {a' : Adapter} {o' : Options} {enums' : EnumTypes}
      (free : o'.overrideFor t c = none) (c' : Column) (name : c'.name = c.name) :
      columnTypeOf a' o' enums' t c' = c'.wrap (c'.baseType a' o' enums') := by
    have free' : o'.overrideFor t c' = none := by
      unfold Options.overrideFor at free ⊢
      rwa [name]
    simp only [columnTypeOf, free']
  constructor
  · intro free
    refine ⟨?_, ?_, ?_⟩
    · obtain ⟨source, first⟩ := Column.exists_firstSource a o enums c
      exact ⟨source, first, fun other h => h.unique first⟩
    · intro source first a' o' enums' free' agrees isArray isNullable hasDefaultValue
        isAutoIncrementing
      have base := (first.of_agrees agrees).meaning_baseType atoms
      rw [unoverridden free' (c.withFlags isArray isNullable hasDefaultValue isAutoIncrementing) rfl,
        Column.meaning_wrap]
      exact congrArg (Column.admitted isArray isNullable) base
    · intro generated
      rw [unoverridden free c rfl,
        unoverridden free (c.withFlags c.isArray c.isNullable false false) rfl, Column.wrap_eq,
        Column.wrap_eq, generated]
      rfl
  · intro value found a' o' enums' c' overrides name
    have found' : o'.overrideFor t c' = some value := by
      unfold Options.overrideFor at found ⊢
      rwa [overrides, name]
    simp only [columnTypeOf, found']

end CatalogTypes
