import CatalogTypes.Catalog.Basic
import CatalogTypes.Json.Basic

/-!
# Reading a catalog from structured values

A column, a table or a database is read from an object with a field for each of its parts.  Every
part that does not fit is reported, in the order of the parts, with the way to it; further fields
are passed over.
-/

namespace CatalogTypes

/-! ## Problems -/

/-- A step on the way to a part. -/
inductive PathStep where
  | field (name : String)
  | index (place : Nat)
deriving DecidableEq, Repr

/-- Why a part does not fit. -/
inductive Misfit where
  | missing
  | notText
  | notBool
  | notBoolText
  | notList
  | notMap
  | notRecord
deriving DecidableEq, Repr

/-- A part that does not fit and the way to it. -/
structure Problem where
  path : List PathStep
  misfit : Misfit
deriving DecidableEq, Repr

/-- A reading: a value, or all problems of it. -/
abbrev Reading (α : Type) := Except (List Problem) α

namespace Reading

variable {α β : Type}

/-- The problems of a reading. -/
def problems : Reading α → List Problem
  | .ok _ => []
  | .error ps => ps

/-- A reading that fails at the place itself. -/
def misfit (m : Misfit) : Reading α := .error [⟨[], m⟩]

/-- A reading of a part, seen from the whole. -/
def under (step : PathStep) : Reading α → Reading α
  | .ok a => .ok a
  | .error ps => .error (ps.map fun p => { p with path := step :: p.path })

/-- Both readings, with the problems of both. -/
def both (f : Reading (α → β)) (a : Reading α) : Reading β :=
  match f, a with
  | .ok f, .ok a => .ok (f a)
  | f, a => .error (f.problems ++ a.problems)

/-- A list of readings, with the problems of all. -/
def all : List (Reading α) → Reading (List α)
  | [] => .ok []
  | r :: rest => both (both (.ok List.cons) r) (all rest)

end Reading

/-! ## Plain values -/

/-- A text. -/
def readText : Json → Reading String
  | .str s => .ok s
  | _ => .misfit .notText

/-- A text or nothing. -/
def readOptionalText : Json → Reading (Option String)
  | .null => .ok none
  | value => (readText value).map some

/-- The truth value of a word, in letters of either case. -/
def boolWord? (s : String) : Option Bool :=
  let word := String.ofList (s.toList.map Char.toLower)
  if ["1", "true", "t", "yes", "y", "on"].contains word then some true
  else if ["0", "false", "f", "no", "n", "off"].contains word then some false
  else none

/-- The whole number that a number with a fraction or exponent is, within 64 bits. -/
def wholeValue? : Binary64 → Option Int
  | .finite negative mantissa exponent =>
    let (num, den) := Binary64.scaled 2 mantissa 1 (-exponent)
    if num % den = 0 && num / den < Nat.pow 2 63 then
      some (if negative then -(num / den : Int) else (num / den : Int))
    else none
  | _ => none

/-- A truth value: one of the two constants, a word for one, or a number that is zero or one. -/
def readBool : Json → Reading Bool
  | .bool b => .ok b
  | .str s => match boolWord? s with
    | some b => .ok b
    | none => .misfit .notBoolText
  | .int n =>
    if n = 0 then .ok false
    else if n = 1 then .ok true
    else if -(Nat.pow 2 63 : Nat) ≤ n && n < (Nat.pow 2 63 : Nat) then .misfit .notBoolText
    else .misfit .notBool
  | .real x =>
    match wholeValue? x with
    | some n =>
      if n = 0 then .ok false else if n = 1 then .ok true else .misfit .notBoolText
    | none => .misfit .notBool
  | _ => .misfit .notBool

/-- The items of a list, each read in the same way. -/
def readItems {α : Type} (read : Json → Reading α) : Json → Reading (List α)
  | .arr items =>
    Reading.all (items.zipIdx.map fun (item, place) => (read item).under (.index place))
  | _ => .misfit .notList

/-- A list of texts. -/
def readTexts : Json → Reading (List String) := readItems readText

/-- A list of texts or nothing. -/
def readOptionalTexts : Json → Reading (Option (List String))
  | .null => .ok none
  | value => (readTexts value).map some

/-- The entries of a map, each read in the same way. -/
def readEntries {α : Type} (read : Json → Reading α) : Json → Reading (Keyed α)
  | .obj fields =>
    Reading.all (fields.map fun (key, value) =>
      ((read value).under (.field key)).map fun value => (key, value))
  | _ => .misfit .notMap

/-! ## Records -/

/-- A field that must be given. -/
def required {α : Type} (fields : List (String × Json)) (name : String)
    (read : Json → Reading α) : Reading α :=
  match Keyed.find? fields name with
  | some value => (read value).under (.field name)
  | none => .error [⟨[.field name], .missing⟩]

/-- A field that has a value of its own when it is not given. -/
def optional {α : Type} (fields : List (String × Json)) (name : String) (absent : α)
    (read : Json → Reading α) : Reading α :=
  match Keyed.find? fields name with
  | some value => (read value).under (.field name)
  | none => .ok absent

/-- A column. -/
def Column.read : Json → Reading Column
  | .obj fields =>
    Reading.both (.both (.both (.both (.both (.both (.both (.both (.both (.ok Column.mk)
      (required fields "name" readText))
      (required fields "data_type" readText))
      (optional fields "data_type_schema" none readOptionalText))
      (optional fields "is_array" false readBool))
      (optional fields "is_auto_incrementing" false readBool))
      (optional fields "is_nullable" false readBool))
      (optional fields "has_default_value" false readBool))
      (optional fields "comment" none readOptionalText))
      (optional fields "enum_values" none readOptionalTexts)
  | _ => .misfit .notRecord

/-- A table. -/
def Table.read : Json → Reading Table
  | .obj fields =>
    Reading.both (.both (.both (.both (.both (.ok Table.mk)
      (required fields "name" readText))
      (optional fields "schema_name" none readOptionalText))
      (optional fields "is_view" false readBool))
      (optional fields "is_partition" false readBool))
      (optional fields "columns" [] (readItems Column.read))
  | _ => .misfit .notRecord

/-- Enumerated types. -/
def EnumTypes.read : Json → Reading EnumTypes
  | .obj fields =>
    (optional fields "enums" [] (readEntries readTexts)).map EnumTypes.mk
  | _ => .misfit .notRecord

/-- A database. -/
def Database.read : Json → Reading Database
  | .obj fields =>
    Reading.both (.both (.ok Database.mk)
      (optional fields "tables" [] (readItems Table.read)))
      (optional fields "enums" {} EnumTypes.read)
  | _ => .misfit .notRecord

end CatalogTypes
