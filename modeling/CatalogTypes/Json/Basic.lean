import CatalogTypes.Keyed
import CatalogTypes.Number.Binary64

/-!
# Structured values

The values of a JSON document.  Whole numbers are exact and are told apart from numbers with a
fraction or an exponent.  The fields of an object keep their order.
-/

namespace CatalogTypes

/-- A value of a JSON document. -/
inductive Json where
  | null
  | bool (value : Bool)
  | int (value : Int)
  | real (value : Binary64)
  | str (value : String)
  | arr (items : List Json)
  | obj (fields : List (String × Json))
deriving Repr, Inhabited

namespace Json

/-! ## Equality -/

mutual

/-- Whether two values are the same. -/
def same : Json → Json → Bool
  | .null, .null => true
  | .bool a, .bool b => a = b
  | .int a, .int b => a = b
  | .real a, .real b => a = b
  | .str a, .str b => a = b
  | .arr as, .arr bs => sameItems as bs
  | .obj as, .obj bs => sameFields as bs
  | _, _ => false

/-- Whether two lists have the same items. -/
def sameItems : List Json → List Json → Bool
  | [], [] => true
  | a :: as, b :: bs => same a b && sameItems as bs
  | _, _ => false

/-- Whether two objects have the same fields. -/
def sameFields : List (String × Json) → List (String × Json) → Bool
  | [], [] => true
  | (name, a) :: as, (other, b) :: bs => name = other && same a b && sameFields as bs
  | _, _ => false

end

mutual

theorem same_iff : ∀ a b : Json, same a b = true ↔ a = b
  | .null, b => by cases b <;> simp [same]
  | .bool a, b => by cases b <;> simp [same]
  | .int a, b => by cases b <;> simp [same]
  | .real a, b => by cases b <;> simp [same]
  | .str a, b => by cases b <;> simp [same]
  | .arr as, b => by cases b <;> simp [same, sameItems_iff as]
  | .obj as, b => by cases b <;> simp [same, sameFields_iff as]

theorem sameItems_iff : ∀ as bs : List Json, sameItems as bs = true ↔ as = bs
  | [], bs => by cases bs <;> simp [sameItems]
  | a :: as, bs => by cases bs <;> simp [sameItems, same_iff a, sameItems_iff as]

theorem sameFields_iff : ∀ as bs : List (String × Json), sameFields as bs = true ↔ as = bs
  | [], bs => by cases bs <;> simp [sameFields]
  | (name, a) :: as, bs => by
    cases bs <;> simp [sameFields, same_iff a, sameFields_iff as, Prod.ext_iff]

end

instance : DecidableEq Json := fun a b => decidable_of_iff (same a b = true) (same_iff a b)

/-! ## Parts -/

/-- The value of a field, if this is an object that has it. -/
def field? (value : Json) (key : String) : Option Json :=
  match value with
  | obj fields => Keyed.find? fields key
  | _ => none

/-- The text, if this is one. -/
def str? : Json → Option String
  | str s => some s
  | _ => none

/-- Whether a value is absent in all but form: null, false, a zero, or something empty. -/
def isVoid : Json → Bool
  | null => true
  | bool b => !b
  | int n => n = 0
  | real (.finite _ mantissa _) => mantissa = 0
  | real _ => false
  | str s => s.isEmpty
  | arr items => items.isEmpty
  | obj fields => fields.isEmpty

/-- The name of a value's kind, as messages give it. -/
def kindName : Json → String
  | null => "NoneType"
  | bool _ => "bool"
  | int _ => "int"
  | real _ => "float"
  | str _ => "str"
  | arr _ => "list"
  | obj _ => "dict"

end Json

end CatalogTypes
