import CatalogTypes.Text.Case
import CatalogTypes.Text.Blank

/-!
# Names of types and properties

A table gives its name to a type, in `pascalCase`; a column gives its name to a property, kept or
in `camelCase`; an option of a settings file is spelled with underscores or in `fieldCamelCase`.

The first two look at ASCII letters and digits only and are scans with a small state, so that
their laws are inductions on the text.  Distinct names may fall together: `foo_bar` and `foo__bar`
both name `FooBar`.
-/

namespace CatalogTypes.Naming

/-! ## Type names -/

/-- The letters and digits of a name with each run of them capitalised; `fresh` says that a run
begins. -/
def capitalizedRuns (fresh : Bool) : List Char → List Char
  | [] => []
  | c :: rest =>
    if c.isAlphanum then (if fresh then c.toUpper else c) :: capitalizedRuns false rest
    else capitalizedRuns true rest

theorem isAlphanum_toUpper {c : Char} (h : c.isAlphanum = true) : c.toUpper.isAlphanum = true := by
  unfold Char.toUpper
  split
  next lower =>
    unfold Char.isAlphanum Char.isAlpha Char.isUpper Char.isLower Char.isDigit at h ⊢
    simp [UInt32.le_iff_toNat_le, UInt32.toNat_add] at lower h ⊢
    omega
  next => exact h

theorem isAlphanum_of_mem_capitalizedRuns {fresh : Bool} {cs : List Char} :
    ∀ c ∈ capitalizedRuns fresh cs, c.isAlphanum = true := by
  induction cs generalizing fresh with
  | nil => exact fun c hc => absurd hc List.not_mem_nil
  | cons d cs ih =>
    rw [capitalizedRuns]
    split
    next word =>
      refine List.forall_mem_cons.2 ⟨?_, ih⟩
      split
      · exact isAlphanum_toUpper word
      · exact word
    next => exact ih

/-- The type name of a delimited name.  A digit may not come first, and something must. -/
def pascalChars (cs : List Char) : List Char :=
  match capitalizedRuns true cs with
  | [] => ['_']
  | c :: rest => if c.isDigit then '_' :: c :: rest else c :: rest

/-- The type name of a delimited name. -/
def pascalCase (name : String) : String := String.ofList (pascalChars name.toList)

/-! ## Property names -/

/-- The scan behind `camelChars`.  `some n` says that `n` underscores stand between the place and
the letter or digit before it; they go if a letter or digit follows, which is then capitalised. -/
def joinedAtUnderscores : Option Nat → List Char → List Char
  | none, [] => []
  | some n, [] => List.replicate n '_'
  | none, c :: rest => c :: joinedAtUnderscores (if c.isAlphanum then some 0 else none) rest
  | some n, c :: rest =>
    if c = '_' then joinedAtUnderscores (some (n + 1)) rest
    else if c.isAlphanum then
      (if n = 0 then c else c.toUpper) :: joinedAtUnderscores (some 0) rest
    else List.replicate n '_' ++ c :: joinedAtUnderscores none rest

/-- A name without the underscores between its words, whose heads are capitalised instead.  Outer
underscores stay. -/
def camelChars (cs : List Char) : List Char := joinedAtUnderscores none cs

/-- A name without the underscores between its words, whose heads are capitalised instead. -/
def camelCase (name : String) : String := String.ofList (camelChars name.toList)

/-- The key of a column or table. -/
def propertyKey (camel : Bool) (name : String) : String :=
  if camel then camelCase name else name

/-! ## Option names -/

/-- The spelling of an option without underscores: every word but the first is capitalised and
otherwise in lowercase. -/
def fieldCamelCase (name : String) : String :=
  match Text.splitBy (· = '_') name.toList with
  | [] => ""
  | head :: rest =>
    String.ofList head ++ String.join (rest.map fun word => Text.capitalize (String.ofList word))

end CatalogTypes.Naming
