import CatalogTypes.Adapter
import CatalogTypes.Resolve.Options

/-!
# What a module needs

The types of a module refer to names.  A name that can be imported is requested; of a dotted name
that cannot, the first segment is; any other name that a helper has makes the module declare the
helper, and with it whatever the helper depends on.

`settle` works through a list of names.  A helper's dependencies are put in front of the names that
remain, so they are settled in the order in which a reader meets them.  Helpers may depend on one
another in a cycle: the names that remain grow only when a helper is marked for the first time, and
there are only finitely many.
-/

namespace CatalogTypes

/-- The names that a module imports and the helpers that it declares, each in the order in which
they were first needed. -/
structure Usage where
  registry : Registry
  helpers : List String := []
deriving Repr, Inhabited

/-- How many helpers of a table are not among the given names. -/
def unmarked (table : Keyed Helper) (marked : List String) : Nat :=
  table.countP fun entry => !marked.contains entry.1

theorem unmarked_append_le (table : Keyed Helper) (marked : List String) (name : String) :
    unmarked table (marked ++ [name]) ≤ unmarked table marked :=
  List.countP_mono_left fun entry _ h => by simp_all

theorem unmarked_append_lt {table : Keyed Helper} {marked : List String} {name : String}
    {helper : Helper} (found : table.find? name = some helper)
    (fresh : marked.contains name = false) :
    unmarked table (marked ++ [name]) < unmarked table marked := by
  induction table with
  | nil => simp [Keyed.find?] at found
  | cons entry rest ih =>
    obtain ⟨k, v⟩ := entry
    have le := unmarked_append_le rest marked name
    simp only [unmarked, List.countP_cons] at le ih ⊢
    simp only [Keyed.find?] at found
    split at found
    · next hk =>
      subst hk
      rw [if_neg (by simp), if_pos (by rw [fresh]; rfl)]
      omega
    · next hk =>
      have lt := ih found
      by_cases h : marked.contains k = true
      · rw [if_neg (by simp_all), if_neg (by simp_all)]
        omega
      · have old : (!marked.contains k) = true := by simp_all
        rw [if_pos old]
        split <;> omega

namespace Usage

/-- The part of a dotted name before its first point. -/
def firstSegment (name : String) : String := String.ofList (name.toList.takeWhile (· ≠ '.'))

def request (u : Usage) (name : String) : Usage := { u with registry := u.registry.request name }

def mark (u : Usage) (name : String) : Usage := { u with helpers := u.helpers ++ [name] }

/-- The usage after a list of names has been settled. -/
def settle (table : Keyed Helper) (u : Usage) : List String → Usage
  | [] => u
  | name :: rest =>
    if u.registry.offers name then settle table (u.request name) rest
    else if name.toList.contains '.' then settle table (u.request (firstSegment name)) rest
    else
      match _found : table.find? name with
      | none => settle table u rest
      | some helper =>
        if _fresh : u.helpers.contains name then settle table u rest
        else settle table (u.mark name) (helper.dependencies ++ rest)
-- Marking a helper leaves one unmarked helper fewer, whatever it puts on the list; every other name
-- only makes the list shorter.
termination_by pending => (unmarked table u.helpers, pending.length)
decreasing_by
  all_goals simp only [request, mark, List.length_cons, Prod.lex_def]
  all_goals first
    | exact Or.inr ⟨trivial, by omega⟩
    | exact Or.inl (unmarked_append_lt _found (by simpa using _fresh))

/-- The usage of a module in which nothing has been written. -/
def start (a : Adapter) (o : Options) : Usage :=
  { registry := Registry.ofTables a.imports (Specifier.parseAll o.customImports) }

/-- The usage after a name has been used. -/
def use (a : Adapter) (u : Usage) (name : String) : Usage := u.settle a.helpers [name]

/-- The usage after a list of names has been referred to. -/
def collect (a : Adapter) (u : Usage) (references : List String) : Usage :=
  u.settle a.helpers references

/-- Whether the module declares the wrapper of generated columns. -/
def usesGenerated (u : Usage) : Bool := u.helpers.contains generatedWrapper

/-- The requests of a later usage that an earlier one had not seen, with where they come from. -/
def newSources (before after : Usage) : List (String × Specifier) :=
  after.registry.requested.drop before.registry.requested.length

end Usage

end CatalogTypes
