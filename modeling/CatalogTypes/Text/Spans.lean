/-!
# Spans of code points

A character class is stored as the ascending list of the places where membership changes: the
class holds from the first number up to the second, then from the third up to the fourth, and so
on.  A list is read only as far as the code point that is asked for.
-/

namespace CatalogTypes.Text

/-- Whether `n` lies in one of the half-open spans whose ends alternate in the ascending list. -/
def spansContain : List Nat → Nat → Bool
  | lo :: hi :: rest, n => if n < lo then false else n < hi || spansContain rest n
  | _, _ => false

end CatalogTypes.Text
