import CatalogTypes.Json.Basic
import CatalogTypes.Json.Quote
import CatalogTypes.Text.Blank

/-!
# Writing a value as one line of JSON

Items are separated by a comma and a space, a key from its value by a colon and a space, and
everything is printable ASCII.  The numbers that have no decimal are written by their names.
-/

namespace CatalogTypes.Json

/-- A number with a fraction, an exponent or a name. -/
def realText : Binary64 → String
  | .finite negative mantissa exponent => Binary64.finiteText negative mantissa exponent
  | .infinite negative => if negative then "-Infinity" else "Infinity"
  | .nan => "NaN"

mutual

/-- A value as one line of JSON. -/
def print : Json → String
  | .null => "null"
  | .bool b => if b then "true" else "false"
  | .int n => toString n
  | .real x => realText x
  | .str s => quoteAscii s
  | .arr items => "[" ++ Text.joinWith ", " (printItems items) ++ "]"
  | .obj fields => "\x7b" ++ Text.joinWith ", " (printFields fields) ++ "\x7d"

/-- Each item of a list. -/
def printItems : List Json → List String
  | [] => []
  | item :: rest => print item :: printItems rest

/-- Each field of an object. -/
def printFields : List (String × Json) → List String
  | [] => []
  | (key, value) :: rest => (quoteAscii key ++ ": " ++ print value) :: printFields rest

end

end CatalogTypes.Json
