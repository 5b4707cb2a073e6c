import CatalogTypes.Json.Basic
import CatalogTypes.Text.Blank
import CatalogTypes.Text.Quoted

/-!
# Values in messages

How a value is shown inside a message.  On its own a text is shown as it is; inside a list or an
object it stands in quotation marks.  The three constants are capitalised words.
-/

namespace CatalogTypes.Json

/-- A number with a fraction, an exponent or a name, inside a message. -/
def shownReal : Binary64 → String
  | .finite negative mantissa exponent => Binary64.finiteText negative mantissa exponent
  | .infinite negative => if negative then "-inf" else "inf"
  | .nan => "nan"

mutual

/-- A value inside a list or an object of a message. -/
def shownWithin : Json → String
  | .null => "None"
  | .bool b => if b then "True" else "False"
  | .int n => toString n
  | .real x => shownReal x
  | .str s => Text.quoted s
  | .arr items => "[" ++ Text.joinWith ", " (shownItems items) ++ "]"
  | .obj fields => "\x7b" ++ Text.joinWith ", " (shownFields fields) ++ "\x7d"

/-- Each item of a list. -/
def shownItems : List Json → List String
  | [] => []
  | item :: rest => shownWithin item :: shownItems rest

/-- Each field of an object. -/
def shownFields : List (String × Json) → List String
  | [] => []
  | (key, value) :: rest => (Text.quoted key ++ ": " ++ shownWithin value) :: shownFields rest

end

/-- A value on its own in a message. -/
def shown : Json → String
  | .str s => s
  | value => shownWithin value

end CatalogTypes.Json
