import CatalogTypes.Text.Blank
import CatalogTypes.Text.Case

/-!
# The column that counts by itself

A table's definition marks at most one column with the word `AUTOINCREMENT`.  The definition is cut
at parentheses and commas, and the first piece that holds the word names the column first.
-/

namespace CatalogTypes

/-- The word, in lowercase. -/
def autoincrementWord : List Char := "autoincrement".toList

/-- Whether a text holds another one. -/
def holds (part : List Char) : List Char → Bool
  | [] => part.isEmpty
  | c :: rest => part.isPrefixOf (c :: rest) || holds part rest

/-- Whether a text holds the word in letters of any case. -/
def holdsAutoincrement (cs : List Char) : Bool := holds autoincrementWord (Text.lowerChars cs)

/-- Whether a character cuts a definition. -/
def isDefinitionCut (c : Char) : Bool := c = '(' || c = ')' || c = ','

/-- Whether a character may stand around a column's name in a definition. -/
def isColumnQuote (c : Char) : Bool := c = '"' || c = '\x60' || c = '[' || c = ']'

/-- The name of the column that a definition lets count by itself. -/
def autoincrementColumn (ddl : String) : Option String :=
  (Text.splitBy isDefinitionCut ddl.toList).findSome? fun piece =>
    if holdsAutoincrement piece then
      (Text.words piece).head?.map fun word => String.ofList (Text.trimBy isColumnQuote word)
    else none

end CatalogTypes
