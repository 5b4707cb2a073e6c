import CatalogTypes.Text.Half
import CatalogTypes.Text.Numeral
import CatalogTypes.Text.Printable

/-!
# Texts in quotation marks

How a text is shown inside a message: between apostrophes, or between double quotes when it holds
an apostrophe and no double quote.  The closing mark and the backslash are preceded by a
backslash, and a character that cannot be shown is written by its code, as is half of a pair.
-/

namespace CatalogTypes.Text

/-- The mark around a text. -/
def quoteMark (cs : List Char) : Char :=
  if cs.contains '\'' && !cs.contains '"' then '"' else '\''

/-- A character between the given marks. -/
def quotedChar (mark c : Char) : List Char :=
  if c = mark || c = '\\' then ['\\', c]
  else if c = '\t' then ['\\', 't']
  else if c = '\n' then ['\\', 'n']
  else if c = '\r' then ['\\', 'r']
  else if isPrintable c then [c]
  else if c.toNat < 0x100 then '\\' :: 'x' :: hexDigits 2 c.toNat
  else if c.toNat < 0x10000 then '\\' :: 'u' :: hexDigits 4 c.toNat
  else
    match half? c with
    | some half => '\\' :: 'u' :: hexDigits 4 half
    | none => '\\' :: 'U' :: hexDigits 8 c.toNat

/-- A text in quotation marks. -/
def quoted (s : String) : String :=
  let mark := quoteMark s.toList
  String.ofList (mark :: s.toList.flatMap (quotedChar mark) ++ [mark])

end CatalogTypes.Text
