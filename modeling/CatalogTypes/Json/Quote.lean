import CatalogTypes.Text.Numeral

/-!
# Texts as JSON string literals

Two spellings of the same literal are in use.  `quotePlain` escapes what a literal cannot hold: the
double quote, the backslash and the control characters below the space.  `quoteAscii` also writes
every character that is not printable ASCII by its code, in two halves when it lies beyond the
first plane.  Half of a pair is spelled as the character that holds its place in a text.
-/

namespace CatalogTypes.Json

/-- The escape of a character that has a short one, or must be escaped. -/
def shortEscape? (c : Char) : Option (List Char) :=
  if c = '"' then some ['\\', '"']
  else if c = '\\' then some ['\\', '\\']
  else if c = '\n' then some ['\\', 'n']
  else if c = '\r' then some ['\\', 'r']
  else if c = '\t' then some ['\\', 't']
  else if c = '\x08' then some ['\\', 'b']
  else if c = '\x0C' then some ['\\', 'f']
  else none

theorem ne_of_shortEscape?_eq_none {c : Char} (h : shortEscape? c = none) :
    c ≠ '"' ∧ c ≠ '\\' := by
  constructor <;>
    · rintro rfl
      exact absurd h (by decide)

/-- A sixteen-bit unit by its code. -/
def unitEscape (n : Nat) : List Char := '\\' :: 'u' :: Text.hexDigits 4 n

/-- A character of a literal that may hold any text. -/
def plainChar (c : Char) : List Char :=
  match shortEscape? c with
  | some escape => escape
  | none => if c.toNat < 0x20 then unitEscape c.toNat else [c]

/-- A character of a literal that holds printable ASCII only. -/
def asciiChar (c : Char) : List Char :=
  match shortEscape? c with
  | some escape => escape
  | none =>
    if 0x20 ≤ c.toNat && c.toNat < 0x7F then [c]
    else if c.toNat < 0x10000 then unitEscape c.toNat
    else
      unitEscape (0xD800 + (c.toNat - 0x10000) / 0x400) ++
        unitEscape (0xDC00 + (c.toNat - 0x10000) % 0x400)

/-- The literal with its quotes, under a spelling of its characters. -/
def literal (spell : Char → List Char) (cs : List Char) : List Char :=
  '"' :: cs.flatMap spell ++ ['"']

/-- The literal of a text, in any characters. -/
def quotePlain (s : String) : String := String.ofList (literal plainChar s.toList)

/-- The literal of a text, in printable ASCII. -/
def quoteAscii (s : String) : String := String.ofList (literal asciiChar s.toList)

end CatalogTypes.Json
