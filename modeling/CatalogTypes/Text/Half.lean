/-!
# Halves of pairs

A character outside the first plane is written as a pair of sixteen-bit units.  A document may give
half of a pair on its own, and a text that is read from the document then holds it, although it is
no character and no bytes spell it.

In a text, a half is held as one of 2048 private characters of the last plane, which are given up for
this: they stand for halves and for nothing else.  Like a half, each of them is no letter, no digit
and no blank, and has no case.
-/

namespace CatalogTypes.Text

/-- The first of the units that are half of a pair. -/
def firstHalf : Nat := 0xD800

/-- How many halves there are. -/
def halfCount : Nat := 0x800

/-- The code point of the character that stands for the first half. -/
def halfBase : Nat := 0x10F000

/-- The character that stands for a half. -/
def ofHalf (unit : Nat) : Char := Char.ofNat (halfBase + (unit - firstHalf))

/-- The half that a character stands for, if it does. -/
def half? (c : Char) : Option Nat :=
  if halfBase ≤ c.toNat && c.toNat < halfBase + halfCount then
    some (firstHalf + (c.toNat - halfBase))
  else none

example : half? (ofHalf 0xDFFF) = some 0xDFFF ∧ half? '😀' = none := by decide

end CatalogTypes.Text
