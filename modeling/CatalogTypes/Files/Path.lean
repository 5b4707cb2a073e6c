import CatalogTypes.Text.Blank
import CatalogTypes.Text.Utf8

/-!
# Paths

A path is a sequence of names with slashes between them.  Empty names and single points are left
out, so that different spellings of one path fall together.
-/

namespace CatalogTypes

/-- A path: whether it starts at the root, and its names. -/
structure Path where
  isRooted : Bool := false
  names : List String
deriving DecidableEq, Repr, Inhabited

namespace Path

/-- Whether a name counts in a path. -/
def isName (cs : List Char) : Bool := !cs.isEmpty && cs ≠ ['.']

/-- The path that a text spells. -/
def ofString (s : String) : Path where
  isRooted := s.toList.head? = some '/'
  names := ((Text.splitBy (· = '/') s.toList).filter isName).map String.ofList

/-- The spelling of a path. -/
def toString (p : Path) : String :=
  if p.isRooted then "/" ++ Text.joinWith "/" p.names
  else if p.names.isEmpty then "."
  else Text.joinWith "/" p.names

/-- Why no file can have the path, if there is a reason. -/
def fault? (p : Path) : Option Text.NameFault := Text.nameFault? p.toString

/-- The last name. -/
def name? (p : Path) : Option String := p.names.getLast?

/-- The path without its last name. -/
def parent (p : Path) : Path := { p with names := p.names.dropLast }

/-! ## Limits -/

/-- The most bytes that a name may have. -/
def nameLimit : Nat := 255

/-- The most bytes that the spelling of a path may have. -/
def sizeLimit : Nat := 4095

/-- Whether a name has too many bytes. -/
def isLongName (name : String) : Bool := nameLimit < Text.systemSize name

/-- Whether the spelling of a path has too many bytes. -/
def isTooLong (p : Path) : Bool := sizeLimit < Text.systemSize p.toString

end Path

end CatalogTypes
