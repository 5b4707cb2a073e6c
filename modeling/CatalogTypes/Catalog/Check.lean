import CatalogTypes.Keyed
import CatalogTypes.Text.Alphanumeric
import CatalogTypes.Text.Blank
import CatalogTypes.Text.Case

/-!
# Values permitted by check constraints

A schema without enumerated types states the values of a column in a constraint
`CHECK (column IN ('a', 'b'))`.  `checkBodies` finds the constraints in the text of a table's
definition; `parseIn` reads one of them; `permittedValues` collects what they say by column.

Two scans know about quotes: `closeAt` looks for the parenthesis that closes a constraint, and
`splitLiterals` reads the list of a constraint.  A quote of either kind opens a literal, the same
quote closes it, and a doubled quote inside it stands for one.  Both scans follow the same `Place`,
so that they cannot disagree about what is quoted.
-/

namespace CatalogTypes.Check

/-! ## Quotes -/

/-- Whether a character opens and closes a literal. -/
def isQuote (c : Char) : Bool := c = '\'' || c = '"'

/-- Where a scan stands: outside literals, within one, or right after a quote that closes a literal
unless it is doubled. -/
inductive Place where
  | outside
  | within (quote : Char)
  | closing (quote : Char)
deriving DecidableEq, Repr

namespace Place

/-- The place after a character. -/
def next : Place → Char → Place
  | within q, c => if c = q then closing q else within q
  | closing q, c => if c = q then within q else if isQuote c then within c else outside
  | outside, c => if isQuote c then within c else outside

/-- Whether a character at the place is outside every literal and no quote. -/
def isCode : Place → Char → Bool
  | within _, _ => false
  | closing q, c => c ≠ q && !isQuote c
  | outside, c => !isQuote c

/-- The character that a literal gains from a character at the place. -/
def gain : Place → Char → Option Char
  | within q, c => if c = q then none else some c
  | closing q, c => if c = q then some c else none
  | outside, _ => none

end Place

/-! ## Constraint bodies -/

/-- The scan behind `closeAt`: the text up to the parenthesis that closes `depth + 1` open ones,
and what follows it. -/
def scanClose (depth : Nat) (place : Place) : List Char → Option (List Char × List Char)
  | [] => none
  | c :: rest =>
    let continued (depth : Nat) :=
      (scanClose depth (place.next c) rest).map fun (body, after) => (c :: body, after)
    if place.isCode c then
      if c = '(' then continued (depth + 1)
      else if c = ')' then
        -- at depth 0 it closes what was open before the text
        match depth with
        | 0 => some ([], rest)
        | d + 1 => continued d
      else continued depth
    else continued depth

/-- The text up to the parenthesis that closes one that is open, and what follows it. -/
def closeAt (cs : List Char) : Option (List Char × List Char) := scanClose 0 .outside cs

/-- The keyword at the head of a text, in letters of either case, and what follows it.  The letter
`k` may also be the kelvin sign. -/
def afterCheckWord : List Char → Option (List Char)
  | c :: h :: e :: c₂ :: k :: rest =>
    if c.toLower = 'c' && h.toLower = 'h' && e.toLower = 'e' && c₂.toLower = 'c' &&
        (k.toLower = 'k' || k = '\u212A') then some rest
    else none
  | _ => none

/-- What follows the opening parenthesis of a constraint at the head of a text. -/
def afterOpening (cs : List Char) : Option (List Char) :=
  match afterCheckWord cs with
  | none => none
  | some rest =>
    match rest.dropWhile Text.isBlank with
    | '(' :: body => some body
    | _ => none

/-- The bodies of the constraints of a text, as they stand, in order; `inWord` says that a word
reaches up to the text, in the middle of which no keyword begins. -/
def rawBodies (inWord : Bool) : List Char → List (List Char)
  | [] => []
  | c :: rest =>
    let here :=
      if inWord then none
      else (afterOpening (c :: rest)).bind fun body => (closeAt body).map Prod.fst
    -- the search goes on within the body, so constraints in constraints are found as well
    here.toList ++ rawBodies (Text.isWordChar c) rest

/-- The bodies of the constraints of a text, without the blanks around them, in order.  A
constraint that is not closed is passed over. -/
def bodyChars (cs : List Char) : List (List Char) := (rawBodies false cs).map Text.trimChars

def bodies (sql : String) : List String := (bodyChars sql.toList).map String.ofList

/-! ## Lists of literals -/

/-- The scan behind `splitLiterals`.  `current` is what the literals of the item have gained so
far, in reverse, and `seen` says that there was one.  An item without a literal is left out. -/
def scanLiterals (depth : Nat) (place : Place) (current : List Char) (seen : Bool) :
    List Char → Option (List (List Char))
  | [] => some (if seen then [current.reverse] else [])
  | c :: rest =>
    let next := place.next c
    if place.isCode c then
      if c = '(' then scanLiterals (depth + 1) next current seen rest
      else if c = ')' then
        -- at depth 0 it closes the list before its end
        match depth with
        | 0 => none
        | d + 1 => scanLiterals d next current seen rest
      else if c = ',' && depth = 0 then
        (scanLiterals depth next [] false rest).map fun values =>
          if seen then current.reverse :: values else values
      else scanLiterals depth next current seen rest
    else scanLiterals depth next ((place.gain c).toList ++ current) true rest

/-- The literals of a list, by item; none if the list is closed early. -/
def splitLiterals (cs : List Char) : Option (List (List Char)) :=
  scanLiterals 0 .outside [] false cs

/-! ## One constraint -/

/-- A letter or digit of ASCII, or an underscore. -/
def isColumnChar (c : Char) : Bool := c.isAlphanum || c = '_'

/-- Whether a character may stand around a column's name. -/
def isNameQuote (c : Char) : Bool := c = '"' || c = '\'' || c = '\x60'

/-- A text without one quote at its head. -/
def skipNameQuote : List Char → List Char
  | c :: rest => if isNameQuote c then rest else c :: rest
  | [] => []

/-- The column and the text of the list, blanks at its ends aside, of a constraint `column IN (…)`
that takes up the whole text. -/
def splitIn (cs : List Char) : Option (List Char × List Char) :=
  let start := skipNameQuote cs
  let column := start.takeWhile isColumnChar
  let rest := skipNameQuote (start.dropWhile isColumnChar)
  match column, rest with
  | _ :: _, b :: _ =>
    if Text.isAsciiBlank b then
      match rest.dropWhile Text.isAsciiBlank with
      | i :: n :: rest =>
        if i.toLower = 'i' && n.toLower = 'n' then
          match rest.dropWhile Text.isAsciiBlank with
          | '(' :: rest =>
            -- only the end of the text is looked at; `splitLiterals` finds a list closed before it
            match rest.reverse with
            | ')' :: back =>
              some (column, Text.trimBy Text.isAsciiBlank back.reverse)
            | _ => none
          | _ => none
        else none
      | _ => none
    else none
  | _, _ => none

/-- The column and the values of one constraint; none if it has any other shape. -/
def parseInChars (cs : List Char) : Option (List Char × List (List Char)) := do
  let (column, list) ← splitIn (Text.trimChars cs)
  match ← splitLiterals list with
  | [] => none
  | values => return (column, values)

def parseIn (body : String) : Option (String × List String) :=
  (parseInChars body.toList).map fun (column, values) =>
    (String.ofList column, values.map String.ofList)

/-! ## All constraints of a definition -/

/-- The values by column, in lowercase: of two constraints on a column the later counts. -/
def valuesOf (parsed : List (String × List String)) : Keyed (List String) :=
  Keyed.ofPairs (parsed.map fun (column, values) => (Text.lower column, values))

/-- The values that the constraints of a definition permit, by column in lowercase. -/
def permittedValues (sql : String) : Keyed (List String) :=
  valuesOf ((bodies sql).filterMap parseIn)

/-- The constraints of a definition that permit no list of values. -/
def otherBodies (sql : String) : List String :=
  (bodies sql).filter fun body => (parseIn body).isNone

end CatalogTypes.Check
