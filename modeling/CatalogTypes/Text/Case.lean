import CatalogTypes.Text.CaseTable
import CatalogTypes.Text.Spans

/-!
# Letter case in every script

`lower` and `upper` map a whole text.  Lowercasing looks at the neighbours of one letter only: a
capital sigma at the end of a word takes the final form.  `capitalize` puts the head of the text
into its form for the head of a word and the rest into lowercase.

ASCII is answered without the tables.
-/

namespace CatalogTypes.Text

/-- The image of a code point under the run it lies in, or the code point itself. -/
def shiftByRuns : List Nat → Nat → Nat
  | first :: last :: step :: image :: rest, n =>
    if first ≤ n && n ≤ last && (n - first) % step = 0 then image + (n - first)
    else shiftByRuns rest n
  | _, n => n

/-! ## Single letters -/

/-- The lowercase form of a letter on its own. -/
def lowerLetter (c : Char) : List Char :=
  if c.toNat < 128 then [c.toLower]
  else if c.toNat = 0x130 then ['i', '\u0307']
  else [Char.ofNat (shiftByRuns lowerRuns c.toNat)]

/-- The uppercase form of a letter. -/
def upperLetter (c : Char) : List Char :=
  if c.toNat < 128 then [c.toUpper]
  else
    match upperExpansions.lookup c.toNat with
    | some codes => codes.map Char.ofNat
    | none => [Char.ofNat (shiftByRuns upperRuns c.toNat)]

/-- The form of a letter at the head of a word. -/
def titleLetter (c : Char) : List Char :=
  if c.toNat < 128 then [c.toUpper]
  else
    match titleForms.lookup c.toNat with
    | some codes => codes.map Char.ofNat
    | none => upperLetter c

/-- Whether a letter has case. -/
def isCased (c : Char) : Bool := spansContain casedSpans c.toNat

/-- Whether a character is passed over when the neighbours of a letter are looked up. -/
def isTransparent (c : Char) : Bool := spansContain transparentSpans c.toNat

/-! ## Whole texts -/

/-- Whether the nearest letter ahead has case. -/
def casedAhead (cs : List Char) : Bool :=
  match cs.dropWhile isTransparent with
  | [] => false
  | c :: _ => isCased c

/-- Whether the nearest letter behind has case, after one more character. -/
def casedBehind (before : Bool) (c : Char) : Bool :=
  if isTransparent c then before else isCased c

/-- The lowercase form of a text, given whether the nearest letter before it has case. -/
def lowerAfter (before : Bool) : List Char → List Char
  | [] => []
  | c :: rest =>
    (if c.toNat = 0x3A3 then
      if before && !casedAhead rest then ['\u03C2'] else ['\u03C3']
    else lowerLetter c) ++ lowerAfter (casedBehind before c) rest

/-- The lowercase form of a text. -/
def lowerChars (cs : List Char) : List Char := lowerAfter false cs

/-- The lowercase form of a text. -/
def lower (s : String) : String := String.ofList (lowerChars s.toList)

/-- The uppercase form of a text. -/
def upper (s : String) : String := String.ofList (s.toList.flatMap upperLetter)

/-- The text with its head in word-initial form and the rest in lowercase. -/
def capitalize (s : String) : String :=
  match s.toList with
  | [] => ""
  | c :: rest => String.ofList (titleLetter c ++ lowerAfter (casedBehind false c) rest)

end CatalogTypes.Text
