import CatalogTypes.Json.Basic
import CatalogTypes.Text.Blank
import CatalogTypes.Text.Half
import CatalogTypes.Text.Numeral

/-!
# Reading JSON

`parse` reads one document.  A fault carries what was expected and what was left to read when it
was found, from which its line, column and offset follow.

The grammar is the usual one with three additional names for the numbers that have no decimal.  Of
two fields of one name the later value counts, in the place of the earlier.  Half of a pair on its
own is kept.
-/

namespace CatalogTypes.Json

/-! ## Faults -/

/-- What is wrong with a document. -/
inductive Fault where
  | expectingValue
  | expectingName
  | expectingColon
  | expectingComma
  | extraData
  | unterminatedString
  | controlCharacter
  | badEscape
  | badCodeEscape
  | byteOrderMark
  | numeralTooLong (limit digits : Nat)
deriving DecidableEq, Repr

/-- A fault and the rest of the text from the place where it was found. -/
structure Stop where
  fault : Fault
  rest : List Char
deriving Repr

/-- A fault and the number of characters before it. -/
structure ParseError where
  fault : Fault
  offset : Nat
deriving DecidableEq, Repr

/-- The wording of a fault. -/
def Fault.message : Fault → String
  | .expectingValue => "Expecting value"
  | .expectingName => "Expecting property name enclosed in double quotes"
  | .expectingColon => "Expecting ':' delimiter"
  | .expectingComma => "Expecting ',' delimiter"
  | .extraData => "Extra data"
  | .unterminatedString => "Unterminated string starting at"
  | .controlCharacter => "Invalid control character at"
  | .badEscape => "Invalid \\escape"
  | .badCodeEscape => "Invalid \\uXXXX escape"
  | .byteOrderMark => "Unexpected UTF-8 BOM (decode using utf-8-sig)"
  | .numeralTooLong limit digits =>
    "Exceeds the limit (" ++ toString limit ++
      " digits) for integer string conversion: value has " ++ toString digits ++
      " digits; use sys.set_int_max_str_digits() to increase the limit"

/-- The wording of an error in the given text: the fault and, but for an overlong numeral, its
line, column and offset. -/
def ParseError.message (e : ParseError) (text : List Char) : String :=
  match e.fault with
  | .numeralTooLong _ _ => e.fault.message
  | _ =>
    let before := text.take e.offset
    let line := before.count '\n' + 1
    let column := (before.reverse.takeWhile (· ≠ '\n')).length + 1
    e.fault.message ++ ": line " ++ toString line ++ " column " ++ toString column ++
      " (char " ++ toString e.offset ++ ")"

/-! ## Tokens -/

/-- The blanks between tokens. -/
def isLayout (c : Char) : Bool := c = ' ' || c = '\t' || c = '\n' || c = '\r'

/-- The text after the blanks at its head. -/
def skipLayout (cs : List Char) : List Char := cs.dropWhile isLayout

/-- The value of four hexadecimal digits. -/
def codeUnit? (a b c d : Char) : Option Nat := do
  let a ← Text.hexValue? a
  let b ← Text.hexValue? b
  let c ← Text.hexValue? c
  let d ← Text.hexValue? d
  return ((a * 16 + b) * 16 + c) * 16 + d

/-- The character that a short escape stands for. -/
def escaped? (c : Char) : Option Char :=
  match c with
  | '"' => some '"'
  | '\\' => some '\\'
  | '/' => some '/'
  | 'b' => some '\x08'
  | 'f' => some '\x0C'
  | 'n' => some '\n'
  | 'r' => some '\r'
  | 't' => some '\t'
  | _ => none

/-- Whether a sixteen-bit unit is the first half of a pair. -/
def isHighUnit (n : Nat) : Bool := 0xD800 ≤ n && n < 0xDC00

/-- Whether a sixteen-bit unit is the second half of a pair. -/
def isLowUnit (n : Nat) : Bool := 0xDC00 ≤ n && n < 0xE000

/-- The character that a pair of sixteen-bit units stands for. -/
def ofPair (high low : Nat) : Char :=
  Char.ofNat (0x10000 + (high - 0xD800) * 0x400 + (low - 0xDC00))

/-- A sixteen-bit unit as a character, which stands for it where it is half of a pair. -/
def ofUnit (n : Nat) : Char :=
  if isHighUnit n || isLowUnit n then Text.ofHalf n else Char.ofNat n

/-- A piece of a string: a character, or a sixteen-bit unit given by its code. -/
inductive Piece where
  | char (c : Char)
  | unit (n : Nat)
deriving DecidableEq, Repr

/-- The text that pieces spell.  A first half right before a second half is one character with it;
`pending` is a first half that is waiting for the next piece. -/
def joinPieces : Option Nat → List Piece → List Char
  | pending, [] => (pending.map ofUnit).toList
  | pending, .char c :: rest => (pending.map ofUnit).toList ++ c :: joinPieces none rest
  | some high, .unit n :: rest =>
    if isLowUnit n then ofPair high n :: joinPieces none rest
    else if isHighUnit n then ofUnit high :: joinPieces (some n) rest
    else ofUnit high :: ofUnit n :: joinPieces none rest
  | none, .unit n :: rest =>
    if isHighUnit n then joinPieces (some n) rest else ofUnit n :: joinPieces none rest

/-- What a scan of a string yields: its pieces and what follows, or a fault. -/
abbrev Scan := Except Stop (List Piece × List Char)

/-- A scan with one more piece in front. -/
def Scan.push (piece : Piece) (scan : Scan) : Scan :=
  scan.map fun (pieces, rest) => (piece :: pieces, rest)

/-- The pieces of a string up to its closing quote, and what follows.  `start` is the text from the
opening quote on, to which an unterminated string is traced back.  An escape by code needs a
further character after its digits. -/
def scanPieces (start : List Char) : List Char → Scan
  | [] => .error ⟨.unterminatedString, start⟩
  | '"' :: rest => .ok ([], rest)
  | ['\\'] => .error ⟨.unterminatedString, start⟩
  | '\\' :: 'u' :: digits =>
    match digits with
    | a :: b :: c :: d :: rest =>
      match codeUnit? a b c d with
      | none => .error ⟨.badCodeEscape, 'u' :: digits⟩
      | some n =>
        if rest.isEmpty then .error ⟨.badCodeEscape, 'u' :: digits⟩
        else Scan.push (.unit n) (scanPieces start rest)
    | _ => .error ⟨.badCodeEscape, 'u' :: digits⟩
  | '\\' :: c :: rest =>
    match escaped? c with
    | none => .error ⟨.badEscape, '\\' :: c :: rest⟩
    | some c => Scan.push (.char c) (scanPieces start rest)
  | c :: rest =>
    if c.toNat < 0x20 then .error ⟨.controlCharacter, c :: rest⟩
    else Scan.push (.char c) (scanPieces start rest)

/-- The text of a string after its opening quote, and what follows. -/
def scanString (start rest : List Char) : Except Stop (String × List Char) :=
  (scanPieces start rest).map fun (pieces, rest) => (String.ofList (joinPieces none pieces), rest)

/-- The digits at the head of a text, and what follows. -/
def spanDigits (cs : List Char) : List Char × List Char := cs.span Char.isDigit

/-- The fraction at the head of a text, if there is one: its digits, and what follows. -/
def scanFraction (cs : List Char) : Option (List Char × List Char) :=
  match cs with
  | '.' :: rest =>
    match spanDigits rest with
    | ([], _) => none
    | result => some result
  | _ => none

/-- Whether an exponent is negative, and what follows its sign. -/
def exponentSign (cs : List Char) : Bool × List Char :=
  match cs with
  | '-' :: rest => (true, rest)
  | '+' :: rest => (false, rest)
  | _ => (false, cs)

/-- The exponent at the head of a text, if there is one, and what follows. -/
def scanExponent (cs : List Char) : Option (Int × List Char) :=
  match cs with
  | [] => none
  | e :: rest =>
    if e = 'e' || e = 'E' then
      let (negative, rest) := exponentSign rest
      match spanDigits rest with
      | ([], _) => none
      | (digits, rest) =>
        let size : Int := Text.decimalValue digits
        some (if negative then -size else size, rest)
    else none

/-- Whether a number is negative, and what follows its sign. -/
def numberSign (cs : List Char) : Bool × List Char :=
  match cs with
  | '-' :: rest => (true, rest)
  | _ => (false, cs)

/-- The digits of a number before its point, and what follows. -/
def wholeDigits (cs : List Char) : List Char × List Char :=
  match cs with
  | '0' :: rest => (['0'], rest)
  | _ => spanDigits cs

/-- The number of digits that a whole number may have where nothing else is said.  A reader may also
go by another limit, or by none. -/
def digitLimit : Option Nat := some 4300

/-- The number whose sign and whole digits have been read, with what follows them.  `start` is the
text that a failure is traced back to. -/
def finishNumber (start : List Char) (negative : Bool) (whole rest : List Char)
    (limit : Option Nat := digitLimit) : Except Stop (Json × List Char) :=
  if whole.isEmpty then .error ⟨.expectingValue, start⟩
  else
    match scanFraction rest, scanExponent ((scanFraction rest).elim rest (·.2)) with
    | none, none =>
      match limit.filter (· < whole.length) with
      | some limit => .error ⟨.numeralTooLong limit whole.length, start⟩
      | none =>
        let size : Int := Text.decimalValue whole
        .ok (.int (if negative then -size else size), rest)
    | fraction, exponent =>
      let digits := (fraction.elim [] (·.1))
      let power := exponent.elim 0 (·.1)
      let rest := exponent.elim (fraction.elim rest (·.2)) (·.2)
      let value := Text.decimalValue (whole ++ digits)
      .ok (.real (.ofDecimal negative value (power - digits.length)), rest)

/-- The number at the head of a text.  `start` is the text that a failure is traced back to. -/
def scanNumber (start cs : List Char) (limit : Option Nat := digitLimit) :
    Except Stop (Json × List Char) :=
  let (negative, body) := numberSign cs
  let (whole, rest) := wholeDigits body
  finishNumber start negative whole rest limit

/-! ## Values -/

mutual

/-- The value at the head of a text, and what follows.  The first argument bounds the nesting; a
bound above the length of the text is never reached. -/
def parseValue : Nat → List Char → (limit : Option Nat := digitLimit) →
    Except Stop (Json × List Char)
  | 0, cs, _ => .error ⟨.expectingValue, cs⟩
  | bound + 1, cs, limit =>
    match cs with
    | '"' :: rest => (scanString cs rest).map fun (text, rest) => (.str text, rest)
    | '{' :: rest =>
      match skipLayout rest with
      | '}' :: rest => .ok (.obj [], rest)
      | rest =>
        (parseFields bound rest limit).map fun (fields, rest) => (.obj (Keyed.ofPairs fields), rest)
    | '[' :: rest =>
      match skipLayout rest with
      | ']' :: rest => .ok (.arr [], rest)
      | rest => (parseItems bound rest limit).map fun (items, rest) => (.arr items, rest)
    | 'n' :: 'u' :: 'l' :: 'l' :: rest => .ok (.null, rest)
    | 't' :: 'r' :: 'u' :: 'e' :: rest => .ok (.bool true, rest)
    | 'f' :: 'a' :: 'l' :: 's' :: 'e' :: rest => .ok (.bool false, rest)
    | 'N' :: 'a' :: 'N' :: rest => .ok (.real .nan, rest)
    | 'I' :: 'n' :: 'f' :: 'i' :: 'n' :: 'i' :: 't' :: 'y' :: rest =>
      .ok (.real (.infinite false), rest)
    | '-' :: 'I' :: 'n' :: 'f' :: 'i' :: 'n' :: 'i' :: 't' :: 'y' :: rest =>
      .ok (.real (.infinite true), rest)
    | cs => scanNumber cs cs limit

/-- The items of a list up to its closing bracket, and what follows. -/
def parseItems : Nat → List Char → (limit : Option Nat := digitLimit) →
    Except Stop (List Json × List Char)
  | 0, cs, _ => .error ⟨.expectingValue, cs⟩
  | bound + 1, cs, limit => do
    let (item, rest) ← parseValue bound cs limit
    match skipLayout rest with
    | ']' :: rest => .ok ([item], rest)
    | ',' :: rest =>
      let (items, rest) ← parseItems bound (skipLayout rest) limit
      .ok (item :: items, rest)
    | rest => .error ⟨.expectingComma, rest⟩

/-- The fields of an object up to its closing brace, and what follows. -/
def parseFields : Nat → List Char → (limit : Option Nat := digitLimit) →
    Except Stop (List (String × Json) × List Char)
  | 0, cs, _ => .error ⟨.expectingName, cs⟩
  | bound + 1, cs, limit =>
    match cs with
    | '"' :: rest => do
      let (name, rest) ← scanString cs rest
      match skipLayout rest with
      | ':' :: rest =>
        let (value, rest) ← parseValue bound (skipLayout rest) limit
        let field := (name, value)
        match skipLayout rest with
        | '}' :: rest => .ok ([field], rest)
        | ',' :: rest =>
          let (fields, rest) ← parseFields bound (skipLayout rest) limit
          .ok (field :: fields, rest)
        | rest => .error ⟨.expectingComma, rest⟩
      | rest => .error ⟨.expectingColon, rest⟩
    | _ => .error ⟨.expectingName, cs⟩

end

/-- The value of a whole text. -/
def parseChars (text : List Char) (limit : Option Nat := digitLimit) : Except ParseError Json :=
  let located (stop : Stop) : ParseError := ⟨stop.fault, text.length - stop.rest.length⟩
  match text with
  | '\uFEFF' :: _ => .error ⟨.byteOrderMark, 0⟩
  | _ =>
    match parseValue (text.length + 1) (skipLayout text) limit with
    | .error stop => .error (located stop)
    | .ok (value, rest) =>
      match skipLayout rest with
      | [] => .ok value
      | rest => .error (located ⟨.extraData, rest⟩)

/-- The value of a whole text. -/
def parse (text : String) (limit : Option Nat := digitLimit) : Except ParseError Json :=
  parseChars text.toList limit

end CatalogTypes.Json
