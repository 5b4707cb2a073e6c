import CatalogTypes.Text.Blank

/-!
# Statements of environment files

An environment file is a sequence of statements, each on a line of its own: `export`, which may be
left out, a key, and a value after an equals sign, which may be left out with the value.  A value in
quotation marks may span lines.  Comments run from `#` to the end of the line.

`readStatement` reads one statement from where it begins.  A statement that cannot be read is passed
over up to the end of the line where reading failed, and the line on which it began is reported.
The blank lines before a statement count as its beginning.
-/

namespace CatalogTypes.EnvFile

/-! ## Ends of lines -/

/-- What follows the end of the line. -/
def skipLine (cs : List Char) : List Char := (cs.dropWhile (· ≠ '\n')).drop 1

/-- What follows the end of the line, if nothing but a comment stands before it. -/
def endLine? (cs : List Char) : Option (List Char) :=
  match cs.dropWhile Text.isInlineBlank with
  | [] => some []
  | '\n' :: rest => some rest
  | '#' :: rest => some (skipLine rest)
  | _ => none

/-! ## Values -/

/-- The text up to the closing mark and what follows the mark.  A character after a backslash does
not close. -/
def splitQuoted (mark : Char) : List Char → Option (List Char × List Char)
  | [] | ['\\'] => none
  | '\\' :: c :: rest =>
    (splitQuoted mark rest).map fun (value, after) => ('\\' :: c :: value, after)
  | c :: rest =>
    if c = mark then some ([], rest)
    else (splitQuoted mark rest).map fun (value, after) => (c :: value, after)

/-- What a character after a backslash stands for between apostrophes. -/
def singleEscape? (c : Char) : Option Char := if c = '\\' || c = '\'' then some c else none

/-- What a character after a backslash stands for between double quotes. -/
def doubleEscape? (c : Char) : Option Char :=
  match c with
  | '\\' | '\'' | '"' => some c
  | 'a' => some '\x07'
  | 'b' => some '\x08'
  | 'f' => some '\x0C'
  | 'n' => some '\n'
  | 'r' => some '\r'
  | 't' => some '\t'
  | 'v' => some '\x0B'
  | _ => none

/-- The text with its escapes replaced. -/
def unescape (escape? : Char → Option Char) : List Char → List Char
  | '\\' :: c :: rest =>
    match escape? c with
    | some e => e :: unescape escape? rest
    | none => '\\' :: unescape escape? (c :: rest)
  | c :: rest => c :: unescape escape? rest
  | [] => []

/-- A value without quotation marks up to a comment, which follows a blank. -/
def cutComment : List Char → List Char
  | [] => []
  | c :: rest =>
    if Text.isBlank c && (rest.dropWhile Text.isBlank).head? = some '#' then []
    else c :: cutComment rest

/-- A value and what follows it, read from behind the equals sign; failing that, where reading
failed. -/
def readValue (cs : List Char) : Except (List Char) (List Char × List Char) :=
  let start := cs.dropWhile Text.isInlineBlank
  match start with
  | '\'' :: rest =>
    match splitQuoted '\'' rest with
    | some (value, after) => .ok (unescape singleEscape? value, after)
    | none => .error start
  | '"' :: rest =>
    match splitQuoted '"' rest with
    | some (value, after) => .ok (unescape doubleEscape? value, after)
    | none => .error start
  | _ => .ok (Text.trimChars (cutComment (cs.takeWhile (· ≠ '\n'))), cs.dropWhile (· ≠ '\n'))

/-! ## Keys -/

/-- What follows the word `export` and blanks, or everything. -/
def skipExport (cs : List Char) : List Char :=
  let word := "export".toList
  let rest := cs.drop word.length
  if word.isPrefixOf cs && (rest.head?.map Text.isInlineBlank).getD false then
    rest.dropWhile Text.isInlineBlank
  else cs

/-- A character of a key without quotation marks. -/
def isKeyChar (c : Char) : Bool := c ≠ '=' && c ≠ '#' && !Text.isBlank c

/-- A key and what follows it.  Before a comment there is none. -/
def readKey? (cs : List Char) : Option (Option (List Char) × List Char) :=
  match cs with
  | '#' :: _ => some (none, cs)
  | '\'' :: rest =>
    let key := rest.takeWhile (· ≠ '\'')
    match rest.dropWhile (· ≠ '\'') with
    | _ :: after => if key.isEmpty then none else some (some key, after)
    | [] => none
  | _ =>
    let key := cs.takeWhile isKeyChar
    if key.isEmpty then none else some (some key, cs.dropWhile isKeyChar)

/-! ## Statements -/

/-- A statement: a key with a value or without one, nothing, or something that cannot be read,
with the line on which it begins. -/
inductive Statement where
  | assignment (key : String) (value : Option String)
  | nothing
  | unreadable (line : Nat)
deriving DecidableEq, Repr

/-- A value behind an equals sign, or nothing, and what follows; failing that, where reading
failed. -/
def readAssigned (cs : List Char) : Except (List Char) (Option (List Char) × List Char) :=
  match cs with
  | '=' :: rest => (readValue rest).map fun (value, after) => (some value, after)
  | _ => .ok (none, cs)

/-- The statement that begins at a character which is not blank, and what follows it; failing that,
where reading failed. -/
def readAssignment (cs : List Char) : Except (List Char) (Statement × List Char) :=
  let start := skipExport cs
  match readKey? start with
  | none => .error start
  | some (key, rest) =>
    let rest := rest.dropWhile Text.isInlineBlank
    match readAssigned rest with
    | .error failed => .error failed
    | .ok (value, rest) =>
      match endLine? rest with
      | none => .error rest
      | some after =>
        match key with
        | none => .ok (.nothing, after)
        | some key => .ok (.assignment (String.ofList key) (value.map String.ofList), after)

/-- The line on which an end of a text begins, where the text has as many line ends as given. -/
def lineOf (lineEnds : Nat) (cs : List Char) : Nat := lineEnds - cs.count '\n' + 1

/-- The first statement of an end of a text, and what follows it. -/
def readStatement (lineEnds : Nat) (cs : List Char) : Statement × List Char :=
  match cs.dropWhile Text.isBlank with
  | [] => (.nothing, [])
  | c :: rest =>
    match readAssignment (c :: rest) with
    | .ok result => result
    | .error failed => (.unreadable (lineOf lineEnds cs), skipLine failed)

/-- The statements of an end of a text, with as many steps as allowed. -/
def readAll (lineEnds : Nat) (cs : List Char) : Nat → List Statement
  | 0 => []
  | steps + 1 =>
    if cs.isEmpty then []
    else
      let (statement, after) := readStatement lineEnds cs
      statement :: readAll lineEnds after steps

/-- The text without a byte order mark at its head. -/
def dropMark : List Char → List Char
  | '\uFEFF' :: rest => rest
  | cs => cs

/-- The statements of a text.  Every statement takes a character at least. -/
def statements (text : String) : List Statement :=
  let cs := dropMark text.toList
  readAll (cs.count '\n') cs cs.length

end CatalogTypes.EnvFile
