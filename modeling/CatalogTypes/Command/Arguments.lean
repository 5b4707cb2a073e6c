import CatalogTypes.Command.Options
import CatalogTypes.Text.Alphanumeric

/-!
# Arguments of the command

Every argument is first classified on its own: it spells an option, possibly shortened to a
beginning that no other option has and possibly with an argument attached, or it is an operand.
After `--` there are operands only.  Then the options take their arguments and act in turn.  Letters
that follow a short option without an argument are short options themselves.  The command has no use
for operands; what is left over makes the arguments invalid.
-/

namespace CatalogTypes.Command

/-! ## Errors -/

/-- What is wrong with an argument for an option. -/
inductive ArgumentFault where
  | missing
  | ignored (argument : String)
  | notAmong (argument : String) (choices : List String)
  | notJson (detail : String)
  | notObject
deriving DecidableEq, Repr

/-- What is wrong with the arguments. -/
inductive UsageError where
  | ambiguous (argument : String) (spellings : List String)
  | option (name : String) (fault : ArgumentFault)
  | leftOver (arguments : List String)
deriving DecidableEq, Repr

/-- The wording of a fault. -/
def ArgumentFault.message : ArgumentFault → String
  | missing => "expected one argument"
  | ignored argument => "ignored explicit argument " ++ Text.quoted argument
  | notAmong argument choices =>
    "invalid choice: " ++ Text.quoted argument ++ " (choose from " ++
      Text.joinWith ", " (choices.map Text.quoted) ++ ")"
  | notJson detail => "invalid JSON: " ++ detail
  | notObject => "expected a JSON object"

/-- The wording of an error. -/
def UsageError.message : UsageError → String
  | ambiguous argument spellings =>
    "ambiguous option: " ++ argument ++ " could match " ++ Text.joinWith ", " spellings
  | option name fault => "argument " ++ name ++ ": " ++ fault.message
  | leftOver arguments => "unrecognized arguments: " ++ Text.joinWith " " arguments

/-! ## Classifying an argument -/

/-- What is attached to the spelling of an option. -/
inductive Attached where
  /-- Nothing. -/
  | nothing
  /-- A text after a long spelling and an equals sign. -/
  | argument (text : String)
  /-- A text after a short spelling, with or without an equals sign: an argument, or further letters
  that spell options. -/
  | letters (text : String)
deriving DecidableEq, Repr

/-- What an argument is. -/
inductive Token where
  | operand
  | separator
  | unknown
  | option (o : CommandOption) (attached : Attached)
deriving DecidableEq, Repr

/-- Whether a text is a negative number.  A line feed may follow it. -/
def isNegativeNumber (cs : List Char) : Bool :=
  match cs with
  | '-' :: rest =>
    let rest := if rest.getLast? = some '\n' then rest.dropLast else rest
    let whole := rest.takeWhile Text.isDecimalDigit
    match rest.dropWhile Text.isDecimalDigit with
    | [] => !whole.isEmpty
    | '.' :: fraction => !fraction.isEmpty && fraction.all Text.isDecimalDigit
    | _ => false
  | _ => false

/-- The text before the first equals sign, and the text after it if there is one. -/
def splitEquals (cs : List Char) : List Char × Option (List Char) :=
  (cs.takeWhile (· ≠ '='),
    match cs.dropWhile (· ≠ '=') with
    | _ :: rest => some rest
    | [] => none)

/-- Whether a spelling is a hyphen and a letter. -/
def isShort (spelling : List Char) : Bool := spelling[1]? ≠ some '-'

/-- A text that is attached to a spelling by an equals sign. -/
def attachedTo (spelling text : List Char) : Attached :=
  if isShort spelling then .letters (String.ofList text) else .argument (String.ofList text)

/-- What is attached after an equals sign. -/
def attachedAfter : Option (List Char) → Attached
  | some text => .argument (String.ofList text)
  | none => .nothing

/-- The options that an argument may be short for, with their spellings. -/
def candidates (argument : List Char) : List (String × Token) :=
  match argument with
  | '-' :: '-' :: _ =>
    let (start, attached) := splitEquals argument
    (CommandOption.beginning (String.ofList start)).map fun (s, o) =>
      (s, .option o (attachedAfter attached))
  | _ =>
    CommandOption.spelled.filterMap fun (s, o) =>
      if s.toList = argument.take 2 then
        some (s, .option o (.letters (String.ofList (argument.drop 2))))
      else if argument.isPrefixOf s.toList then some (s, .option o .nothing)
      else none

/-- What an argument is that begins with a hyphen and is no spelling of an option. -/
def classifyShortened (argument : List Char) : Except UsageError Token :=
  match candidates argument with
  | [(_, token)] => .ok token
  | [] =>
    .ok (if isNegativeNumber argument || argument.contains ' ' then .operand else .unknown)
  | found => .error (.ambiguous (String.ofList argument) (found.map Prod.fst))

/-- What an argument is before `--`. -/
def classify (argument : String) : Except UsageError Token :=
  match argument.toList with
  | '-' :: rest =>
    match CommandOption.ofSpelling? argument with
    | some o => .ok (.option o .nothing)
    | none =>
      if rest.isEmpty then .ok .operand
      else
        let (start, attached) := splitEquals argument.toList
        match attached, CommandOption.ofSpelling? (String.ofList start) with
        | some text, some o => .ok (.option o (attachedTo start text))
        | _, _ => classifyShortened argument.toList
  | _ => .ok .operand

/-- The argument after which there are operands only. -/
def separator : String := "--"

/-- All arguments with what they are. -/
def classifyAll : List String → Except UsageError (List (String × Token))
  | [] => .ok []
  | argument :: rest =>
    if argument = separator then
      .ok ((argument, .separator) :: rest.map fun a => (a, .operand))
    else do
      let token ← classify argument
      return (argument, token) :: (← classifyAll rest)

/-! ## Acting on options -/

/-- What the arguments have said so far. -/
structure Arguments where
  stated : List (Setting × Json) := []
  document : Option String := none
  leftOver : List String := []
deriving Inhabited

/-- What the arguments ask for. -/
inductive Outcome where
  | run (arguments : Arguments)
  | help
  | version
  | invalid (error : UsageError)
deriving Inhabited

namespace Arguments

/-- The arguments with a statement about a setting. -/
def state (a : Arguments) (s : Setting) (value : Json) : Arguments :=
  { a with stated := a.stated ++ [(s, value)] }

/-- The arguments with something left over. -/
def leave (a : Arguments) (argument : String) : Arguments :=
  { a with leftOver := a.leftOver ++ [argument] }

/-- The arguments after an option that has been given a separator for its argument, and so none:
where there should be a value there is an empty list, and a document is named no longer. -/
def takeNone (a : Arguments) : OptionKind → Arguments
  | .document => { a with document := none }
  | .text s | .choice s _ | .mapping s => a.state s (.arr [])
  | .flag _ _ | .help | .version => a

/-- The arguments after an option with an argument of its kind. -/
def takeText (a : Arguments) (kind : OptionKind) (argument : String) :
    Except ArgumentFault Arguments :=
  match kind with
  | .document => .ok { a with document := some argument }
  | .text s => .ok (a.state s (.str argument))
  | .choice s choices =>
    if choices.contains argument then .ok (a.state s (.str argument))
    else .error (.notAmong argument choices)
  | .mapping s =>
    match readMapping argument with
    | .ok m => .ok (a.state s (.obj (m.map fun (key, value) => (key, .str value))))
    | .error (some e) => .error (.notJson (e.message argument.toList))
    | .error none => .error .notObject
  | .flag _ _ | .help | .version => .ok a

/-- The arguments after an option with what stands where its argument should. -/
def take (a : Arguments) (kind : OptionKind) (argument : String) :
    Except ArgumentFault Arguments :=
  if argument = separator then .ok (a.takeNone kind) else a.takeText kind argument

/-- The outcome when nothing more is to come. -/
def finish (a : Arguments) : Outcome :=
  if a.leftOver.isEmpty then .run a else .invalid (.leftOver a.leftOver)

end Arguments

/-- The fault of letters that follow a short option, if they have one: each must spell a short
option itself. -/
def lettersFault? : List Char → Option ArgumentFault
  | [] => none
  | c :: rest =>
    if (CommandOption.ofSpelling? (String.ofList ['-', c])).isSome then lettersFault? rest
    else some (.ignored (String.ofList (c :: rest)))

/-- The fault of what is attached to an option without an argument, if it has one. -/
def attachedFault? : Attached → Option ArgumentFault
  | .nothing => none
  | .argument text => some (.ignored text)
  | .letters text => if text.isEmpty then some (.ignored text) else lettersFault? text.toList

/-- The outcome of arguments with what they are. -/
def act (a : Arguments) : List (String × Token) → Outcome
  | [] => a.finish
  | (argument, .operand) :: rest | (argument, .separator) :: rest
  | (argument, .unknown) :: rest => act (a.leave argument) rest
  | (_, .option o attached) :: rest =>
    let failed (fault : ArgumentFault) : Outcome := .invalid (.option o.name fault)
    if o.takesArgument then
      match attached, rest with
      | .argument text, rest | .letters text, rest =>
        match a.take o.kind text with
        | .ok a => act a rest
        | .error fault => failed fault
      | .nothing, (text, .operand) :: rest =>
        match a.take o.kind text with
        | .ok a => act a rest
        | .error fault => failed fault
      | .nothing, _ => failed .missing
    else
      match attachedFault? attached with
      | some fault => failed fault
      | none =>
        match o.kind with
        | .help => .help
        | .version => .version
        | .flag s value => act (a.state s (.bool value)) rest
        | _ => act a rest

/-- What the arguments ask for. -/
def parse (arguments : List String) : Outcome :=
  match classifyAll arguments with
  | .ok tokens => act {} tokens
  | .error e => .invalid e

end CatalogTypes.Command
