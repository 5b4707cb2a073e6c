import CatalogTypes.Settings.Sources

/-!
# Options of the command

Most options state a setting: a text, one of several words, a map as a JSON object, or a flag, which
takes no argument.  The others name a document with settings, or ask for help or the version.
-/

namespace CatalogTypes.Command

/-- What an option does. -/
inductive OptionKind where
  | help
  | version
  | document
  | text (s : Setting)
  | choice (s : Setting) (choices : List String)
  | mapping (s : Setting)
  | flag (s : Setting) (value : Bool)
deriving DecidableEq, Repr

/-- An option: its spellings and what it does. -/
structure CommandOption where
  spellings : List String
  kind : OptionKind
deriving DecidableEq, Repr

namespace CommandOption

/-- Whether an option takes an argument. -/
def takesArgument (o : CommandOption) : Bool :=
  match o.kind with
  | .help | .version | .flag _ _ => false
  | .document | .text _ | .choice _ _ | .mapping _ => true

/-- The name of an option in messages. -/
def name (o : CommandOption) : String := Text.joinWith "/" o.spellings

/-- The options of the command, in order. -/
def all : List CommandOption := [
  ⟨["-h", "--help"], .help⟩,
  ⟨["--url"], .text .url⟩,
  ⟨["--dialect"], .choice .dialect ["postgres", "sqlite"]⟩,
  ⟨["--env-file"], .text .envFile⟩,
  ⟨["--out-file"], .text .outFile⟩,
  ⟨["--print"], .flag .printOutput true⟩,
  ⟨["--camel-case"], .flag .camelCase true⟩,
  ⟨["--type-mapping"], .mapping .typeMapping⟩,
  ⟨["--overrides"], .mapping .overrides⟩,
  ⟨["--custom-imports"], .mapping .customImports⟩,
  ⟨["--include-pattern"], .text .includePattern⟩,
  ⟨["--exclude-pattern"], .text .excludePattern⟩,
  ⟨["--exclude-views"], .flag .includeViews false⟩,
  ⟨["--partitions"], .flag .partitions true⟩,
  ⟨["--value-imports"], .flag .typeOnlyImports false⟩,
  ⟨["--verify"], .flag .verify true⟩,
  ⟨["--config"], .document⟩,
  ⟨["--log-level"], .choice .logLevel logLevels⟩,
  ⟨["--version"], .version⟩]

/-- Every spelling with its option, in order. -/
def spelled : List (String × CommandOption) :=
  all.flatMap fun o => o.spellings.map fun s => (s, o)

/-- The option of a spelling. -/
def ofSpelling? (s : String) : Option CommandOption := spelled.lookup s

/-- The spellings that begin as given, with their options. -/
def beginning (start : String) : List (String × CommandOption) :=
  spelled.filter fun entry => start.toList.isPrefixOf entry.1.toList

end CommandOption

end CatalogTypes.Command
