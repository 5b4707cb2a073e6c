import CatalogTypes.Json.Display
import CatalogTypes.Json.Parser
import CatalogTypes.Settings.Basic

/-!
# Sources of settings

Settings come from the environment, from a document, or by name from a caller.  Each source is
checked in full and yields a layer.  The environment holds texts, from which flags and maps are
read; an empty text says nothing, except for a flag.  A document and a caller hold values, of which
null says nothing where a setting may be without a value.
-/

namespace CatalogTypes

/-! ## Errors -/

/-- What is wrong with settings. -/
inductive SettingsError where
  /-- A variable holds no truth value. -/
  | notFlag (name value : String)
  /-- A variable holds no JSON. -/
  | notJson (name detail : String)
  /-- A variable holds JSON other than an object. -/
  | notMapping (name : String)
  /-- A value is null that must not be. -/
  | isNull (label : String)
  /-- A value is of another kind. -/
  | wrongKind (label : String) (kind : SettingKind) (found : String)
  /-- A map has a value that is no text. -/
  | badEntry (label key : String)
  /-- No level for log lines has the name. -/
  | unknownLogLevel (value : String)
  /-- Names are given that no setting has. -/
  | unknownNames (names : List String)
  /-- A caller names what is no setting. -/
  | undefinedName (name : String)
  /-- A document does not exist. -/
  | noFile (path : String)
  /-- A document cannot be looked for under its path. -/
  | inaccessibleFile (detail : String)
  /-- A document cannot be read. -/
  | unreadableFile (path detail : String)
  /-- A document is no object. -/
  | notObjectFile (path : String)
  /-- A document has names that no setting has. -/
  | unknownFileNames (path : String) (names : List String)
deriving DecidableEq, Repr

/-- The description of a kind in messages. -/
def SettingKind.description : SettingKind → String
  | text => "a string"
  | flag => "a boolean"
  | mapping => "an object"

/-- The wording of an error. -/
def SettingsError.message : SettingsError → String
  | notFlag name value => "Invalid boolean for " ++ name ++ ": '" ++ value ++ "'"
  | notJson name detail => "Invalid JSON for " ++ name ++ ": " ++ detail
  | notMapping name => name ++ " must be a JSON object"
  | isNull label => "Config value '" ++ label ++ "' must not be null"
  | wrongKind label kind found =>
    "Config value '" ++ label ++ "' must be " ++ kind.description ++ ", got " ++ found
  | badEntry label key =>
    "Config value '" ++ label ++ "' must map strings to strings (bad entry '" ++ key ++ "')"
  | unknownLogLevel value =>
    "Invalid log level '" ++ value ++ "'. Expected one of: " ++ Text.joinWith ", " logLevels
  | unknownNames names => "Unknown config keys: " ++ Text.joinWith ", " names
  | undefinedName name =>
    "GeneratorConfig.__init__() got an unexpected keyword argument '" ++ name ++ "'"
  | noFile path => "Config file '" ++ path ++ "' could not be found"
  | inaccessibleFile detail => detail
  | unreadableFile path detail => "Config file '" ++ path ++ "' is not valid JSON: " ++ detail
  | notObjectFile path => "Config file '" ++ path ++ "' must contain a JSON object"
  | unknownFileNames path names =>
    "Unknown keys in config file '" ++ path ++ "': " ++ Text.joinWith ", " names

/-- Whether a run ends on an error in good order, reporting it. -/
def SettingsError.isReported : SettingsError → Bool
  | inaccessibleFile _ => false
  | _ => true

/-- A layer under which the level for log lines is known. -/
def checkedLayer (l : Layer) : Except SettingsError Layer :=
  let s := Settings.ofLayer l
  if s.hasKnownLogLevel then .ok l else .error (.unknownLogLevel s.logLevel)

/-! ## Maps as JSON text -/

/-- The map that a text spells as a JSON object: its values are taken as messages show them.  The
error is that of the text, or none if it spells another value. -/
def readMapping (text : String) : Except (Option Json.ParseError) (Keyed String) :=
  match Json.parse text with
  | .ok (.obj fields) => .ok (fields.map fun (key, value) => (key, value.shown))
  | .ok _ => .error none
  | .error e => .error (some e)

/-! ## The environment -/

/-- The variable of a setting. -/
def Setting.variableName (s : Setting) : String := "SCHEMA_TYPEGEN_" ++ Text.upper s.name

/-- The words for a flag that is set. -/
def trueWords : List String := ["1", "true", "yes", "on"]

/-- The words for a flag that is not set. -/
def falseWords : List String := ["0", "false", "no", "off", ""]

/-- The flag that a text spells. -/
def readFlag? (text : String) : Option Bool :=
  let word := Text.lower (Text.trim text)
  if trueWords.contains word then some true
  else if falseWords.contains word then some false
  else none

/-- The value that the text of a variable spells, if it says anything. -/
def SettingKind.readVariable (name text : String) :
    (k : SettingKind) → Except SettingsError (Option k.Value)
  | .text => .ok (if text.isEmpty then none else some text)
  | .flag =>
    match readFlag? text with
    | some b => .ok (some b)
    | none => .error (.notFlag name text)
  | .mapping =>
    if text.isEmpty then .ok none
    else
      match readMapping text with
      | .ok m => .ok (some m)
      | .error (some e) => .error (.notJson name (e.message text.toList))
      | .error none => .error (.notMapping name)

/-- The settings that the environment may hold, in the order in which they are read. -/
def environmentSettings : List Setting :=
  [.url, .dialect, .envFile, .outFile, .includePattern, .excludePattern, .logLevel, .camelCase,
    .typeOnlyImports, .verify, .includeViews, .partitions, .typeMapping, .overrides,
    .customImports]

/-- What the environment says about a setting. -/
def environmentValue (environment : Keyed String) (s : Setting) :
    Except SettingsError (Option s.Value) :=
  match environment.find? s.variableName with
  | some text => s.kind.readVariable s.variableName text
  | none => .ok none

/-- A reading, if it says anything. -/
def sayingOf {ε α : Type} : Except ε (Option α) → Option α
  | .ok value => value
  | .error _ => none

/-- The error of a reading, if it failed. -/
def errorOf? {ε α : Type} : Except ε α → Option ε
  | .ok _ => none
  | .error e => some e

/-- What the environment says about the settings. -/
def environmentLayer (environment : Keyed String) : Layer := fun s =>
  if environmentSettings.contains s then sayingOf (environmentValue environment s) else none

/-- The first error of the environment, if it has one. -/
def environmentError? (environment : Keyed String) : Option SettingsError :=
  environmentSettings.findSome? fun s => errorOf? (environmentValue environment s)

/-- What the environment says about the settings, if all of it can be read. -/
def readEnvironment (environment : Keyed String) : Except SettingsError Layer :=
  match environmentError? environment with
  | some e => .error e
  | none => checkedLayer (environmentLayer environment)

/-! ## Values by name -/

/-- The error of a value for a setting, if it has one. -/
def Setting.valueError? (s : Setting) (label : String) : Json → Option SettingsError
  | .null => if s.isRequired then some (.isNull label) else none
  | value =>
    match s.kind, value with
    | .text, .str _ | .flag, .bool _ => none
    | .mapping, .obj fields =>
      (List.find? (fun field => field.2.str?.isNone) fields).map fun field =>
        .badEntry label field.1
    | kind, value => some (.wrongKind label kind value.kindName)

/-- The value of a kind that a value is, if it is one. -/
def SettingKind.ofJson? : (k : SettingKind) → Json → Option k.Value
  | .text, .str s => some s
  | .flag, .bool b => some b
  | .mapping, .obj fields => some (fields.map fun (key, value) => (key, value.str?.getD ""))
  | _, _ => none

/-- What named values say: of the values for a setting the last one counts. -/
def entriesLayer (entries : List (Setting × Json)) : Layer := fun s =>
  ((entries.filter (·.1 = s)).getLast?).bind fun entry => s.kind.ofJson? entry.2

/-- The names of fields that no setting has, sorted. -/
def unknownNamesOf (setting? : String → Option Setting) (names : List String) : List String :=
  (names.filter fun name => (setting? name).isNone).mergeSort fun a b => a ≤ b

/-- The fields that name settings. -/
def settingEntries (setting? : String → Option Setting) (fields : List (String × Json)) :
    List (Setting × Json) :=
  fields.filterMap fun (name, value) => (setting? name).map fun s => (s, value)

/-- The first error of fields that name settings. -/
def firstFieldError? (setting? : String → Option Setting) (fields : List (String × Json)) :
    Option SettingsError :=
  fields.findSome? fun (name, value) => (setting? name).bind fun s => s.valueError? name value

/-- A layer under values by name; a null says nothing. -/
def mergeValues (base : Layer) (fields : List (String × Json)) : Except SettingsError Layer :=
  let given := fields.filter fun field => !(field.2 == .null)
  match unknownNamesOf Setting.ofName? (given.map Prod.fst) with
  | [] =>
    match firstFieldError? Setting.ofName? given with
    | some e => .error e
    | none => checkedLayer ((entriesLayer (settingEntries Setting.ofName? given)).above base)
  | names => .error (.unknownNames names)

/-- The first field that no setting has, if there is one. -/
def undefinedField? (fields : List (String × Json)) : Option SettingsError :=
  (List.find? (fun field => (Setting.ofName? field.1).isNone) fields).map fun field =>
    .undefinedName field.1

/-- The first error of the values for settings, in the order of the settings. -/
def firstValueError? (values : List (Setting × Json)) : Option SettingsError :=
  Setting.all.findSome? fun s =>
    (List.find? (fun entry => entry.1 = s) values).bind fun entry => s.valueError? s.name entry.2

/-- The layer of values by name alone.  Here a null is a value. -/
def constructLayer (fields : List (String × Json)) : Except SettingsError Layer :=
  let values := settingEntries Setting.ofName? fields
  match (undefinedField? fields).or (firstValueError? values) with
  | some e => .error e
  | none => checkedLayer (entriesLayer values)

/-! ## Documents -/

/-- What a document says about the settings, of which it may name each in either spelling. -/
def documentLayer (path : String) (document : Json) : Except SettingsError Layer :=
  match document with
  | .obj fields =>
    match firstFieldError? Setting.ofSpelling? fields with
    | some e => .error e
    | none =>
      match unknownNamesOf Setting.ofSpelling? (fields.map Prod.fst) with
      | [] => .ok (entriesLayer (settingEntries Setting.ofSpelling? fields))
      | names => .error (.unknownFileNames path names)
  | _ => .error (.notObjectFile path)

/-- What the text of a document says about the settings. -/
def readDocument (path text : String) : Except SettingsError Layer :=
  match Json.parse text with
  | .ok document => documentLayer path document
  | .error e => .error (.unreadableFile path (e.message text.toList))

end CatalogTypes
