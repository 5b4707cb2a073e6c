import CatalogTypes.Catalog.Filter
import CatalogTypes.Naming
import CatalogTypes.Resolve.Options

/-!
# Settings of a run

A setting holds a text, a flag or a map of texts.  What one source says about the settings is a
`Layer`: for each setting a value or nothing.  Layers are put one over the other, and of the values
for a setting the uppermost counts.  `Settings` are what a layer says once every setting has its
default below it.
-/

namespace CatalogTypes

/-! ## Settings and their kinds -/

/-- What a setting holds. -/
inductive SettingKind where
  | text
  | flag
  | mapping
deriving DecidableEq, Repr

/-- The values of a kind. -/
abbrev SettingKind.Value : SettingKind → Type
  | text => String
  | flag => Bool
  | mapping => Keyed String

/-- The settings. -/
inductive Setting where
  | url
  | dialect
  | envFile
  | outFile
  | camelCase
  | typeOnlyImports
  | verify
  | printOutput
  | typeMapping
  | overrides
  | customImports
  | includePattern
  | excludePattern
  | includeViews
  | partitions
  | logLevel
deriving DecidableEq, Repr

namespace Setting

/-- All settings in order. -/
def all : List Setting :=
  [url, dialect, envFile, outFile, camelCase, typeOnlyImports, verify, printOutput, typeMapping,
    overrides, customImports, includePattern, excludePattern, includeViews, partitions, logLevel]

/-- The kind of a setting. -/
abbrev kind : Setting → SettingKind
  | url | dialect | envFile | outFile | includePattern | excludePattern | logLevel => .text
  | camelCase | typeOnlyImports | verify | printOutput | includeViews | partitions => .flag
  | typeMapping | overrides | customImports => .mapping

/-- The values of a setting. -/
abbrev Value (s : Setting) : Type := s.kind.Value

/-- The name of a setting, its words joined by underscores. -/
def name : Setting → String
  | url => "url"
  | dialect => "dialect"
  | envFile => "env_file"
  | outFile => "out_file"
  | camelCase => "camel_case"
  | typeOnlyImports => "type_only_imports"
  | verify => "verify"
  | printOutput => "print_output"
  | typeMapping => "type_mapping"
  | overrides => "overrides"
  | customImports => "custom_imports"
  | includePattern => "include_pattern"
  | excludePattern => "exclude_pattern"
  | includeViews => "include_views"
  | partitions => "partitions"
  | logLevel => "log_level"

/-- Whether a setting always has a value. -/
def isRequired (s : Setting) : Bool :=
  s.kind ≠ .text || s = url || s = logLevel

/-- The setting under a name. -/
def ofName? (name : String) : Option Setting := all.find? (·.name = name)

/-- The setting under a name in either spelling, with underscores or in camel case. -/
def ofSpelling? (name : String) : Option Setting :=
  (ofName? name).or (all.find? fun s => Naming.fieldCamelCase s.name = name)

theorem mem_all (s : Setting) : s ∈ all := by cases s <;> decide

theorem ofName?_name (s : Setting) : ofName? s.name = some s := by cases s <;> decide

end Setting

/-! ## Layers -/

/-- What a source says about the settings. -/
abbrev Layer := (s : Setting) → Option s.Value

namespace Layer

/-- The layer that says nothing. -/
def empty : Layer := fun _ => none

/-- A layer over another one. -/
def above (upper lower : Layer) : Layer := fun s => (upper s).or (lower s)

theorem above_eq_of_some {upper lower : Layer} {s : Setting} {v : s.Value}
    (h : upper s = some v) : upper.above lower s = some v := by simp [above, h]

theorem above_eq_of_none {upper lower : Layer} {s : Setting} (h : upper s = none) :
    upper.above lower s = lower s := by simp [above, h]

end Layer

/-! ## Complete settings -/

/-- The address that is read from the environment. -/
def defaultUrl : String := "env(DATABASE_URL)"

/-- The levels that may be set for log lines. -/
def logLevels : List String := ["debug", "info", "warning", "error", "silent"]

/-- The settings of a run.  The keys of `overrides` are a table's and a column's name with a point
between; the values of `customImports` say where a name comes from. -/
structure Settings where
  url : String := defaultUrl
  dialect : Option String := none
  envFile : Option String := none
  outFile : Option String := none
  camelCase : Bool := false
  typeOnlyImports : Bool := true
  verify : Bool := false
  printOutput : Bool := false
  typeMapping : Keyed String := []
  overrides : Keyed String := []
  customImports : Keyed String := []
  includePattern : Option String := none
  excludePattern : Option String := none
  includeViews : Bool := true
  partitions : Bool := false
  logLevel : String := "info"
deriving Repr, Inhabited, DecidableEq

namespace Settings

/-- The settings of a layer, with the defaults below it. -/
def ofLayer (l : Layer) : Settings :=
  let base : Settings := {}
  { url := (l .url).getD base.url
    dialect := l .dialect
    envFile := l .envFile
    outFile := l .outFile
    camelCase := (l .camelCase).getD base.camelCase
    typeOnlyImports := (l .typeOnlyImports).getD base.typeOnlyImports
    verify := (l .verify).getD base.verify
    printOutput := (l .printOutput).getD base.printOutput
    typeMapping := (l .typeMapping).getD base.typeMapping
    overrides := (l .overrides).getD base.overrides
    customImports := (l .customImports).getD base.customImports
    includePattern := l .includePattern
    excludePattern := l .excludePattern
    includeViews := (l .includeViews).getD base.includeViews
    partitions := (l .partitions).getD base.partitions
    logLevel := (l .logLevel).getD base.logLevel }

/-- The options of resolution. -/
def options (s : Settings) : Options where
  camelCase := s.camelCase
  typeMapping := Options.lowerKeys s.typeMapping
  overrides := s.overrides.map fun (key, text) => (key, .text text)
  customImports := s.customImports

/-- Which tables are wanted. -/
def selection (s : Settings) : Selection where
  includePattern := s.includePattern
  excludePattern := s.excludePattern
  includeViews := s.includeViews
  partitions := s.partitions

/-- Whether the level for log lines may be set. -/
def hasKnownLogLevel (s : Settings) : Bool := logLevels.contains (Text.lower s.logLevel)

end Settings

end CatalogTypes
