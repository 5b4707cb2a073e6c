import CatalogTypes.Files.Tree
import CatalogTypes.Settings.Sources

/-!
# Settings from all sources

The environment lies lowest, a document over it, and what is stated by the user on top.  Each layer
is checked as it is put down, so that the first one at fault, from below, gives the error.
-/

namespace CatalogTypes

/-- What a document in a file says about the settings. -/
def readDocumentFile (files : FileTree) (path : String) : Except SettingsError Layer :=
  match files.fileAt (.ofString path) with
  | .error fault => .error (.inaccessibleFile (fault.message (.ofString path)))
  | .ok none => .error (.noFile path)
  | .ok (some content) =>
    match content.read with
    | .ok text => readDocument path text
    | .error e => .error (.unreadableFile path e.message)

/-- A document in a file over a layer. -/
def overlayDocument (files : FileTree) (path : String) (base : Layer) :
    Except SettingsError Layer := do
  checkedLayer ((← readDocumentFile files path).above base)

/-- The last value that is stated for each setting, in the order of the settings. -/
def lastStated (stated : List (Setting × Json)) : List (Setting × Json) :=
  Setting.all.filterMap fun s => (stated.filter (·.1 = s)).getLast?

/-- Stated values over a layer. -/
def overlayStated (stated : List (Setting × Json)) (base : Layer) : Except SettingsError Layer :=
  mergeValues base ((lastStated stated).map fun (s, value) => (s.name, value))

/-- The layer of all sources.  A document under the empty path is none. -/
def layered (environment : Keyed String) (files : FileTree) (document : Option String)
    (stated : List (Setting × Json)) : Except SettingsError Layer := do
  let lowest ← readEnvironment environment
  let middle ←
    match document.filter (!·.isEmpty) with
    | some path => overlayDocument files path lowest
    | none => .ok lowest
  overlayStated stated middle

end CatalogTypes
