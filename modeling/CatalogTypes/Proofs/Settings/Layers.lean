import CatalogTypes.Settings.Layered
import Mathlib.Tactic.Common

/-!
# How sources are laid over one another

A source is laid over a layer in two steps: it is read and checked by itself, whatever lies below,
and then the level for log lines is checked of what comes out (`overlay`).  If the level was known
below, it is unknown above only if the source names it, so that a source is at fault over one layer
exactly if it is over another one (`fails_overlay_iff`).

The layers of all sources are put together in this way (`layered_eq`), and all of their errors are
reported but for that of a document whose path cannot be followed (`layered_unreported_iff`).
-/

namespace CatalogTypes

/-! ## Errors that are reported -/

/-- Every error of the reading is reported. -/
def Reports (r : Except SettingsError Layer) : Prop := ∀ e, r = .error e → e.isReported = true

theorem checkedLayer_eq (l : Layer) :
    checkedLayer l = if (Settings.ofLayer l).hasKnownLogLevel then .ok l
      else .error (.unknownLogLevel (Settings.ofLayer l).logLevel) := rfl

theorem checkedLayer_ok_iff {l m : Layer} :
    checkedLayer l = .ok m ↔ m = l ∧ (Settings.ofLayer l).hasKnownLogLevel = true := by
  rw [checkedLayer_eq]
  split
  · next known => simp only [Except.ok.injEq, known, and_true, eq_comm]
  · next unknown => simp only [reduceCtorEq, unknown, and_false]

theorem reports_checkedLayer (l : Layer) : Reports (checkedLayer l) := by
  intro e failed
  rw [checkedLayer_eq] at failed
  split at failed <;> cases failed
  rfl

theorem SettingKind.reported_readVariable {name text : String} {k : SettingKind}
    {e : SettingsError} (h : k.readVariable name text = .error e) : e.isReported = true := by
  cases k with
  | text => cases h
  | flag =>
    rw [readVariable] at h
    split at h <;> cases h
    rfl
  | mapping =>
    rw [readVariable] at h
    split at h
    · cases h
    · split at h <;> cases h <;> rfl

theorem reported_environmentValue {environment : Keyed String} {s : Setting} {e : SettingsError}
    (h : environmentValue environment s = .error e) : e.isReported = true := by
  unfold environmentValue at h
  split at h
  · exact SettingKind.reported_readVariable h
  · cases h

theorem errorOf?_eq_some {ε α : Type} {r : Except ε α} {e : ε} :
    errorOf? r = some e ↔ r = .error e := by
  cases r <;> simp [errorOf?]

theorem reports_readEnvironment (environment : Keyed String) :
    Reports (readEnvironment environment) := by
  intro e failed
  unfold readEnvironment at failed
  split at failed
  · next found =>
    obtain rfl := Except.error.inj failed
    obtain ⟨s, -, wrong⟩ := List.exists_of_findSome?_eq_some found
    exact reported_environmentValue (errorOf?_eq_some.1 wrong)
  · exact reports_checkedLayer _ e failed

theorem Setting.reported_valueError? {s : Setting} {label : String} {value : Json}
    {e : SettingsError} (h : s.valueError? label value = some e) : e.isReported = true := by
  unfold valueError? at h
  split at h
  · split at h <;> cases h
    rfl
  · split at h
    · cases h
    · cases h
    · obtain ⟨field, -, rfl⟩ := Option.map_eq_some_iff.1 h
      rfl
    · cases h
      rfl

theorem reported_firstFieldError? {setting? : String → Option Setting}
    {fields : List (String × Json)} {e : SettingsError}
    (h : firstFieldError? setting? fields = some e) : e.isReported = true := by
  obtain ⟨⟨name, value⟩, -, wrong⟩ := List.exists_of_findSome?_eq_some h
  obtain ⟨s, -, wrong⟩ := Option.bind_eq_some_iff.1 wrong
  exact Setting.reported_valueError? wrong

theorem reports_documentLayer (path : String) (document : Json) :
    Reports (documentLayer path document) := by
  intro e failed
  unfold documentLayer at failed
  split at failed
  · split at failed
    · next wrong =>
      obtain rfl := Except.error.inj failed
      exact reported_firstFieldError? wrong
    · split at failed <;> cases failed
      rfl
  · cases failed
    rfl

theorem reports_readDocument (path text : String) : Reports (readDocument path text) := by
  intro e failed
  unfold readDocument at failed
  split at failed
  · exact reports_documentLayer path _ e failed
  · cases failed
    rfl

/-! ## What a source says by itself -/

/-- What values by name say, of which null says nothing. -/
def valuesLayer (fields : List (String × Json)) : Except SettingsError Layer :=
  let given := fields.filter fun field => !(field.2 == .null)
  match unknownNamesOf Setting.ofName? (given.map Prod.fst) with
  | [] =>
    match firstFieldError? Setting.ofName? given with
    | some e => .error e
    | none => .ok (entriesLayer (settingEntries Setting.ofName? given))
  | names => .error (.unknownNames names)

/-- What stated values say. -/
def statedLayer (stated : List (Setting × Json)) : Except SettingsError Layer :=
  valuesLayer ((lastStated stated).map fun (s, value) => (s.name, value))

/-- What the document says that is named, if one is. -/
def namedLayer (files : FileTree) (document : Option String) : Except SettingsError Layer :=
  match document.filter (!·.isEmpty) with
  | some path => readDocumentFile files path
  | none => .ok Layer.empty

theorem reports_statedLayer (stated : List (Setting × Json)) : Reports (statedLayer stated) := by
  intro e failed
  unfold statedLayer valuesLayer at failed
  dsimp only at failed
  split at failed
  · split at failed
    · next wrong =>
      obtain rfl := Except.error.inj failed
      exact reported_firstFieldError? wrong
    · cases failed
  · cases failed
    rfl

theorem namedLayer_unreported_iff {files : FileTree} {document : Option String} :
    (∃ e, namedLayer files document = .error e ∧ e.isReported = false) ↔
      ∃ path fault, document.filter (!·.isEmpty) = some path ∧
        files.fileAt (.ofString path) = .error fault := by
  unfold namedLayer
  cases document.filter (!·.isEmpty) with
  | none => simp
  | some path =>
    simp only [Option.some.injEq, exists_eq_left', exists_and_left, readDocumentFile]
    cases files.fileAt (.ofString path) with
    | error fault => simp [SettingsError.isReported]
    | ok content? =>
      refine iff_of_false ?_ (by simp)
      rintro ⟨e, failed, unreported⟩
      cases content? with
      | none =>
        cases failed
        cases unreported
      | some content =>
        cases read : content.read with
        | error error =>
          simp only [read] at failed
          cases failed
          cases unreported
        | ok text =>
          simp only [read] at failed
          exact absurd (reports_readDocument path text e failed) (by simp [unreported])

/-! ## Overlays -/

/-- What a source says over a layer. -/
def overlay : Except SettingsError Layer → Layer → Except SettingsError Layer
  | .error e, _ => .error e
  | .ok upper, base => checkedLayer (upper.above base)

theorem overlayDocument_eq (files : FileTree) (path : String) (base : Layer) :
    overlayDocument files path base = overlay (readDocumentFile files path) base := by
  unfold overlayDocument
  cases readDocumentFile files path with
  | error e => rfl
  | ok upper => simp only [overlay, bind, Except.bind]

theorem overlayStated_eq (stated : List (Setting × Json)) (base : Layer) :
    overlayStated stated base = overlay (statedLayer stated) base := by
  unfold overlayStated mergeValues statedLayer valuesLayer
  dsimp only
  generalize ((lastStated stated).map fun (s, value) => (s.name, value)).filter
    (fun field => !(field.2 == .null)) = given
  cases unknownNamesOf Setting.ofName? (given.map Prod.fst) with
  | nil => cases firstFieldError? Setting.ofName? given <;> rfl
  | cons name names => rfl

theorem overlay_ok_iff {upper : Except SettingsError Layer} {base l : Layer} :
    overlay upper base = .ok l ↔ ∃ u, upper = .ok u ∧ l = u.above base ∧
      (Settings.ofLayer (u.above base)).hasKnownLogLevel = true := by
  cases upper with
  | error e => simp [overlay]
  | ok u =>
    rw [overlay, checkedLayer_ok_iff]
    simp

theorem Reports.overlaid {upper : Except SettingsError Layer} (h : Reports upper) (base : Layer) :
    Reports (overlay upper base) := by
  cases upper with
  | error e => exact h
  | ok u =>
    rw [overlay]
    exact reports_checkedLayer (u.above base)

theorem hasKnownLogLevel_ofLayer (l : Layer) : (Settings.ofLayer l).hasKnownLogLevel =
    logLevels.contains (Text.lower ((l .logLevel).getD "info")) := rfl

/-- The level that is meant where none is named is known. -/
theorem hasKnownLogLevel_of_none {l : Layer} (h : l .logLevel = none) :
    (Settings.ofLayer l).hasKnownLogLevel = true := by
  have usual : logLevels.contains (Text.lower "info") = true := by decide
  rw [hasKnownLogLevel_ofLayer, h, Option.getD_none, usual]

/-- Over a layer with a known level the level is unknown only if it is named above. -/
theorem hasKnownLogLevel_above {u base : Layer}
    (known : (Settings.ofLayer base).hasKnownLogLevel = true) :
    (Settings.ofLayer (u.above base)).hasKnownLogLevel =
      (Settings.ofLayer (u.above Layer.empty)).hasKnownLogLevel := by
  cases named : u .logLevel with
  | some word =>
    simp only [hasKnownLogLevel_ofLayer, Layer.above_eq_of_some named]
  | none =>
    have silent : (u.above Layer.empty) .logLevel = none := Layer.above_eq_of_none named
    rw [hasKnownLogLevel_of_none silent, hasKnownLogLevel_ofLayer, Layer.above_eq_of_none named,
      ← hasKnownLogLevel_ofLayer, known]

/-- Whether a source is at fault does not depend on what lies below. -/
theorem fails_overlay_iff (upper : Except SettingsError Layer) {base : Layer}
    (known : (Settings.ofLayer base).hasKnownLogLevel = true) :
    (∃ e, overlay upper base = .error e) ↔ ∃ e, overlay upper Layer.empty = .error e := by
  cases upper with
  | error e => rw [overlay, overlay]
  | ok u =>
    rw [overlay, overlay, checkedLayer_eq, checkedLayer_eq, hasKnownLogLevel_above known]
    split <;> simp

/-! ## All sources -/

theorem readEnvironment_ok {environment : Keyed String} {l : Layer}
    (h : readEnvironment environment = .ok l) :
    l = environmentLayer environment ∧ (Settings.ofLayer l).hasKnownLogLevel = true := by
  unfold readEnvironment at h
  split at h
  · cases h
  · obtain ⟨rfl, known⟩ := checkedLayer_ok_iff.1 h
    exact ⟨rfl, known⟩

/-- The layer of all sources is that of the environment with the others laid over it. -/
theorem layered_eq (environment : Keyed String) (files : FileTree) (document : Option String)
    (stated : List (Setting × Json)) :
    layered environment files document stated =
      ((readEnvironment environment >>= overlay (namedLayer files document)) >>=
        overlay (statedLayer stated)) := by
  unfold layered
  cases read : readEnvironment environment with
  | error e => rfl
  | ok lowest =>
    have unnamed : overlay (.ok Layer.empty) lowest = .ok lowest := by
      rw [overlay, checkedLayer_ok_iff]
      exact ⟨rfl, (readEnvironment_ok read).2⟩
    simp only [overlayStated_eq, bind, Except.bind, namedLayer]
    cases document.filter (!·.isEmpty) with
    | none =>
      dsimp only
      rw [unnamed]
    | some path =>
      dsimp only
      rw [overlayDocument_eq]

/-- Which errors of all sources are not reported. -/
theorem layered_unreported_iff {environment : Keyed String} {files : FileTree}
    {document : Option String} {stated : List (Setting × Json)} :
    (∃ e, layered environment files document stated = .error e ∧ e.isReported = false) ↔
      ∃ l path fault, readEnvironment environment = .ok l ∧
        document.filter (!·.isEmpty) = some path ∧
        files.fileAt (.ofString path) = .error fault := by
  have stuck {r : Except SettingsError Layer} (h : Reports r) :
      ¬ ∃ e, r = .error e ∧ e.isReported = false := by
    rintro ⟨e, failed, unreported⟩
    exact absurd (h e failed) (by simp [unreported])
  rw [layered_eq]
  cases read : readEnvironment environment with
  | error e =>
    refine iff_of_false (stuck ?_) (by simp)
    rintro _ ⟨⟩
    exact reports_readEnvironment environment e read
  | ok lowest =>
    have named := @namedLayer_unreported_iff files document
    cases source : namedLayer files document with
    | error e =>
      rw [source] at named
      refine Iff.trans ?_ (named.trans ?_)
      · rfl
      · simp
    | ok u =>
      rw [source] at named
      refine iff_of_false (stuck ?_) ?_
      · intro e failed
        cases middle : overlay (.ok u) lowest with
        | error e' =>
          obtain rfl : e' = e := by simpa [middle, bind, Except.bind] using failed
          rw [overlay] at middle
          exact reports_checkedLayer _ _ middle
        | ok l =>
          refine (reports_statedLayer stated).overlaid l e ?_
          simpa [middle, bind, Except.bind] using failed
      · rintro ⟨-, path, fault, -, there, lost⟩
        obtain ⟨e, failed, -⟩ := named.2 ⟨path, fault, there, lost⟩
        cases failed

end CatalogTypes
