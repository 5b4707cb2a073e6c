import CatalogTypes.Proofs.Settings.Layers

/-!
# Which source decides a setting

Every setting has the value that is stated for it, else the one that a document gives it, else the
one of its variable, else its default (`decidedValue`).  A null, in whatever source, decides
nothing, and neither does a variable whose text is empty, unless it is that of a flag.

**Theorem (`layered_precedence`).** If the sources can be put together, every setting has the
decided value.  They can be put together exactly if each of the three can be laid over the defaults
alone.

Each layer keeps the values it was read from: `SettingKind.toJson` is a left inverse of the reading
of a value that passes its check (`toJson_of_valid`).
-/

namespace CatalogTypes

/-! ## Values -/

/-- A value of a kind as it stands in a document. -/
def SettingKind.toJson : (k : SettingKind) → k.Value → Json
  | .text, t => .str t
  | .flag, b => .bool b
  | .mapping, entries => .obj (entries.map fun (key, t) => (key, .str t))

/-- A text that may be missing, as it stands in a document. -/
def optionalText : Option String → Json
  | some text => .str text
  | none => .null

/-- The value of a setting as it stands in a document. -/
def Settings.value (c : Settings) : Setting → Json
  | .url => .str c.url
  | .dialect => optionalText c.dialect
  | .envFile => optionalText c.envFile
  | .outFile => optionalText c.outFile
  | .camelCase => .bool c.camelCase
  | .typeOnlyImports => .bool c.typeOnlyImports
  | .verify => .bool c.verify
  | .printOutput => .bool c.printOutput
  | .typeMapping => SettingKind.toJson .mapping c.typeMapping
  | .overrides => SettingKind.toJson .mapping c.overrides
  | .customImports => SettingKind.toJson .mapping c.customImports
  | .includePattern => optionalText c.includePattern
  | .excludePattern => optionalText c.excludePattern
  | .includeViews => .bool c.includeViews
  | .partitions => .bool c.partitions
  | .logLevel => .str c.logLevel

/-- A value, unless it is null. -/
def Json.unlessNull : Json → Option Json
  | .null => none
  | value => some value

theorem value_ofLayer (l : Layer) (s : Setting) :
    (Settings.ofLayer l).value s =
      ((l s).map s.kind.toJson).getD (Settings.value {} s) := by
  cases found : l s with
  | none => cases s <;> simp only [Settings.value, Settings.ofLayer, found] <;> rfl
  | some v => cases s <;> simp only [Settings.value, Settings.ofLayer, found] <;> rfl

/-! ## What the sources say -/

/-- The value that is stated last for a setting. -/
def statedValue (stated : List (Setting × Json)) (s : Setting) : Option Json :=
  ((stated.filter (·.1 = s)).getLast?).bind (·.2.unlessNull)

/-- The value of the last field that names a setting in either spelling. -/
def namedValue (fields : List (String × Json)) (s : Setting) : Option Json :=
  ((fields.filter fun field =>
    field.1 = s.name ∨ field.1 = Naming.fieldCamelCase s.name).getLast?).bind (·.2.unlessNull)

/-- The value that a text spells for a kind, if it says anything. -/
def spelledValue (text : String) : SettingKind → Option Json
  | .text => if text.isEmpty then none else some (.str text)
  | .flag => (readFlag? text).map .bool
  | .mapping =>
    if text.isEmpty then none
    else
      match readMapping text with
      | .ok entries => some (SettingKind.toJson .mapping entries)
      | .error _ => none

/-- The value that the variable of a setting gives it; printing has none. -/
def variableValue (environment : Keyed String) (s : Setting) : Option Json :=
  if s = .printOutput then none
  else (environment.find? s.variableName).bind fun text => spelledValue text s.kind

/-- The value that the sources decide on, the uppermost first. -/
def decidedValue (environment : Keyed String) (fields : List (String × Json))
    (stated : List (Setting × Json)) (s : Setting) : Json :=
  ((statedValue stated s).or ((namedValue fields s).or (variableValue environment s))).getD
    (Settings.value {} s)

/-- The fields of the document that is named: none if none is named. -/
def DocumentHolds (files : FileTree) (document : Option String) (fields : List (String × Json)) :
    Prop :=
  match document.filter (!·.isEmpty) with
  | none => fields = []
  | some path => ∃ content text, files.fileAt (.ofString path) = .ok (some content) ∧
      content.read = .ok text ∧ Json.parse text = .ok (.obj fields)

/-! ## What a layer keeps of its source -/

theorem ofName?_eq_some {name : String} {s : Setting} :
    Setting.ofName? name = some s ↔ name = s.name := by
  constructor
  · intro found
    simpa [eq_comm] using List.find?_some found
  · rintro rfl
    exact Setting.ofName?_name s

theorem name_injective {s t : Setting} (h : s.name = t.name) : s = t :=
  (Option.some.inj ((Setting.ofName?_name t).symm.trans (ofName?_eq_some.2 h.symm))).symm

theorem ofSpelling?_fieldCamelCase (s : Setting) :
    Setting.ofSpelling? (Naming.fieldCamelCase s.name) = some s := by
  have all : ∀ s ∈ Setting.all, Setting.ofSpelling? (Naming.fieldCamelCase s.name) = some s := by
    decide
  exact all s s.mem_all

theorem ofSpelling?_eq_some {name : String} {s : Setting} :
    Setting.ofSpelling? name = some s ↔ name = s.name ∨ name = Naming.fieldCamelCase s.name := by
  constructor
  · intro found
    obtain named | ⟨-, found⟩ := Option.or_eq_some_iff.1 found
    · exact .inl (ofName?_eq_some.1 named)
    · exact .inr (by simpa [eq_comm] using List.find?_some found)
  · rintro (rfl | rfl)
    · rw [Setting.ofSpelling?, Setting.ofName?_name, Option.some_or]
    · exact ofSpelling?_fieldCamelCase s

/-- Texts that are taken from texts are the same. -/
theorem map_str_of_texts (textOf : Json → String) (keeps : ∀ t, textOf (.str t) = t)
    {fields : List (String × Json)} (texts : ∀ field ∈ fields, field.2.str? ≠ none) :
    (fields.map fun (key, value) => (key, textOf value)).map
      (fun (key, t) => (key, Json.str t)) = fields := by
  rw [List.map_map]
  refine (List.map_congr_left fun field inside => ?_).trans (List.map_id fields)
  obtain ⟨key, value⟩ := field
  have text := texts _ inside
  cases value with
  | str t => exact congrArg (fun t => (key, Json.str t)) (keeps t)
  | _ => exact absurd rfl text

/-- A value that passes the check of a setting is kept, unless it is null. -/
theorem toJson_of_valid {s : Setting} {label : String} {value : Json}
    (valid : s.valueError? label value = none) :
    (s.kind.ofJson? value).map s.kind.toJson = value.unlessNull := by
  unfold Setting.valueError? at valid
  generalize s.kind = k at *
  cases value with
  | null => cases k <;> rfl
  | bool b => cases k <;> first | rfl | cases valid
  | int n => cases k <;> cases valid
  | real x => cases k <;> cases valid
  | str t => cases k <;> first | rfl | cases valid
  | arr items => cases k <;> cases valid
  | obj fields =>
    cases k with
    | text => cases valid
    | flag => cases valid
    | mapping =>
      have texts := List.find?_eq_none.1 (Option.map_eq_none_iff.1 valid)
      refine congrArg (fun fields => some (Json.obj fields))
        (map_str_of_texts (fun value => value.str?.getD "") (fun _ => rfl) fun field inside => ?_)
      simpa using texts field inside

theorem filter_settingEntries (setting? : String → Option Setting)
    (fields : List (String × Json)) (s : Setting) :
    (settingEntries setting? fields).filter (·.1 = s) =
      (fields.filter fun field => setting? field.1 = some s).map fun field => (s, field.2) := by
  induction fields with
  | nil => rfl
  | cons field rest ih =>
    obtain ⟨name, value⟩ := field
    cases named : setting? name with
    | none => simpa [settingEntries, named] using ih
    | some t =>
      by_cases same : t = s
      · subst same
        simpa [settingEntries, named] using ih
      · simpa [settingEntries, named, same] using ih

/-- The last field for a setting says what the layer of all fields says. -/
theorem entriesLayer_settingEntries {setting? : String → Option Setting}
    {fields : List (String × Json)} (valid : firstFieldError? setting? fields = none)
    (s : Setting) :
    (entriesLayer (settingEntries setting? fields) s).map s.kind.toJson =
      ((fields.filter fun field => setting? field.1 = some s).getLast?).bind (·.2.unlessNull) := by
  rw [entriesLayer, filter_settingEntries, List.getLast?_map]
  cases last : (fields.filter fun field => setting? field.1 = some s).getLast? with
  | none => rfl
  | some field =>
    obtain ⟨inside, named⟩ := List.mem_filter.1 (List.mem_of_getLast? last)
    have checked : (setting? field.1).bind (fun s => s.valueError? field.1 field.2) = none :=
      List.findSome?_eq_none_iff.1 valid field inside
    rw [of_decide_eq_true named] at checked
    exact toJson_of_valid checked

/-! ## What each source says -/

theorem map_toJson_readVariable (name text : String) (k : SettingKind) :
    (sayingOf (k.readVariable name text)).map k.toJson = spelledValue text k := by
  cases k with
  | text =>
    simp only [SettingKind.readVariable, sayingOf, spelledValue]
    split <;> rfl
  | flag =>
    simp only [SettingKind.readVariable, spelledValue]
    cases readFlag? text <;> rfl
  | mapping =>
    simp only [SettingKind.readVariable, spelledValue]
    split
    · rfl
    · cases readMapping text with
      | ok entries => rfl
      | error e? => cases e? <;> rfl

theorem map_toJson_environmentLayer (environment : Keyed String) (s : Setting) :
    (environmentLayer environment s).map s.kind.toJson = variableValue environment s := by
  have settable : environmentSettings.contains s = true ↔ s ≠ .printOutput := by
    cases s <;> decide
  unfold environmentLayer variableValue
  by_cases printing : s = .printOutput
  · rw [if_neg (fun there => settable.1 there printing), if_pos printing]
    rfl
  · rw [if_pos (settable.2 printing), if_neg printing, environmentValue]
    cases environment.find? s.variableName with
    | none => rfl
    | some text => exact map_toJson_readVariable _ _ _

theorem DocumentHolds.readDocumentFile {files : FileTree} {document : Option String}
    {fields : List (String × Json)} (held : DocumentHolds files document fields) {path : String}
    (named : document.filter (!·.isEmpty) = some path) :
    readDocumentFile files path = documentLayer path (.obj fields) := by
  simp only [DocumentHolds, named] at held
  obtain ⟨content, text, there, decoded, parsed⟩ := held
  simp only [CatalogTypes.readDocumentFile, there, decoded, readDocument, parsed]

theorem documentLayer_ok {path : String} {fields : List (String × Json)} {u : Layer}
    (read : documentLayer path (.obj fields) = .ok u) (s : Setting) :
    (u s).map s.kind.toJson = namedValue fields s := by
  unfold documentLayer at read
  dsimp only at read
  split at read
  · cases read
  · next valid =>
    split at read
    · cases read
      rw [entriesLayer_settingEntries valid]
      simp only [namedValue, ofSpelling?_eq_some]
    · cases read

theorem map_toJson_namedLayer {files : FileTree} {document : Option String}
    {fields : List (String × Json)} {u : Layer} (held : DocumentHolds files document fields)
    (read : namedLayer files document = .ok u) (s : Setting) :
    (u s).map s.kind.toJson = namedValue fields s := by
  unfold namedLayer at read
  cases named : document.filter (!·.isEmpty) with
  | none =>
    simp only [DocumentHolds, named] at held read
    cases held
    cases read
    rfl
  | some path =>
    simp only [named, held.readDocumentFile named] at read
    exact documentLayer_ok read s

/-- What is gathered one by one for different settings is gathered once for each. -/
theorem filter_filterMap_own {g : Setting → Option (Setting × Json)} {settings : List Setting}
    (own : ∀ t e, g t = some e → e.1 = t) (distinct : settings.Nodup) (s : Setting) :
    (settings.filterMap g).filter (·.1 = s) = if s ∈ settings then (g s).toList else [] := by
  induction settings with
  | nil => rfl
  | cons t rest ih =>
    obtain ⟨fresh, distinct⟩ := List.nodup_cons.1 distinct
    have tail := ih distinct
    cases gathered : g t with
    | none =>
      rw [List.filterMap_cons_none gathered, tail]
      by_cases same : s = t
      · subst same
        simp [fresh, gathered]
      · simp [same]
    | some e =>
      rw [List.filterMap_cons_some gathered]
      have here := own t e gathered
      by_cases same : s = t
      · subst same
        rw [if_neg fresh] at tail
        simp [here, tail, gathered]
      · simpa [here, same, Ne.symm same] using tail

theorem filter_lastStated (stated : List (Setting × Json)) (s : Setting) :
    (lastStated stated).filter (·.1 = s) = ((stated.filter (·.1 = s)).getLast?).toList := by
  have own (t : Setting) (e : Setting × Json)
      (last : (stated.filter (·.1 = t)).getLast? = some e) : e.1 = t :=
    of_decide_eq_true (List.mem_filter.1 (List.mem_of_getLast? last)).2
  rw [lastStated, filter_filterMap_own own (by decide), if_pos s.mem_all]

theorem valuesLayer_ok {fields : List (String × Json)} {u : Layer}
    (read : valuesLayer fields = .ok u) (s : Setting) :
    (u s).map s.kind.toJson =
      (((fields.filter (·.1 = s.name)).filter fun field => !(field.2 == .null)).getLast?).bind
        (·.2.unlessNull) := by
  unfold valuesLayer at read
  dsimp only at read
  split at read
  · split at read
    · cases read
    · next valid =>
      cases read
      rw [entriesLayer_settingEntries valid]
      simp only [ofName?_eq_some, List.filter_filter, Bool.and_comm]
  · cases read

/-- Settings may be told apart by their names. -/
theorem filter_names (entries : List (Setting × Json)) (s : Setting) :
    (entries.map fun (t, value) => (t.name, value)).filter (·.1 = s.name) =
      (entries.filter (·.1 = s)).map fun (t, value) => (t.name, value) := by
  rw [List.filter_map]
  congr 1
  refine List.filter_congr fun entry _ => decide_eq_decide.2
    ⟨fun same => ?_, fun same => congrArg Setting.name same⟩
  exact name_injective same

theorem map_toJson_statedLayer {stated : List (Setting × Json)} {u : Layer}
    (read : statedLayer stated = .ok u) (s : Setting) :
    (u s).map s.kind.toJson = statedValue stated s := by
  rw [valuesLayer_ok read, filter_names, filter_lastStated, statedValue]
  cases (stated.filter (·.1 = s)).getLast? with
  | none => rfl
  | some entry =>
    obtain ⟨t, value⟩ := entry
    cases value <;> rfl

/-! ## All sources -/

/-- The reading fails with an error that is reported. -/
def Raises (r : Except SettingsError Layer) : Prop := ∃ e, r = .error e ∧ e.isReported = true

theorem Reports.raises_iff {r : Except SettingsError Layer} (h : Reports r) :
    Raises r ↔ ∃ e, r = .error e :=
  ⟨fun ⟨e, failed, _⟩ => ⟨e, failed⟩, fun ⟨e, failed⟩ => ⟨e, failed, h e failed⟩⟩

theorem DocumentHolds.found {files : FileTree} {document : Option String}
    {fields : List (String × Json)} (held : DocumentHolds files document fields) {path : String}
    (named : document.filter (!·.isEmpty) = some path) (fault : FileFault) :
    files.fileAt (.ofString path) ≠ .error fault := by
  simp only [DocumentHolds, named] at held
  obtain ⟨content, text, there, -⟩ := held
  intro lost
  cases there.symm.trans lost

theorem reports_namedLayer {files : FileTree} {document : Option String}
    {fields : List (String × Json)} (held : DocumentHolds files document fields) :
    Reports (namedLayer files document) := by
  intro e failed
  by_contra unreported
  obtain ⟨path, fault, named, lost⟩ :=
    namedLayer_unreported_iff.1 ⟨e, failed, by simpa using unreported⟩
  exact held.found named fault lost

theorem reports_layered {environment : Keyed String} {files : FileTree}
    {document : Option String} {stated : List (Setting × Json)} {fields : List (String × Json)}
    (held : DocumentHolds files document fields) :
    Reports (layered environment files document stated) := by
  intro e failed
  by_contra unreported
  obtain ⟨-, path, fault, -, named, lost⟩ :=
    layered_unreported_iff.1 ⟨e, failed, by simpa using unreported⟩
  exact held.found named fault lost

/-- The values of all sources. -/
theorem value_of_layered {environment : Keyed String} {files : FileTree}
    {document : Option String} {stated : List (Setting × Json)} {fields : List (String × Json)}
    {l : Layer} (held : DocumentHolds files document fields)
    (read : layered environment files document stated = .ok l) (s : Setting) :
    (Settings.ofLayer l).value s = decidedValue environment fields stated s := by
  rw [layered_eq] at read
  cases lowest : readEnvironment environment with
  | error e => simp [lowest, bind, Except.bind] at read
  | ok low =>
    cases middle : overlay (namedLayer files document) low with
    | error e => simp [lowest, middle, bind, Except.bind] at read
    | ok mid =>
      have upper : overlay (statedLayer stated) mid = .ok l := by
        simpa [lowest, middle, bind, Except.bind] using read
      obtain ⟨us, statedRead, rfl, -⟩ := overlay_ok_iff.1 upper
      obtain ⟨un, namedRead, rfl, -⟩ := overlay_ok_iff.1 middle
      obtain ⟨rfl, -⟩ := readEnvironment_ok lowest
      rw [value_ofLayer, decidedValue, ← map_toJson_statedLayer statedRead,
        ← map_toJson_namedLayer held namedRead, ← map_toJson_environmentLayer]
      simp only [Layer.above, Option.map_or]

/-- Sources can be laid over one another if each can be laid over the defaults. -/
theorem fails_layered_iff (environment : Keyed String) (files : FileTree)
    (document : Option String) (stated : List (Setting × Json)) :
    (∃ e, layered environment files document stated = .error e) ↔
      (∃ e, readEnvironment environment = .error e) ∨
        (∃ e, overlay (namedLayer files document) Layer.empty = .error e) ∨
          ∃ e, overlay (statedLayer stated) Layer.empty = .error e := by
  rw [layered_eq]
  cases lowest : readEnvironment environment with
  | error e => exact iff_of_true ⟨e, rfl⟩ (.inl ⟨e, rfl⟩)
  | ok low =>
    have named := fails_overlay_iff (namedLayer files document) (readEnvironment_ok lowest).2
    cases middle : overlay (namedLayer files document) low with
    | error e =>
      rw [middle] at named
      refine iff_of_true ⟨e, ?_⟩ (.inr (.inl (named.1 ⟨e, rfl⟩)))
      simp [middle, bind, Except.bind]
    | ok mid =>
      rw [middle] at named
      obtain ⟨un, -, rfl, known⟩ := overlay_ok_iff.1 middle
      have failed : (Except.ok low >>= overlay (namedLayer files document)) >>=
          overlay (statedLayer stated) = overlay (statedLayer stated) (un.above low) := by
        simp [middle, bind, Except.bind]
      rw [failed, fails_overlay_iff _ known, ← named]
      simp

/-- **Which source decides a setting**, and when sources can be put together. -/
theorem layered_precedence {environment : Keyed String} {files : FileTree}
    {document : Option String} {stated : List (Setting × Json)} {fields : List (String × Json)}
    (held : DocumentHolds files document fields) :
    (∀ l, layered environment files document stated = .ok l → ∀ s,
        (Settings.ofLayer l).value s = decidedValue environment fields stated s) ∧
      (Raises (layered environment files document stated) ↔
        Raises (readEnvironment environment) ∨
          (∃ path, document.filter (!·.isEmpty) = some path ∧
            Raises (overlayDocument files path Layer.empty)) ∨
          Raises (overlayStated stated Layer.empty)) := by
  refine ⟨fun l read s => value_of_layered held read s, ?_⟩
  have named : (∃ path, document.filter (!·.isEmpty) = some path ∧
      Raises (overlayDocument files path Layer.empty)) ↔
        ∃ e, overlay (namedLayer files document) Layer.empty = .error e := by
    rw [← ((reports_namedLayer held).overlaid Layer.empty).raises_iff]
    unfold namedLayer
    cases document.filter (!·.isEmpty) with
    | none =>
      refine iff_of_false (by simp) ?_
      rintro ⟨e, failed, -⟩
      rw [overlay, checkedLayer_eq, if_pos (hasKnownLogLevel_of_none rfl)] at failed
      cases failed
    | some path => simp [overlayDocument_eq]
  rw [(reports_layered held).raises_iff, (reports_readEnvironment environment).raises_iff, named,
    overlayStated_eq, ((reports_statedLayer stated).overlaid Layer.empty).raises_iff]
  exact fails_layered_iff environment files document stated

/-- A directory with one document in it. -/
def oneDocument (text : String) : FileTree := ⟨[(["c.json"], .text text)], []⟩

/-- Variables that name the output file and a flag. -/
def someVariables : Keyed String :=
  [("SCHEMA_TYPEGEN_OUT_FILE", "a.ts"), ("SCHEMA_TYPEGEN_CAMEL_CASE", "yes")]

/-- The text of a document that names the output file and another flag. -/
def someText : String := "\x7b\"outFile\": \"b.ts\", \"partitions\": true\x7d"

/-- Values that are stated for the output file and for a third flag. -/
def someStated : List (Setting × Json) := [(.outFile, .str "c.ts"), (.verify, .bool true)]

/-- The output file is named by three sources, and each flag is set by another one. -/
theorem layered_precedence_three_sources :
    ∃ l, layered someVariables (oneDocument someText) (some "c.json") someStated = .ok l ∧
      (Settings.ofLayer l).value .outFile = .str "c.ts" ∧
      (Settings.ofLayer l).value .camelCase = .bool true ∧
      (Settings.ofLayer l).value .partitions = .bool true ∧
      (Settings.ofLayer l).value .verify = .bool true ∧
      (Settings.ofLayer l).value .logLevel = .str "info" := by
  have held : DocumentHolds (oneDocument someText) (some "c.json")
      [("outFile", .str "b.ts"), ("partitions", .bool true)] :=
    ⟨.text someText, someText, by decide +kernel, by decide +kernel, by decide +kernel⟩
  have composed : ((layered someVariables (oneDocument someText) (some "c.json")
      someStated).map Settings.ofLayer).toBool = true := by
    decide +kernel
  cases read : layered someVariables (oneDocument someText) (some "c.json") someStated with
  | error e =>
    rw [read] at composed
    cases composed
  | ok l =>
    have decided := (layered_precedence held).1 l read
    exact ⟨l, rfl, (decided .outFile).trans (by decide +kernel),
      (decided .camelCase).trans (by decide +kernel),
      (decided .partitions).trans (by decide +kernel),
      (decided .verify).trans (by decide +kernel),
      (decided .logLevel).trans (by decide +kernel)⟩

/-! ## A name that is repeated -/

/-- The text of a document that names the output file three times, twice in one spelling. -/
def repeatedText : String :=
  "\x7b\"out_file\": \"a\", \"outFile\": \"b\", \"out_file\": \"c\"\x7d"

/-- The fields of the text as they are written. -/
def repeatedFields : List (String × Json) :=
  [("out_file", .str "a"), ("outFile", .str "b"), ("out_file", .str "c")]

/-- The last field does not decide a setting if its name has stood before in another one. -/
theorem repeated_name_keeps_its_place :
    (Json.parseFields 100 repeatedText.toList.tail).toOption = some (repeatedFields, []) ∧
      namedValue repeatedFields .outFile = some (.str "c") ∧
      (layered [] (oneDocument repeatedText) (some "c.json") []).map Settings.ofLayer =
        .ok { outFile := some "b" } :=
  ⟨by decide +kernel, by decide +kernel, by decide +kernel⟩

end CatalogTypes
