import CatalogTypes.Command.Arguments
import CatalogTypes.Proofs.Settings.Documents
import Mathlib.Data.List.Nodup

/-!
# Three ways to give a map

A setting that holds a map can be given as JSON text in three ways: in its variable, as an argument
of its option, and as a field of a document.

**Theorem (`mapping_sources`).** A variable and an option take any object, and the texts with which
its values are shown; a document takes an object whose values are texts, and refuses any other.  So
the three agree on every text but that of an object with a value that is no text.

Each way ends in a layer that says one thing (`IsSingle`), and such a layer passes its check.
-/

namespace CatalogTypes

/-! ## What is given -/

/-- The entries of an object, with its values as messages show them. -/
def shownEntries : Json → Option (Keyed String)
  | .obj entries => some (entries.map fun (key, value) => (key, value.shown))
  | _ => none

/-- The map that an object stands for. -/
def shownMapping (value : Json) : Option Json :=
  (shownEntries value).map (SettingKind.toJson .mapping)

/-- An object has a value that is no text. -/
def HoldsOther (value : Json) : Prop :=
  ∃ entries, value = .obj entries ∧ ∃ entry ∈ entries, entry.2.str? = none

/-- The value of a setting in what a reading leads to, if it is not refused. -/
def readValue (r : Except SettingsError Layer) (s : Setting) : Option Json :=
  r.toOption.map fun l => (Settings.ofLayer l).value s

/-- The value of a setting whose variable alone is set. -/
def fromVariable (s : Setting) (text : String) : Option Json :=
  readValue (readEnvironment [(s.variableName, text)]) s

/-- The value of a setting when a document is all there is. -/
def fromDocument (s : Setting) (files : FileTree) (path : String) : Option Json :=
  readValue (overlayDocument files path Layer.empty) s

/-- The value of a setting when an option with an argument is all there is. -/
def fromOption (s : Setting) (spelling text : String) : Option Json :=
  match Command.parse [spelling ++ "=" ++ text] with
  | .run a => readValue (overlayStated a.stated Layer.empty) s
  | _ => none

theorem readValue_error (e : SettingsError) (s : Setting) : readValue (.error e) s = none := rfl

/-! ## Layers that say one thing -/

/-- A layer says what a value says about a setting, and nothing about any other. -/
def IsSingle (l : Layer) (s : Setting) (value : Json) : Prop :=
  ∀ t, (l t).map t.kind.toJson = if t = s then some value else none

theorem above_empty (l : Layer) : l.above Layer.empty = l := by
  funext s
  exact Option.or_none

theorem IsSingle.readValue_checkedLayer {l : Layer} {s : Setting} {value : Json}
    (single : IsSingle l s value) (other : s ≠ .logLevel) :
    readValue (checkedLayer l) s = some value := by
  have silent : l .logLevel = none := by
    have level := single .logLevel
    rw [if_neg (Ne.symm other)] at level
    exact Option.map_eq_none_iff.1 level
  have checked : checkedLayer l = .ok l :=
    checkedLayer_ok_iff.2 ⟨rfl, hasKnownLogLevel_of_none silent⟩
  have here := single s
  rw [if_pos rfl] at here
  rw [checked]
  show some ((Settings.ofLayer l).value s) = some value
  rw [value_ofLayer, here, Option.getD_some]

/-! ## The variable -/

theorem variableName_injective {s t : Setting} (h : s.variableName = t.variableName) : s = t := by
  have distinct : (Setting.all.map Setting.variableName).Nodup := by decide
  exact List.inj_on_of_nodup_map distinct s.mem_all t.mem_all h

theorem environmentValue_of_ne {s t : Setting} (text : String) (h : t ≠ s) :
    environmentValue [(s.variableName, text)] t = .ok none := by
  have apart : s.variableName ≠ t.variableName := fun same => h (variableName_injective same).symm
  simp [environmentValue, Keyed.find?, apart]

theorem environmentValue_self (s : Setting) (text : String) :
    environmentValue [(s.variableName, text)] s = s.kind.readVariable s.variableName text := by
  simp [environmentValue, Keyed.find?]

theorem isSingle_environmentLayer {s : Setting} {text : String} {value : Json}
    (h : spelledValue text s.kind = some value) (other : s ≠ .printOutput) :
    IsSingle (environmentLayer [(s.variableName, text)]) s value := by
  intro t
  rw [map_toJson_environmentLayer, variableValue]
  by_cases same : t = s
  · subst same
    simpa [other, Keyed.find?] using h
  · have apart : s.variableName ≠ t.variableName :=
      fun h => same (variableName_injective h).symm
    simp [same, Keyed.find?, apart]

/-! ## The text -/

section

variable {text : String} {value : Json} (parsed : Json.parse text = .ok value)
include parsed

theorem isEmpty_of_parse : text.isEmpty = false := by
  by_contra empty
  have blank : text = "" := by simpa using empty
  subst blank
  have wrong : (Json.parse "").toOption = none := by decide
  rw [parsed] at wrong
  cases wrong

theorem ne_separator_of_parse : text ≠ Command.separator := by
  rintro rfl
  have wrong : (Json.parse Command.separator).toOption = none := by decide
  rw [parsed] at wrong
  cases wrong

theorem readMapping_eq : readMapping text = (shownEntries value).elim (.error none) .ok := by
  rw [readMapping, parsed]
  cases value <;> rfl

theorem spelledValue_mapping : spelledValue text .mapping = shownMapping value := by
  rw [spelledValue, isEmpty_of_parse parsed, readMapping_eq parsed, shownMapping]
  cases shownEntries value <;> rfl

theorem readVariable_mapping (name : String) :
    errorOf? (SettingKind.mapping.readVariable name text) =
      if (shownMapping value).isSome then none else some (.notMapping name) := by
  rw [SettingKind.readVariable, isEmpty_of_parse parsed, readMapping_eq parsed, shownMapping]
  cases shownEntries value <;> rfl

end

theorem environmentError?_single {s : Setting} (text : String)
    (settable : s ∈ environmentSettings) :
    environmentError? [(s.variableName, text)] = none ↔
      errorOf? (s.kind.readVariable s.variableName text) = none := by
  unfold environmentError?
  rw [List.findSome?_eq_none_iff]
  constructor
  · intro fine
    have here := fine s settable
    rwa [environmentValue_self] at here
  · intro fine t _
    by_cases same : t = s
    · subst same
      rwa [environmentValue_self]
    · rw [environmentValue_of_ne text same]
      rfl

/-- A variable takes any object. -/
theorem fromVariable_eq {s : Setting} {text : String} {value : Json} (map : s.kind = .mapping)
    (parsed : Json.parse text = .ok value) : fromVariable s text = shownMapping value := by
  have settable : s ∈ environmentSettings := by revert map; cases s <;> decide
  have spelled : spelledValue text s.kind = shownMapping value := by
    rw [map, spelledValue_mapping parsed]
  have wrong : errorOf? (s.kind.readVariable s.variableName text) =
      if (shownMapping value).isSome then none else some (.notMapping s.variableName) := by
    generalize s.kind = k at map
    subst map
    exact readVariable_mapping parsed _
  have single := environmentError?_single text settable
  rw [wrong] at single
  unfold fromVariable readEnvironment
  cases shown : shownMapping value with
  | none =>
    rw [shown] at single
    cases found : environmentError? [(s.variableName, text)] with
    | none => simp [found] at single
    | some e => rfl
  | some mapping =>
    rw [shown] at single spelled
    rw [single.2 rfl]
    exact (isSingle_environmentLayer spelled (by rintro rfl; cases map)).readValue_checkedLayer
      (by rintro rfl; cases map)

/-! ## The document -/

theorem valueError?_mapping {s : Setting} {label : String} {value : Json}
    (map : s.kind = .mapping) : s.valueError? label value = none ↔
      ∃ entries, value = .obj entries ∧ ∀ entry ∈ entries, entry.2.str? ≠ none := by
  have required : s.isRequired = true := by revert map; cases s <;> decide
  unfold Setting.valueError?
  rw [map, required]
  cases value with
  | obj fields => simp [List.find?_eq_none, Option.map_eq_none_iff]
  | _ => simp

/-- An object of texts is shown as it is. -/
theorem shownMapping_of_texts {entries : List (String × Json)}
    (texts : ∀ entry ∈ entries, entry.2.str? ≠ none) :
    shownMapping (.obj entries) = some (.obj entries) :=
  congrArg (fun fields => some (Json.obj fields)) (map_str_of_texts Json.shown (fun _ => rfl) texts)

theorem documentLayer_single {s : Setting} {path spelling : String} {value : Json}
    (named : Setting.ofSpelling? spelling = some s) :
    documentLayer path (.obj [(spelling, value)]) =
      match s.valueError? spelling value with
      | some e => .error e
      | none => .ok (entriesLayer [(s, value)]) := by
  have known : unknownNamesOf Setting.ofSpelling? [spelling] = [] := by
    simp [unknownNamesOf, named]
  have first : firstFieldError? Setting.ofSpelling? [(spelling, value)] =
      s.valueError? spelling value := by
    simp [firstFieldError?, named]
  have entries : settingEntries Setting.ofSpelling? [(spelling, value)] = [(s, value)] := by
    simp [settingEntries, named]
  cases wrong : s.valueError? spelling value with
  | some e => simp only [documentLayer, first, wrong]
  | none => simp only [documentLayer, first, wrong, entries, List.map_cons, List.map_nil, known]

theorem unlessNull_of_ne {value : Json} (h : value ≠ .null) : value.unlessNull = some value := by
  cases value with
  | null => exact absurd rfl h
  | _ => rfl

theorem isSingle_of_documentLayer {s : Setting} {path spelling : String} {value : Json} {u : Layer}
    (named : Setting.ofSpelling? spelling = some s) (given : value ≠ .null)
    (read : documentLayer path (.obj [(spelling, value)]) = .ok u) : IsSingle u s value := by
  intro t
  rw [documentLayer_ok read, namedValue]
  simp only [← ofSpelling?_eq_some]
  by_cases same : t = s
  · subst same
    simp [named, unlessNull_of_ne given]
  · simp [named, same, Ne.symm same]

/-- A document takes an object of texts. -/
theorem fromDocument_eq {s : Setting} {files : FileTree} {path spelling : String} {value : Json}
    (map : s.kind = .mapping) (named : spelling = s.name ∨ spelling = Naming.fieldCamelCase s.name)
    (held : DocumentHolds files (some path) [(spelling, value)]) :
    (HoldsOther value → fromDocument s files path = none) ∧
      (¬ HoldsOther value → fromDocument s files path = shownMapping value) := by
  have found : (some path).filter (!·.isEmpty) = some path := by
    by_cases empty : path = ""
    · subst empty
      have unnamed : (some "").filter (!·.isEmpty) = none := by decide
      rw [DocumentHolds, unnamed] at held
      cases held
    · simp [empty]
  have spelled := ofSpelling?_eq_some.2 named
  have layer := @documentLayer_single s path spelling value spelled
  unfold fromDocument
  rw [overlayDocument_eq, held.readDocumentFile found]
  cases wrong : s.valueError? spelling value with
  | some e =>
    rw [wrong] at layer
    rw [layer, overlay, readValue_error]
    refine ⟨fun _ => rfl, fun plain => ?_⟩
    cases value with
    | obj entries =>
      have invalid := (@valueError?_mapping s spelling (.obj entries) map).2
      refine absurd ⟨entries, rfl, ?_⟩ plain
      by_contra texts
      rw [invalid ⟨entries, rfl, by simpa using texts⟩] at wrong
      cases wrong
    | _ => rfl
  | none =>
    rw [wrong] at layer
    obtain ⟨entries, rfl, texts⟩ := (valueError?_mapping map).1 wrong
    have given : Json.obj entries ≠ .null := by simp
    have single := isSingle_of_documentLayer spelled given layer
    constructor
    · rintro ⟨_, ⟨⟩, entry, inside, other⟩
      exact absurd other (texts entry inside)
    · intro
      rw [layer, overlay, above_empty, shownMapping_of_texts texts]
      exact single.readValue_checkedLayer (by rintro rfl; cases map)

/-! ## The option -/

namespace Command

theorem spelled_facts : ∀ entry ∈ CommandOption.spelled,
    '=' ∉ entry.1.toList ∧ CommandOption.ofSpelling? entry.1 = some entry.2 ∧
      entry.1.toList.head? = some '-' ∧
      (entry.2.takesArgument = true → isShort entry.1.toList = false) := by
  decide

theorem splitEquals_append {start rest : List Char} (plain : '=' ∉ start) :
    splitEquals (start ++ '=' :: rest) = (start, some rest) := by
  have apart : ∀ c ∈ start, decide (c ≠ '=') = true := by
    intro c inside
    rw [decide_eq_true_eq]
    rintro rfl
    exact plain inside
  unfold splitEquals
  rw [List.takeWhile_append_of_pos apart, List.dropWhile_append_of_pos apart]
  simp

theorem ofSpelling?_of_equals {argument : String} (h : '=' ∈ argument.toList) :
    CommandOption.ofSpelling? argument = none := by
  refine List.lookup_eq_none_iff.2 fun entry member => ?_
  have plain := (spelled_facts entry member).1
  rw [bne_iff_ne]
  rintro rfl
  exact plain h

theorem classify_attached {spelling text : String} {o : CommandOption}
    (member : (spelling, o) ∈ CommandOption.spelled) (argued : o.takesArgument = true) :
    classify (spelling ++ "=" ++ text) = .ok (.option o (.argument text)) := by
  obtain ⟨plain, found, start, long⟩ := spelled_facts _ member
  have chars : (spelling ++ "=" ++ text).toList = spelling.toList ++ '=' :: text.toList := by
    simp
  have whole : CommandOption.ofSpelling? (spelling ++ "=" ++ text) = none :=
    ofSpelling?_of_equals (by simp [chars])
  unfold classify
  rw [whole, chars, splitEquals_append plain]
  cases spelled : spelling.toList with
  | nil => simp [spelled] at start
  | cons c rest =>
    obtain rfl : c = '-' := by simpa [spelled] using start
    simp only [List.cons_append]
    rw [← spelled, String.ofList_toList, found]
    simp [attachedTo, long argued]

theorem parse_attached {spelling : String} {s : Setting} {o : CommandOption}
    (member : (spelling, o) ∈ CommandOption.spelled) (map : o.kind = .mapping s) (text : String) :
    parse [spelling ++ "=" ++ text] =
      match ({} : Arguments).take (.mapping s) text with
      | .ok a => a.finish
      | .error fault => .invalid (.option o.name fault) := by
  have argued : o.takesArgument = true := by rw [CommandOption.takesArgument, map]
  have apart : spelling ++ "=" ++ text ≠ separator := by
    intro same
    have inside : '=' ∈ separator.toList := by rw [← same]; simp
    revert inside
    decide
  have classified : classifyAll [spelling ++ "=" ++ text] =
      .ok [(spelling ++ "=" ++ text, .option o (.argument text))] := by
    simp only [classifyAll, if_neg apart, classify_attached member argued]
    rfl
  cases taken : ({} : Arguments).take (.mapping s) text with
  | ok a => simp only [parse, classified, act, argued, if_true, map, taken]
  | error fault => simp only [parse, classified, act, argued, if_true, map, taken]

end Command

theorem statedLayer_single {s : Setting} {value : Json} (given : value ≠ .null)
    (valid : s.valueError? s.name value = none) :
    statedLayer [(s, value)] = .ok (entriesLayer [(s, value)]) := by
  have last : lastStated [(s, value)] = [(s, value)] := by cases s <;> rfl
  have kept : [(s.name, value)].filter (fun field => !(field.2 == .null)) = [(s.name, value)] := by
    simp [given]
  simp only [statedLayer, last, List.map_cons, List.map_nil, valuesLayer, kept]
  simp [unknownNamesOf, firstFieldError?, settingEntries, Setting.ofName?_name, valid]

theorem isSingle_of_statedLayer {s : Setting} {value : Json} {u : Layer} (given : value ≠ .null)
    (read : statedLayer [(s, value)] = .ok u) : IsSingle u s value := by
  intro t
  rw [map_toJson_statedLayer read, statedValue]
  by_cases same : t = s
  · subst same
    simp [unlessNull_of_ne given]
  · simp [same, Ne.symm same]

/-- An option takes any object. -/
theorem fromOption_eq {s : Setting} {spelling text : String} {o : Command.CommandOption}
    {value : Json} (map : s.kind = .mapping)
    (member : (spelling, o) ∈ Command.CommandOption.spelled) (kind : o.kind = .mapping s)
    (parsed : Json.parse text = .ok value) :
    fromOption s spelling text = shownMapping value := by
  unfold fromOption
  rw [Command.parse_attached member kind, Command.Arguments.take,
    if_neg (ne_separator_of_parse parsed), Command.Arguments.takeText, readMapping_eq parsed,
    shownMapping]
  cases shownEntries value with
  | none => rfl
  | some entries =>
    have given : SettingKind.toJson .mapping entries ≠ .null := nofun
    have valid : s.valueError? s.name (SettingKind.toJson .mapping entries) = none := by
      refine (valueError?_mapping map).2 ⟨_, rfl, fun entry inside => ?_⟩
      obtain ⟨⟨key, t⟩, -, rfl⟩ := List.mem_map.1 inside
      exact Option.some_ne_none t
    have layer := statedLayer_single given valid
    show readValue (overlayStated [(s, SettingKind.toJson .mapping entries)] Layer.empty) s = _
    rw [overlayStated_eq, layer, overlay, above_empty]
    exact (isSingle_of_statedLayer given layer).readValue_checkedLayer (by rintro rfl; cases map)

/-! ## All three -/

/-- **Where the three ways agree.**  A map is given as a text in a variable, as the argument of an
option, and as the value of the only field of a document. -/
theorem mapping_sources {s : Setting} {text path name spelling : String} {value : Json}
    {o : Command.CommandOption} {files : FileTree} (map : s.kind = .mapping)
    (parsed : Json.parse text = .ok value)
    (named : name = s.name ∨ name = Naming.fieldCamelCase s.name)
    (held : DocumentHolds files (some path) [(name, value)])
    (member : (spelling, o) ∈ Command.CommandOption.spelled) (kind : o.kind = .mapping s) :
    fromVariable s text = shownMapping value ∧ fromOption s spelling text = shownMapping value ∧
      (¬ HoldsOther value → fromDocument s files path = shownMapping value) ∧
      (HoldsOther value → (shownMapping value).isSome ∧ fromDocument s files path = none) := by
  obtain ⟨refused, taken⟩ := fromDocument_eq map named held
  refine ⟨fromVariable_eq map parsed, fromOption_eq map member kind parsed, taken, fun other => ?_⟩
  refine ⟨?_, refused other⟩
  obtain ⟨entries, rfl, -⟩ := other
  rfl

/-- An object of texts is taken in all three ways. -/
theorem mapping_sources_text :
    fromVariable .overrides "\x7b\"t.c\": \"Id\"\x7d" = some (.obj [("t.c", .str "Id")]) ∧
      fromOption .overrides "--overrides" "\x7b\"t.c\": \"Id\"\x7d" =
        some (.obj [("t.c", .str "Id")]) ∧
      fromDocument .overrides
        (oneDocument (Json.fieldText "overrides" "\x7b\"t.c\": \"Id\"\x7d")) "c.json" =
          some (.obj [("t.c", .str "Id")]) := by
  have parsed : Json.parse "\x7b\"t.c\": \"Id\"\x7d" = .ok (.obj [("t.c", .str "Id")]) := by
    decide +kernel
  have held := documentHolds_fieldText (s := .overrides) (by decide) (.inl rfl) parsed (by decide)
    (show (oneDocument (Json.fieldText "overrides" _)).fileAt (.ofString "c.json") = _ from rfl)
  have plain : ¬ HoldsOther (.obj [("t.c", .str "Id")]) := by
    rintro ⟨_, ⟨⟩, entry, inside, other⟩
    obtain rfl := List.mem_singleton.1 inside
    cases other
  have member : ("--overrides", (⟨["--overrides"], .mapping .overrides⟩ : Command.CommandOption)) ∈
      Command.CommandOption.spelled := by
    decide
  obtain ⟨inVariable, inOption, inDocument, -⟩ :=
    mapping_sources rfl parsed (.inl rfl) held member rfl
  exact ⟨inVariable, inOption, inDocument plain⟩

/-- A number for a text is taken from a variable and from an option, but not from a document. -/
theorem number_refused_in_document :
    fromVariable .overrides "\x7b\"t.c\": 1\x7d" = some (.obj [("t.c", .str "1")]) ∧
      fromOption .overrides "--overrides" "\x7b\"t.c\": 1\x7d" =
        some (.obj [("t.c", .str "1")]) ∧
      fromDocument .overrides (oneDocument "\x7b\"overrides\": \x7b\"t.c\": 1\x7d\x7d")
        "c.json" = none :=
  ⟨by decide +kernel, by decide +kernel, by decide +kernel⟩

end CatalogTypes
