import CatalogTypes.Proofs.Run.Resolution
import CatalogTypes.Proofs.Run.Verify
import CatalogTypes.Proofs.Spelling

/-!
# Calls for variables that are set

**Theorem (`resolveAddress_iff_of_isCallFor`).** An address that is a call for a variable is found
out as the variable's value, if that is set and not empty, exactly if the environment file `.env`
can be loaded or is not there.

The key is written as a string literal, or as it is if it holds no double quote and no line feed
and does not begin or end with a blank.  Either way it is on one line and its ends are no blanks
(`KeyText.trimmed`, `KeyText.oneLine`), so that the blanks around it fall away, and the parenthesis
that closes the call is the last one, whatever the key holds (`parse?_of_isCallFor`).  A double
quote stands in every literal, and in no key that is written as it is; so each is read in the way in
which it was written (`KeyText.key?`).

The file is loaded before the variable is looked up.  It never changes a variable that is set, but
one that cannot be loaded ends the call.
-/

namespace CatalogTypes

namespace Call

/-! ## Keys as they are written -/

/-- A way to write a key in a call. -/
inductive KeyText (key : String) : List Char → Prop
  | literal : KeyText key (Json.quoteAscii key).toList
  | bare : '"' ∉ key.toList → '\n' ∉ key.toList → Text.Trimmed Text.isBlank key.toList →
      KeyText key key.toList

namespace KeyText

variable {key : String} {written : List Char}

theorem trimmed (h : KeyText key written) : Text.Trimmed Text.isBlank written := by
  cases h with
  | bare _ _ trimmed => exact trimmed
  | literal =>
    rw [Json.quoteAscii, String.toList_ofList, Json.literal]
    refine Text.trimmed_concat (fun c first => ?_) (by decide)
    obtain rfl : '"' = c := Option.some.inj first
    decide

theorem oneLine (h : KeyText key written) : '\n' ∉ written := by
  cases h with
  | bare _ oneLine _ => exact oneLine
  | literal =>
    intro there
    have printable := List.all_eq_true.1 (Json.all_isPrintable_quoteAscii key) '\n' there
    exact absurd printable (by decide)

/-- A key is read back from its text. -/
theorem key? (h : KeyText key written) (name : String) (filled : key ≠ "") :
    (⟨name, String.ofList written⟩ : Call).key? = some key := by
  have kept : (some key).filter (!·.isEmpty) = some key := by simp [Option.filter, filled]
  cases h with
  | bare noQuote _ _ =>
    have absent : key.toList.contains '"' = false := by simpa using noQuote
    simp only [Call.key?, String.ofList_toList, absent, Bool.false_eq_true, if_false, kept]
  | literal =>
    have read : Json.parse (Json.quoteAscii key) = .ok (.str key) :=
      Json.parse_literal Json.spells_asciiChar key
    have quote : (Json.quoteAscii key).toList.contains '"' = true := by
      simp [Json.quoteAscii, Json.literal]
    simp only [Call.key?, String.ofList_toList, quote, if_true, read, Json.str?, kept]

end KeyText

/-! ## Calls as they are written -/

/-- The address is a call for the value of a variable.  Blanks may stand around the call, around the
key and before the opening parenthesis. -/
def IsCallFor (address key : String) : Prop :=
  ∃ lead gap left right trail written : List Char,
    (∀ c ∈ lead ++ gap ++ left ++ right ++ trail, Text.isBlank c = true) ∧
    KeyText key written ∧
    address.toList = lead ++
      (environmentCall.toList ++ gap ++ '(' :: (left ++ written ++ right ++ [')'])) ++ trail

theorem dropClosing?_concat (cs : List Char) : dropClosing? (cs ++ [')']) = some cs := by
  simp [dropClosing?]

theorem isNameChar_eq_false_of_isBlank {c : Char} (h : Text.isBlank c = true) :
    isNameChar c = false := by
  refine Bool.eq_false_iff.2 fun letter => ?_
  obtain ⟨lower, upper⟩ := Bool.and_eq_true_iff.1 letter
  have from_a : 97 ≤ c.toNat := of_decide_eq_true lower
  have to_z : c.toNat ≤ 122 := of_decide_eq_true upper
  simp only [Text.isBlank, Bool.or_eq_true, Bool.and_eq_true, decide_eq_true_eq] at h
  omega

section

variable {name gap : List Char} (letters : ∀ c ∈ name, isNameChar c = true)
  (gaps : ∀ c ∈ gap, Text.isBlank c = true)
include letters gaps

/-- The name of a call is cut off before the blanks and the parenthesis. -/
theorem cut_name (rest : List Char) :
    (name ++ (gap ++ '(' :: rest)).takeWhile isNameChar = name ∧
      ((name ++ (gap ++ '(' :: rest)).dropWhile isNameChar).dropWhile Text.isBlank =
        '(' :: rest := by
  have ended : ∀ c ∈ (gap ++ '(' :: rest).head?, isNameChar c = false := by
    intro c first
    cases gap with
    | nil =>
      obtain rfl : '(' = c := Option.some.inj first
      decide
    | cons d gap =>
      obtain rfl : d = c := Option.some.inj first
      exact isNameChar_eq_false_of_isBlank (gaps d List.mem_cons_self)
  have paren : ∀ c ∈ ('(' :: rest).head?, Text.isBlank c = false := by
    intro c first
    obtain rfl : '(' = c := Option.some.inj first
    decide
  obtain ⟨taken, dropped⟩ := Text.cut_append letters ended
  rw [dropped]
  exact ⟨taken, (Text.cut_append gaps paren).2⟩

/-- A call is split into its name and its argument without the blanks at the ends. -/
theorem parseChars?_call (named : name ≠ []) {cs inner : List Char}
    (shape : Text.trimChars cs = name ++ (gap ++ '(' :: (inner ++ [')'])))
    (oneLine : '\n' ∉ Text.trimChars inner) :
    parseChars? cs = some (name, Text.trimChars inner) := by
  obtain ⟨taken, dropped⟩ := cut_name letters gaps (inner ++ [')'])
  simp [parseChars?, shape, taken, dropped, dropClosing?_concat, named, oneLine]

end

/-- **A call for a variable is read as what it is.** -/
theorem parse?_of_isCallFor {address key : String} (h : IsCallFor address key) :
    ∃ written, KeyText key written ∧
      parse? address = some ⟨environmentCall, String.ofList written⟩ := by
  obtain ⟨lead, gap, left, right, trail, written, blank, text, shape⟩ := h
  simp only [List.forall_mem_append] at blank
  obtain ⟨⟨⟨⟨leads, gaps⟩, lefts⟩, rights⟩, trails⟩ := blank
  have letters : ∀ c ∈ environmentCall.toList, isNameChar c = true :=
    List.all_eq_true.1 (by decide)
  have whole : Text.trimChars address.toList = environmentCall.toList ++
      (gap ++ '(' :: (left ++ written ++ right ++ [')'])) := by
    have solid : ∀ c ∈ (environmentCall.toList ++ gap).head?, Text.isBlank c = false := by
      intro c first
      obtain rfl : 'e' = c := Option.some.inj first
      decide
    rw [shape, ← List.append_assoc environmentCall.toList]
    exact Text.trimBy_of_trimmed leads trails (Text.trimmed_append_parens solid _)
  have argument : Text.trimChars (left ++ written ++ right) = written :=
    Text.trimBy_of_trimmed lefts rights text.trimmed
  have parsed := parseChars?_call letters gaps (by decide) whole
    (by rw [argument]; exact text.oneLine)
  rw [argument] at parsed
  refine ⟨written, text, ?_⟩
  rw [parse?, parsed]
  rfl

end Call

/-- A call for a variable asks for it. -/
theorem environmentKey_of_isCallFor {address key : String} (h : Call.IsCallFor address key)
    (filled : key ≠ "") : environmentKey address = .ok (some key) := by
  obtain ⟨written, text, parsed⟩ := Call.parse?_of_isCallFor h
  simp [environmentKey, parsed, text.key? environmentCall filled]

/-! ## The environment file -/

/-- The environment can be prepared exactly if the file `.env` is not there or can be loaded. -/
theorem exists_prepares_iff {w : World} :
    (∃ v, Prepares none w v) ↔
      ∀ content, w.files.fileAt (envPath none) = .ok (some content) →
        ∃ e, w.loader.Loads content w.environment e := by
  have plain : (envPath none).fault? = none := by decide
  have found : w.files.fileAt (envPath none) = .ok (w.files.file? [".env"]) := by
    simp [FileTree.fileAt, plain, locate_defaultEnvFile]
  constructor
  · rintro ⟨v, ⟨there', loads⟩ | ⟨absent, -⟩⟩ content there
    · rw [there] at there'
      cases there'
      exact ⟨_, loads⟩
    · rw [there] at absent
      cases absent
  · intro loads
    cases file : w.files.file? [".env"] with
    | none => exact ⟨w, .absent (by rw [found, file]) rfl⟩
    | some content =>
      rw [file] at found
      obtain ⟨e, loaded⟩ := loads content found
      exact ⟨_, .loaded found loaded⟩

/-! ## The value -/

/-- **A call for a variable that is set yields its value** exactly if the environment file can be
loaded or is not there. -/
theorem resolveAddress_iff_of_isCallFor {s : Session} {address key value : String}
    (call : Call.IsCallFor address key) (filled : key ≠ "")
    (set : s.environment.find? key = some value) (given : value ≠ "") :
    ((Run.resolveAddress address none).result s).1 = .ok value ↔
      ∀ content, s.files.fileAt (envPath none) = .ok (some content) →
        ∃ e, s.loader.Loads content s.environment e := by
  have asks := environmentKey_of_isCallFor call filled
  have there : setVariable s.environment key = .ok value := by
    simp [setVariable, set, given]
  refine Iff.trans ⟨fun found => ?_, ?_⟩ (exists_prepares_iff (w := s.world))
  · generalize ran : (Run.resolveAddress address none).result s = r at found
    obtain ⟨outcome, t⟩ := r
    subst found
    have resolves := (Run.means_resolveAddress address none).of_result ran
    generalize t.world = v at resolves
    cases resolves with
    | given asks' => cases asks.symm.trans asks'
    | asked _ prepares _ => exact ⟨_, prepares⟩
  · rintro ⟨v, prepares⟩
    have still : setVariable v.environment key = .ok value :=
      setVariable_eq (fun value => prepares.extended key value) there
    obtain ⟨t, ran, -⟩ := (Run.means_resolveAddress address none s value v).2
      (.asked asks prepares still)
    rw [ran]

/-- A variable with a blank, quotes and a parenthesis in its name, and a file that sets another. -/
def quotedKeySession : Session :=
  { (default : Session) with
    environment := [("my \"db\")", "postgres://db/app")]
    files := ⟨[([".env"], .text "DB_HOST=db.internal\n")], []⟩ }

/-- The name is written as a string literal, with blanks wherever they may stand. -/
theorem resolveAddress_iff_of_isCallFor_quoted :
    Call.IsCallFor " env\t( \"my \\\"db\\\")\"\n)\n" "my \"db\")" ∧
      ((Run.resolveAddress " env\t( \"my \\\"db\\\")\"\n)\n" none).result quotedKeySession).1 =
        .ok "postgres://db/app" := by
  have call : Call.IsCallFor " env\t( \"my \\\"db\\\")\"\n)\n" "my \"db\")" :=
    ⟨[' '], ['\t'], [' '], ['\n'], ['\n'], _, List.all_eq_true.1 (by decide), .literal,
      by decide +kernel⟩
  refine ⟨call, (resolveAddress_iff_of_isCallFor call (by decide) (by decide) (by decide)).2 ?_⟩
  intro content there
  have file : quotedKeySession.files.fileAt (envPath none) =
      .ok (some (.text "DB_HOST=db.internal\n")) := by decide +kernel
  rw [file] at there
  cases there
  exact (EnvFile.loads_text_iff (by decide) _).2 fun _ => by decide +kernel

/-- The variable `K` is set, and the environment file is no text. -/
def undecodableEnvSession : Session :=
  { (default : Session) with
    environment := [("K", "v")]
    files := ⟨[([".env"], .bytes [0xff])], []⟩ }

/-- A file that cannot be loaded ends a call for a variable that is set. -/
theorem undecodable_env_file_ends_call :
    Call.IsCallFor "env(K)" "K" ∧ undecodableEnvSession.environment.find? "K" = some "v" ∧
      ((Run.resolveAddress "env(K)" none).result undecodableEnvSession).1 ≠ .ok "v" := by
  have call : Call.IsCallFor "env(K)" "K" :=
    ⟨[], [], [], [], [], _, List.all_eq_true.1 (by decide),
      .bare (by decide) (by decide) (by decide), by decide⟩
  have failed : ((Run.resolveAddress "env(K)" none).result undecodableEnvSession).1 =
      .error (.undecodable ⟨.invalidStart, 0xff, 0, 1⟩) := by decide +kernel
  refine ⟨call, rfl, ?_⟩
  rw [failed]
  nofun

end CatalogTypes
