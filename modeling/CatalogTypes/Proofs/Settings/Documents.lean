import CatalogTypes.Proofs.Run.Writing
import CatalogTypes.Proofs.Settings.Precedence
import CatalogTypes.Proofs.Spelling
import Mathlib.Data.List.TakeDrop

/-!
# Documents with one field

Any JSON text can be made the value of a field.

**Theorem (`Json.parse_fieldText`).** If a text is read as a value, then the text of a document with
one field, with this text in the place of its value, is read as the object with this field.

The reader does not look behind a value that it reads: with a closing brace and anything else behind
the text, each of its functions yields the same and leaves the rest that it left before, with what
was added.  For the functions that read tokens this is one lemma each.  For those that read values
it is one invariant of the bound on the nesting (`Json.ReadsOn`), and the bound may be larger.
-/

namespace CatalogTypes

namespace Json

/-! ## Tokens before a closing brace -/

section Closing

variable (after : List Char)

/-- What was read of a text, if a closing brace follows that text. -/
def closed {α : Type} : α × List Char → α × List Char
  | (a, rest) => (a, rest ++ '}' :: after)

theorem skipLayout_append (cs : List Char) :
    skipLayout (cs ++ '}' :: after) = skipLayout cs ++ '}' :: after := by
  unfold skipLayout
  induction cs with
  | nil => rfl
  | cons c rest ih =>
    cases layout : isLayout c with
    | true => simpa [layout] using ih
    | false => simp [layout]

theorem spanDigits_append (cs : List Char) :
    spanDigits (cs ++ '}' :: after) = closed after (spanDigits cs) := by
  unfold spanDigits
  rw [List.span_eq_takeWhile_dropWhile, List.span_eq_takeWhile_dropWhile]
  induction cs with
  | nil => rfl
  | cons c rest ih =>
    cases digit : c.isDigit with
    | true => simpa [digit, closed] using ih
    | false => simp [digit, closed]

theorem scanFraction_append (cs : List Char) :
    scanFraction (cs ++ '}' :: after) = (scanFraction cs).map (closed after) := by
  cases cs with
  | nil => rfl
  | cons c rest =>
    by_cases point : c = '.'
    · subst point
      simp only [scanFraction, List.cons_append, spanDigits_append]
      cases spanDigits rest with
      | mk digits left => cases digits <;> rfl
    · simp [scanFraction, point]

theorem exponentSign_append (cs : List Char) :
    exponentSign (cs ++ '}' :: after) = closed after (exponentSign cs) := by
  cases cs with
  | nil => rfl
  | cons c rest =>
    by_cases minus : c = '-'
    · subst minus
      rfl
    · by_cases plus : c = '+'
      · subst plus
        rfl
      · simp [exponentSign, minus, plus, closed]

theorem scanExponent_append (cs : List Char) :
    scanExponent (cs ++ '}' :: after) = (scanExponent cs).map (closed after) := by
  cases cs with
  | nil => rfl
  | cons e rest =>
    simp only [scanExponent, List.cons_append, exponentSign_append]
    split
    · cases exponentSign rest with
      | mk negative body =>
        simp only [closed, spanDigits_append]
        cases spanDigits body with
        | mk digits left => cases digits <;> rfl
    · rfl

theorem numberSign_append (cs : List Char) :
    numberSign (cs ++ '}' :: after) = closed after (numberSign cs) := by
  cases cs with
  | nil => rfl
  | cons c rest =>
    by_cases minus : c = '-'
    · subst minus
      rfl
    · simp [numberSign, minus, closed]

theorem wholeDigits_append (cs : List Char) :
    wholeDigits (cs ++ '}' :: after) = closed after (wholeDigits cs) := by
  cases cs with
  | nil => exact spanDigits_append after []
  | cons c rest =>
    by_cases zero : c = '0'
    · subst zero
      rfl
    · have digits := spanDigits_append after (c :: rest)
      simpa [wholeDigits, zero] using digits

theorem finishNumber_append {start whole rest left : List Char} {negative : Bool} {value : Json}
    (start' : List Char) (read : finishNumber start negative whole rest = .ok (value, left)) :
    finishNumber start' negative whole (rest ++ '}' :: after) =
      .ok (value, left ++ '}' :: after) := by
  unfold finishNumber at read ⊢
  split at read
  · cases read
  · next digits =>
    rw [if_neg digits, scanFraction_append]
    cases fraction : scanFraction rest with
    | none =>
      rw [fraction] at read
      simp only [Option.map_none, Option.elim_none, scanExponent_append] at read ⊢
      cases exponent : scanExponent rest with
      | none =>
        rw [exponent] at read
        dsimp only at read
        split at read
        · cases read
        · cases read
          rfl
      | some power =>
        rw [exponent] at read
        cases read
        rfl
    | some found =>
      rw [fraction] at read
      simp only [Option.map_some, Option.elim_some, closed, scanExponent_append] at read ⊢
      cases exponent : scanExponent found.2 <;>
      · rw [exponent] at read
        cases read
        rfl

theorem scanNumber_append {start cs rest : List Char} {value : Json} (start' : List Char)
    (read : scanNumber start cs = .ok (value, rest)) :
    scanNumber start' (cs ++ '}' :: after) = .ok (value, rest ++ '}' :: after) := by
  unfold scanNumber at read ⊢
  rw [numberSign_append]
  cases signed : numberSign cs with
  | mk negative body =>
    rw [signed] at read
    simp only [closed, wholeDigits_append]
    exact finishNumber_append after start' read

theorem Scan.push_eq_ok {piece : Piece} {scan : Scan} {pieces : List Piece} {rest : List Char} :
    Scan.push piece scan = .ok (pieces, rest) ↔
      ∃ others, scan = .ok (others, rest) ∧ pieces = piece :: others := by
  cases scan with
  | error stop => simp [Scan.push, Except.map]
  | ok read =>
    obtain ⟨others, left⟩ := read
    simp [Scan.push, Except.map, and_comm, eq_comm]

theorem scanPieces_append {start cs rest : List Char} {pieces : List Piece} (start' : List Char)
    (read : scanPieces start cs = .ok (pieces, rest)) :
    scanPieces start' (cs ++ '}' :: after) = .ok (pieces, rest ++ '}' :: after) := by
  fun_induction scanPieces start cs generalizing pieces rest with
  | case2 left =>
    cases read
    rfl
  | case6 a b c d left n code more ih =>
    obtain ⟨others, scanned, rfl⟩ := Scan.push_eq_ok.1 read
    have nonempty : (left ++ '}' :: after).isEmpty = false := by simp
    simp [scanPieces, code, nonempty, ih scanned, Scan.push_eq_ok]
  | case9 c left unit d short ih =>
    obtain ⟨others, scanned, rfl⟩ := Scan.push_eq_ok.1 read
    simp [scanPieces, short, ih scanned, Scan.push_eq_ok]
  | case11 c left _ last code short visible ih =>
    obtain ⟨others, scanned, rfl⟩ := Scan.push_eq_ok.1 read
    have plain : c ≠ '\\' := by
      intro backslash
      cases left with
      | nil => exact last backslash rfl
      | cons d more => exact short d more backslash rfl
    simp [scanPieces, plain, visible, ih scanned, Scan.push_eq_ok]
  | case1 | case3 | case4 | case5 | case7 | case8 | case10 => cases read

theorem scanString_append {start cs rest : List Char} {text : String} (start' : List Char)
    (read : scanString start cs = .ok (text, rest)) :
    scanString start' (cs ++ '}' :: after) = .ok (text, rest ++ '}' :: after) := by
  unfold scanString at read ⊢
  cases scanned : scanPieces start cs with
  | error stop =>
    rw [scanned] at read
    cases read
  | ok found =>
    rw [scanned] at read
    rw [scanPieces_append after start' scanned]
    cases read
    rfl

/-! ## Values before a closing brace -/

theorem map_eq_ok {ε α β : Type} {f : α → β} {r : Except ε α} {b : β} :
    r.map f = .ok b ↔ ∃ a, r = .ok a ∧ f a = b := by
  cases r <;> simp [Except.map]

/-- A reading with a bound yields the same on a text that is closed, with any larger bound. -/
structure ReadsOn (n : Nat) : Prop where
  value {m : Nat} {cs rest : List Char} {value : Json} : n ≤ m →
    parseValue n cs = .ok (value, rest) →
    parseValue m (cs ++ '}' :: after) = .ok (value, rest ++ '}' :: after)
  items {m : Nat} {cs rest : List Char} {items : List Json} : n ≤ m →
    parseItems n cs = .ok (items, rest) →
    parseItems m (cs ++ '}' :: after) = .ok (items, rest ++ '}' :: after)
  fields {m : Nat} {cs rest : List Char} {fields : List (String × Json)} : n ≤ m →
    parseFields n cs = .ok (fields, rest) →
    parseFields m (cs ++ '}' :: after) = .ok (fields, rest ++ '}' :: after)

variable {after} {n m : Nat} {cs rest : List Char}

/-- Fields start with a quote. -/
theorem exists_of_parseFields {fields : List (String × Json)}
    (read : parseFields n cs = .ok (fields, rest)) : ∃ more, cs = '"' :: more := by
  cases n with
  | zero => cases read
  | succ n =>
    unfold parseFields at read
    split at read
    · exact ⟨_, rfl⟩
    · cases read

theorem ReadsOn.value_succ (reads : ReadsOn after n) (bound : n ≤ m) {value : Json}
    (read : parseValue (n + 1) cs = .ok (value, rest)) :
    parseValue (m + 1) (cs ++ '}' :: after) = .ok (value, rest ++ '}' :: after) := by
  unfold parseValue at read
  split at read
  -- the names
  case h_4 | h_5 | h_6 | h_7 | h_8 | h_9 =>
    cases read
    rfl
  · obtain ⟨found, scanned, same⟩ := map_eq_ok.1 read
    cases same
    rw [List.cons_append, parseValue, ← List.cons_append, scanString_append after _ scanned]
    rfl
  · next body =>
    rw [List.cons_append, parseValue, skipLayout_append]
    generalize skipLayout body = inner at read ⊢
    split at read
    · cases read
      rfl
    · obtain ⟨found, readFields, same⟩ := map_eq_ok.1 read
      cases same
      -- an empty text would be closed by the new brace, but has no fields
      obtain ⟨more, rfl⟩ := exists_of_parseFields readFields
      show (parseFields m ('"' :: more ++ '}' :: after)).map _ = _
      rw [reads.fields bound readFields]
      rfl
  · next body =>
    rw [List.cons_append, parseValue, skipLayout_append]
    generalize skipLayout body = inner at read ⊢
    split at read
    · cases read
      rfl
    · next apart =>
      obtain ⟨found, readItems, same⟩ := map_eq_ok.1 read
      cases same
      split
      · next shape =>
        obtain ⟨more, rfl, -⟩ := Text.exists_of_append_eq [']'] (by decide) shape
        exact absurd rfl (apart more)
      · rw [reads.items bound readItems]
        rfl
  · next text object list null yes no nan infinite below =>
    -- what is added does not turn a number into any of the others
    have other (word : List Char) (plain : '}' ∉ word) (never : ∀ rest, cs = word ++ rest → False)
        (rest : List Char) : cs ++ '}' :: after = word ++ rest → False := by
      intro shape
      obtain ⟨rest, here, -⟩ := Text.exists_of_append_eq word plain shape
      exact never rest here
    rw [parseValue]
    · exact scanNumber_append after _ read
    · exact other ['"'] (by decide) text
    · exact other ['\x7b'] (by decide) object
    · exact other ['['] (by decide) list
    · exact other "null".toList (by decide) null
    · exact other "true".toList (by decide) yes
    · exact other "false".toList (by decide) no
    · exact other "NaN".toList (by decide) nan
    · exact other "Infinity".toList (by decide) infinite
    · exact other "-Infinity".toList (by decide) below

theorem ReadsOn.items_succ (reads : ReadsOn after n) (bound : n ≤ m) {items : List Json}
    (read : parseItems (n + 1) cs = .ok (items, rest)) :
    parseItems (m + 1) (cs ++ '}' :: after) = .ok (items, rest ++ '}' :: after) := by
  rw [parseItems] at read ⊢
  cases first : parseValue n cs with
  | error stop =>
    rw [first] at read
    cases read
  | ok found =>
    obtain ⟨item, left⟩ := found
    rw [first] at read
    rw [reads.value bound first]
    simp only [bind, Except.bind, skipLayout_append] at read ⊢
    generalize skipLayout left = behind at read ⊢
    split at read
    · cases read
      rfl
    · next more =>
      cases others : parseItems n (skipLayout more) with
      | error stop =>
        rw [others] at read
        cases read
      | ok found =>
        rw [others] at read
        cases read
        simp only [List.cons_append, skipLayout_append, reads.items bound others]
    · cases read

theorem ReadsOn.fields_succ (reads : ReadsOn after n) (bound : n ≤ m)
    {fields : List (String × Json)} (read : parseFields (n + 1) cs = .ok (fields, rest)) :
    parseFields (m + 1) (cs ++ '}' :: after) = .ok (fields, rest ++ '}' :: after) := by
  unfold parseFields at read
  split at read
  · next text =>
    rw [List.cons_append, parseFields, ← List.cons_append]
    cases named : scanString ('"' :: text) text with
    | error stop =>
      rw [named] at read
      cases read
    | ok found =>
      obtain ⟨name, left⟩ := found
      rw [named] at read
      rw [scanString_append after _ named]
      simp only [bind, Except.bind, skipLayout_append] at read ⊢
      generalize skipLayout left = behind at read ⊢
      split at read
      · next given =>
        cases first : parseValue n (skipLayout given) with
        | error stop =>
          rw [first] at read
          cases read
        | ok found =>
          obtain ⟨value, left⟩ := found
          rw [first] at read
          simp only [List.cons_append, skipLayout_append, reads.value bound first] at read ⊢
          generalize skipLayout left = behind at read ⊢
          split at read
          · cases read
            rfl
          · next more =>
            cases others : parseFields n (skipLayout more) with
            | error stop =>
              rw [others] at read
              cases read
            | ok found =>
              rw [others] at read
              cases read
              simp only [List.cons_append, skipLayout_append, reads.fields bound others]
          · cases read
      · cases read
  · cases read

theorem readsOn (after : List Char) (n : Nat) : ReadsOn after n := by
  induction n with
  | zero => exact ⟨fun _ => nofun, fun _ => nofun, fun _ => nofun⟩
  | succ n ih =>
    refine ⟨fun bound read => ?_, fun bound read => ?_, fun bound read => ?_⟩ <;>
      obtain ⟨m, rfl⟩ := Nat.exists_eq_add_of_le' bound
    · exact ih.value_succ (Nat.le_add_left n m) read
    · exact ih.items_succ (Nat.le_add_left n m) read
    · exact ih.fields_succ (Nat.le_add_left n m) read

end Closing

/-! ## A document with one field -/

/-- The text of a document with one field, whose value is a text of its own. -/
def fieldText (name text : String) : String :=
  "\x7b\"" ++ name ++ "\": " ++ text ++ "\x7d"

theorem parse_eq_ok {text : String} {value : Json} :
    parse text = .ok value ↔ text.toList.head? ≠ some '\uFEFF' ∧
      ∃ rest, parseValue (text.toList.length + 1) (skipLayout text.toList) = .ok (value, rest) ∧
        skipLayout rest = [] := by
  unfold parse parseChars
  dsimp only
  split
  · next mark => simp [mark]
  · next unmarked =>
    have head : text.toList.head? ≠ some '\uFEFF' := by
      intro marked
      obtain ⟨rest, shape⟩ := List.head?_eq_some_iff.1 marked
      exact unmarked rest shape
    cases parseValue (text.toList.length + 1) (skipLayout text.toList) with
    | error stop => simp
    | ok read =>
      obtain ⟨found, rest⟩ := read
      cases ended : skipLayout rest with
      | nil => simp [head, ended]
      | cons c more => simp [ended]

theorem parseFields_single {name : String} {text rest : List Char} {value : Json} {n m : Nat}
    (plain : ∀ c ∈ name.toList, Verbatim c)
    (read : parseValue n (skipLayout text) = .ok (value, rest)) (ended : skipLayout rest = [])
    (bound : n ≤ m) :
    parseFields (m + 1) ('"' :: (name.toList ++ '"' :: ':' :: ' ' :: (text ++ ['}']))) =
      .ok ([(name, value)], []) := by
  have named (start : List Char) :
      scanString start (name.toList ++ '"' :: ':' :: ' ' :: (text ++ ['}'])) =
        .ok (name, ':' :: ' ' :: (text ++ ['}'])) := by
    rw [scanString_of_verbatim plain, String.ofList_toList]
  have colon : skipLayout (':' :: ' ' :: (text ++ ['}'])) = ':' :: ' ' :: (text ++ ['}']) := rfl
  have blank : skipLayout (' ' :: (text ++ ['}'])) = skipLayout text ++ ['}'] :=
    skipLayout_append [] text
  have left : skipLayout (rest ++ ['}']) = ['}'] := by
    rw [skipLayout_append, ended]
    rfl
  rw [parseFields, named]
  simp only [bind, Except.bind, colon, blank, (readsOn [] n).value bound read, left]

/-- **A text that is read as a value can be the value of a field.** -/
theorem parse_fieldText {name text : String} {value : Json}
    (plain : ∀ c ∈ name.toList, Verbatim c) (parsed : parse text = .ok value) :
    parse (fieldText name text) = .ok (.obj [(name, value)]) := by
  obtain ⟨-, rest, read, ended⟩ := parse_eq_ok.1 parsed
  have chars : (fieldText name text).toList =
      '\x7b' :: '"' :: (name.toList ++ '"' :: ':' :: ' ' :: (text.toList ++ ['}'])) := by
    simp [fieldText]
  obtain ⟨m, size, bound⟩ : ∃ m, (fieldText name text).toList.length = m + 1 ∧
      text.toList.length + 1 ≤ m :=
    ⟨name.toList.length + (text.toList.length + 5), by simp [chars]; omega, by omega⟩
  have opened (cs : List Char) : skipLayout ('\x7b' :: '"' :: cs) = '\x7b' :: '"' :: cs := rfl
  have quoted (cs : List Char) : skipLayout ('"' :: cs) = '"' :: cs := rfl
  refine parse_eq_ok.2 ⟨by simp [chars], [], ?_, rfl⟩
  rw [size, chars, opened, parseValue, quoted]
  show (parseFields (m + 1) _).map _ = _
  rw [parseFields_single plain read ended bound]
  rfl

end Json

/-! ## The document of a setting -/

theorem verbatim_of_spelling {s : Setting} {name : String}
    (named : name = s.name ∨ name = Naming.fieldCamelCase s.name) :
    ∀ c ∈ name.toList, Json.Verbatim c := by
  have all : name.toList.all fun c => decide (Json.Verbatim c) := by
    obtain rfl | rfl := named <;> cases s <;> decide
  exact fun c inside => of_decide_eq_true (List.all_eq_true.1 all c inside)

/-- A document that names a setting, with a text as its value, is found where it was written. -/
theorem documentHolds_fieldText {files : FileTree} {s : Setting} {path name text : String}
    {value : Json} (given : path ≠ "")
    (named : name = s.name ∨ name = Naming.fieldCamelCase s.name)
    (parsed : Json.parse text = .ok value) (lines : '\r' ∉ text.toList)
    (written : files.fileAt (.ofString path) = .ok (some (.text (Json.fieldText name text)))) :
    DocumentHolds files (some path) [(name, value)] := by
  have plain := verbatim_of_spelling named
  have found : (some path).filter (!·.isEmpty) = some path := by simp [given]
  have unbroken : '\r' ∉ (Json.fieldText name text).toList := by
    have apart : '\r' ∉ name.toList := fun inside => absurd (plain _ inside) (by decide)
    simp [Json.fieldText, apart, lines]
  rw [DocumentHolds, found]
  exact ⟨_, _, written, Content.read_text_eq_iff.2 unbroken, Json.parse_fieldText plain parsed⟩

end CatalogTypes
