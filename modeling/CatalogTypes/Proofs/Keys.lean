import CatalogTypes.Proofs.Contained.Texts
import CatalogTypes.Proofs.Spelling

/-!
# Keys are read back

The line of a property begins with its key, bare or as a string literal.  A reader of the line
takes the identifier or the literal up to the colon for the name of the property (`readKey`).

**Theorem (`renderKey_survives_iff`).** The reader always finds a name, and it is the key unless
the key is an identifier with one line feed behind it: such a key is written bare, and its line
feed is a blank before the colon.  Different keys have different texts in any case; two of them
are read as the same name exactly if one is the other with that line feed.
-/

namespace CatalogTypes

/-! ## Reading a key -/

/-- The text that the characters are the string literal of, if they are one. -/
def Json.literalText? : List Char → Option String
  | '"' :: rest =>
    match Json.scanString [] rest with
    | .ok (text, []) => some text
    | _ => none
  | _ => none

/-- The text is one for the key: the key itself, which is an identifier, or a literal of it. -/
def KeyText (text key : String) : Prop :=
  (text = key ∧ isIdentifier key.toList = true) ∨ Json.literalText? text.toList = some key

instance (text key : String) : Decidable (KeyText text key) := inferInstanceAs (Decidable (_ ∨ _))

/-- The name, if a colon follows it, with what stands behind the colon. -/
def beforeColon (name : String) (cs : List Char) : Option (String × List Char) :=
  match cs.dropWhile Text.isAsciiBlank with
  | ':' :: rest => some (name, rest)
  | _ => none

/-- The property name at the head of a text, an identifier or a literal, and what stands behind
its colon. -/
def readKey (cs : List Char) : Option (String × List Char) :=
  match cs.dropWhile Text.isAsciiBlank with
  | '"' :: rest =>
    match Json.scanString [] rest with
    | .ok (name, behind) => beforeColon name behind
    | .error _ => none
  | word =>
    let name := word.takeWhile isIdentifierPart
    if isIdentifier name then
      beforeColon (String.ofList name) (word.dropWhile isIdentifierPart)
    else none

/-- The line of a property with the key, whatever its value, is read as one with the name. -/
def ReadAs (key name : String) : Prop :=
  ∀ (depth : Nat) (value : TypeExpr),
    readKey (Member.render depth ⟨key, value, none⟩).toList =
      some (name, (" " ++ value.render depth ++ ";").toList)

/-! ## Identifiers -/

theorem isIdentifierPart_ofNat : ∀ n ≤ 0x20, isIdentifierPart (Char.ofNat n) = false := by decide

theorem isIdentifierPart_of_isAsciiBlank {c : Char} (h : Text.isAsciiBlank c = true) :
    isIdentifierPart c = false := by
  have code : c.toNat ≤ 0x20 := by
    rcases Bool.or_eq_true_iff.1 h with space | control
    · rw [of_decide_eq_true space]
      decide
    · obtain ⟨-, most⟩ := Bool.and_eq_true_iff.1 control
      exact le_trans (of_decide_eq_true most) (by decide)
  rw [← Char.ofNat_toNat c]
  exact isIdentifierPart_ofNat c.toNat code

theorem isAsciiBlank_of_isIdentifierPart {c : Char} (h : isIdentifierPart c = true) :
    Text.isAsciiBlank c = false := by
  by_contra blank
  rw [isIdentifierPart_of_isAsciiBlank (by simpa using blank)] at h
  contradiction

/-- An identifier begins with one of its characters, which is no quote. -/
theorem exists_cons_of_isIdentifier {cs : List Char} (h : isIdentifier cs = true) :
    ∃ c rest, cs = c :: rest ∧ isIdentifierPart c = true ∧ c ≠ '"' := by
  cases cs with
  | nil => exact absurd h (by decide)
  | cons c rest =>
    have part := isIdentifierPart_of_isIdentifier h c List.mem_cons_self
    refine ⟨c, rest, rfl, part, ?_⟩
    rintro rfl
    exact absurd part (by decide)

theorem LineFeedAfter.not_isIdentifier {name key : String} (h : LineFeedAfter name key) :
    isIdentifier key.toList = false := by
  by_contra whole
  have part := isIdentifierPart_of_isIdentifier (by simpa using whole) '\n' (by simp [h.toList])
  exact absurd part (by decide)

/-! ## Texts -/

theorem renderKey_of_isBareKey {key : String} (h : isBareKey key.toList = true) :
    renderKey key = key := if_pos h

theorem toList_renderKey_of_not_isBareKey {key : String} (h : ¬isBareKey key.toList = true) :
    (renderKey key).toList = '"' :: (key.toList.flatMap Json.asciiChar ++ '"' :: []) := by
  rw [renderKey, if_neg h, Json.quoteAscii, String.toList_ofList]
  rfl

theorem exists_cons_of_isBareKey {key : String} (h : isBareKey key.toList = true) :
    ∃ c rest, key.toList = c :: rest ∧ c ≠ '"' := by
  obtain whole | ⟨name, after⟩ := isBareKey_iff.1 h
  · obtain ⟨c, rest, shape, -, quote⟩ := exists_cons_of_isIdentifier whole
    exact ⟨c, rest, shape, quote⟩
  · obtain ⟨c, rest, shape, -, quote⟩ := exists_cons_of_isIdentifier after.1
    exact ⟨c, rest ++ ['\n'], by rw [after.toList, shape, List.cons_append], quote⟩

/-- The text of a key is a literal exactly if the key is not written bare, and then its literal. -/
theorem literalText?_renderKey (key : String) :
    Json.literalText? (renderKey key).toList =
      if isBareKey key.toList then none else some key := by
  split
  next bare =>
    obtain ⟨c, rest, shape, quote⟩ := exists_cons_of_isBareKey bare
    rw [renderKey_of_isBareKey bare, shape]
    unfold Json.literalText?
    split
    next same => exact absurd (List.cons.inj same).1 quote
    next => rfl
  next quoted =>
    rw [toList_renderKey_of_not_isBareKey quoted]
    unfold Json.literalText?
    simp only [Json.scanString_of_spells fun c _ => Json.spells_asciiChar c, String.ofList_toList]

theorem renderKey_injective : Function.Injective renderKey := by
  intro key other same
  have read := literalText?_renderKey key
  rw [same, literalText?_renderKey other] at read
  split_ifs at read with bare bare' bare'
  · rwa [renderKey_of_isBareKey bare, renderKey_of_isBareKey bare'] at same
  · exact (Option.some.inj read).symm

theorem keyText_renderKey_iff (key : String) :
    KeyText (renderKey key) key ↔ ¬∃ name, LineFeedAfter name key := by
  rw [KeyText, literalText?_renderKey]
  by_cases bare : isBareKey key.toList = true
  · rw [renderKey_of_isBareKey bare, if_pos bare]
    constructor
    · rintro (⟨-, whole⟩ | none) ⟨name, after⟩
      · rw [after.not_isIdentifier] at whole
        contradiction
      · contradiction
    · intro apart
      exact .inl ⟨rfl, (isBareKey_iff.1 bare).resolve_right apart⟩
  · rw [if_neg bare]
    refine iff_of_true (.inr rfl) fun after => bare (isBareKey_iff.2 (.inr after))

/-! ## Lines -/

theorem beforeColon_of_blank (name : String) {cs : List Char}
    (blank : ∀ c ∈ cs, Text.isAsciiBlank c = true) (rest : List Char) :
    beforeColon name (cs ++ ':' :: rest) = some (name, rest) := by
  rw [beforeColon, List.dropWhile_append_of_pos blank]
  rfl

/-- What stands behind an identifier ends it: blanks or the colon. -/
theorem isIdentifierPart_head?_of_blank {blanks : List Char}
    (blank : ∀ c ∈ blanks, Text.isAsciiBlank c = true) (rest : List Char) :
    ∀ c ∈ (blanks ++ ':' :: rest).head?, isIdentifierPart c = false := by
  intro c first
  cases blanks with
  | nil =>
    cases first
    decide
  | cons b blanks =>
    cases first
    exact isIdentifierPart_of_isAsciiBlank (blank c List.mem_cons_self)

/-- An identifier is read up to the blanks before the colon. -/
theorem readKey_of_isIdentifier {word : List Char} (h : isIdentifier word = true)
    (blanks : List Char) (blank : ∀ c ∈ blanks, Text.isAsciiBlank c = true) (rest : List Char) :
    readKey (word ++ (blanks ++ ':' :: rest)) = some (String.ofList word, rest) := by
  obtain ⟨c, others, shape, part, quote⟩ := exists_cons_of_isIdentifier h
  obtain ⟨taken, dropped⟩ := Text.cut_append (isIdentifierPart_of_isIdentifier h)
    (isIdentifierPart_head?_of_blank blank rest)
  have start : (word ++ (blanks ++ ':' :: rest)).dropWhile Text.isAsciiBlank =
      word ++ (blanks ++ ':' :: rest) := by
    refine Text.dropWhile_eq_self ?_
    rw [shape]
    rintro _ ⟨⟩
    exact isAsciiBlank_of_isIdentifierPart part
  rw [readKey, start]
  split
  next same =>
    -- an identifier does not begin with the quote of a literal
    rw [shape] at same
    exact absurd (List.cons.inj same).1 quote
  next => simp only [taken, dropped, h, if_true, beforeColon_of_blank _ blank]

theorem readKey_literal (cs rest : List Char) :
    readKey ('"' :: (cs.flatMap Json.asciiChar ++ '"' :: ':' :: rest)) =
      some (String.ofList cs, rest) := by
  have quote : ('"' :: (cs.flatMap Json.asciiChar ++ '"' :: ':' :: rest)).dropWhile
      Text.isAsciiBlank = '"' :: (cs.flatMap Json.asciiChar ++ '"' :: ':' :: rest) := rfl
  rw [readKey, quote]
  simp only [Json.scanString_of_spells fun c _ => Json.spells_asciiChar c]
  rfl

/-- The blanks before a key are no part of it. -/
theorem readKey_of_blank {lead : List Char} (blank : ∀ c ∈ lead, Text.isAsciiBlank c = true)
    (cs : List Char) : readKey (lead ++ cs) = readKey cs := by
  rw [readKey, readKey, List.dropWhile_append_of_pos blank]

/-- The line of a property is read from its key on. -/
theorem readKey_line (depth : Nat) (key : String) (value : TypeExpr) :
    readKey (Member.render depth ⟨key, value, none⟩).toList =
      readKey ((renderKey key).toList ++ ':' :: (" " ++ value.render depth ++ ";").toList) := by
  have line : (Member.render depth ⟨key, value, none⟩).toList = (indentation depth).toList ++
      ((renderKey key).toList ++ ':' :: (" " ++ value.render depth ++ ";").toList) := by
    simp [Member.render, renderMember]
  rw [line, readKey_of_blank]
  intro c hc
  rw [mem_indentation hc]
  rfl

theorem LineFeedAfter.readAs {name key : String} (h : LineFeedAfter name key) :
    ReadAs key name := by
  intro depth value
  have bare := isBareKey_iff.2 (.inr ⟨name, h⟩)
  rw [readKey_line, renderKey_of_isBareKey bare, h.toList, List.append_assoc,
    readKey_of_isIdentifier h.1 ['\n'] (List.forall_mem_singleton.2 rfl),
    String.ofList_toList]

theorem readAs_self {key : String} (h : ¬∃ name, LineFeedAfter name key) : ReadAs key key := by
  intro depth value
  rw [readKey_line]
  by_cases bare : isBareKey key.toList = true
  · have whole := (isBareKey_iff.1 bare).resolve_right h
    have read := readKey_of_isIdentifier whole [] (by simp)
    rw [renderKey_of_isBareKey bare, ← List.nil_append (':' :: _), read, String.ofList_toList]
  · rw [toList_renderKey_of_not_isBareKey bare, List.cons_append, List.append_assoc]
    simpa using readKey_literal key.toList (" " ++ value.render depth ++ ";").toList

/-- The identifier without the line feed is read as itself. -/
theorem LineFeedAfter.readAs_self {name key : String} (h : LineFeedAfter name key) :
    ReadAs name name := by
  refine CatalogTypes.readAs_self ?_
  rintro ⟨shorter, after⟩
  exact absurd h.1 (by simp [after.not_isIdentifier])

theorem ReadAs.unique {key name name' : String} (h : ReadAs key name) (h' : ReadAs key name') :
    name = name' := by
  have same := (h 0 (.union [])).symm.trans (h' 0 (.union []))
  exact congrArg Prod.fst (Option.some.inj same)

/-- A name is always found. -/
theorem exists_readAs (key : String) : ∃ name, ReadAs key name := by
  by_cases after : ∃ name, LineFeedAfter name key
  · obtain ⟨name, after⟩ := after
    exact ⟨name, after.readAs⟩
  · exact ⟨key, readAs_self after⟩

/-- A key is read as the identifier in front of its line feed, and any other key as itself. -/
theorem readAs_iff {key name : String} :
    ReadAs key name ↔ LineFeedAfter name key ∨ (name = key ∧ ¬∃ name', LineFeedAfter name' key) := by
  constructor
  · intro read
    by_cases after : ∃ name', LineFeedAfter name' key
    · obtain ⟨name', after⟩ := after
      rw [read.unique after.readAs]
      exact .inl after
    · exact .inr ⟨read.unique (readAs_self after), after⟩
  · rintro (after | ⟨rfl, apart⟩)
    · exact after.readAs
    · exact readAs_self apart

/-! ## Keys -/

theorem readAs_self_iff (key : String) : ReadAs key key ↔ ¬∃ name, LineFeedAfter name key := by
  refine ⟨fun read => ?_, readAs_self⟩
  rintro ⟨name, after⟩
  obtain rfl := read.unique after.readAs
  exact absurd after.1 (by simp [after.not_isIdentifier])

theorem readAs_same_iff (key other : String) :
    (∃ name, ReadAs key name ∧ ReadAs other name) ↔
      other = key ∨ LineFeedAfter key other ∨ LineFeedAfter other key := by
  constructor
  · rintro ⟨name, read, read'⟩
    rcases readAs_iff.1 read with after | ⟨rfl, -⟩ <;>
      rcases readAs_iff.1 read' with after' | ⟨rfl, -⟩
    · exact .inl (after'.2.trans after.2.symm)
    · exact .inr (.inr after)
    · exact .inr (.inl after')
    · exact .inl rfl
  · rintro (rfl | after | after)
    · obtain ⟨name, read⟩ := exists_readAs other
      exact ⟨name, read, read⟩
    · exact ⟨key, after.readAs_self, after.readAs⟩
    · exact ⟨other, after.readAs, after.readAs_self⟩

/-- **A key is read back from its line unless it is an identifier and one line feed; different
keys have different texts.** -/
theorem renderKey_survives_iff (key : String) :
    (KeyText (renderKey key) key ↔ ¬∃ name, LineFeedAfter name key) ∧
      (∃ name, ReadAs key name) ∧
      (ReadAs key key ↔ ¬∃ name, LineFeedAfter name key) ∧
      ∀ other, (renderKey other = renderKey key ↔ other = key) ∧
        ((∃ name, ReadAs key name ∧ ReadAs other name) ↔
          other = key ∨ LineFeedAfter key other ∨ LineFeedAfter other key) :=
  ⟨keyText_renderKey_iff key, exists_readAs key, readAs_self_iff key, fun other =>
    ⟨renderKey_injective.eq_iff, readAs_same_iff key other⟩⟩

/-- The line feed of the key is lost, and with it the difference from the identifier. -/
theorem line_feed_key_not_read_back :
    ¬KeyText (renderKey "id\n") "id\n" ∧ ¬ReadAs "id\n" "id\n" ∧
      ReadAs "id\n" "id" ∧ ReadAs "id" "id" := by
  have after : LineFeedAfter "id" "id\n" := ⟨by decide, rfl⟩
  refine ⟨by decide, fun read => ?_, after.readAs, after.readAs_self⟩
  exact absurd (read.unique after.readAs) (by decide)

example : Member.render 1 ⟨"id\n", .named "number", none⟩ = "  id\n: number;" := by decide

end CatalogTypes
