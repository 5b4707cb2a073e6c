import CatalogTypes.Proofs.Autoincrement.Letters

/-!
# The column that the search names

The search cuts a definition at parentheses and commas.  The first stretch between cuts that has the
mark begins with a word, and that word is the answer once the quotation marks at its ends are taken
off (`autoincrementColumn_eq_some_iff`).  A name is missing exactly if the whole text is without the
mark, for no cut divides it and what has it has a word (`autoincrementColumn_eq_none_iff`).
-/

namespace CatalogTypes

/-! ## The first mention -/

theorem toLower_notMem_of_isDefinitionCut {c : Char} (h : isDefinitionCut c = true) :
    c.toLower ∉ autoincrementWord := by
  simp only [isDefinitionCut, Bool.or_eq_true, decide_eq_true_eq] at h
  rcases h with (rfl | rfl) | rfl <;> decide

/-- The first stretch of a text between cuts that has the mark. -/
structure FirstMention (text before stretch after : List Char) : Prop where
  shape : text = before ++ (stretch ++ after)
  opens : ∀ c ∈ before.getLast?, isDefinitionCut c = true
  ends : ∀ c ∈ after.head?, isDefinitionCut c = true
  plain : ∀ c ∈ stretch, isDefinitionCut c = false
  fresh : ¬ HasMark before
  mark : HasMark stretch

theorem exists_firstMention {text : List Char} (h : HasMark text) :
    ∃ before stretch after, FirstMention text before stretch after := by
  induction text using Text.cutInduction (p := isDefinitionCut) with
  | whole piece plain =>
    exact ⟨[], piece, [], by simp, by simp, by simp, plain, by decide, h⟩
  | cut piece c rest plain cut ih =>
    by_cases here : HasMark piece
    · exact ⟨[], piece, c :: rest, rfl, by simp, by simpa using cut, plain, by decide, here⟩
    · have apart := toLower_notMem_of_isDefinitionCut cut
      obtain ⟨before, stretch, after, rfl, opens, ends, plain', fresh, there⟩ :=
        ih (((hasMark_append_cons apart _ _).1 h).resolve_left here)
      refine ⟨piece ++ c :: before, stretch, after, by simp, ?_, ends, plain', ?_, there⟩
      · cases before with
        | nil => simpa using cut
        | cons d before => simpa using opens
      · rw [hasMark_append_cons apart]
        exact not_or.2 ⟨here, fresh⟩

/-! ## Pieces -/

/-- What the search answers for a piece that has the mark. -/
def nameIn (piece : List Char) : Option String :=
  (Text.words piece).head?.map fun word => String.ofList (Text.trimBy isColumnQuote word)

/-- What the search answers for pieces one after the other. -/
def firstNameIn (pieces : List (List Char)) : Option String :=
  pieces.findSome? fun piece => if holdsAutoincrement piece then nameIn piece else none

theorem autoincrementColumn_eq (ddl : String) :
    autoincrementColumn ddl = firstNameIn (Text.splitBy isDefinitionCut ddl.toList) := rfl

theorem firstNameIn_cons {piece word : List Char} (mark : HasMark piece)
    (first : Text.FirstWord piece word) (more : List (List Char)) :
    firstNameIn (piece :: more) = some (String.ofList (Text.trimBy isColumnQuote word)) := by
  rw [firstNameIn, List.findSome?_cons, if_pos (holdsAutoincrement_iff.2 mark), nameIn,
    first.head?_words]
  rfl

/-- The pieces of a text without the mark have no answer. -/
theorem firstNameIn_of_not_hasMark {text : List Char} (h : ¬ HasMark text) :
    firstNameIn (Text.splitBy isDefinitionCut text) = none := by
  refine List.findSome?_eq_none_iff.2 fun piece there => if_neg fun found => h ?_
  exact (holdsAutoincrement_iff.1 found).mono (Text.infix_of_mem_splitBy there)

theorem FirstMention.firstNameIn_splitBy {text before stretch after word : List Char}
    (h : FirstMention text before stretch after) (first : Text.FirstWord stretch word) :
    firstNameIn (Text.splitBy isDefinitionCut text) =
      some (String.ofList (Text.trimBy isColumnQuote word)) := by
  obtain ⟨rfl, opens, ends, plain, fresh, mark⟩ := h
  have here : firstNameIn (Text.splitBy isDefinitionCut (stretch ++ after)) =
      some (String.ofList (Text.trimBy isColumnQuote word)) := by
    cases after with
    | nil => rw [List.append_nil, Text.splitBy_of_forall plain, firstNameIn_cons mark first]
    | cons c after =>
      rw [Text.splitBy_append_cons plain (ends c rfl), firstNameIn_cons mark first]
  obtain rfl | ⟨front, cut, rfl⟩ := List.eq_nil_or_concat before
  · exact here
  · rw [List.concat_eq_append] at opens fresh ⊢
    have closes : isDefinitionCut cut = true := opens cut (by simp)
    rw [hasMark_append_cons (toLower_notMem_of_isDefinitionCut closes), not_or] at fresh
    rw [List.append_assoc, List.singleton_append, Text.splitBy_append closes, firstNameIn,
      List.findSome?_append, ← firstNameIn, firstNameIn_of_not_hasMark fresh.1, Option.none_or]
    exact here

/-! ## Answers -/

/-- The answer for a definition that has the mark. -/
theorem exists_answer {ddl : String} (h : HasMark ddl.toList) :
    ∃ before stretch after word, FirstMention ddl.toList before stretch after ∧
      Text.FirstWord stretch word ∧
      autoincrementColumn ddl = some (String.ofList (Text.trimBy isColumnQuote word)) := by
  obtain ⟨before, stretch, after, mention⟩ := exists_firstMention h
  obtain ⟨word, first⟩ := Text.exists_firstWord mention.mark.exists_not_isBlank
  exact ⟨before, stretch, after, word, mention, first, mention.firstNameIn_splitBy first⟩

/-- **A definition has an answer exactly if it has the mark anywhere.** -/
theorem autoincrementColumn_eq_none_iff {ddl : String} :
    autoincrementColumn ddl = none ↔ ¬ HasMark ddl.toList := by
  refine ⟨fun h mark => ?_, firstNameIn_of_not_hasMark⟩
  obtain ⟨_, _, _, _, -, -, answer⟩ := exists_answer mark
  rw [h] at answer
  cases answer

/-- **The answer is the first word of the first stretch that has the mark, without the quotation
marks at its ends.** -/
theorem autoincrementColumn_eq_some_iff {ddl : String} {name : List Char} :
    autoincrementColumn ddl = some (String.ofList name) ↔
      ∃ before stretch after word, FirstMention ddl.toList before stretch after ∧
        Text.FirstWord stretch word ∧ Text.trimBy isColumnQuote word = name := by
  constructor
  · intro h
    have mark : HasMark ddl.toList := by
      by_contra unmarked
      rw [autoincrementColumn_eq_none_iff.2 unmarked] at h
      cases h
    obtain ⟨before, stretch, after, word, mention, first, answer⟩ := exists_answer mark
    rw [h] at answer
    exact ⟨before, stretch, after, word, mention, first,
      (String.ofList_injective (Option.some.inj answer)).symm⟩
  · rintro ⟨before, stretch, after, word, mention, first, rfl⟩
    exact mention.firstNameIn_splitBy first

end CatalogTypes
