import CatalogTypes.Proofs.Autoincrement.Search

/-!
# Definitions of tables

A table is defined by its name and its columns.  A column's definition is its name, as it is or
between quotation marks, and behind it words and groups in parentheses.  One of the words may be the
mark of a column that counts by itself.

**Theorem (`TableDefinition.readsMark_iff`).** The marked column of a table is found exactly if the
first stretch between parentheses and commas that has the mark's letters begins with that column's
name, and where no column is marked the search finds none exactly if the letters occur nowhere.  If
they do not occur before the marked column, and the mark stands before the first group of its
definition, then its name is found unless the name itself has quotation marks at its ends: these are
taken for those around it.

Letters may occur without being the mark: in the name of the table or of another column, in a
default value, in a longer word.  And the stretch that has the mark does not begin with the name if
a group stands between the two.  So the search can miss (`TableDefinition.not_readsMark_of_name`).
-/

namespace CatalogTypes

/-! ## Columns -/

/-- How the name of a column is written. -/
inductive NameStyle where
  | bare
  | doubleQuotes
  | backticks
  | brackets

/-- A name as it is written. -/
def NameStyle.write : NameStyle → List Char → List Char
  | .bare, name => name
  | .doubleQuotes, name => '"' :: (name ++ ['"'])
  | .backticks, name => '\x60' :: (name ++ ['\x60'])
  | .brackets, name => '[' :: (name ++ [']'])

/-- A word or a group in parentheses, and the blanks before it. -/
inductive DefinitionPart where
  | word (gap letters : List Char)
  | group (gap inner : List Char)

namespace DefinitionPart

def text : DefinitionPart → List Char
  | word gap letters => gap ++ letters
  | group gap inner => gap ++ '(' :: (inner ++ [')'])

def isWord : DefinitionPart → Bool
  | word _ _ => true
  | group _ _ => false

/-- The word is the mark, in letters of either case. -/
def isMark : DefinitionPart → Bool
  | word _ letters => letters.map Char.toLower = autoincrementWord
  | group _ _ => false

end DefinitionPart

/-- Whether a character may stand in a name or a word. -/
def isNameChar (c : Char) : Bool := !Text.isBlank c && !isDefinitionCut c

/-- Whether each parenthesis of a text has its partner, given how many are open before it. -/
def pairsUp : Nat → List Char → Bool
  | depth, [] => depth = 0
  | depth, c :: rest =>
    if c = '(' then pairsUp (depth + 1) rest
    else if c = ')' then
      match depth with
      | 0 => false
      | depth + 1 => pairsUp depth rest
    else pairsUp depth rest

/-- Whether parts can stand one behind the other: only parentheses make blanks needless. -/
def fitTogether (behindWord : Bool) : List DefinitionPart → Bool
  | [] => true
  | .word gap letters :: rest =>
    gap.all Text.isBlank && !(behindWord && gap.isEmpty) && !letters.isEmpty &&
      letters.all isNameChar && fitTogether true rest
  | .group gap inner :: rest => gap.all Text.isBlank && pairsUp 0 inner && fitTogether false rest

/-- The definition of a column.  A bare name is not empty and has no quotation marks at its ends. -/
structure ColumnDefinition where
  lead : List Char
  style : NameStyle
  name : List Char
  parts : List DefinitionPart
  trail : List Char
  lead_blank : lead.all Text.isBlank = true
  name_solid : name.all isNameChar = true
  bare_name : style = .bare → name ≠ [] ∧ Text.Trimmed isColumnQuote name
  parts_fit : fitTogether true parts = true
  trail_blank : trail.all Text.isBlank = true

namespace ColumnDefinition

/-- What stands behind the name. -/
def rest (d : ColumnDefinition) : List Char := d.parts.flatMap DefinitionPart.text ++ d.trail

def text (d : ColumnDefinition) : List Char := d.lead ++ (d.style.write d.name ++ d.rest)

/-- The text before the first parenthesis. -/
def opening (d : ColumnDefinition) : List Char := d.text.takeWhile (!isDefinitionCut ·)

/-- The definition marks its column. -/
def IsMarked (d : ColumnDefinition) : Prop := ∃ part ∈ d.parts, part.isMark = true

/-- The mark stands before the first group. -/
def IsMarkedEarly (d : ColumnDefinition) : Prop :=
  ∃ part ∈ d.parts.takeWhile DefinitionPart.isWord, part.isMark = true

instance (d : ColumnDefinition) : Decidable d.IsMarked :=
  inferInstanceAs (Decidable (∃ part ∈ d.parts, part.isMark = true))

end ColumnDefinition

/-! ## Tables -/

/-- What every definition of a table begins with. -/
def createTable : List Char := "CREATE TABLE ".toList

/-- The definition of a table.  Its name may be any text. -/
structure TableDefinition where
  name : List Char
  columns : List ColumnDefinition
  columns_ne_nil : columns ≠ []

namespace TableDefinition

def text (t : TableDefinition) : List Char :=
  createTable ++ t.name ++ [' ', '('] ++
    [','].intercalate (t.columns.map ColumnDefinition.text) ++ [')']

def ddl (t : TableDefinition) : String := String.ofList t.text

/-- The text before the column that follows others. -/
def before (t : TableDefinition) (front : List ColumnDefinition) : List Char :=
  createTable ++ t.name ++ [' ', '('] ++ front.flatMap fun d => d.text ++ [',']

/-- One column is marked, and it is this one. -/
def OnlyMarked (t : TableDefinition) (d : ColumnDefinition) : Prop :=
  ∃ front back, t.columns = front ++ d :: back ∧ d.IsMarked ∧
    ∀ other ∈ front ++ back, ¬ other.IsMarked

/-- The search finds the only marked column, and none if none is marked. -/
def ReadsMark (t : TableDefinition) : Prop :=
  (∀ d, t.OnlyMarked d → autoincrementColumn t.ddl = some (String.ofList d.name)) ∧
    ((∀ d ∈ t.columns, ¬ d.IsMarked) → autoincrementColumn t.ddl = none)

end TableDefinition

/-! ## The opening of a column's definition -/

theorem isDefinitionCut_of_isBlank {c : Char} (h : Text.isBlank c = true) :
    isDefinitionCut c = false := by
  by_contra cut
  simp only [Bool.not_eq_false, isDefinitionCut, Bool.or_eq_true, decide_eq_true_eq] at cut
  rcases cut with (rfl | rfl) | rfl <;> exact absurd h (by decide)

theorem isNameChar_iff {c : Char} :
    isNameChar c = true ↔ Text.isBlank c = false ∧ isDefinitionCut c = false := by
  simp [isNameChar]

theorem isNameChar_of_isColumnQuote {c : Char} (h : isColumnQuote c = true) :
    isNameChar c = true := by
  simp only [isColumnQuote, Bool.or_eq_true, decide_eq_true_eq] at h
  rcases h with ((rfl | rfl) | rfl) | rfl <;> decide

/-- A name is written as it is, or between two quotation marks. -/
theorem NameStyle.write_cases (style : NameStyle) (name : List Char) :
    (style = .bare ∧ style.write name = name) ∨
      ∃ left right, isColumnQuote left = true ∧ isColumnQuote right = true ∧
        style.write name = left :: (name ++ [right]) := by
  cases style with
  | bare => exact .inl ⟨rfl, rfl⟩
  | doubleQuotes => exact .inr ⟨_, _, by decide, by decide, rfl⟩
  | backticks => exact .inr ⟨_, _, by decide, by decide, rfl⟩
  | brackets => exact .inr ⟨_, _, by decide, by decide, rfl⟩

/-- A mark has its letters. -/
theorem DefinitionPart.hasMark_text {part : DefinitionPart} (mark : part.isMark = true) :
    HasMark part.text := by
  cases part with
  | word gap letters =>
    have same : letters.map Char.toLower = autoincrementWord := of_decide_eq_true mark
    have own : HasMark letters := by rw [HasMark, same]
    exact own.mono (List.suffix_append gap letters).isInfix
  | group gap inner => exact absurd mark Bool.false_ne_true

/-- The words before the first group are without parentheses and commas. -/
theorem isDefinitionCut_of_mem_words {parts : List DefinitionPart} {behindWord : Bool}
    (fit : fitTogether behindWord parts = true) {part : DefinitionPart}
    (there : part ∈ parts.takeWhile DefinitionPart.isWord) :
    ∀ c ∈ part.text, isDefinitionCut c = false := by
  induction parts generalizing behindWord with
  | nil => cases there
  | cons first more ih =>
    cases first with
    | group gap inner => cases there
    | word gap letters =>
      simp only [fitTogether, Bool.and_eq_true, List.all_eq_true] at fit
      obtain ⟨⟨⟨⟨blank, -⟩, -⟩, solid⟩, fit⟩ := fit
      rcases List.mem_cons.1 there with rfl | there
      · intro c hc
        rcases List.mem_append.1 hc with hc | hc
        · exact isDefinitionCut_of_isBlank (blank c hc)
        · exact (isNameChar_iff.1 (solid c hc)).2
      · exact ih fit there

namespace ColumnDefinition

variable (d : ColumnDefinition)

theorem write_ne_nil : d.style.write d.name ≠ [] := by
  obtain ⟨bare, same⟩ | ⟨left, right, -, -, same⟩ := d.style.write_cases d.name
  · rw [same]
    exact (d.bare_name bare).1
  · simp [same]

theorem write_solid : ∀ c ∈ d.style.write d.name, isNameChar c = true := by
  have name := List.all_eq_true.1 d.name_solid
  obtain ⟨-, same⟩ | ⟨left, right, hleft, hright, same⟩ := d.style.write_cases d.name
  · rwa [same]
  · rw [same]
    intro c hc
    rcases List.mem_cons.1 hc with rfl | hc
    · exact isNameChar_of_isColumnQuote hleft
    · rcases List.mem_append.1 hc with hc | hc
      · exact name c hc
      · rw [List.mem_singleton.1 hc]
        exact isNameChar_of_isColumnQuote hright

theorem trimBy_write_eq_iff :
    Text.trimBy isColumnQuote (d.style.write d.name) = d.name ↔
      Text.Trimmed isColumnQuote d.name := by
  have trimmed : Text.trimBy isColumnQuote (d.style.write d.name) =
      Text.trimBy isColumnQuote d.name := by
    obtain ⟨-, same⟩ | ⟨left, right, hleft, hright, same⟩ := d.style.write_cases d.name
    · rw [same]
    · rw [same, Text.trimBy_between hleft hright]
  rw [trimmed]
  exact ⟨fun h => h ▸ Text.trimmed_trimBy isColumnQuote d.name, Text.trimBy_eq_self⟩

/-- The text behind the name begins with a blank or a parenthesis. -/
theorem head?_rest : ∀ c ∈ d.rest.head?, isDefinitionCut c = false → Text.isBlank c = true := by
  have fit := d.parts_fit
  unfold rest
  cases parts : d.parts with
  | nil =>
    intro c hc _
    exact List.all_eq_true.1 d.trail_blank c (List.mem_of_mem_head? hc)
  | cons part more =>
    rw [parts] at fit
    intro c hc plain
    cases part with
    | word gap letters =>
      simp only [fitTogether, Bool.and_eq_true, List.all_eq_true] at fit
      obtain ⟨⟨⟨⟨blank, apart⟩, -⟩, -⟩, -⟩ := fit
      cases gap with
      | nil => exact absurd apart (by decide)
      | cons g gap =>
        obtain rfl : g = c := Option.some.inj hc
        exact blank g List.mem_cons_self
    | group gap inner =>
      simp only [fitTogether, Bool.and_eq_true, List.all_eq_true] at fit
      cases gap with
      | nil =>
        obtain rfl : '(' = c := Option.some.inj hc
        exact absurd plain (by decide)
      | cons g gap =>
        obtain rfl : g = c := Option.some.inj hc
        exact fit.1.1 g List.mem_cons_self

theorem opening_eq :
    d.opening = d.lead ++ d.style.write d.name ++ d.rest.takeWhile (!isDefinitionCut ·) := by
  unfold opening text
  rw [List.takeWhile_append_of_pos, List.takeWhile_append_of_pos, List.append_assoc]
  · intro c hc
    simp [(isNameChar_iff.1 (d.write_solid c hc)).2]
  · intro c hc
    simp [isDefinitionCut_of_isBlank (List.all_eq_true.1 d.lead_blank c hc)]

/-- The text before the first parenthesis begins with the name. -/
theorem firstWord_opening : Text.FirstWord d.opening (d.style.write d.name) := by
  refine ⟨⟨d.lead, _, d.opening_eq, List.all_eq_true.1 d.lead_blank, fun c hc => ?_⟩,
    d.write_ne_nil, fun c hc => (isNameChar_iff.1 (d.write_solid c hc)).1⟩
  rw [List.head?_takeWhile, Option.mem_def, Option.filter_eq_some_iff] at hc
  exact d.head?_rest c hc.1 (by simpa using hc.2)

/-- A mark before the first group stands before the first parenthesis. -/
theorem hasMark_opening (early : d.IsMarkedEarly) : HasMark d.opening := by
  obtain ⟨part, there, mark⟩ := early
  have plain : ∀ c ∈ (d.parts.takeWhile DefinitionPart.isWord).flatMap DefinitionPart.text,
      (!isDefinitionCut c) = true := by
    intro c hc
    obtain ⟨other, among, inside⟩ := List.mem_flatMap.1 hc
    simp [isDefinitionCut_of_mem_words d.parts_fit among c inside]
  have split : d.rest = (d.parts.takeWhile DefinitionPart.isWord).flatMap DefinitionPart.text ++
      ((d.parts.dropWhile DefinitionPart.isWord).flatMap DefinitionPart.text ++ d.trail) := by
    rw [rest, ← List.append_assoc, ← List.flatMap_append, List.takeWhile_append_dropWhile]
  have words : (d.parts.takeWhile DefinitionPart.isWord).flatMap DefinitionPart.text <:+:
      d.opening := by
    rw [opening_eq, split, List.takeWhile_append_of_pos plain]
    exact (List.prefix_append _ _).isInfix.trans (List.suffix_append _ _).isInfix
  have among : part.text <:+:
      (d.parts.takeWhile DefinitionPart.isWord).flatMap DefinitionPart.text := by
    obtain ⟨front, back, shape⟩ := List.append_of_mem there
    rw [shape, List.flatMap_append, List.flatMap_cons]
    exact List.infix_append' _ _ _
  exact (part.hasMark_text mark).mono (among.trans words)

end ColumnDefinition

/-! ## The text of a table's definition -/

theorem intercalate_split {sep : Char} (front : List (List Char)) (cs : List Char)
    (back : List (List Char)) :
    [sep].intercalate (front ++ cs :: back) =
      front.flatMap (· ++ [sep]) ++ (cs ++ back.flatMap (sep :: ·)) := by
  induction front with
  | nil =>
    induction back generalizing cs with
    | nil => simp
    | cons c back ih =>
      simp only [List.nil_append, List.flatMap_nil] at ih ⊢
      rw [List.intercalate_cons_cons, ih, List.flatMap_cons]
      simp
  | cons c front ih =>
    rw [List.cons_append]
    cases front <;> simp_all [List.intercalate_cons_cons]

namespace TableDefinition

variable {t : TableDefinition} {front back : List ColumnDefinition} {d : ColumnDefinition}

theorem text_eq (split : t.columns = front ++ d :: back) :
    t.text = t.before front ++
      (d.text ++ (back.flatMap (fun other => ',' :: other.text) ++ [')'])) := by
  unfold text before
  rw [split, List.map_append, List.map_cons, intercalate_split]
  simp [List.flatMap_map]

theorem before_nil (t : TableDefinition) :
    t.before [] = createTable ++ t.name ++ [' '] ++ ['('] := by
  rw [before, List.flatMap_nil, List.append_nil, List.append_assoc _ [' ']]
  rfl

theorem before_concat (t : TableDefinition) (front : List ColumnDefinition)
    (d : ColumnDefinition) :
    t.before (front.concat d) = t.before front ++ d.text ++ [','] := by
  rw [before, before, List.concat_eq_append, List.flatMap_append, List.flatMap_singleton,
    ← List.append_assoc, ← List.append_assoc]

theorem getLast?_before (t : TableDefinition) (front : List ColumnDefinition) :
    ∀ c ∈ (t.before front).getLast?, isDefinitionCut c = true := by
  obtain rfl | ⟨front, d, rfl⟩ := List.eq_nil_or_concat front
  · rw [before_nil, List.getLast?_concat]
    rintro c ⟨⟩
    decide
  · rw [before_concat, List.getLast?_concat]
    rintro c ⟨⟩
    decide

/-- The text before the first parenthesis of a column is the first that has the mark. -/
theorem firstMention_opening (split : t.columns = front ++ d :: back)
    (fresh : ¬ HasMark (t.before front)) (mark : HasMark d.opening) :
    ∃ after, FirstMention t.text (t.before front) d.opening after := by
  refine ⟨d.text.dropWhile (!isDefinitionCut ·) ++
    (back.flatMap (fun other => ',' :: other.text) ++ [')']), ?_, t.getLast?_before front, ?_, ?_,
    fresh, mark⟩
  · rw [text_eq split, ← List.append_assoc d.opening, ColumnDefinition.opening,
      List.takeWhile_append_dropWhile]
  · intro c hc
    rw [List.head?_append, Option.mem_def, Option.or_eq_some_iff] at hc
    obtain inside | ⟨-, behind⟩ := hc
    · simpa using Text.head?_dropWhile (!isDefinitionCut ·) d.text c inside
    · cases back with
      | nil =>
        obtain rfl : ')' = c := Option.some.inj behind
        decide
      | cons other back =>
        obtain rfl : ',' = c := Option.some.inj behind
        decide
  · intro c hc
    simpa using List.all_eq_true.1 List.all_takeWhile c hc

/-- **The marked column is found exactly if the first stretch that has the letters begins with its
name.**  For a mark before the first group, behind text without the letters, the name decides: it
has no quotation marks at its own ends. -/
theorem readsMark_iff (t : TableDefinition) :
    (t.ReadsMark ↔
      (∀ d, t.OnlyMarked d → ∃ before stretch after word,
        FirstMention t.text before stretch after ∧ Text.FirstWord stretch word ∧
          Text.trimBy isColumnQuote word = d.name) ∧
        ((∀ d ∈ t.columns, ¬ d.IsMarked) → ¬ HasMark t.text)) ∧
      ∀ front d back, t.columns = front ++ d :: back → ¬ HasMark (t.before front) →
        d.IsMarkedEarly →
        (autoincrementColumn t.ddl = some (String.ofList d.name) ↔
          Text.Trimmed isColumnQuote d.name) := by
  have characters : t.ddl.toList = t.text := String.toList_ofList
  constructor
  · unfold ReadsMark
    rw [autoincrementColumn_eq_none_iff, characters]
    simp only [autoincrementColumn_eq_some_iff, characters]
  · intro front d back split fresh early
    obtain ⟨after, mention⟩ := firstMention_opening split fresh (d.hasMark_opening early)
    rw [← characters] at mention
    rw [autoincrementColumn_eq, mention.firstNameIn_splitBy d.firstWord_opening,
      ← d.trimBy_write_eq_iff, Option.some_inj, String.ofList_inj]

/-- A table with the letters of the mark in its name. -/
def logTable : TableDefinition where
  name := "autoincrement_log".toList
  columns := [
    { lead := []
      style := .bare
      name := ['i', 'd']
      parts := [.word [' '] "INTEGER".toList, .word [' '] "PRIMARY".toList,
        .word [' '] "KEY".toList, .word [' '] "AUTOINCREMENT".toList]
      trail := []
      lead_blank := rfl
      name_solid := rfl
      bare_name := fun _ => ⟨List.cons_ne_nil _ _, by simp [isColumnQuote], by simp [isColumnQuote]⟩
      parts_fit := by decide
      trail_blank := rfl }]
  columns_ne_nil := List.cons_ne_nil _ _

/-- The name of the table is taken for the definition of a column. -/
theorem not_readsMark_of_name : ¬ logTable.ReadsMark := by
  intro reads
  have found := reads.1 _ ⟨[], [], rfl, by decide, by simp⟩
  exact absurd found (by decide +kernel)

end TableDefinition

end CatalogTypes
