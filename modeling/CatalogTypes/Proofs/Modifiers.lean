import CatalogTypes.Adapter
import CatalogTypes.Proofs.Lowercase
import Mathlib.Data.List.TakeWhile

/-!
# Column types with a modifier

**Theorem (`scalarFor_modified`).** Let an adapter know a column type.  Written in any case, with a
modifier in parentheses behind it and with any blanks around the whole and before the parenthesis,
the type has the default type that it has without the modifier, if no line feed stands in the
modifier.  If one does, the type has no default type at all.

Blanks and parentheses cut a text into parts that are put into lowercase on their own, so what is
looked up is the known type, blanks, and the modifier in parentheses.  The cut is at the first
parenthesis that opens a modifier.  No parenthesis stands in the known type, so it is kept as it is
(`withoutModifier_append`), and the first parenthesis is the one behind it.  That opens a modifier
unless a line feed follows; then no cut takes it off (`paren_mem_withoutModifier`), and a known type
has no parenthesis.
-/

namespace CatalogTypes

/-! ## Trimming and lowercasing -/

namespace Text

theorem trimEndBy_cons {p : Char → Bool} {c : Char} (solid : p c = false) (cs : List Char) :
    trimEndBy p (c :: cs) = c :: trimEndBy p cs := by
  rw [trimEndBy, trimEndBy, List.reverse_cons, List.dropWhile_append]
  cases left : cs.reverse.dropWhile p with
  | nil => simp [solid]
  | cons => simp

theorem trimEndBy_append_singleton {p : Char → Bool} {c : Char} (solid : p c = false)
    (cs : List Char) : trimEndBy p (cs ++ [c]) = cs ++ [c] := by
  rw [trimEndBy, List.reverse_append, List.reverse_singleton, List.singleton_append,
    List.dropWhile_cons_of_neg (by simp [solid]), List.reverse_cons, List.reverse_reverse]

/-- A text whose lowercase form has no blanks at its ends has none itself. -/
theorem trimmed_of_trimmed_lowerAfter {before : Bool} {cs : List Char}
    (h : Trimmed isBlank (lowerAfter before cs)) : Trimmed isBlank cs := by
  refine ⟨fun c first => ?_, fun c last => ?_⟩
  · refine Bool.eq_false_iff.2 fun blank => ?_
    obtain ⟨rest, rfl⟩ := List.head?_eq_some_iff.1 first
    rw [(caseless_of_isBlank blank).lowerAfter_cons] at h
    exact absurd (h.1 c rfl) (by simp [blank])
  · refine Bool.eq_false_iff.2 fun blank => ?_
    obtain ⟨front, rfl⟩ := List.getLast?_eq_some_iff.1 last
    rw [(caseless_of_isBlank blank).lowerAfter_append_cons] at h
    exact absurd (h.2 c (by simp [lowerAfter])) (by simp [blank])

theorem toList_lower (s : String) : (lower s).toList = lowerChars s.toList := String.toList_ofList

/-- What stands before parentheses, and in them, is put into lowercase on its own. -/
theorem lowerChars_append_parens {gap : List Char} (blank : ∀ c ∈ gap, isBlank c = true)
    (front inner : List Char) :
    lowerChars (front ++ gap ++ '(' :: (inner ++ [')'])) =
      lowerChars front ++ gap ++ '(' :: (lowerChars inner ++ [')']) := by
  have opening : Caseless '(' := by decide +kernel
  have closing : Caseless ')' := by decide +kernel
  have last : lowerChars (inner ++ [')']) = lowerChars inner ++ [')'] :=
    closing.lowerAfter_append_cons false inner []
  rw [lowerChars, opening.lowerAfter_append_cons,
    lowerAfter_append_caseless fun c hc => caseless_of_isBlank (blank c hc)]
  exact congrArg (_ ++ '(' :: ·) last

end Text

namespace Adapter

/-! ## Cutting a modifier off -/

theorem isModifier_cons {c : Char} (solid : Text.isBlank c = false) (other : c ≠ '(')
    (cs : List Char) : isModifier (c :: cs) = false := by
  rw [isModifier, Text.trimEndBy_cons solid]
  split
  · next shape => exact absurd (List.cons.inj shape).1 other
  · rfl

/-- What stands between parentheses is a modifier unless a line feed stands there. -/
theorem isModifier_parens (inner : List Char) :
    isModifier ('(' :: (inner ++ [')'])) = !inner.contains '\n' := by
  rw [isModifier, ← List.cons_append, Text.trimEndBy_append_singleton (by decide)]
  simp

theorem isModifier_dropWhile_append {cs : List Char} (absent : '(' ∉ cs)
    (solid : ∃ c ∈ cs, Text.isBlank c = false) (rest : List Char) :
    isModifier ((cs ++ rest).dropWhile Text.isBlank) = false := by
  have left : cs.dropWhile Text.isBlank ≠ [] := by
    intro none_left
    obtain ⟨c, there, visible⟩ := solid
    have blank := List.dropWhile_eq_nil_iff.1 none_left c there
    exact absurd blank (by simp [visible])
  obtain ⟨d, ds, shape⟩ := List.exists_cons_of_ne_nil left
  have visible : Text.isBlank d = false :=
    Text.head?_dropWhile Text.isBlank cs d (by rw [shape]; rfl)
  have there : d ∈ cs :=
    (List.dropWhile_sublist Text.isBlank).subset (by rw [shape]; exact List.mem_cons_self)
  rw [List.dropWhile_append, if_neg (by simp [shape]), shape]
  exact isModifier_cons visible (fun paren => absent (paren ▸ there)) _

/-- A text without parentheses and without blanks at its end stays before any other. -/
theorem withoutModifier_append {cs : List Char} (absent : '(' ∉ cs)
    (solid : ∀ c ∈ cs.getLast?, Text.isBlank c = false) (rest : List Char) :
    withoutModifier (cs ++ rest) = cs ++ withoutModifier rest := by
  induction cs with
  | nil => rfl
  | cons c cs ih =>
    have last := List.getLast?_eq_some_getLast (List.cons_ne_nil c cs)
    have stays := isModifier_dropWhile_append absent
      ⟨_, List.getLast_mem (List.cons_ne_nil c cs), solid _ last⟩ rest
    have further : ∀ d ∈ cs.getLast?, Text.isBlank d = false := by
      cases cs with
      | nil => simp
      | cons => exact solid
    rw [List.cons_append] at stays
    rw [List.cons_append, withoutModifier, stays, if_neg Bool.false_ne_true,
      ih (fun there => absent (List.mem_cons_of_mem c there)) further, List.cons_append]

section

variable {gap rest : List Char} (blank : ∀ c ∈ gap, Text.isBlank c = true)
include blank

theorem dropWhile_blanks_paren :
    (gap ++ '(' :: rest).dropWhile Text.isBlank = '(' :: rest := by
  rw [List.dropWhile_append_of_pos blank]
  exact List.dropWhile_cons_of_neg (by decide)

/-- A modifier is cut off with the blanks before it. -/
theorem withoutModifier_eq_nil (modifier : isModifier ('(' :: rest) = true) :
    withoutModifier (gap ++ '(' :: rest) = [] := by
  obtain ⟨c, cs, shape⟩ := List.exists_cons_of_ne_nil (l := gap ++ '(' :: rest) (by simp)
  rw [shape, withoutModifier, ← shape, dropWhile_blanks_paren blank, if_pos modifier]

/-- A parenthesis that opens no modifier stays. -/
theorem paren_mem_withoutModifier (other : isModifier ('(' :: rest) = false) :
    '(' ∈ withoutModifier (gap ++ '(' :: rest) := by
  have stays : ¬ isModifier ('(' :: rest) = true := by simp [other]
  induction gap with
  | nil =>
    rw [List.nil_append, withoutModifier, List.dropWhile_cons_of_neg (by decide), if_neg stays]
    exact List.mem_cons_self
  | cons c gap ih =>
    rw [List.cons_append, withoutModifier, ← List.cons_append, dropWhile_blanks_paren blank,
      if_neg stays]
    exact List.mem_cons_of_mem c (ih (List.forall_mem_cons.1 blank).2)

end

/-! ## What is looked up -/

/-- A column type is a spelling with a modifier in parentheses behind it.  Blanks may stand around
the whole and before the parenthesis. -/
def IsModified (dataType spelling modifier : String) : Prop :=
  ∃ lead gap trail : List Char,
    (∀ c ∈ lead ++ gap ++ trail, Text.isBlank c = true) ∧
    dataType.toList =
      lead ++ (spelling.toList ++ gap ++ '(' :: (modifier.toList ++ [')'])) ++ trail

/-- The column types that an adapter knows have no opening parenthesis and no blanks around them. -/
def IsPlain (a : Adapter) : Prop :=
  ∀ key ∈ a.scalars.keys, '(' ∉ key.toList ∧ Text.Trimmed Text.isBlank key.toList

variable {dataType spelling modifier : String}

/-- Trimming leaves the spelling and the modifier, with blanks between them only if the spelling is
not empty. -/
theorem IsModified.trimChars (h : IsModified dataType spelling modifier)
    (trimmed : Text.Trimmed Text.isBlank spelling.toList) :
    ∃ gap, (∀ c ∈ gap, Text.isBlank c = true) ∧
      Text.trimChars dataType.toList =
        spelling.toList ++ gap ++ '(' :: (modifier.toList ++ [')']) := by
  obtain ⟨lead, gap, trail, blank, shape⟩ := h
  simp only [List.forall_mem_append] at blank
  obtain ⟨⟨leads, gaps⟩, trails⟩ := blank
  rw [shape, Text.trimChars]
  cases spelled : spelling.toList with
  | nil =>
    -- the blanks before the parenthesis are blanks around the whole
    refine ⟨[], by simp, ?_⟩
    rw [List.nil_append, ← List.append_assoc lead gap]
    exact Text.trimBy_of_trimmed (List.forall_mem_append.2 ⟨leads, gaps⟩) trails
      (Text.trimmed_append_parens (by simp : ∀ c ∈ ([] : List Char).head?, _) _)
  | cons c cs =>
    rw [spelled] at trimmed
    have solid : ∀ d ∈ (c :: cs ++ gap).head?, Text.isBlank d = false := trimmed.1
    exact ⟨gap, gaps, Text.trimBy_of_trimmed leads trails (Text.trimmed_append_parens solid _)⟩

/-! ## The default type -/

/-- What is looked up for a modified type is the spelling and the modifier in lowercase. -/
theorem IsModified.lower_trim (h : IsModified dataType spelling modifier)
    (trimmed : Text.Trimmed Text.isBlank spelling.toList) :
    ∃ gap, (∀ c ∈ gap, Text.isBlank c = true) ∧
      (Text.lower (Text.trim dataType)).toList =
        (Text.lower spelling).toList ++ gap ++
          '(' :: (Text.lowerChars modifier.toList ++ [')']) := by
  obtain ⟨gap, blank, shape⟩ := h.trimChars trimmed
  refine ⟨gap, blank, ?_⟩
  rw [Text.toList_lower, Text.trim, String.toList_ofList, shape,
    Text.lowerChars_append_parens blank, Text.toList_lower]

theorem IsPlain.find?_eq_none {a : Adapter} (plain : a.IsPlain) {key : String}
    (paren : '(' ∈ key.toList) : a.scalars.find? key = none :=
  Keyed.find?_eq_none fun there => (plain key there).1 paren

/-- What is found for a known type with a modifier behind it, once the modifier is cut off. -/
theorem IsPlain.find?_withoutModifier {a : Adapter} (plain : a.IsPlain) {key : String}
    (inside : key ∈ a.scalars.keys) {gap : List Char}
    (blank : ∀ c ∈ gap, Text.isBlank c = true) (inner : List Char) :
    a.scalars.find?
        (String.ofList (withoutModifier (key.toList ++ (gap ++ '(' :: (inner ++ [')']))))) =
      if '\n' ∈ inner then none else a.scalars.find? key := by
  obtain ⟨absent, trimmed⟩ := plain key inside
  have opens := isModifier_parens inner
  rw [withoutModifier_append absent trimmed.2]
  split_ifs with there
  · rw [List.contains_iff_mem.2 there, Bool.not_true] at opens
    have paren := paren_mem_withoutModifier blank opens
    exact plain.find?_eq_none (by rw [String.toList_ofList]; exact List.mem_append_right _ paren)
  · rw [Bool.eq_false_iff.2 fun h => there (List.contains_iff_mem.1 h), Bool.not_false] at opens
    rw [withoutModifier_eq_nil blank opens, List.append_nil, String.ofList_toList]

/-- **A modifier without a line feed does not matter to the default type of a column type.** -/
theorem scalarFor_modified {a : Adapter} (plain : a.IsPlain) {key scalar : String}
    (known : a.scalars.find? key = some scalar) (spelled : Text.lower spelling = key)
    (modified : IsModified dataType spelling modifier) :
    a.scalarFor spelling = some scalar ∧
      a.scalarFor dataType = if '\n' ∈ modifier.toList then none else some scalar := by
  subst spelled
  have inside := Keyed.has_iff_mem_keys.1 (Keyed.has_iff.2 ⟨scalar, known⟩)
  have bare : Text.Trimmed Text.isBlank spelling.toList := by
    have trimmed := (plain _ inside).2
    rw [Text.toList_lower] at trimmed
    exact Text.trimmed_of_trimmed_lowerAfter trimmed
  constructor
  · have same : Text.trim spelling = spelling := by
      rw [Text.trim, Text.trimChars, Text.trimBy_eq_self bare, String.ofList_toList]
    simp only [scalarFor, same, known]
  · obtain ⟨gap, blank, shape⟩ := modified.lower_trim bare
    have whole : a.scalars.find? (Text.lower (Text.trim dataType)) = none :=
      plain.find?_eq_none (by simp [shape])
    have feed : '\n' ∈ Text.lowerChars modifier.toList ↔ '\n' ∈ modifier.toList :=
      Text.lineFeed_mem_lowerAfter false _
    have cut := plain.find?_withoutModifier inside blank (Text.lowerChars modifier.toList)
    rw [← List.append_assoc, ← shape, known] at cut
    simp only [scalarFor, whole, cut, feed]

instance (a : Adapter) : Decidable a.IsPlain :=
  List.decidableBAll
    (fun key : String => '(' ∉ key.toList ∧ Text.Trimmed Text.isBlank key.toList) a.scalars.keys

/-- The shipped adapters know plain types only. -/
theorem isPlain_shipped : sqlite.IsPlain ∧ postgres.IsPlain := by decide

/-- Parentheses and a carriage return in the modifier, and blanks of other scripts around it. -/
theorem scalarFor_modified_varchar :
    IsModified " VarChar\t(max (25)\r5)\u2028" "VarChar" "max (25)\r5" ∧
      postgres.scalarFor " VarChar\t(max (25)\r5)\u2028" = some "string" := by
  have modified : IsModified " VarChar\t(max (25)\r5)\u2028" "VarChar" "max (25)\r5" :=
    ⟨[' '], ['\t'], ['\u2028'], List.all_eq_true.1 (by decide), by decide⟩
  have known : postgres.scalars.find? "varchar" = some "string" := by decide
  have spelled : Text.lower "VarChar" = "varchar" := by decide +kernel
  have mapped := (scalarFor_modified isPlain_shipped.2 known spelled modified).2
  rw [if_neg (by decide)] at mapped
  exact ⟨modified, mapped⟩

/-- A line feed in the modifier hides a type that is known. -/
theorem numeric_with_line_feed_unknown :
    sqlite.IsPlain ∧ sqlite.scalars.find? "numeric" = some "number" ∧
      Text.lower "NUMERIC" = "numeric" ∧
      IsModified "NUMERIC(10,\n2)" "NUMERIC" "10,\n2" ∧
      sqlite.scalarFor "NUMERIC(10,\n2)" = none := by
  have modified : IsModified "NUMERIC(10,\n2)" "NUMERIC" "10,\n2" :=
    ⟨[], [], [], List.all_eq_true.1 (by decide), by decide⟩
  exact ⟨isPlain_shipped.1, by decide, by decide +kernel, modified, by decide +kernel⟩

end Adapter

end CatalogTypes
