import CatalogTypes.Catalog.Glob
import CatalogTypes.Text.Blank
import Mathlib.Data.List.Infix

/-!
# What glob patterns stand for

**Theorem (`Glob.isMatch_iff`).** A text matches a pattern exactly if the pattern stands for it,
read from the left: `*` for any text, `?` for any character, brackets for a character of their set,
and every other character for itself.

The content of brackets ends at the first closing bracket that does not come first in it
(`bracket?_eq_some_iff`).  It is read from the left as well, as ranges and single characters, of
which the backward ranges hold nothing (`contains_charSet_iff`).  The matcher cuts the content at
hyphens instead, and joins what is left of two parts where the range between them was backward;
`pieceList` goes through the same steps range by range.
-/

namespace CatalogTypes.Glob

/-! ## The meaning of a pattern -/

/-- The ranges of a set, from the left: one where a hyphen stands between two characters, and a
range of its own for any other character. -/
def members : List Char → List (Char × Char)
  | low :: '-' :: high :: rest => (low, high) :: members rest
  | c :: rest => (c, c) :: members rest
  | [] => []

/-- Whether one of the ranges holds a character. -/
def Holds (ranges : List (Char × Char)) (c : Char) : Prop :=
  ∃ range ∈ ranges, range.1 ≤ c ∧ c ≤ range.2

/-- The content of a set without the backward ranges that come first in it. -/
def dropFirstBackward : List Char → List Char
  | low :: '-' :: high :: rest =>
    if high < low then dropFirstBackward rest else low :: '-' :: high :: rest
  | content => content

/-- Whether a character is of the set with a content that has no backward range first in it.  The
mark of a complement makes no range with a hyphen behind it. -/
def InKeptSet : List Char → Char → Prop
  | '!' :: '-' :: next :: rest, c => ¬Holds (('-', '-') :: (next, next) :: members rest) c
  | '!' :: rest, c => ¬Holds (members rest) c
  | content, c => Holds (members content) c

/-- Whether a character is of the set with a content: one that its ranges hold or, after the mark
of a complement, one that they do not hold.  The mark is seen also where it comes first because the
ranges before it are backward. -/
def InSet : List Char → Char → Prop
  | '!' :: rest, c => ¬Holds (members rest) c
  | content, c => InKeptSet (dropFirstBackward content) c

/-- The content of a set after the mark of a complement, if it has one. -/
def unmarked : List Char → List Char
  | '!' :: rest => rest
  | content => content

/-- A text can stand between brackets: it is not empty, and no closing bracket is in it unless it
comes first, the mark of a complement apart. -/
structure IsContent (content : List Char) : Prop where
  nonempty : unmarked content ≠ []
  closed : ']' ∉ (unmarked content).tail

/-- A pattern stands for a text. -/
inductive StandsFor : List Char → List Char → Prop
  | empty : StandsFor [] []
  | anyText (passed : List Char) {pattern text : List Char} (rest : StandsFor pattern text) :
    StandsFor ('*' :: pattern) (passed ++ text)
  | anyChar (c : Char) {pattern text : List Char} (rest : StandsFor pattern text) :
    StandsFor ('?' :: pattern) (c :: text)
  | set {content : List Char} {c : Char} {pattern text : List Char} (whole : IsContent content)
    (within : InSet content c) (rest : StandsFor pattern text) :
    StandsFor ('[' :: (content ++ ']' :: pattern)) (c :: text)
  | bracket {pattern text : List Char}
    (unclosed : ∀ content after, pattern = content ++ ']' :: after → ¬IsContent content)
    (rest : StandsFor pattern text) : StandsFor ('[' :: pattern) ('[' :: text)
  | char {c : Char} {pattern text : List Char} (plain : c ≠ '*' ∧ c ≠ '?' ∧ c ≠ '[')
    (rest : StandsFor pattern text) : StandsFor (c :: pattern) (c :: text)

/-! ## The content of brackets -/

theorem optionally_cons_self (c : Char) (rest : List Char) :
    optionally c (c :: rest) = ([c], rest) := if_pos rfl

theorem optionally_of_head?_ne {c : Char} {cs : List Char} (h : cs.head? ≠ some c) :
    optionally c cs = ([], cs) := by
  cases cs with
  | nil => rfl
  | cons d rest => exact if_neg fun same => h (congrArg some same)

/-- The content of a set after the mark of a complement, and what follows its closing bracket. -/
def unmarkedBracket? (cs : List Char) : Option (List Char × List Char) :=
  match (optionally ']' cs).2.dropWhile (· ≠ ']') with
  | [] => none
  | _ :: after => some ((optionally ']' cs).1 ++ (optionally ']' cs).2.takeWhile (· ≠ ']'), after)

theorem bracket?_eq (cs : List Char) :
    bracket? cs = (unmarkedBracket? (optionally '!' cs).2).map fun (inner, after) =>
      ((optionally '!' cs).1 ++ inner, after) := by
  unfold bracket? unmarkedBracket?
  dsimp only
  split <;> simp_all

theorem eq_append_of_dropWhile {cs left : List Char} {c : Char}
    (h : cs.dropWhile (· ≠ ']') = c :: left) :
    cs = cs.takeWhile (· ≠ ']') ++ ']' :: left ∧ ']' ∉ cs.takeWhile (· ≠ ']') := by
  have ended := Text.head?_dropWhile (· ≠ ']') cs
  have whole := List.takeWhile_append_dropWhile (p := (· ≠ ']')) (l := cs)
  rw [h] at ended whole
  obtain rfl : c = ']' := by simpa using ended c rfl
  exact ⟨whole.symm, fun inside => by simpa using List.all_eq_true.1 List.all_takeWhile _ inside⟩

theorem unmarkedBracket?_eq_some_iff {cs inner after : List Char} :
    unmarkedBracket? cs = some (inner, after) ↔
      cs = inner ++ ']' :: after ∧ inner ≠ [] ∧ ']' ∉ inner.tail := by
  constructor
  · intro found
    unfold unmarkedBracket? at found
    split at found
    · cases found
    · next left shape =>
      obtain ⟨rfl, rfl⟩ := Prod.mk.inj (Option.some.inj found)
      obtain ⟨whole, passed⟩ := eq_append_of_dropWhile shape
      by_cases first : cs.head? = some ']'
      · obtain ⟨rest, rfl⟩ := List.head?_eq_some_iff.1 first
        rw [optionally_cons_self] at whole passed ⊢
        exact ⟨congrArg (List.cons _) whole, List.cons_ne_nil _ _, passed⟩
      · rw [optionally_of_head?_ne first] at whole passed ⊢
        refine ⟨whole, fun empty => first ?_, fun inside => passed (List.mem_of_mem_tail inside)⟩
        rw [show cs = ']' :: left from whole.trans (congrArg (· ++ ']' :: left) empty)]
        rfl
  · rintro ⟨rfl, nonempty, closed⟩
    obtain ⟨c, rest, rfl⟩ := List.exists_cons_of_ne_nil nonempty
    by_cases first : c = ']'
    · subst first
      obtain ⟨passed, left⟩ := Text.cut_at (show ']' ∉ rest from closed) after
      rw [unmarkedBracket?, List.cons_append, optionally_cons_self, left, passed]
      rfl
    · have apart : ']' ∉ c :: rest := fun inside => by
        rcases List.mem_cons.1 inside with same | inside
        · exact first same.symm
        · exact closed inside
      obtain ⟨passed, left⟩ := Text.cut_at apart after
      rw [unmarkedBracket?, optionally_of_head?_ne (by simpa using first), left, passed]
      rfl

theorem unmarked_of_head?_append_ne {content rest : List Char}
    (h : (content ++ rest).head? ≠ some '!') : unmarked content = content := by
  unfold unmarked
  split
  · exact absurd rfl h
  · rfl

/-- **The content of brackets ends at the first closing bracket that does not come first.** -/
theorem bracket?_eq_some_iff {cs content after : List Char} :
    bracket? cs = some (content, after) ↔ cs = content ++ ']' :: after ∧ IsContent content := by
  rw [bracket?_eq, Option.map_eq_some_iff]
  by_cases mark : cs.head? = some '!'
  · obtain ⟨rest, rfl⟩ := List.head?_eq_some_iff.1 mark
    rw [optionally_cons_self]
    constructor
    · rintro ⟨⟨inner, left⟩, found, same⟩
      obtain ⟨rfl, rfl⟩ := Prod.mk.inj same
      obtain ⟨rfl, nonempty, closed⟩ := unmarkedBracket?_eq_some_iff.1 found
      exact ⟨rfl, nonempty, closed⟩
    · rintro ⟨shape, nonempty, closed⟩
      obtain ⟨inner, rfl⟩ : ∃ inner, content = '!' :: inner := by
        cases content with
        | nil => exact absurd rfl nonempty
        | cons c inner => exact ⟨inner, congrArg (· :: inner) (List.cons.inj shape).1.symm⟩
      exact ⟨(inner, after),
        unmarkedBracket?_eq_some_iff.2 ⟨(List.cons.inj shape).2, nonempty, closed⟩, rfl⟩
  · rw [optionally_of_head?_ne mark]
    constructor
    · rintro ⟨⟨inner, left⟩, found, same⟩
      obtain ⟨rfl, rfl⟩ := Prod.mk.inj same
      obtain ⟨rfl, nonempty, closed⟩ := unmarkedBracket?_eq_some_iff.1 found
      have plain := unmarked_of_head?_append_ne mark
      exact ⟨rfl, plain.symm ▸ nonempty, plain.symm ▸ closed⟩
    · rintro ⟨rfl, nonempty, closed⟩
      rw [unmarked_of_head?_append_ne mark] at nonempty closed
      exact ⟨(content, after), unmarkedBracket?_eq_some_iff.2 ⟨rfl, nonempty, closed⟩, rfl⟩

/-! ## The set of a content -/

/-- The parts of a content cut at the hyphens that make ranges, without the backward ranges. -/
def leftParts : List Char → List (List Char)
  | low :: '-' :: high :: rest =>
    if high < low then leftParts rest else [low] :: (leftParts rest).modifyHead (high :: ·)
  | c :: rest => (leftParts rest).modifyHead (c :: ·)
  | [] => [[]]

/-- What follows a character makes no range with it. -/
def IsApart (rest : List Char) : Prop := ∀ high more, rest = '-' :: high :: more → False

variable {c : Char} {rest : List Char}

theorem members_cons (apart : IsApart rest) : members (c :: rest) = (c, c) :: members rest :=
  members.eq_2 c rest apart

theorem leftParts_cons (apart : IsApart rest) :
    leftParts (c :: rest) = (leftParts rest).modifyHead (c :: ·) :=
  leftParts.eq_2 c rest apart

theorem dropFirstBackward_cons (apart : IsApart rest) :
    dropFirstBackward (c :: rest) = c :: rest :=
  dropFirstBackward.eq_2 (c :: rest) fun _ high more shape => apart high more (List.cons.inj shape).2

/-- A content is empty, or starts with a range or with a character that makes none. -/
theorem contentInduction {motive : List Char → Prop} (empty : motive [])
    (range : ∀ low high rest, motive rest → motive (low :: '-' :: high :: rest))
    (single : ∀ c rest, IsApart rest → motive rest → motive (c :: rest)) (content : List Char) :
    motive content := by
  fun_induction members content with
  | case1 low high rest ih => exact range low high rest ih
  | case2 c rest apart ih => exact single c rest apart ih
  | case3 => exact empty

/-! ### Cutting -/

theorem cutRanges_cons (apart : IsApart rest) (part : List Char) :
    cutRanges 1 part (c :: rest) = cutRanges 1 (c :: part) rest := by
  cases rest with
  | nil => simp [cutRanges]
  | cons d more =>
    by_cases hyphen : d = '-'
    · subst hyphen
      cases more with
      | nil => simp [cutRanges]
      | cons high more => exact (apart high more rfl).elim
    · simp [cutRanges, hyphen]

theorem cutRanges_range (part : List Char) (low high : Char) (rest : List Char) :
    cutRanges 1 part (low :: '-' :: high :: rest) =
      (low :: part).reverse :: cutRanges 1 [high] rest := by
  simp [cutRanges]

/-- Only the last of the parts that are left may be empty. -/
theorem exists_leftParts (content : List Char) :
    ∃ first more, leftParts content = first :: more ∧ (first = [] → more = []) := by
  induction content using contentInduction with
  | empty => exact ⟨[], [], rfl, fun _ => rfl⟩
  | range low high rest ih =>
    rw [leftParts]
    split
    · exact ih
    · exact ⟨_, _, rfl, fun empty => absurd empty (List.cons_ne_nil low [])⟩
  | single c rest apart ih =>
    obtain ⟨first, more, left, -⟩ := ih
    rw [leftParts_cons apart, left]
    exact ⟨c :: first, more, rfl, fun empty => absurd empty (List.cons_ne_nil c first)⟩

/-- **Cutting and joining leaves the parts without the backward ranges.** -/
theorem dropBackward_cutRanges (part content : List Char) :
    dropBackward (cutRanges 1 part content) =
      (leftParts content).modifyHead (part.reverse ++ ·) := by
  induction content using contentInduction generalizing part with
  | empty => simp [cutRanges, dropBackward, leftParts]
  | range low high rest ih =>
    obtain ⟨first, more, left, -⟩ := exists_leftParts rest
    rw [cutRanges_range, dropBackward, ih, leftParts, left]
    by_cases backward : high < low <;> simp [backward]
  | single c rest apart ih =>
    obtain ⟨first, more, left, -⟩ := exists_leftParts rest
    rw [cutRanges_cons apart, ih, leftParts_cons apart, left]
    simp

theorem leftParts_of_no_hyphen {content : List Char} (h : '-' ∉ content) :
    leftParts content = [content] := by
  induction content with
  | nil => rfl
  | cons c rest ih =>
    obtain ⟨-, plain⟩ := List.ne_and_not_mem_of_not_mem_cons h
    rw [leftParts_cons fun _ _ shape => plain (by simp [shape]), ih plain]
    rfl

/-! ### Reading -/

/-- Whether a character is in one of the parts or in a range between two of them. -/
def InParts (parts : List (List Char)) (c : Char) : Prop :=
  c ∈ parts.flatten ∨ Holds (rangesBetween parts) c

theorem holds_cons {range : Char × Char} {ranges : List (Char × Char)} :
    Holds (range :: ranges) c ↔ (range.1 ≤ c ∧ c ≤ range.2) ∨ Holds ranges c := by
  simp [Holds]

theorem holds_single {d : Char} {ranges : List (Char × Char)} :
    Holds ((d, d) :: ranges) c ↔ c = d ∨ Holds ranges c := by
  refine holds_cons.trans (or_congr_left ⟨fun ⟨above, below⟩ => Char.le_antisymm below above, ?_⟩)
  rintro rfl
  exact ⟨Char.le_refl c, Char.le_refl c⟩

theorem rangesBetween_cons {first : List Char} {more : List (List Char)}
    (last : first = [] → more = []) :
    rangesBetween ((c :: first) :: more) = rangesBetween (first :: more) := by
  cases more with
  | nil => rfl
  | cons next more =>
    cases first with
    | nil => exact absurd (last rfl) (List.cons_ne_nil next more)
    | cons d first => simp [rangesBetween, List.getLast?_cons_cons]

theorem inParts_cons {d : Char} {first : List Char} {more : List (List Char)}
    (last : first = [] → more = []) :
    InParts ((d :: first) :: more) c ↔ c = d ∨ InParts (first :: more) c := by
  simp [InParts, rangesBetween_cons last, or_assoc]

/-- **The parts that are left hold what the ranges of the content hold.** -/
theorem inParts_leftParts (content : List Char) (c : Char) :
    InParts (leftParts content) c ↔ Holds (members content) c := by
  induction content using contentInduction with
  | empty => simp [InParts, leftParts, rangesBetween, members, Holds]
  | range low high rest ih =>
    obtain ⟨first, more, left, last⟩ := exists_leftParts rest
    rw [leftParts, members, holds_cons, ← ih, left]
    by_cases backward : high < low
    · have nothing : ¬(low ≤ c ∧ c ≤ high) := fun ⟨above, below⟩ =>
        Char.not_le.2 backward (Char.le_trans above below)
      simp [backward, nothing]
    · have forward : low ≤ high := Char.not_lt.1 backward
      have parts : InParts ([low] :: (high :: first) :: more) c ↔
          c = low ∨ (low ≤ c ∧ c ≤ high) ∨ InParts ((high :: first) :: more) c := by
        simp [InParts, rangesBetween, holds_cons, or_assoc, or_left_comm]
      rw [if_neg backward]
      show InParts ([low] :: (high :: first) :: more) c ↔ _
      rw [parts, inParts_cons last]
      constructor
      · rintro (rfl | between | rfl | inside)
        · exact .inl ⟨Char.le_refl c, forward⟩
        · exact .inl between
        · exact .inl ⟨forward, Char.le_refl c⟩
        · exact .inr inside
      · rintro (between | inside)
        · exact .inr (.inl between)
        · exact .inr (.inr (.inr inside))
  | single d rest apart ih =>
    obtain ⟨first, more, left, last⟩ := exists_leftParts rest
    rw [leftParts_cons apart, members_cons apart, holds_single, ← ih, left]
    exact inParts_cons last

/-! ### Complements -/

theorem leftParts_dropFirstBackward (content : List Char) :
    leftParts (dropFirstBackward content) = leftParts content := by
  induction content using contentInduction with
  | empty => rfl
  | range low high rest ih =>
    rw [dropFirstBackward]
    split
    · next backward => rw [ih, leftParts, if_pos backward]
    · rfl
  | single c rest apart ih => rw [dropFirstBackward_cons apart]

/-- Without the backward ranges a content is empty, or starts with a range that is not backward or
with a character that makes none. -/
theorem dropFirstBackward_cases (content : List Char) :
    dropFirstBackward content = [] ∨
      (∃ low high rest, ¬high < low ∧ dropFirstBackward content = low :: '-' :: high :: rest) ∨
      ∃ c rest, IsApart rest ∧ dropFirstBackward content = c :: rest := by
  induction content using contentInduction with
  | empty => exact .inl rfl
  | range low high rest ih =>
    rw [dropFirstBackward]
    split
    · exact ih
    · next forward => exact .inr (.inl ⟨low, high, rest, forward, rfl⟩)
  | single c rest apart _ => exact .inr (.inr ⟨c, rest, apart, dropFirstBackward_cons apart⟩)

theorem setParts_of_mark (rest : List Char) :
    setParts ('!' :: rest) = (leftParts rest).modifyHead ('!' :: ·) := by
  unfold setParts
  split
  · have cut : cutRanges 2 [] ('!' :: rest) = cutRanges 1 ['!'] rest := by simp [cutRanges]
    rw [List.head?_cons, if_pos rfl, cut, dropBackward_cutRanges]
    rfl
  · next plain =>
    rw [leftParts_of_no_hyphen fun inside => plain (by simp [inside])]
    rfl

theorem setParts_of_no_mark {content : List Char} (h : content.head? ≠ some '!') :
    setParts content = leftParts content := by
  unfold setParts
  split
  · rw [dropBackward_cutRanges]
    exact congrFun List.modifyHead_id _
  · next plain => rw [leftParts_of_no_hyphen fun inside => plain (by simp [inside])]

theorem contains_plain (parts : List (List Char)) (c : Char) :
    (CharSet.mk false parts.flatten (rangesBetween parts)).contains c = true ↔ InParts parts c := by
  simp [CharSet.contains, InParts, Holds]

theorem contains_complement (singles : List Char) (ranges : List (Char × Char)) (c : Char) :
    (CharSet.mk true singles ranges).contains c = true ↔ ¬(c ∈ singles ∨ Holds ranges c) := by
  simp [CharSet.contains, Holds]

theorem contains_setOfParts_mark {first : List Char} {more : List (List Char)}
    (last : first = [] → more = []) :
    (setOfParts (('!' :: first) :: more)).contains c = true ↔ ¬InParts (first :: more) c := by
  cases first with
  | nil =>
    obtain rfl := last rfl
    exact contains_complement _ _ c
  | cons d first => exact contains_complement _ _ c

theorem contains_setOfParts_range (next : List Char) (more : List (List Char)) (c : Char) :
    (setOfParts (['!'] :: next :: more)).contains c = true ↔
      ¬(c = '-' ∨ InParts (next :: more) c) := by
  rw [setOfParts, contains_complement, List.mem_cons, or_assoc]
  rfl

theorem contains_setOfParts {parts : List (List Char)}
    (plain : ∀ first more, parts ≠ ('!' :: first) :: more) :
    (setOfParts parts).contains c = true ↔ InParts parts c := by
  rw [setOfParts.eq_3 parts (fun next more => plain [] (next :: more)) plain]
  exact contains_plain parts c

/-- **The set of a content is what its ranges hold**, or what they do not hold. -/
theorem contains_charSet_iff (content : List Char) (c : Char) :
    (charSet content).contains c = true ↔ InSet content c := by
  rw [charSet]
  by_cases mark : content.head? = some '!'
  · obtain ⟨rest, rfl⟩ := List.head?_eq_some_iff.1 mark
    obtain ⟨first, more, left, last⟩ := exists_leftParts rest
    rw [setParts_of_mark, left]
    exact (contains_setOfParts_mark last).trans (not_congr (left ▸ inParts_leftParts rest c))
  have kept : InSet content c = InKeptSet (dropFirstBackward content) c :=
    InSet.eq_2 content c fun rest shape => mark (shape ▸ rfl)
  rw [setParts_of_no_mark mark, kept, ← leftParts_dropFirstBackward]
  rcases dropFirstBackward_cases content with none_left | ⟨low, high, rest, forward, shape⟩ |
    ⟨d, rest, apart, shape⟩
  · rw [none_left]
    exact contains_plain [[]] c |>.trans (inParts_leftParts [] c)
  · obtain ⟨first, more, left, last⟩ := exists_leftParts rest
    by_cases marked : low = '!'
    · subst marked
      rw [shape, leftParts, if_neg forward, left]
      refine (contains_setOfParts_range (high :: first) more c).trans (not_congr ?_)
      rw [holds_single, holds_single, inParts_cons last, ← left, inParts_leftParts]
    · have parts := leftParts.eq_1 low high rest
      rw [if_neg forward, left] at parts
      rw [shape, InKeptSet.eq_3 _ c (by simp [marked]) (by simp [marked]), ← inParts_leftParts]
      exact contains_setOfParts (by simp [parts, marked])
  · obtain ⟨first, more, left, last⟩ := exists_leftParts rest
    by_cases marked : d = '!'
    · subst marked
      rw [shape, InKeptSet.eq_2 c rest apart, leftParts_cons apart, left]
      exact (contains_setOfParts_mark last).trans (not_congr (left ▸ inParts_leftParts rest c))
    · have parts := leftParts_cons (c := d) apart
      rw [left] at parts
      rw [shape, InKeptSet.eq_3 _ c (by simp [marked]) (by simp [marked]), ← inParts_leftParts]
      exact contains_setOfParts (by simp [parts, marked])

/-! ## Patterns -/

theorem ends_eq_tails (cs : List Char) : ends cs = cs.tails := by
  induction cs with
  | nil => rfl
  | cons c cs ih => rw [ends, ih, List.tails]

theorem fits_anyText_iff {more : List Piece} {text : List Char} :
    fits (.anyText :: more) text = true ↔
      ∃ passed rest, text = passed ++ rest ∧ fits more rest = true := by
  rw [fits, ends_eq_tails, List.any_eq_true]
  constructor
  · rintro ⟨rest, there, fit⟩
    obtain ⟨passed, whole⟩ := (List.mem_tails _ _).1 there
    exact ⟨passed, rest, whole.symm, fit⟩
  · rintro ⟨passed, rest, rfl, fit⟩
    exact ⟨rest, (List.mem_tails _ _).2 (List.suffix_append passed rest), fit⟩

theorem fits_anyChar_iff {more : List Piece} {text : List Char} :
    fits (.anyChar :: more) text = true ↔ ∃ c rest, text = c :: rest ∧ fits more rest = true := by
  cases text with
  | nil => simp [fits]
  | cons c rest => simp [fits]

theorem fits_char_iff {c : Char} {more : List Piece} {text : List Char} :
    fits (.char c :: more) text = true ↔ ∃ rest, text = c :: rest ∧ fits more rest = true := by
  cases text with
  | nil => simp [fits]
  | cons d rest => simp [fits, eq_comm (a := c)]

theorem fits_set_iff {s : CharSet} {more : List Piece} {text : List Char} :
    fits (.set s :: more) text = true ↔
      ∃ c rest, text = c :: rest ∧ s.contains c = true ∧ fits more rest = true := by
  cases text with
  | nil => simp [fits]
  | cons c rest => simp [fits]

section

variable {pattern text : List Char}

theorem standsFor_nil_iff : StandsFor [] text ↔ text = [] := by
  constructor
  · rintro ⟨⟩
    rfl
  · rintro rfl
    exact .empty

theorem standsFor_anyText_iff : StandsFor ('*' :: pattern) text ↔
    ∃ passed rest, text = passed ++ rest ∧ StandsFor pattern rest := by
  constructor
  · intro stands
    cases stands with
    | anyText passed rest => exact ⟨passed, _, rfl, rest⟩
    | char plain _ => exact absurd rfl plain.1
  · rintro ⟨passed, rest, rfl, stands⟩
    exact .anyText passed stands

theorem standsFor_anyChar_iff : StandsFor ('?' :: pattern) text ↔
    ∃ c rest, text = c :: rest ∧ StandsFor pattern rest := by
  constructor
  · intro stands
    cases stands with
    | anyChar c rest => exact ⟨c, _, rfl, rest⟩
    | char plain _ => exact absurd rfl plain.2.1
  · rintro ⟨c, rest, rfl, stands⟩
    exact .anyChar c stands

theorem standsFor_set_iff {content after : List Char} (whole : IsContent content) :
    StandsFor ('[' :: (content ++ ']' :: after)) text ↔
      ∃ c rest, text = c :: rest ∧ InSet content c ∧ StandsFor after rest := by
  constructor
  · intro stands
    generalize shape : content ++ ']' :: after = pattern at stands
    cases stands with
    | set whole' within rest =>
      -- the content ends in one place only
      have same := (bracket?_eq_some_iff.2 ⟨shape.symm, whole⟩).symm.trans
        (bracket?_eq_some_iff.2 ⟨rfl, whole'⟩)
      obtain ⟨rfl, rfl⟩ := Prod.mk.inj (Option.some.inj same)
      exact ⟨_, _, rfl, within, rest⟩
    | bracket unclosed _ => exact absurd whole (unclosed content after shape.symm)
    | char plain _ => exact absurd rfl plain.2.2
  · rintro ⟨c, rest, rfl, within, stands⟩
    exact .set whole within stands

theorem standsFor_bracket_iff
    (unclosed : ∀ content after, pattern = content ++ ']' :: after → ¬IsContent content) :
    StandsFor ('[' :: pattern) text ↔ ∃ rest, text = '[' :: rest ∧ StandsFor pattern rest := by
  constructor
  · intro stands
    cases stands with
    | set whole _ _ => exact absurd whole (unclosed _ _ rfl)
    | bracket _ rest => exact ⟨_, rfl, rest⟩
    | char plain _ => exact absurd rfl plain.2.2
  · rintro ⟨rest, rfl, stands⟩
    exact .bracket unclosed stands

theorem standsFor_char_iff {c : Char} (plain : c ≠ '*' ∧ c ≠ '?' ∧ c ≠ '[') :
    StandsFor (c :: pattern) text ↔ ∃ rest, text = c :: rest ∧ StandsFor pattern rest := by
  constructor
  · intro stands
    cases stands with
    | anyText => exact absurd rfl plain.1
    | anyChar => exact absurd rfl plain.2.1
    | set | bracket => exact absurd rfl plain.2.2
    | char _ rest => exact ⟨_, rfl, rest⟩
  · rintro ⟨rest, rfl, stands⟩
    exact .char plain stands

end

/-- **The pieces of a pattern fit the texts that it stands for.** -/
theorem fits_pieces_iff (pattern text : List Char) :
    fits (pieces pattern) text = true ↔ StandsFor pattern text := by
  fun_induction pieces pattern generalizing text with
  | case1 => rw [fits, List.isEmpty_iff, standsFor_nil_iff]
  | case2 rest ih => simp only [fits_anyText_iff, standsFor_anyText_iff, ih]
  | case3 rest _ ih => simp only [fits_anyChar_iff, standsFor_anyChar_iff, ih]
  | case4 rest content after found _ _ ih =>
    obtain ⟨rfl, whole⟩ := bracket?_eq_some_iff.1 found
    simp only [fits_set_iff, standsFor_set_iff whole, contains_charSet_iff, ih]
  | case5 rest none_found _ _ ih =>
    have unclosed : ∀ content after, rest = content ++ ']' :: after → ¬IsContent content := by
      intro content after shape whole
      rw [bracket?_eq_some_iff.2 ⟨shape, whole⟩] at none_found
      cases none_found
    simp only [fits_char_iff, standsFor_bracket_iff unclosed, ih]
  | case6 c rest star mark bracket ih =>
    simp only [fits_char_iff, standsFor_char_iff ⟨star, mark, bracket⟩, ih]

/-- **A text matches a pattern exactly if the pattern stands for it.** -/
theorem isMatch_iff (pattern text : String) :
    isMatch pattern text = true ↔ StandsFor pattern.toList text.toList := by
  rw [isMatch_eq_fits, fits_pieces_iff]

end CatalogTypes.Glob
