/-!
# Blank characters, words and lines

Two classes of blanks are in use.  `isBlank` is the blank of free text, in every script: the five
ASCII layout controls, the four information separators, the next-line control and the space
separators.  `isAsciiBlank` is the blank of a keyword grammar: space, tab, line feed, vertical
tab, form feed and carriage return.

Trimming, splitting into words and splitting into lines are stated over lists of characters; the
functions on strings convert and call them.
-/

namespace CatalogTypes.Text

/-! ## Classes -/

/-- The blanks of free text. -/
def isBlank (c : Char) : Bool :=
  let n := c.toNat
  (9 ≤ n && n ≤ 13) || (28 ≤ n && n ≤ 32) || n = 0x85 || n = 0xA0 || n = 0x1680 ||
    (0x2000 ≤ n && n ≤ 0x200A) || n = 0x2028 || n = 0x2029 || n = 0x202F || n = 0x205F || n = 0x3000

/-- The blanks of a keyword grammar. -/
def isAsciiBlank (c : Char) : Bool :=
  c = ' ' || (9 ≤ c.toNat && c.toNat ≤ 13)

/-- The blanks that stay within a line of an environment file. -/
def isInlineBlank (c : Char) : Bool := isBlank c && c ≠ '\r' && c ≠ '\n'

/-- The characters that end a line. -/
def isLineBreak (c : Char) : Bool :=
  let n := c.toNat
  (10 ≤ n && n ≤ 13) || (28 ≤ n && n ≤ 30) || n = 0x85 || n = 0x2028 || n = 0x2029

theorem isBlank_of_isAsciiBlank {c : Char} (h : isAsciiBlank c = true) : isBlank c = true := by
  simp only [isAsciiBlank, Bool.or_eq_true, decide_eq_true_eq, Bool.and_eq_true] at h
  rcases h with rfl | ⟨h₁, h₂⟩
  · decide
  · simp [isBlank, h₁, h₂]

/-! ## Trimming -/

/-- The list without the characters of the class at its end. -/
def trimEndBy (p : Char → Bool) (cs : List Char) : List Char :=
  (cs.reverse.dropWhile p).reverse

/-- The list without the characters of the class at either end. -/
def trimBy (p : Char → Bool) (cs : List Char) : List Char :=
  trimEndBy p (cs.dropWhile p)

/-- The list has no character of the class at either end. -/
def Trimmed (p : Char → Bool) (cs : List Char) : Prop :=
  (∀ c ∈ cs.head?, p c = false) ∧ ∀ c ∈ cs.getLast?, p c = false

theorem head?_dropWhile (p : Char → Bool) (cs : List Char) :
    ∀ c ∈ (cs.dropWhile p).head?, p c = false := by
  intro c hc
  have h := List.head?_dropWhile_not p cs
  rw [Option.mem_def.1 hc] at h
  exact h

theorem dropWhile_eq_self {p : Char → Bool} {cs : List Char} (h : ∀ c ∈ cs.head?, p c = false) :
    cs.dropWhile p = cs := by
  cases cs with
  | nil => rfl
  | cons c cs => exact List.dropWhile_cons_of_neg (by simp [h c rfl])

/-- What is of the class is cut off where something follows that is not. -/
theorem cut_append {p : Char → Bool} {cs rest : List Char} (inside : ∀ c ∈ cs, p c = true)
    (ended : ∀ c ∈ rest.head?, p c = false) :
    (cs ++ rest).takeWhile p = cs ∧ (cs ++ rest).dropWhile p = rest := by
  have dropped : (cs ++ rest).dropWhile p = rest := by
    rw [List.dropWhile_append_of_pos inside, dropWhile_eq_self ended]
  have whole := List.takeWhile_append_dropWhile (p := p) (l := cs ++ rest)
  rw [dropped] at whole
  exact ⟨List.append_cancel_right whole, dropped⟩

/-- A text is cut off at a mark that is not in it. -/
theorem cut_at {mark : Char} {cs : List Char} (absent : mark ∉ cs) (rest : List Char) :
    (cs ++ mark :: rest).takeWhile (· ≠ mark) = cs ∧
      (cs ++ mark :: rest).dropWhile (· ≠ mark) = mark :: rest :=
  cut_append (fun _ inside => decide_eq_true fun same => absent (same ▸ inside)) (by simp)

/-- A list is its trimmed form between characters of the class. -/
theorem exists_trimBy (p : Char → Bool) (cs : List Char) :
    ∃ lead trail, cs = lead ++ trimBy p cs ++ trail ∧
      (∀ c ∈ lead, p c = true) ∧ ∀ c ∈ trail, p c = true := by
  refine ⟨cs.takeWhile p, ((cs.dropWhile p).reverse.takeWhile p).reverse, ?_, ?_, ?_⟩
  · rw [trimBy, trimEndBy, List.append_assoc, ← List.reverse_append,
      List.takeWhile_append_dropWhile, List.reverse_reverse, List.takeWhile_append_dropWhile]
  · intro c hc
    exact List.all_eq_true.1 List.all_takeWhile c hc
  · intro c hc
    exact List.all_eq_true.1 List.all_takeWhile c (List.mem_reverse.1 hc)

theorem trimmed_trimBy (p : Char → Bool) (cs : List Char) : Trimmed p (trimBy p cs) := by
  constructor
  · intro c hc
    have hprefix : trimBy p cs <+: cs.dropWhile p := by
      rw [← List.reverse_suffix, trimBy, trimEndBy, List.reverse_reverse]
      exact List.dropWhile_suffix p
    obtain ⟨trail, hsplit⟩ := hprefix
    refine head?_dropWhile p cs c ?_
    rw [← hsplit, List.head?_append, Option.mem_def.1 hc]
    rfl
  · intro c hc
    rw [trimBy, trimEndBy, List.getLast?_reverse] at hc
    exact head?_dropWhile p _ c hc

/-- A list from a character to a character that are not of the class is trimmed. -/
theorem trimmed_concat {p : Char → Bool} {cs : List Char} {last : Char}
    (first : ∀ c ∈ (cs ++ [last]).head?, p c = false) (solid : p last = false) :
    Trimmed p (cs ++ [last]) := by
  refine ⟨first, fun c ends => ?_⟩
  rw [List.getLast?_concat] at ends
  rwa [← Option.some.inj ends]

theorem trimBy_eq_self {p : Char → Bool} {cs : List Char} (h : Trimmed p cs) :
    trimBy p cs = cs := by
  have hlast : ∀ c ∈ cs.reverse.head?, p c = false := by
    rw [List.head?_reverse]
    exact h.2
  rw [trimBy, dropWhile_eq_self h.1, trimEndBy, dropWhile_eq_self hlast, List.reverse_reverse]

theorem trimmed_iff {p : Char → Bool} {cs : List Char} : Trimmed p cs ↔ trimBy p cs = cs :=
  ⟨trimBy_eq_self, fun same => same ▸ trimmed_trimBy p cs⟩

instance (p : Char → Bool) (cs : List Char) : Decidable (Trimmed p cs) :=
  decidable_of_iff _ trimmed_iff.symm

theorem trimBy_trimBy (p : Char → Bool) (cs : List Char) : trimBy p (trimBy p cs) = trimBy p cs :=
  trimBy_eq_self (trimmed_trimBy p cs)

/-- Trimming takes off what stands around a trimmed list. -/
theorem trimBy_of_trimmed {p : Char → Bool} {lead cs trail : List Char}
    (hlead : ∀ c ∈ lead, p c = true) (htrail : ∀ c ∈ trail, p c = true) (h : Trimmed p cs) :
    trimBy p (lead ++ cs ++ trail) = cs := by
  have hend : ∀ c ∈ trail.reverse, p c = true := fun c hc => htrail c (List.mem_reverse.1 hc)
  cases cs with
  | nil =>
    rw [List.append_nil, trimBy, List.dropWhile_append_of_pos hlead]
    have hall : trail.dropWhile p = [] := by
      rw [← List.append_nil trail, List.dropWhile_append_of_pos htrail]
      rfl
    rw [hall]
    rfl
  | cons c cs =>
    have hstart : ∀ d ∈ (c :: cs ++ trail).head?, p d = false := h.1
    have hlast : ∀ d ∈ (c :: cs).reverse.head?, p d = false := by
      rw [List.head?_reverse]
      exact h.2
    rw [trimBy, List.append_assoc, List.dropWhile_append_of_pos hlead, dropWhile_eq_self hstart,
      trimEndBy, List.reverse_append, List.dropWhile_append_of_pos hend, dropWhile_eq_self hlast,
      List.reverse_reverse]

/-- Two characters of the class around a list are taken off with those at its ends. -/
theorem trimBy_between {p : Char → Bool} {left right : Char} (hleft : p left = true)
    (hright : p right = true) (cs : List Char) :
    trimBy p (left :: (cs ++ [right])) = trimBy p cs := by
  obtain ⟨lead, trail, shape, leads, trails⟩ := exists_trimBy p cs
  have trimmed := trimmed_trimBy p cs
  generalize trimBy p cs = inner at shape trimmed
  subst shape
  have whole : left :: (lead ++ inner ++ trail ++ [right]) =
      (left :: lead) ++ inner ++ (trail ++ [right]) := by simp
  rw [whole]
  refine trimBy_of_trimmed (List.forall_mem_cons.2 ⟨hleft, leads⟩) ?_ trimmed
  exact List.forall_mem_append.2 ⟨trails, List.forall_mem_singleton.2 hright⟩

/-- A text that ends in parentheses has no blanks at its ends if it does not begin with one. -/
theorem trimmed_append_parens {front : List Char} (solid : ∀ c ∈ front.head?, isBlank c = false)
    (inner : List Char) : Trimmed isBlank (front ++ '(' :: (inner ++ [')'])) := by
  rw [← List.cons_append, ← List.append_assoc]
  refine trimmed_concat (fun c first => ?_) (by decide)
  cases front with
  | nil =>
    obtain rfl : '(' = c := Option.some.inj first
    decide
  | cons => exact solid c first

/-- The list without the blanks at either end. -/
def trimChars (cs : List Char) : List Char := trimBy isBlank cs

/-- The text without the blanks at either end. -/
def trim (s : String) : String := String.ofList (trimChars s.toList)

/-! ## Splitting -/

/-- The pieces between the characters of the class: one more than there are such characters. -/
def splitBy (p : Char → Bool) : List Char → List (List Char)
  | [] => [[]]
  | c :: rest =>
    if p c then [] :: splitBy p rest
    else
      match splitBy p rest with
      | [] => [[c]]
      | piece :: pieces => (c :: piece) :: pieces

theorem splitBy_ne_nil (p : Char → Bool) (cs : List Char) : splitBy p cs ≠ [] := by
  cases cs with
  | nil => simp [splitBy]
  | cons c cs =>
    rw [splitBy]
    split
    · simp
    · split <;> simp

theorem splitBy_append {p : Char → Bool} {mark : Char} (h : p mark = true) (cs ds : List Char) :
    splitBy p (cs ++ mark :: ds) = splitBy p cs ++ splitBy p ds := by
  induction cs with
  | nil => simp [splitBy, h]
  | cons c cs ih =>
    rw [List.cons_append, splitBy, splitBy, ih]
    cases pieces : splitBy p cs with
    | nil => exact absurd pieces (splitBy_ne_nil p cs)
    | cons piece more => split <;> rfl

theorem splitBy_of_forall {p : Char → Bool} {cs : List Char} (h : ∀ c ∈ cs, p c = false) :
    splitBy p cs = [cs] := by
  induction cs with
  | nil => rfl
  | cons c cs ih =>
    rw [splitBy, ih fun d hd => h d (List.mem_cons_of_mem c hd)]
    simp [h c List.mem_cons_self]

section

variable {p : Char → Bool}

/-- A text is a piece without cuts, or such a piece before a cut and a further text. -/
theorem cutInduction {motive : List Char → Prop}
    (whole : ∀ piece, (∀ c ∈ piece, p c = false) → motive piece)
    (cut : ∀ piece mark rest, (∀ c ∈ piece, p c = false) → p mark = true → motive rest →
      motive (piece ++ mark :: rest)) (cs : List Char) : motive cs := by
  suffices h : ∀ piece, (∀ c ∈ piece, p c = false) → motive (piece ++ cs) from h [] (by simp)
  induction cs with
  | nil => simpa using whole
  | cons c cs ih =>
    intro piece plain
    cases here : p c with
    | true => exact cut piece c cs plain here (ih [] (by simp))
    | false =>
      rw [List.append_cons]
      refine ih _ fun d hd => ?_
      rcases List.mem_append.1 hd with hd | hd
      · exact plain d hd
      · rwa [List.mem_singleton.1 hd]

theorem splitBy_append_cons {piece : List Char} (plain : ∀ c ∈ piece, p c = false) {mark : Char}
    (cut : p mark = true) (rest : List Char) :
    splitBy p (piece ++ mark :: rest) = piece :: splitBy p rest := by
  rw [splitBy_append cut, splitBy_of_forall plain]
  rfl

theorem infix_of_mem_splitBy {piece cs : List Char} (h : piece ∈ splitBy p cs) :
    piece <:+: cs := by
  induction cs using cutInduction (p := p) with
  | whole front plain =>
    rw [splitBy_of_forall plain] at h
    obtain rfl := List.mem_singleton.1 h
    exact List.infix_rfl
  | cut front mark rest plain cut ih =>
    rw [splitBy_append_cons plain cut] at h
    rcases List.mem_cons.1 h with rfl | h
    · exact (List.prefix_append _ _).isInfix
    · exact (ih h).trans ((List.suffix_cons mark rest).trans (List.suffix_append _ _)).isInfix

end

/-- What begins a text and is without the mark ends before the mark. -/
theorem exists_of_append_eq {mark : Char} {cs after more : List Char} (front : List Char)
    (absent : mark ∉ front) (shape : cs ++ mark :: after = front ++ more) :
    ∃ rest, cs = front ++ rest ∧ more = rest ++ mark :: after := by
  obtain ⟨left, beyond, closing⟩ | ⟨left, here, rest⟩ := List.append_eq_append_iff.1 shape
  · cases left with
    | nil => exact ⟨[], by simpa using beyond.symm, closing.symm⟩
    | cons c others =>
      obtain ⟨rfl, -⟩ := List.cons.inj closing
      exact absurd (by simp [beyond]) absent
  · exact ⟨left, here, rest⟩

/-- The maximal runs of characters that are not blank. -/
def words (cs : List Char) : List (List Char) :=
  (splitBy isBlank cs).filter (!·.isEmpty)

/-- A text begins with a word, blanks apart. -/
structure FirstWord (cs word : List Char) : Prop where
  exists_append : ∃ lead rest, cs = lead ++ word ++ rest ∧ (∀ c ∈ lead, isBlank c = true) ∧
    ∀ c ∈ rest.head?, isBlank c = true
  ne_nil : word ≠ []
  solid : ∀ c ∈ word, isBlank c = false

theorem words_cons_of_isBlank {c : Char} (h : isBlank c = true) (cs : List Char) :
    words (c :: cs) = words cs := by
  simp [words, splitBy, h]

theorem FirstWord.head?_words {cs word : List Char} (h : FirstWord cs word) :
    (words cs).head? = some word := by
  obtain ⟨⟨lead, rest, rfl, blank, ends⟩, ne_nil, solid⟩ := h
  induction lead with
  | nil =>
    cases rest with
    | nil => simp [words, splitBy_of_forall solid, ne_nil]
    | cons c rest => simp [words, splitBy_append_cons solid (ends c rfl), ne_nil]
  | cons c lead ih =>
    obtain ⟨here, blank⟩ := List.forall_mem_cons.1 blank
    rw [List.cons_append, List.cons_append, words_cons_of_isBlank here]
    exact ih blank

theorem exists_firstWord {cs : List Char} (h : ∃ c ∈ cs, isBlank c = false) :
    ∃ word, FirstWord cs word := by
  have some_left : cs.dropWhile isBlank ≠ [] := by
    intro none_left
    obtain ⟨c, there, solid⟩ := h
    rw [← List.takeWhile_append_dropWhile (p := isBlank) (l := cs), none_left,
      List.append_nil] at there
    have blank := List.all_eq_true.1 List.all_takeWhile c there
    rw [solid] at blank
    exact absurd blank (by decide)
  have head := head?_dropWhile isBlank cs
  cases left : cs.dropWhile isBlank with
  | nil => exact absurd left some_left
  | cons c more =>
    rw [left] at head
    have solid : isBlank c = false := head c rfl
    refine ⟨c :: more.takeWhile (!isBlank ·), ⟨cs.takeWhile isBlank, more.dropWhile (!isBlank ·),
      ?_, ?_, ?_⟩, by simp, ?_⟩
    · rw [List.append_assoc, List.cons_append, List.takeWhile_append_dropWhile, ← left,
        List.takeWhile_append_dropWhile]
    · exact fun d hd => List.all_eq_true.1 List.all_takeWhile d hd
    · intro d hd
      simpa using head?_dropWhile (!isBlank ·) more d hd
    · refine List.forall_mem_cons.2 ⟨solid, fun d hd => ?_⟩
      simpa using List.all_eq_true.1 List.all_takeWhile d hd

/-- The lines of a text without their line breaks.  A carriage return and a line feed are one
break, and a break at the very end opens no further line. -/
def lines : List Char → List (List Char)
  | [] => []
  | '\r' :: '\n' :: rest => [] :: lines rest
  | c :: rest =>
    if isLineBreak c then [] :: lines rest
    else
      match lines rest with
      | [] => [[c]]
      | line :: more => (c :: line) :: more

/-- The text with every line break written as a single line feed, as a file is read. -/
def unifyNewlines : List Char → List Char
  | [] => []
  | '\r' :: '\n' :: rest => '\n' :: unifyNewlines rest
  | '\r' :: rest => '\n' :: unifyNewlines rest
  | c :: rest => c :: unifyNewlines rest

/-! ## Joining -/

/-- The texts one after the other with the separator between each two. -/
def joinWith (separator : String) : List String → String
  | [] => ""
  | [s] => s
  | s :: t :: rest => s ++ separator ++ joinWith separator (t :: rest)

end CatalogTypes.Text
