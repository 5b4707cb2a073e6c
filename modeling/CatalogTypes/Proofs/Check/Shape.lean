import CatalogTypes.Proofs.Check.Padding

/-!
# The shape of a constraint

`Head` is what stands before the list of a constraint `column IN (…)`, with the facts that make it
one.  `splitIn` accepts exactly the texts that are a head and a list in parentheses
(`splitIn_text`, `exists_head_of_splitIn`); it looks for the parentheses at the ends of the text
only, so what it takes for the list may well be closed early.

That the list is not closed early, and that it permits anything, is left to `splitLiterals`.
`parseInChars_eq_some_iff` puts the two together.
-/

namespace CatalogTypes.Check

open Place

/-! ## Characters of a constraint -/

theorem isNameQuote_iff {c : Char} : isNameQuote c = true ↔ c = '"' ∨ c = '\'' ∨ c = '\x60' := by
  simp [isNameQuote, or_assoc]

theorem isColumnChar_iff {c : Char} : isColumnChar c = true ↔
    c = '_' ∨ 48 ≤ c.toNat ∧ c.toNat ≤ 57 ∨ 65 ≤ c.toNat ∧ c.toNat ≤ 90 ∨
      97 ≤ c.toNat ∧ c.toNat ≤ 122 := by
  have upper : c.isUpper = true ↔ 65 ≤ c.toNat ∧ c.toNat ≤ 90 := decide_eq_true_iff
  have lower : c.isLower = true ↔ 97 ≤ c.toNat ∧ c.toNat ≤ 122 := by
    show (decide (c.val ≥ 'a'.val) && decide (c.val ≤ 'z'.val)) = true ↔ _
    rw [Bool.and_eq_true, decide_eq_true_eq, decide_eq_true_eq]
    exact Iff.rfl
  have digit : c.isDigit = true ↔ 48 ≤ c.toNat ∧ c.toNat ≤ 57 := Char.isDigit_iff_toNat
  show ((c.isUpper || c.isLower || c.isDigit) || decide (c = '_')) = true ↔ _
  rw [Bool.or_eq_true, Bool.or_eq_true, Bool.or_eq_true, upper, lower, digit, decide_eq_true_eq]
  by_cases hc : c = '_'
  · simp [hc]
  · simp only [hc, or_false, false_or]
    omega

theorem isBlank_of_isColumnChar {c : Char} (h : isColumnChar c = true) :
    Text.isBlank c = false := by
  rcases isColumnChar_iff.1 h with rfl | h
  · decide
  · simp only [Text.isBlank]
    simp
    omega

theorem plain_of_isColumnChar {c : Char} (h : isColumnChar c = true) : Plain c :=
  plain_of_class (by decide) h

theorem isNameQuote_of_isColumnChar {c : Char} (h : isColumnChar c = true) :
    isNameQuote c = false := by
  rw [← Bool.not_eq_true, isNameQuote_iff]
  intro quote
  rcases quote with rfl | rfl | rfl <;> revert h <;> decide

theorem isAsciiBlank_of_isColumnChar {c : Char} (h : isColumnChar c = true) :
    Text.isAsciiBlank c = false := by
  rw [← Bool.not_eq_true]
  intro hc
  have hb := isBlank_of_isColumnChar h
  rw [Text.isBlank_of_isAsciiBlank hc] at hb
  cases hb

theorem isColumnChar_eq_false {c : Char}
    (h : Text.isAsciiBlank c = true ∨ isNameQuote c = true) : isColumnChar c = false := by
  rw [← Bool.not_eq_true]
  intro hc
  rw [isAsciiBlank_of_isColumnChar hc, isNameQuote_of_isColumnChar hc] at h
  simp at h

theorem isNameQuote_of_isAsciiBlank {c : Char} (h : Text.isAsciiBlank c = true) :
    isNameQuote c = false := by
  rw [← Bool.not_eq_true, isNameQuote_iff]
  intro quote
  rcases quote with rfl | rfl | rfl <;> revert h <;> decide

/-- The letters of the keyword could stand in a column. -/
theorem isColumnChar_of_toLower {c : Char} (h : c.toLower = 'i' ∨ c.toLower = 'n') :
    isColumnChar c = true := by
  by_cases hup : c.val ≥ 'A'.val ∧ c.val ≤ 'Z'.val
  · exact isColumnChar_iff.2 (.inr (.inr (.inl hup)))
  · have same : c.toLower = c := dif_neg hup
    rw [same] at h
    rcases h with rfl | rfl <;> rfl

/-! ## Heads -/

/-- What stands before the list of a constraint `column IN (…)`. -/
structure Head where
  opening : Option Char
  column : List Char
  closing : Option Char
  gap : List Char
  i : Char
  n : Char
  space : List Char
  opening_quote : ∀ q ∈ opening, isNameQuote q = true
  column_ne_nil : column ≠ []
  column_word : ∀ c ∈ column, isColumnChar c = true
  closing_quote : ∀ q ∈ closing, isNameQuote q = true
  gap_ne_nil : gap ≠ []
  gap_blank : ∀ c ∈ gap, Text.isAsciiBlank c = true
  i_letter : i.toLower = 'i'
  n_letter : n.toLower = 'n'
  space_blank : ∀ c ∈ space, Text.isAsciiBlank c = true

namespace Head

/-- The keyword with the blanks around it. -/
def keyword (h : Head) : List Char := h.gap ++ h.i :: h.n :: h.space

/-- The text of a head. -/
def text (h : Head) : List Char :=
  h.opening.toList ++ (h.column ++ (h.closing.toList ++ h.keyword))

/-- The usual head: a column without quotes, and the keyword between single spaces. -/
def bare (column : List Char) (ne_nil : column ≠ [])
    (word : column.all isColumnChar = true) : Head where
  opening := none
  column := column
  closing := none
  gap := [' ']
  i := 'I'
  n := 'N'
  space := [' ']
  opening_quote := fun _ hq => nomatch hq
  column_ne_nil := ne_nil
  column_word := List.all_eq_true.1 word
  closing_quote := fun _ hq => nomatch hq
  gap_ne_nil := by decide
  gap_blank := List.all_eq_true.1 (by decide)
  i_letter := by decide
  n_letter := by decide
  space_blank := List.all_eq_true.1 (by decide)

end Head

theorem skipNameQuote_of_quote {q : Option Char} (hq : ∀ c ∈ q, isNameQuote c = true)
    {cs : List Char} (hcs : ∀ c ∈ cs.head?, isNameQuote c = false) :
    skipNameQuote (q.toList ++ cs) = cs := by
  cases q with
  | some c => simp [skipNameQuote, hq c rfl]
  | none =>
    cases cs with
    | nil => rfl
    | cons c cs => simp [skipNameQuote, hcs c rfl]

theorem exists_skipNameQuote (cs : List Char) : ∃ q : Option Char,
    (∀ c ∈ q, isNameQuote c = true) ∧ cs = q.toList ++ skipNameQuote cs := by
  cases cs with
  | nil => exact ⟨none, by simp, rfl⟩
  | cons c cs =>
    by_cases hc : isNameQuote c = true
    · exact ⟨some c, by simp [hc], by simp [skipNameQuote, hc]⟩
    · exact ⟨none, by simp, by simp [skipNameQuote, hc]⟩

namespace Head

variable (h : Head)

theorem keyword_plain : ∀ c ∈ h.keyword, Plain c := by
  have letter : ∀ c, c.toLower = 'i' ∨ c.toLower = 'n' → Plain c := fun c hc =>
    plain_of_isColumnChar (isColumnChar_of_toLower hc)
  intro c hc
  simp only [keyword, List.mem_append, List.mem_cons] at hc
  rcases hc with hc | rfl | rfl | hc
  · exact plain_of_isAsciiBlank (h.gap_blank c hc)
  · exact letter h.i (.inl h.i_letter)
  · exact letter h.n (.inr h.n_letter)
  · exact plain_of_isAsciiBlank (h.space_blank c hc)

theorem text_smooth (p : Place) : Smooth p h.text := by
  have quote : ∀ c, isNameQuote c = true → c ≠ '(' ∧ c ≠ ')' ∧ c ≠ ',' := by
    intro c hc
    rcases isNameQuote_iff.1 hc with rfl | rfl | rfl <;> decide
  refine smooth_of_forall (fun c hc => ?_) p
  simp only [text, List.mem_append, Option.mem_toList] at hc
  rcases hc with hc | hc | hc | hc
  · exact quote c (h.opening_quote c hc)
  · exact (plain_of_isColumnChar (h.column_word c hc)).2
  · exact quote c (h.closing_quote c hc)
  · exact (h.keyword_plain c hc).2

/-- Behind a head whose quotes are equal a scan is outside literals. -/
theorem run_text (same : h.opening = h.closing) : outside.run h.text = outside := by
  have column : ∀ c ∈ h.column, isQuote c = false := fun c hc =>
    (plain_of_isColumnChar (h.column_word c hc)).1
  have keyword : ∀ c ∈ h.keyword, isQuote c = false := fun c hc => (h.keyword_plain c hc).1
  have keyword_ne : h.keyword ≠ [] := by simp [Head.keyword]
  rw [text, ← same]
  cases ho : h.opening with
  | none =>
    refine run_of_no_quote fun c hc => ?_
    rw [Option.toList_none, List.nil_append, List.nil_append, List.mem_append] at hc
    exact hc.elim (column c) (keyword c)
  | some q =>
    by_cases hq : isQuote q = true
    · -- the quotes read as a literal around the column, and the blank behind them ends it
      have within_column : q ∉ h.column := fun hm => by simp [column q hm] at hq
      have opened : outside.run [q] = within q := next_quote hq
      have closed : (within q).run [q] = Place.closing q := if_pos rfl
      rw [Option.toList_some, run_append, opened, run_append, run_within within_column, run_append,
        closed]
      have proper : (Place.closing q).Proper := hq
      exact run_of_free proper trivial keyword_ne keyword
    · refine run_of_no_quote fun c hc => ?_
      have hq' : isQuote q = false := by simpa using hq
      simp only [Option.toList_some, List.mem_append, List.mem_singleton] at hc
      rcases hc with rfl | hc | rfl | hc
      · exact hq'
      · exact column c hc
      · exact hq'
      · exact keyword c hc

/-- Behind a head and the parenthesis of its list one parenthesis is open. -/
theorem nest_text_append (same : h.opening = h.closing) (rest : List Char) :
    nest 0 outside (h.text ++ '(' :: rest) = nest 1 outside rest := by
  have opened : turn 0 outside '(' = some 1 := by decide
  rw [nest_append, nest_of_smooth (h.text_smooth outside), Option.bind_some, h.run_text same,
    nest_cons_of_turn opened]
  rfl

theorem run_text_append (same : h.opening = h.closing) (rest : List Char) :
    outside.run (h.text ++ '(' :: rest) = outside.run rest := by
  rw [run_append, h.run_text same]
  rfl

end Head

/-! ## Reading a head -/

namespace Head

variable (h : Head)

theorem exists_keyword_cons : ∃ b more, Text.isAsciiBlank b = true ∧ h.keyword = b :: more := by
  obtain ⟨b, gap, hgap⟩ := List.exists_cons_of_ne_nil h.gap_ne_nil
  exact ⟨b, gap ++ h.i :: h.n :: h.space, h.gap_blank b (by simp [hgap]), by simp [keyword, hgap]⟩

theorem skipNameQuote_text (rest : List Char) :
    skipNameQuote (h.text ++ rest) = h.column ++ (h.closing.toList ++ (h.keyword ++ rest)) := by
  obtain ⟨c, column, hcolumn⟩ := List.exists_cons_of_ne_nil h.column_ne_nil
  rw [text, List.append_assoc, List.append_assoc, List.append_assoc]
  refine skipNameQuote_of_quote h.opening_quote fun d hd => ?_
  rw [hcolumn, List.cons_append, List.head?_cons, Option.mem_some] at hd
  exact isNameQuote_of_isColumnChar (h.column_word d (by simp [hcolumn, hd]))

/-- The column ends with its last character: a quote follows, or a blank. -/
theorem isColumnChar_behind_column (rest : List Char) :
    ∀ d ∈ (h.closing.toList ++ (h.keyword ++ rest)).head?, isColumnChar d = false := by
  obtain ⟨b, more, hb, hkeyword⟩ := h.exists_keyword_cons
  intro d hd
  cases hc : h.closing with
  | none =>
    rw [hc, Option.toList_none, List.nil_append, hkeyword, List.cons_append, List.head?_cons,
      Option.mem_some] at hd
    exact isColumnChar_eq_false (.inl (hd ▸ hb))
  | some q =>
    rw [hc, Option.toList_some, List.singleton_append, List.head?_cons, Option.mem_some] at hd
    exact isColumnChar_eq_false (.inr (h.closing_quote d (by rw [hc, hd]; rfl)))

theorem skipNameQuote_closing (rest : List Char) :
    skipNameQuote (h.closing.toList ++ (h.keyword ++ rest)) = h.keyword ++ rest := by
  obtain ⟨b, more, hb, hkeyword⟩ := h.exists_keyword_cons
  refine skipNameQuote_of_quote h.closing_quote fun d hd => ?_
  rw [hkeyword, List.cons_append, List.head?_cons, Option.mem_some] at hd
  exact isNameQuote_of_isAsciiBlank (hd ▸ hb)

theorem dropWhile_keyword (rest : List Char) :
    (h.keyword ++ rest).dropWhile Text.isAsciiBlank = h.i :: h.n :: (h.space ++ rest) := by
  have letter : Text.isAsciiBlank h.i = false :=
    isAsciiBlank_of_isColumnChar (isColumnChar_of_toLower (.inl h.i_letter))
  rw [keyword, List.append_assoc, List.dropWhile_append_of_pos h.gap_blank]
  refine Text.dropWhile_eq_self fun d hd => ?_
  rw [List.cons_append, List.head?_cons, Option.mem_some] at hd
  exact hd ▸ letter

end Head

/-- A head and a list in parentheses are accepted, whatever the list is. -/
theorem splitIn_text (h : Head) (inner : List Char) :
    splitIn (h.text ++ '(' :: (inner ++ [')'])) =
      some (h.column, Text.trimBy Text.isAsciiBlank inner) := by
  generalize hrest : inner ++ [')'] = rest
  obtain ⟨c, column, hcolumn⟩ := List.exists_cons_of_ne_nil h.column_ne_nil
  obtain ⟨b, more, hb, hkeyword⟩ := h.exists_keyword_cons
  obtain ⟨taken, dropped⟩ :=
    Text.cut_append h.column_word (h.isColumnChar_behind_column ('(' :: rest))
  have after_gap := h.dropWhile_keyword ('(' :: rest)
  have keyword : (h.i.toLower = 'i' && h.n.toLower = 'n') = true := by
    simp [h.i_letter, h.n_letter]
  have after_space : (h.space ++ '(' :: rest).dropWhile Text.isAsciiBlank = '(' :: rest := by
    rw [List.dropWhile_append_of_pos h.space_blank]
    rfl
  rw [splitIn, h.skipNameQuote_text, taken, dropped, h.skipNameQuote_closing]
  -- the list is read from its end
  have back : rest.reverse = ')' :: inner.reverse := by simp [← hrest]
  rw [hkeyword, List.cons_append] at after_gap ⊢
  simp only [hcolumn, if_pos hb, after_gap, if_pos keyword, after_space, back,
    List.reverse_reverse]

/-- What `splitIn` accepts begins with a column, and the keyword and a list in parentheses are all
of the rest. -/
theorem exists_parts_of_splitIn {cs column list : List Char}
    (accepted : splitIn cs = some (column, list)) :
    column = (skipNameQuote cs).takeWhile isColumnChar ∧ column ≠ [] ∧
      ∃ gap i n space inner, gap ≠ [] ∧ (∀ c ∈ gap, Text.isAsciiBlank c = true) ∧
        i.toLower = 'i' ∧ n.toLower = 'n' ∧ (∀ c ∈ space, Text.isAsciiBlank c = true) ∧
        skipNameQuote ((skipNameQuote cs).dropWhile isColumnChar) =
          gap ++ i :: n :: (space ++ '(' :: (inner ++ [')'])) ∧
        list = Text.trimBy Text.isAsciiBlank inner := by
  have blanks : ∀ l : List Char, ∀ c ∈ l.takeWhile Text.isAsciiBlank, Text.isAsciiBlank c = true :=
    fun l => List.all_eq_true.1 List.all_takeWhile
  rw [splitIn] at accepted
  -- the conditions of `splitIn`, one after the other
  split at accepted
  case h_2 => cases accepted
  case h_1 c column' b tail hcolumn htail =>
  split at accepted
  case isFalse => cases accepted
  case isTrue hb =>
  split at accepted
  case h_2 => cases accepted
  case h_1 i n rest₁ hrest₁ =>
  split at accepted
  case isFalse => cases accepted
  case isTrue keyword =>
  split at accepted
  case h_2 => cases accepted
  case h_1 rest₂ hrest₂ =>
  split at accepted
  case h_2 => cases accepted
  case h_1 back hback =>
  simp only [Option.some.injEq, Prod.mk.injEq] at accepted
  obtain ⟨rfl, rfl⟩ := accepted
  rw [Bool.and_eq_true, decide_eq_true_eq, decide_eq_true_eq] at keyword
  have hlist : rest₂ = back.reverse ++ [')'] := by
    rw [← List.reverse_reverse rest₂, hback, List.reverse_cons]
  refine ⟨rfl, by simp [hcolumn], (b :: tail).takeWhile Text.isAsciiBlank, i, n,
    rest₁.takeWhile Text.isAsciiBlank, back.reverse, by simp [List.takeWhile_cons_of_pos hb],
    blanks _, keyword.1, keyword.2, blanks _, ?_, rfl⟩
  rw [← hlist, ← hrest₂, List.takeWhile_append_dropWhile, ← hrest₁, htail,
    List.takeWhile_append_dropWhile]

/-- Whatever `splitIn` accepts has the shape of a constraint. -/
theorem exists_head_of_splitIn {cs column list : List Char}
    (accepted : splitIn cs = some (column, list)) :
    ∃ (h : Head) (inner : List Char), cs = h.text ++ '(' :: (inner ++ [')']) ∧ h.column = column ∧
      list = Text.trimBy Text.isAsciiBlank inner := by
  obtain ⟨rfl, column_ne_nil, gap, i, n, space, inner, gap_ne_nil, gap_blank, i_letter, n_letter,
    space_blank, htail, rfl⟩ := exists_parts_of_splitIn accepted
  obtain ⟨opening, opening_quote, hcs⟩ := exists_skipNameQuote cs
  obtain ⟨closing, closing_quote, hstart⟩ :=
    exists_skipNameQuote ((skipNameQuote cs).dropWhile isColumnChar)
  let h : Head := {
    opening, closing, gap, i, n, space, opening_quote, column_ne_nil, closing_quote, gap_ne_nil,
    gap_blank, i_letter, n_letter, space_blank
    column := (skipNameQuote cs).takeWhile isColumnChar
    column_word := List.all_eq_true.1 List.all_takeWhile }
  refine ⟨h, inner, ?_, rfl, rfl⟩
  calc cs = opening.toList ++ skipNameQuote cs := hcs
    _ = opening.toList ++ (h.column ++ (skipNameQuote cs).dropWhile isColumnChar) :=
      congrArg _ List.takeWhile_append_dropWhile.symm
    _ = opening.toList ++ (h.column ++
        (closing.toList ++ (gap ++ i :: n :: (space ++ '(' :: (inner ++ [')']))))) := by
      rw [hstart, htail]
    _ = h.text ++ '(' :: (inner ++ [')']) := by simp [Head.text, Head.keyword, h]

/-! ## What is accepted -/

theorem parseInChars_eq_some_iff {cs column : List Char} {values : List (List Char)} :
    parseInChars cs = some (column, values) ↔
      ∃ list, splitIn (Text.trimChars cs) = some (column, list) ∧
        splitLiterals list = some values ∧ values ≠ [] := by
  rw [parseInChars]
  constructor
  · intro accepted
    obtain ⟨⟨column', list⟩, hsplit, accepted⟩ := Option.bind_eq_some_iff.1 accepted
    obtain ⟨values', hvalues, accepted⟩ := Option.bind_eq_some_iff.1 accepted
    cases values' with
    | nil => cases accepted
    | cons value more =>
      cases accepted
      exact ⟨list, hsplit, hvalues, by simp⟩
  · intro reading
    obtain ⟨list, hsplit, hvalues, hne⟩ := reading
    obtain ⟨value, more, rfl⟩ := List.exists_cons_of_ne_nil hne
    simp [hsplit, hvalues]

theorem isBlank_head?_text (h : Head) (cs : List Char) :
    ∀ c ∈ (h.text ++ cs).head?, Text.isBlank c = false := by
  obtain ⟨d, column, hcolumn⟩ := List.exists_cons_of_ne_nil h.column_ne_nil
  intro c hc
  cases ho : h.opening with
  | none =>
    rw [Head.text, ho, hcolumn] at hc
    have hd : d = c := by simpa using hc
    exact isBlank_of_isColumnChar (h.column_word c (by simp [hcolumn, hd]))
  | some q =>
    rw [Head.text, ho] at hc
    have hq : q = c := by simpa using hc
    have quote := h.opening_quote c (by rw [ho, hq]; rfl)
    rcases isNameQuote_iff.1 quote with rfl | rfl | rfl <;> decide

/-- A constraint has no blanks around it. -/
theorem trimmed_text (h : Head) (inner : List Char) :
    Text.Trimmed Text.isBlank (h.text ++ '(' :: (inner ++ [')'])) := by
  refine ⟨isBlank_head?_text h _, fun c hc => ?_⟩
  rw [← List.cons_append, ← List.append_assoc, List.getLast?_concat, Option.mem_some] at hc
  rw [← hc]
  decide

/-- What is accepted behind a head ends in a parenthesis. -/
theorem exists_inner_of_isSome {h : Head} {rest : List Char}
    (trimmed : Text.trimChars (h.text ++ '(' :: rest) = h.text ++ '(' :: rest)
    (accepted : (parseInChars (h.text ++ '(' :: rest)).isSome = true) :
    ∃ inner, rest = inner ++ [')'] := by
  obtain ⟨⟨column, values⟩, hparse⟩ := Option.isSome_iff_exists.1 accepted
  obtain ⟨list, hsplit, -⟩ := parseInChars_eq_some_iff.1 hparse
  rw [trimmed] at hsplit
  obtain ⟨h', inner, htext, -⟩ := exists_head_of_splitIn hsplit
  have last : (h.text ++ '(' :: rest).getLast? = some ')' := by
    rw [htext, ← List.cons_append, ← List.append_assoc, List.getLast?_concat]
  rcases List.eq_nil_or_concat rest with rfl | ⟨inner, c, rfl⟩
  · rw [List.getLast?_concat] at last
    cases last
  · rw [List.concat_eq_append] at last ⊢
    rw [← List.cons_append, ← List.append_assoc, List.getLast?_concat, Option.some.injEq] at last
    exact ⟨inner, by rw [last]⟩

/-- **A constraint is accepted if its list is not closed early and has a quote.** -/
theorem isSome_parseInChars_text (h : Head) (inner : List Char) :
    (parseInChars (h.text ++ '(' :: (inner ++ [')']))).isSome ↔
      (nest 0 outside inner).isSome ∧ inner.any isQuote = true := by
  have blank : ∀ c, Text.isAsciiBlank c = true → Plain c := fun _ => plain_of_isAsciiBlank
  have padded := padded_trimBy blank inner
  rw [padded.nest_eq, padded.any_isQuote, ← isSome_itemsFrom]
  constructor
  · intro accepted
    obtain ⟨⟨column, values⟩, hparse⟩ := Option.isSome_iff_exists.1 accepted
    obtain ⟨list, hsplit, hvalues, hne⟩ := parseInChars_eq_some_iff.1 hparse
    rw [Text.trimChars, Text.trimBy_eq_self (trimmed_text h inner), splitIn_text] at hsplit
    cases hsplit
    rw [splitLiterals_eq] at hvalues
    obtain ⟨items, hitems, rfl⟩ := Option.map_eq_some_iff.1 hvalues
    refine ⟨by rw [← itemsOf, hitems]; rfl, ?_⟩
    rw [ne_eq, filterMap_value_eq_nil_iff hitems, Bool.not_eq_false] at hne
    exact hne
  · intro readable
    obtain ⟨closed, quoted⟩ := readable
    obtain ⟨items, hitems⟩ := Option.isSome_iff_exists.1 closed
    refine Option.isSome_iff_exists.2 ⟨(h.column, items.filterMap value?), ?_⟩
    have hsplit := splitIn_text h inner
    rw [← Text.trimBy_eq_self (trimmed_text h inner)] at hsplit
    refine parseInChars_eq_some_iff.2 ⟨_, hsplit, ?_, ?_⟩
    · rw [splitLiterals_eq, itemsOf, hitems]
      rfl
    · rw [ne_eq, filterMap_value_eq_nil_iff hitems, quoted]
      simp

end CatalogTypes.Check
