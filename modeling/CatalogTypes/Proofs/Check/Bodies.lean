import CatalogTypes.Proofs.Check.Shape

/-!
# Where a constraint and its list end

The body of a constraint is found by one scan and its list is read by another, which starts behind
the parenthesis of the list and does not look for the one that closes it.

**Theorem (`isSome_parseIn_body_iff`).** A body of the shape `column IN (…)` is accepted exactly if
the first scan, started behind the parenthesis of the list, would stop at the last character of the
body, and the list has a literal.

The body is balanced, because the scan that found it stopped behind it.  Its head opens nothing and
leaves the scan outside literals, so one parenthesis is open before the list and one must be open
after it: a list that closes no parenthesis of the head's own is balanced itself
(`isSome_nest_iff_balanced`).
-/

namespace CatalogTypes.Check

open Place

/-! ## The constraint at the head of a text -/

/-- The keyword of a constraint, in letters of either case. -/
def CheckWord (word : List Char) : Prop :=
  ∃ c h e c₂ k, word = [c, h, e, c₂, k] ∧ c.toLower = 'c' ∧ h.toLower = 'h' ∧ e.toLower = 'e' ∧
    c₂.toLower = 'c' ∧ (k.toLower = 'k' ∨ k = '\u212A')

/-- A text begins with a constraint that has the body. -/
def BeginsConstraint (cs body : List Char) : Prop :=
  ∃ word gap after, CheckWord word ∧ (∀ c ∈ gap, Text.isBlank c = true) ∧ Balanced body ∧
    cs = word ++ gap ++ '(' :: (body ++ ')' :: after)

/-- The body of the constraint that a text begins with; there is none in the middle of a word. -/
def bodyHere (inWord : Bool) (cs : List Char) : Option (List Char) :=
  if inWord then none else (afterOpening cs).bind fun body => (closeAt body).map Prod.fst

theorem rawBodies_cons (inWord : Bool) (c : Char) (rest : List Char) :
    rawBodies inWord (c :: rest) =
      (bodyHere inWord (c :: rest)).toList ++ rawBodies (Text.isWordChar c) rest := rfl

theorem afterCheckWord_eq_some_iff {cs rest : List Char} :
    afterCheckWord cs = some rest ↔ ∃ word, CheckWord word ∧ cs = word ++ rest := by
  constructor
  · intro h
    unfold afterCheckWord at h
    split at h
    · next c h' e c₂ k more =>
      split at h
      · next spelled =>
        cases h
        simp only [Bool.and_eq_true, Bool.or_eq_true, decide_eq_true_eq, and_assoc] at spelled
        exact ⟨_, ⟨c, h', e, c₂, k, rfl, spelled⟩, rfl⟩
      · cases h
    · cases h
  · rintro ⟨word, ⟨c, h, e, c₂, k, rfl, spelled⟩, rfl⟩
    simp [afterCheckWord, spelled]

theorem afterOpening_eq_some_iff {cs rest : List Char} :
    afterOpening cs = some rest ↔ ∃ word gap, CheckWord word ∧
      (∀ c ∈ gap, Text.isBlank c = true) ∧ cs = word ++ gap ++ '(' :: rest := by
  constructor
  · intro h
    unfold afterOpening at h
    split at h
    · cases h
    · next more hword =>
      obtain ⟨word, check, rfl⟩ := afterCheckWord_eq_some_iff.1 hword
      split at h
      · next body hopen =>
        cases h
        refine ⟨word, more.takeWhile Text.isBlank, check,
          List.all_eq_true.1 List.all_takeWhile, ?_⟩
        rw [List.append_assoc, ← hopen, List.takeWhile_append_dropWhile]
      · cases h
  · rintro ⟨word, gap, check, blank, rfl⟩
    have hword : afterCheckWord (word ++ gap ++ '(' :: rest) = some (gap ++ '(' :: rest) :=
      afterCheckWord_eq_some_iff.2 ⟨word, check, List.append_assoc _ _ _⟩
    have hopen : (gap ++ '(' :: rest).dropWhile Text.isBlank = '(' :: rest := by
      rw [List.dropWhile_append_of_pos blank]
      rfl
    rw [afterOpening, hword]
    simp only [hopen]

/-- What is found at a place is a constraint that begins there. -/
theorem bodyHere_eq_some_iff {inWord : Bool} {cs body : List Char} :
    bodyHere inWord cs = some body ↔ inWord = false ∧ BeginsConstraint cs body := by
  cases inWord with
  | true => simp [bodyHere]
  | false =>
    rw [bodyHere, if_neg Bool.false_ne_true, Option.bind_eq_some_iff]
    constructor
    · rintro ⟨rest, hopen, found⟩
      obtain ⟨⟨body', after⟩, hclose, rfl⟩ := Option.map_eq_some_iff.1 found
      obtain ⟨word, gap, check, blank, rfl⟩ := afterOpening_eq_some_iff.1 hopen
      obtain ⟨rfl, balanced⟩ := closeAt_eq_some_iff.1 hclose
      exact ⟨rfl, word, gap, after, check, blank, balanced, rfl⟩
    · rintro ⟨-, word, gap, after, check, blank, balanced, rfl⟩
      have hclose : closeAt (body ++ ')' :: after) = some (body, after) :=
        closeAt_eq_some_iff.2 ⟨rfl, balanced⟩
      exact ⟨_, afterOpening_eq_some_iff.2 ⟨word, gap, check, blank, rfl⟩,
        Option.map_eq_some_iff.2 ⟨(body, after), hclose, rfl⟩⟩

theorem mem_rawBodies_of_begins {cs body : List Char} (h : BeginsConstraint cs body) :
    body ∈ rawBodies false cs := by
  cases cs with
  | nil =>
    obtain ⟨word, gap, after, -, -, -, hempty⟩ := h
    simp at hempty
  | cons c cs =>
    rw [rawBodies_cons, List.mem_append, Option.mem_toList]
    exact .inl (bodyHere_eq_some_iff.2 ⟨rfl, h⟩)

/-! ## Bodies of a text -/

theorem balanced_of_mem_rawBodies {body : List Char} {inWord : Bool} {cs : List Char}
    (h : body ∈ rawBodies inWord cs) : Balanced body := by
  induction cs generalizing inWord with
  | nil => cases h
  | cons c cs ih =>
    rw [rawBodies_cons, List.mem_append, Option.mem_toList] at h
    rcases h with here | later
    · obtain ⟨-, word, gap, after, -, -, balanced, -⟩ := bodyHere_eq_some_iff.1 here
      exact balanced
    · exact ih later

/-- The body of a constraint is balanced, and no blanks stand around it. -/
theorem balanced_of_mem_bodies {sql body : String} (found : body ∈ bodies sql) :
    Balanced body.toList ∧ Text.trimChars body.toList = body.toList := by
  obtain ⟨trimmed, hmem, rfl⟩ := List.mem_map.1 found
  obtain ⟨raw, hraw, rfl⟩ := List.mem_map.1 hmem
  rw [String.toList_ofList]
  refine ⟨?_, Text.trimBy_trimBy Text.isBlank raw⟩
  have padded := padded_trimBy (fun _ => plain_of_isBlank) raw
  exact padded.balanced_iff.1 (balanced_of_mem_rawBodies hraw)

/-- Whether a word reaches up to the end of a text. -/
def endsInWord (inWord : Bool) (before : List Char) : Bool :=
  (before.getLast?.map Text.isWordChar).getD inWord

theorem endsInWord_cons (inWord : Bool) (c : Char) (before : List Char) :
    endsInWord inWord (c :: before) = endsInWord (Text.isWordChar c) before := by
  rw [endsInWord, endsInWord, List.getLast?_cons]
  cases before.getLast? <;> rfl

theorem endsInWord_eq_false_iff {before : List Char} :
    endsInWord false before = false ↔ ∀ c ∈ before.getLast?, Text.isWordChar c = false := by
  rw [endsInWord]
  cases before.getLast? <;> simp

/-- What is found behind a text is found in the whole; only the last character of the text counts,
by whether it is of a word. -/
theorem mem_rawBodies_append {body cs : List Char} (before : List Char) (inWord : Bool)
    (found : body ∈ rawBodies (endsInWord inWord before) cs) :
    body ∈ rawBodies inWord (before ++ cs) := by
  induction before generalizing inWord with
  | nil => exact found
  | cons c before ih =>
    rw [endsInWord_cons] at found
    rw [List.cons_append, rawBodies_cons, List.mem_append]
    exact .inr (ih (Text.isWordChar c) found)

/-- A balanced text behind the keyword, between parentheses, is a body wherever it stands. -/
theorem mem_bodies_of_balanced {cs : List Char} (balanced : Balanced cs) (before after : String)
    (edge : ∀ c ∈ before.toList.getLast?, Text.isWordChar c = false) :
    String.ofList (Text.trimChars cs) ∈
      bodies (before ++ "CHECK (" ++ String.ofList cs ++ ")" ++ after) := by
  have text : (before ++ "CHECK (" ++ String.ofList cs ++ ")" ++ after).toList =
      before.toList ++ ("CHECK".toList ++ [' '] ++ '(' :: (cs ++ ')' :: after.toList)) := by
    simp
  have check : CheckWord "CHECK".toList := ⟨'C', 'H', 'E', 'C', 'K', by decide⟩
  have blank : ∀ c ∈ [' '], Text.isBlank c = true := List.forall_mem_singleton.2 (by decide)
  have begins : BeginsConstraint
      ("CHECK".toList ++ [' '] ++ '(' :: (cs ++ ')' :: after.toList)) cs :=
    ⟨_, _, _, check, blank, balanced, rfl⟩
  refine List.mem_map_of_mem (List.mem_map_of_mem ?_)
  rw [text]
  refine mem_rawBodies_append before.toList false ?_
  rw [endsInWord_eq_false_iff.2 edge]
  exact mem_rawBodies_of_begins begins

/-! ## Literals of a list -/

/-- A list has a literal: a text between quotes, of which the first is the first quote of the
list. -/
def HasLiteral (list : List Char) : Prop :=
  ∃ before q s after, isQuote q = true ∧ (∀ c ∈ before, isQuote c = false) ∧
    list = before ++ literal q s ++ after ∧ after.head? ≠ some q

theorem hasLiteral_iff {list : List Char} (free : (outside.run list).Free) :
    HasLiteral list ↔ list.any isQuote = true := by
  constructor
  · intro has
    obtain ⟨before, q, s, after, hq, -, rfl, -⟩ := has
    rw [List.any_eq_true]
    exact ⟨q, by simp [literal], hq⟩
  · intro quoted
    have first := List.find?_isSome.2 (List.any_eq_true.1 quoted)
    obtain ⟨q, hfirst⟩ := Option.isSome_iff_exists.1 first
    obtain ⟨hq, before, rest, rfl, hbefore⟩ := List.find?_eq_some_iff_append.1 hfirst
    have quiet : ∀ c ∈ before, isQuote c = false := fun c hc => by simpa using hbefore c hc
    rw [run_append, run_of_no_quote quiet, run_cons, next_quote hq] at free
    obtain ⟨s, after, rfl, hafter⟩ := exists_double_of_free rest free
    exact ⟨before, q, s, after, hq, quiet, by simp [literal], hafter⟩

/-! ## The two ends -/

/-- A constraint with a balanced list is balanced. -/
theorem balanced_text {h : Head} (same : h.opening = h.closing) {inner : List Char}
    (balanced : Balanced inner) : Balanced (h.text ++ '(' :: (inner ++ [')'])) := by
  obtain ⟨count, free⟩ := balanced
  have opened : nest 1 outside inner = some 1 := nest_add count 1
  have code : (outside.run inner).isCode ')' = true :=
    (isCode_iff (proper_run_outside inner)).2 ⟨free, by decide⟩
  constructor
  · rw [h.nest_text_append same, nest_append, opened, Option.bind_some,
      nest_cons_of_turn (turn_close code 0)]
    rfl
  · rw [h.run_text_append same, run_append, run_cons, next_of_isCode code]
    trivial

/-- In a balanced constraint the list closes none of the parentheses around it exactly if it is
balanced itself. -/
theorem isSome_nest_iff_balanced {h : Head} (same : h.opening = h.closing) {inner : List Char}
    (whole : Balanced (h.text ++ '(' :: (inner ++ [')']))) :
    (nest 0 outside inner).isSome = true ↔ Balanced inner := by
  obtain ⟨count, free⟩ := whole
  rw [h.run_text_append same, run_append] at free
  rw [h.nest_text_append same, nest_append] at count
  have free_inner : (outside.run inner).Free :=
    (free_run_of_no_quote (proper_run_outside inner) (List.forall_mem_singleton.2 rfl)).1 free
  constructor
  · intro closed
    obtain ⟨d, hd⟩ := Option.isSome_iff_exists.1 closed
    have opened : nest 1 outside inner = some (d + 1) := nest_add hd 1
    have code : (outside.run inner).isCode ')' = true :=
      (isCode_iff (proper_run_outside inner)).2 ⟨free_inner, by decide⟩
    -- one parenthesis more is closed than the list closes, and none is left open
    rw [opened, Option.bind_some, nest_cons_of_turn (turn_close code d)] at count
    cases count
    exact ⟨hd, free_inner⟩
  · intro balanced
    rw [balanced.1]
    rfl

/-- **The two scans agree on where the list of a constraint ends.** -/
theorem isSome_parseIn_body_iff {sql body : String} (found : body ∈ bodies sql) {h : Head}
    (same : h.opening = h.closing) {rest : List Char}
    (shape : body.toList = h.text ++ '(' :: rest) :
    ((parseIn body).isSome = true ↔ ∃ list, closeAt rest = some (list, []) ∧ HasLiteral list) ∧
      ∀ list more, closeAt rest = some (list, more) → more ≠ [] → parseIn body = none := by
  obtain ⟨whole, trimmed⟩ := balanced_of_mem_bodies found
  rw [shape] at whole trimmed
  have accepts : ∀ inner, rest = inner ++ [')'] →
      ((parseIn body).isSome = true ↔ Balanced inner ∧ HasLiteral inner) := by
    intro inner hrest
    rw [hrest] at shape whole
    rw [parseIn, Option.isSome_map, shape, isSome_parseInChars_text,
      isSome_nest_iff_balanced same whole]
    exact and_congr_right fun balanced => (hasLiteral_iff balanced.2).symm
  have ends : (parseIn body).isSome = true ↔
      ∃ list, closeAt rest = some (list, []) ∧ HasLiteral list := by
    constructor
    · intro accepted
      have parsed := accepted
      rw [parseIn, Option.isSome_map, shape] at parsed
      obtain ⟨inner, hrest⟩ := exists_inner_of_isSome trimmed parsed
      obtain ⟨balanced, literal⟩ := (accepts inner hrest).1 accepted
      exact ⟨inner, closeAt_eq_some_iff.2 ⟨hrest, balanced⟩, literal⟩
    · intro ends
      obtain ⟨list, hclose, literal⟩ := ends
      obtain ⟨hrest, balanced⟩ := closeAt_eq_some_iff.1 hclose
      exact (accepts list hrest).2 ⟨balanced, literal⟩
  refine ⟨ends, ?_⟩
  intro list more hclose hmore
  rw [← Option.not_isSome_iff_eq_none, ends]
  -- the list ends in one place only
  intro other
  obtain ⟨list', hclose', -⟩ := other
  rw [hclose] at hclose'
  cases hclose'
  exact hmore rfl

theorem isSome_parseIn_body_iff_two_conditions :
    "s IN ('a') AND f('b')" ∈ bodies "s TEXT CHECK (s IN ('a') AND f('b'))" ∧
      parseIn "s IN ('a') AND f('b')" = none := by
  have found : "s IN ('a') AND f('b')" ∈ bodies "s TEXT CHECK (s IN ('a') AND f('b'))" := by
    decide +kernel
  let h := Head.bare ['s'] (by decide) (by decide)
  have shape : "s IN ('a') AND f('b')".toList = h.text ++ '(' :: "'a') AND f('b')".toList := by
    decide +kernel
  have ends : closeAt "'a') AND f('b')".toList = some ("'a'".toList, " AND f('b')".toList) := by
    decide +kernel
  have more : " AND f('b')".toList ≠ [] := by decide +kernel
  have same : h.opening = h.closing := rfl
  exact ⟨found, (isSome_parseIn_body_iff found same shape).2 _ _ ends more⟩

end CatalogTypes.Check
