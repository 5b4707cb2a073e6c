import CatalogTypes.Proofs.Check.Scan

/-!
# Texts as lexemes

A text is read as the characters outside its literals and its literals, one after the other.
`Lexed` states this without a scan: a literal is a text between quotes in which its own quote is
doubled, and no further quote of its own follows it, since that would make two of its last.
`lex` reads from left to right and finds exactly these lexemes (`lex_eq_some_iff`), so that a text
has one reading at most.

**Theorem (`balanced_iff_lexed`).** A text is balanced exactly if it is read as lexemes that close
as many parentheses as they open, while no prefix of them closes more than it opens.

Both directions follow the lexemes.  A quote that ends a literal leaves a scan in `Place.closing`,
where it stands as outside as long as that quote does not come again (`nest_closing`); so the
count of a text is the count of its lexemes (`Lexed.nest_eq_some_iff`), and the place behind a text
is told by its last lexeme (`run_eq_closing_iff`).
-/

namespace CatalogTypes.Check

open Place

/-! ## Lexemes -/

/-- A character outside literals, or a literal with its quote and its text. -/
inductive Lexeme where
  | code (c : Char)
  | literal (quote : Char) (text : List Char)
deriving DecidableEq, Repr

/-- A text that is read as lexemes, from its start to its end. -/
inductive Lexed : List Char → List Lexeme → Prop
  | nil : Lexed [] []
  | code {c : Char} {cs : List Char} {lexemes : List Lexeme} (plain : isQuote c = false)
      (rest : Lexed cs lexemes) : Lexed (c :: cs) (.code c :: lexemes)
  | literal {q : Char} {cs : List Char} {lexemes : List Lexeme} (s : List Char)
      (quote : isQuote q = true) (ended : cs.head? ≠ some q) (rest : Lexed cs lexemes) :
      Lexed (Check.literal q s ++ cs) (.literal q s :: lexemes)

/-! ## Reading from left to right -/

/-- The text of the literal that is open at the head of a text, and what follows its last quote. -/
def readLiteral (q : Char) : List Char → Option (List Char × List Char)
  | [] => none
  | c :: rest =>
    if c = q then
      match rest with
      | [] => some ([], [])
      | d :: more =>
        if d = q then (readLiteral q more).map fun (s, after) => (q :: s, after)
        else some ([], d :: more)
    else (readLiteral q rest).map fun (s, after) => (c :: s, after)

theorem readLiteral_end {q : Char} {after : List Char} (h : after.head? ≠ some q) :
    readLiteral q (q :: after) = some ([], after) := by
  cases after with
  | nil => simp [readLiteral]
  | cons d more =>
    have hd : d ≠ q := by simpa using h
    simp [readLiteral, hd]

theorem readLiteral_doubled (q : Char) (cs : List Char) :
    readLiteral q (q :: q :: cs) =
      (readLiteral q cs).map fun (s, after) => (q :: s, after) := by
  simp [readLiteral]

theorem readLiteral_of_ne {q c : Char} (h : c ≠ q) (cs : List Char) :
    readLiteral q (c :: cs) = (readLiteral q cs).map fun (s, after) => (c :: s, after) := by
  rw [readLiteral.eq_def]
  exact if_neg h

theorem readLiteral_double {q : Char} {after : List Char} (h : after.head? ≠ some q)
    (s : List Char) : readLiteral q (double q s ++ q :: after) = some (s, after) := by
  induction s with
  | nil => exact readLiteral_end h
  | cons c s ih =>
    by_cases hc : c = q
    · rw [hc, double_cons_self, List.cons_append, List.cons_append, readLiteral_doubled, ih]
      rfl
    · rw [double_cons_of_ne hc, List.cons_append, readLiteral_of_ne hc, ih]
      rfl

/-- A literal is read exactly up to its first quote that is not doubled. -/
theorem readLiteral_eq_some_iff {q : Char} {cs s after : List Char} :
    readLiteral q cs = some (s, after) ↔
      cs = double q s ++ q :: after ∧ after.head? ≠ some q := by
  constructor
  · intro read
    fun_induction readLiteral q cs generalizing s with
    | case1 => cases read
    | case2 =>
      cases read
      exact ⟨rfl, by simp⟩
    | case3 more ih =>
      obtain ⟨⟨t, after'⟩, later, same⟩ := Option.map_eq_some_iff.1 read
      cases same
      obtain ⟨rfl, ended⟩ := ih later
      exact ⟨by rw [double_cons_self]; rfl, ended⟩
    | case4 d more hd =>
      cases read
      exact ⟨rfl, by simpa using hd⟩
    | case5 c rest hc ih =>
      obtain ⟨⟨t, after'⟩, later, same⟩ := Option.map_eq_some_iff.1 read
      cases same
      obtain ⟨rfl, ended⟩ := ih later
      exact ⟨by rw [double_cons_of_ne hc]; rfl, ended⟩
  · intro written
    obtain ⟨rfl, ended⟩ := written
    exact readLiteral_double ended s

theorem length_lt_of_readLiteral {q : Char} {cs s after : List Char}
    (read : readLiteral q cs = some (s, after)) : after.length < cs.length := by
  rw [(readLiteral_eq_some_iff.1 read).1, List.length_append, List.length_cons]
  omega

/-- The lexemes of a text; none if its last literal is not ended. -/
def lex : List Char → Option (List Lexeme)
  | [] => some []
  | c :: rest =>
    if isQuote c then
      match _read : readLiteral c rest with
      | none => none
      | some (s, after) => (lex after).map (.literal c s :: ·)
    else (lex rest).map (.code c :: ·)
termination_by cs => cs.length
decreasing_by
  · have shorter := length_lt_of_readLiteral _read
    simp only [List.length_cons]
    omega
  · simp

theorem lex_code {c : Char} (plain : isQuote c = false) (cs : List Char) :
    lex (c :: cs) = (lex cs).map (.code c :: ·) := by
  simp [lex, plain]

theorem lex_literal {q : Char} (quote : isQuote q = true) {after : List Char}
    (ended : after.head? ≠ some q) (s : List Char) :
    lex (literal q s ++ after) = (lex after).map (.literal q s :: ·) := by
  have read : readLiteral q (double q s ++ [q] ++ after) = some (s, after) := by
    rw [List.append_assoc]
    exact readLiteral_double ended s
  rw [literal, List.cons_append, lex, if_pos quote]
  split
  case h_1 unread => rw [read] at unread; cases unread
  case h_2 t after' read' =>
    rw [read] at read'
    cases read'
    rfl

theorem lexed_of_lex {cs : List Char} {lexemes : List Lexeme} (h : lex cs = some lexemes) :
    Lexed cs lexemes := by
  fun_induction lex cs generalizing lexemes with
  | case1 =>
    cases h
    exact .nil
  | case2 c rest quote unread => cases h
  | case3 c rest quote s after read ih =>
    obtain ⟨later, hlater, rfl⟩ := Option.map_eq_some_iff.1 h
    obtain ⟨rfl, ended⟩ := readLiteral_eq_some_iff.1 read
    have whole := Lexed.literal s quote ended (ih hlater)
    rwa [literal, List.cons_append, List.append_assoc] at whole
  | case4 c rest plain ih =>
    obtain ⟨later, hlater, rfl⟩ := Option.map_eq_some_iff.1 h
    exact .code (by simpa using plain) (ih hlater)

theorem Lexed.lex_eq {cs : List Char} {lexemes : List Lexeme} (h : Lexed cs lexemes) :
    lex cs = some lexemes := by
  induction h with
  | nil => rw [lex]
  | code plain _ ih => rw [lex_code plain, ih, Option.map_some]
  | literal s quote ended _ ih => rw [lex_literal quote ended, ih, Option.map_some]

/-- **Reading from left to right finds the lexemes of a text**, so they are the only ones. -/
theorem lex_eq_some_iff {cs : List Char} {lexemes : List Lexeme} :
    lex cs = some lexemes ↔ Lexed cs lexemes :=
  ⟨lexed_of_lex, Lexed.lex_eq⟩

/-! ## The scan beside the lexemes -/

theorem Place.next_plain {c : Char} (plain : isQuote c = false) : outside.next c = outside := by
  simp [next, plain]

theorem Place.next_within_self (q : Char) : (within q).next q = closing q := if_pos rfl

theorem Place.next_closing_self (q : Char) : (closing q).next q = within q := if_pos rfl

theorem Place.next_closing {q c : Char} (h : c ≠ q) : (closing q).next c = outside.next c := by
  rw [next, if_neg h, next]

theorem turn_within (d : Nat) (q c : Char) : turn d (within q) c = some d := by
  simp [turn, isCode]

theorem turn_closing_self (d : Nat) (q : Char) : turn d (closing q) q = some d := by
  simp [turn, isCode]

theorem turn_closing {q c : Char} (h : c ≠ q) (d : Nat) :
    turn d (closing q) c = turn d outside c := by
  have code : (closing q).isCode c = outside.isCode c := by simp [isCode, h]
  rw [turn, turn, code]

theorem nest_closing {q : Char} {cs : List Char} (h : cs.head? ≠ some q) (d : Nat) :
    nest d (closing q) cs = nest d outside cs := by
  cases cs with
  | nil => rfl
  | cons c cs =>
    have hc : c ≠ q := by simpa using h
    rw [nest, nest, turn_closing hc, next_closing hc]

theorem run_closing {q c : Char} (h : c ≠ q) (cs : List Char) :
    (closing q).run (c :: cs) = outside.run (c :: cs) := by
  rw [run_cons, run_cons, next_closing h]

theorem free_run_closing {q : Char} {cs : List Char} (h : cs.head? ≠ some q) :
    ((closing q).run cs).Free ↔ (outside.run cs).Free := by
  cases cs with
  | nil => exact Iff.rfl
  | cons c cs => rw [run_closing (by simpa using h)]

/-- A text has lexemes if a scan of it ends in no literal. -/
theorem isSome_lex_iff (cs : List Char) : (lex cs).isSome = true ↔ (outside.run cs).Free := by
  fun_induction lex cs with
  | case1 => exact iff_of_true rfl trivial
  | case2 c rest quote unread =>
    apply iff_of_false (by simp)
    intro free
    rw [run_cons, next_quote quote] at free
    obtain ⟨s, after, split⟩ := exists_double_of_free rest free
    rw [readLiteral_eq_some_iff.2 split] at unread
    cases unread
  | case3 c rest quote s after read ih =>
    obtain ⟨rfl, ended⟩ := readLiteral_eq_some_iff.1 read
    rw [Option.isSome_map, ih, run_cons, next_quote quote, run_append, run_double, run_cons,
      next_within_self, free_run_closing ended]
  | case4 c rest plain ih =>
    rw [Option.isSome_map, ih, run_cons, next_plain (by simpa using plain)]

/-- The place of a scan behind lexemes: the last quote of a literal may still prove doubled. -/
def placeBehind (lexemes : List Lexeme) : Place :=
  match lexemes.getLast? with
  | some (.literal q _) => closing q
  | _ => outside

theorem placeBehind_cons {x : Lexeme} {lexemes : List Lexeme} (h : lexemes ≠ []) :
    placeBehind (x :: lexemes) = placeBehind lexemes := by
  obtain ⟨y, more, rfl⟩ := List.exists_cons_of_ne_nil h
  rw [placeBehind, placeBehind, List.getLast?_cons_cons]

theorem Lexed.ne_nil {c : Char} {cs : List Char} {lexemes : List Lexeme}
    (h : Lexed (c :: cs) lexemes) : lexemes ≠ [] := by
  intro none
  subst none
  cases h

theorem Lexed.run_eq {cs : List Char} {lexemes : List Lexeme} (h : Lexed cs lexemes) :
    outside.run cs = placeBehind lexemes := by
  induction h with
  | nil => rfl
  | @code c cs lexemes plain rest ih =>
    rw [run_cons, next_plain plain]
    cases cs with
    | nil =>
      cases rest
      rfl
    | cons => rw [ih, placeBehind_cons rest.ne_nil]
  | @literal q cs lexemes s quote ended rest ih =>
    rw [run_append, run_literal quote]
    cases cs with
    | nil =>
      cases rest
      rfl
    | cons c cs =>
      rw [run_closing (by simpa using ended), ih, placeBehind_cons rest.ne_nil]

/-- A scan stands behind a last quote exactly if the last lexeme is a literal with that quote. -/
theorem run_eq_closing_iff {cs : List Char} {q : Char} : outside.run cs = closing q ↔
    ∃ lexemes s, Lexed cs (lexemes ++ [.literal q s]) := by
  constructor
  · intro ends
    have free : (outside.run cs).Free := by
      rw [ends]
      trivial
    obtain ⟨lexemes, read⟩ := Option.isSome_iff_exists.1 ((isSome_lex_iff cs).2 free)
    have lexed := lexed_of_lex read
    rw [lexed.run_eq, placeBehind] at ends
    split at ends
    case h_1 r s last =>
      cases ends
      obtain ⟨before, rfl⟩ := List.getLast?_eq_some_iff.1 last
      exact ⟨before, s, lexed⟩
    case h_2 => cases ends
  · intro reading
    obtain ⟨lexemes, s, lexed⟩ := reading
    rw [lexed.run_eq, placeBehind, List.getLast?_concat]

/-! ## Parentheses -/

/-- How many parentheses lexemes open. -/
def openCount (lexemes : List Lexeme) : Nat := lexemes.count (.code '(')

/-- How many parentheses lexemes close. -/
def closeCount (lexemes : List Lexeme) : Nat := lexemes.count (.code ')')

theorem closeCount_nil : closeCount [] = 0 := rfl

/-- Lexemes that close every parenthesis that they open, and none that is not open. -/
structure Nested (lexemes : List Lexeme) : Prop where
  all_closed : closeCount lexemes = openCount lexemes
  none_early : ∀ before, before <+: lexemes → closeCount before ≤ openCount before

theorem forall_prefix_cons {α : Type} {x : α} {xs : List α} {P : List α → Prop} :
    (∀ before, before <+: x :: xs → P before) ↔
      P [] ∧ ∀ before, before <+: xs → P (x :: before) := by
  constructor
  · intro h
    exact ⟨h [] List.nil_prefix, fun before hb => h _ (List.cons_prefix_cons.2 ⟨rfl, hb⟩)⟩
  · intro each before hb
    cases before with
    | nil => exact each.1
    | cons y ys =>
      obtain ⟨rfl, hys⟩ := List.cons_prefix_cons.1 hb
      exact each.2 ys hys

/-- Of `d` open parentheses lexemes leave `e`, and they never close one that is not open. -/
def Leaves (d e : Nat) (lexemes : List Lexeme) : Prop :=
  d + openCount lexemes = e + closeCount lexemes ∧
    ∀ before, before <+: lexemes → closeCount before ≤ d + openCount before

theorem leaves_nil {d e : Nat} : Leaves d e [] ↔ d = e := by
  simp [Leaves, openCount, closeCount]

theorem leaves_open {d e : Nat} {lexemes : List Lexeme} :
    Leaves d e (.code '(' :: lexemes) ↔ Leaves (d + 1) e lexemes := by
  have opens : ∀ ls, openCount (.code '(' :: ls) = openCount ls + 1 := fun _ =>
    List.count_cons_self
  have closes : ∀ ls, closeCount (.code '(' :: ls) = closeCount ls := fun _ =>
    List.count_cons_of_ne (by decide)
  simp only [Leaves, forall_prefix_cons, closeCount_nil, Nat.zero_le, true_and, opens, closes,
    ← Nat.add_assoc, Nat.add_right_comm d _ 1]

theorem leaves_close {d e : Nat} {lexemes : List Lexeme} :
    Leaves d e (.code ')' :: lexemes) ↔ d ≠ 0 ∧ Leaves (d - 1) e lexemes := by
  have opens : ∀ ls, openCount (.code ')' :: ls) = openCount ls := fun _ =>
    List.count_cons_of_ne (by decide)
  have closes : ∀ ls, closeCount (.code ')' :: ls) = closeCount ls + 1 := fun _ =>
    List.count_cons_self
  cases d with
  | zero =>
    -- the first lexeme alone closes more than is open
    apply iff_of_false
    · intro leaves
      have early := leaves.2 [.code ')'] (List.prefix_append _ _)
      revert early
      decide
    · intro leaves
      exact leaves.1 rfl
  | succ d =>
    simp only [Leaves, forall_prefix_cons, closeCount_nil, Nat.zero_le, true_and, opens, closes,
      ne_eq, Nat.succ_ne_zero, not_false_eq_true, Nat.add_right_comm d 1, ← Nat.add_assoc,
      Nat.add_le_add_iff_right, Nat.add_right_cancel_iff, Nat.add_sub_cancel]

theorem leaves_of_ne {d e : Nat} {x : Lexeme} {lexemes : List Lexeme} (ho : x ≠ .code '(')
    (hc : x ≠ .code ')') : Leaves d e (x :: lexemes) ↔ Leaves d e lexemes := by
  have opens : ∀ ls, openCount (x :: ls) = openCount ls := fun _ => List.count_cons_of_ne ho
  have closes : ∀ ls, closeCount (x :: ls) = closeCount ls := fun _ => List.count_cons_of_ne hc
  simp only [Leaves, forall_prefix_cons, closeCount_nil, Nat.zero_le, true_and, opens, closes]

/-- The parentheses that a text leaves open are those that its lexemes leave open. -/
theorem Lexed.nest_eq_some_iff {cs : List Char} {lexemes : List Lexeme} (h : Lexed cs lexemes)
    {d e : Nat} : nest d outside cs = some e ↔ Leaves d e lexemes := by
  induction h generalizing d with
  | nil => rw [nest, leaves_nil, Option.some.injEq]
  | @code c cs lexemes plain _ ih =>
    have code : outside.isCode c = true := by simp [isCode, plain]
    rw [nest, next_plain plain]
    by_cases ho : c = '('
    · subst ho
      rw [leaves_open, ← ih]
      rfl
    · by_cases hc : c = ')'
      · subst hc
        rw [leaves_close, ← ih]
        cases d with
        | zero => simp [turn, isCode, isQuote]
        | succ d => simp [turn_close code]
      · rw [leaves_of_ne (by simpa using ho) (by simpa using hc), ← ih,
          turn_of_plain (fun _ => ⟨ho, hc⟩), Option.bind_some]
  | @literal q cs lexemes s quote ended _ ih =>
    rw [leaves_of_ne Lexeme.noConfusion Lexeme.noConfusion, ← ih, nest_append,
      nest_of_smooth (smooth_literal quote s), Option.bind_some, run_literal quote,
      nest_closing ended]

theorem nested_iff_leaves {lexemes : List Lexeme} : Nested lexemes ↔ Leaves 0 0 lexemes := by
  simp only [Leaves, Nat.zero_add]
  exact ⟨fun h => ⟨h.all_closed.symm, h.none_early⟩, fun h => ⟨h.1.symm, h.2⟩⟩

/-- **A text is balanced exactly if its lexemes are nested.** -/
theorem balanced_iff_lexed {cs : List Char} :
    Balanced cs ↔ ∃ lexemes, Lexed cs lexemes ∧ Nested lexemes := by
  constructor
  · intro balanced
    obtain ⟨count, free⟩ := balanced
    obtain ⟨lexemes, read⟩ := Option.isSome_iff_exists.1 ((isSome_lex_iff cs).2 free)
    have lexed := lexed_of_lex read
    exact ⟨lexemes, lexed, nested_iff_leaves.2 (lexed.nest_eq_some_iff.1 count)⟩
  · intro reading
    obtain ⟨lexemes, lexed, nested⟩ := reading
    have free := (isSome_lex_iff cs).1 (by rw [lexed.lex_eq]; rfl)
    exact ⟨lexed.nest_eq_some_iff.2 (nested_iff_leaves.1 nested), free⟩

end CatalogTypes.Check
