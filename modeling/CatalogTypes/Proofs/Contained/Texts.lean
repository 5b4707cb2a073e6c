import CatalogTypes.Declaration.Render
import CatalogTypes.Proofs.Contained.Scan
import CatalogTypes.Transform
import Mathlib.Data.List.Infix

/-!
# Texts that are not ours

The strings of a catalog come into a module at four places, and each is contained there whatever
the string is:

* in a literal, since every quote and backslash of it is escaped (`Contained.quotePlain`);
* in a key, which is a literal unless it is an identifier (`Contained.renderKey`);
* in a comment, since a backslash parts every end mark in it and the lines that it is split into
  are pieces of what results (`Contained.renderComment`);
* in the name of a table's type, which has letters, digits and underscores only
  (`Contained.pascalCase`).
-/

namespace CatalogTypes

/-! ## Literals -/

/-- A spelling of characters that no literal ends in. -/
def StaysLiteral (spell : Char → List Char) : Prop :=
  ∀ c due, Scan.run ⟨.literal, due⟩ (spell c) = some ⟨.literal, due⟩

theorem StaysLiteral.run {spell : Char → List Char} (stays : StaysLiteral spell) (cs : List Char)
    (due : List Char) : Scan.run ⟨.literal, due⟩ (cs.flatMap spell) = some ⟨.literal, due⟩ := by
  induction cs with
  | nil => rfl
  | cons c cs ih => rw [List.flatMap_cons, Scan.run_append_of_run (stays c due), ih]

theorem Contained.literal {spell : Char → List Char} (stays : StaysLiteral spell)
    (cs : List Char) : Contained (String.ofList (Json.literal spell cs)) := by
  rw [Contained, String.toList_ofList, Json.literal, List.cons_append]
  show Scan.run ⟨.literal, []⟩ (cs.flatMap spell ++ ['"']) = some {}
  rw [Scan.run_append_of_run (stays.run cs [])]
  rfl

theorem run_literal_plain {c : Char} (quote : c ≠ '"') (backslash : c ≠ '\\') (due : List Char) :
    Scan.run ⟨.literal, due⟩ [c] = some ⟨.literal, due⟩ := by
  simp [Scan.next, quote, backslash]

theorem run_literal_shortEscape {c : Char} {escape : List Char}
    (h : Json.shortEscape? c = some escape) (due : List Char) :
    Scan.run ⟨.literal, due⟩ escape = some ⟨.literal, due⟩ := by
  unfold Json.shortEscape? at h
  split_ifs at h <;> cases h <;> rfl

theorem hexDigit_ne {n : Nat} (h : n < 16) :
    Text.hexDigit n ≠ '"' ∧ Text.hexDigit n ≠ '\\' := by
  revert n
  decide

theorem run_literal_hexDigits (width n : Nat) (due : List Char) :
    Scan.run ⟨.literal, due⟩ (Text.hexDigits width n) = some ⟨.literal, due⟩ := by
  induction width generalizing n with
  | zero => rfl
  | succ width ih =>
    obtain ⟨quote, backslash⟩ := hexDigit_ne (Nat.mod_lt n (by decide : 0 < 16))
    rw [Text.hexDigits, Scan.run_append_of_run (ih (n / 16))]
    exact run_literal_plain quote backslash due

theorem run_literal_unitEscape (n : Nat) (due : List Char) :
    Scan.run ⟨.literal, due⟩ (Json.unitEscape n) = some ⟨.literal, due⟩ :=
  run_literal_hexDigits 4 n due

theorem staysLiteral_plainChar : StaysLiteral Json.plainChar := by
  intro c due
  unfold Json.plainChar
  cases short : Json.shortEscape? c with
  | some escape => exact run_literal_shortEscape short due
  | none =>
    obtain ⟨quote, backslash⟩ := Json.ne_of_shortEscape?_eq_none short
    dsimp only
    split_ifs
    · exact run_literal_unitEscape _ due
    · exact run_literal_plain quote backslash due

theorem staysLiteral_asciiChar : StaysLiteral Json.asciiChar := by
  intro c due
  unfold Json.asciiChar
  cases short : Json.shortEscape? c with
  | some escape => exact run_literal_shortEscape short due
  | none =>
    obtain ⟨quote, backslash⟩ := Json.ne_of_shortEscape?_eq_none short
    dsimp only
    split_ifs
    · exact run_literal_plain quote backslash due
    · exact run_literal_unitEscape _ due
    · rw [Scan.run_append_of_run (run_literal_unitEscape _ due)]
      exact run_literal_unitEscape _ due

theorem Contained.quotePlain (s : String) : Contained (Json.quotePlain s) :=
  .literal staysLiteral_plainChar s.toList

theorem Contained.quoteAscii (s : String) : Contained (Json.quoteAscii s) :=
  .literal staysLiteral_asciiChar s.toList

/-! ## Identifiers -/

theorem isPlain_of_isIdentifierPart {c : Char} (h : isIdentifierPart c = true) :
    isPlain c = true := by
  by_contra special
  simp only [isPlain, Bool.not_eq_true', Bool.not_eq_false, Bool.or_eq_true,
    decide_eq_true_eq] at special
  rcases special with ((((((rfl | rfl) | rfl) | rfl) | rfl) | rfl) | rfl) | rfl
  all_goals exact absurd h (by decide)

theorem isIdentifierPart_of_isIdentifier {cs : List Char} (h : isIdentifier cs = true) :
    ∀ c ∈ cs, isIdentifierPart c = true := by
  cases cs with
  | nil => exact absurd h (by decide)
  | cons d rest =>
    obtain ⟨start, parts⟩ := Bool.and_eq_true_iff.1 h
    intro c hc
    rcases List.mem_cons.1 hc with rfl | hc
    · have widened : (c.isAlpha || c = '_' || c = '$') = true := start
      rw [isIdentifierPart, Char.isAlphanum]
      grind
    · exact List.all_eq_true.1 parts c hc

theorem isPlain_of_isIdentifier {cs : List Char} (h : isIdentifier cs = true) :
    ∀ c ∈ cs, isPlain c = true := fun c hc =>
  isPlain_of_isIdentifierPart (isIdentifierPart_of_isIdentifier h c hc)

/-! ## Keys -/

/-- The key is the identifier and one line feed behind it. -/
def LineFeedAfter (name key : String) : Prop :=
  isIdentifier name.toList = true ∧ key = name ++ "\n"

theorem LineFeedAfter.toList {name key : String} (h : LineFeedAfter name key) :
    key.toList = name.toList ++ ['\n'] := by
  rw [h.2, String.toList_append]
  rfl

/-- A key is written bare exactly if it is an identifier, or one with a line feed behind it. -/
theorem isBareKey_iff {key : String} :
    isBareKey key.toList = true ↔
      isIdentifier key.toList = true ∨ ∃ name, LineFeedAfter name key := by
  rw [isBareKey, Bool.or_eq_true, Bool.and_eq_true, decide_eq_true_eq]
  refine or_congr_right ⟨fun ⟨last, front⟩ => ?_, ?_⟩
  · obtain ⟨front', same⟩ := List.getLast?_eq_some_iff.1 last
    rw [same, List.dropLast_concat] at front
    refine ⟨String.ofList front', by rwa [String.toList_ofList], String.toList_injective ?_⟩
    rw [same]
    simp
  · rintro ⟨name, after⟩
    rw [after.toList, List.getLast?_concat, List.dropLast_concat]
    exact ⟨rfl, after.1⟩

theorem Contained.renderKey (key : String) : Contained (renderKey key) := by
  unfold CatalogTypes.renderKey
  split
  next bare =>
    refine .of_isPlain ?_
    rcases isBareKey_iff.1 bare with whole | ⟨name, after⟩
    · exact isPlain_of_isIdentifier whole
    · rw [after.toList]
      exact List.forall_mem_append.2
        ⟨isPlain_of_isIdentifier after.1, List.forall_mem_singleton.2 rfl⟩
  next => exact .quoteAscii key

/-! ## Type names -/

theorem isPlain_of_isAlphanum {c : Char} (h : c.isAlphanum = true) : isPlain c = true :=
  isPlain_of_isIdentifierPart (by simp [isIdentifierPart, h])

theorem Contained.pascalCase (name : String) : Contained (Naming.pascalCase name) := by
  have plain : ∀ c ∈ Naming.capitalizedRuns true name.toList, isPlain c = true := fun c hc =>
    isPlain_of_isAlphanum (Naming.isAlphanum_of_mem_capitalizedRuns c hc)
  refine .of_isPlain ?_
  rw [Naming.pascalCase, String.toList_ofList, Naming.pascalChars]
  split
  next => exact List.all_eq_true.1 rfl
  next c rest same =>
    rw [same] at plain
    split
    · exact List.forall_mem_cons.2 ⟨rfl, plain⟩
    · exact plain

/-! ## Comments -/

/-- A text in which no comment ends. -/
def NoEnd (cs : List Char) : Prop := ¬ ['*', '/'] <:+: cs

instance (cs : List Char) : Decidable (NoEnd cs) :=
  inferInstanceAs (Decidable (¬ ['*', '/'] <:+: cs))

theorem noEnd_cons {c : Char} {cs : List Char} :
    NoEnd (c :: cs) ↔ ¬ (c = '*' ∧ cs.head? = some '/') ∧ NoEnd cs := by
  have start : ['*', '/'] <+: c :: cs ↔ c = '*' ∧ cs.head? = some '/' := by
    cases cs <;> simp [List.cons_prefix_cons, eq_comm]
  rw [NoEnd, List.infix_cons_iff, start, not_or]
  rfl

theorem NoEnd.of_piece {cs ds : List Char} (h : NoEnd ds) (piece : cs <:+: ds) : NoEnd cs :=
  fun mark => h (mark.trans piece)

/-- No end mark lies across a character that is no part of one. -/
theorem NoEnd.append_cons {c : Char} (star : c ≠ '*') (slash : c ≠ '/') {cs ds : List Char}
    (front : NoEnd cs) (back : NoEnd ds) : NoEnd (cs ++ c :: ds) := by
  induction cs with
  | nil => exact noEnd_cons.2 ⟨fun mark => star mark.1, back⟩
  | cons d cs ih =>
    obtain ⟨apart, rest⟩ := noEnd_cons.1 front
    refine noEnd_cons.2 ⟨fun mark => apart ⟨mark.1, ?_⟩, ih rest⟩
    cases cs with
    | nil => exact absurd (Option.some.inj mark.2) slash
    | cons e cs => exact mark.2

theorem head?_escapeCommentEnd (cs : List Char) : (escapeCommentEnd cs).head? = cs.head? := by
  fun_cases escapeCommentEnd cs <;> rfl

/-- **No comment ends in an escaped text.** -/
theorem noEnd_escapeCommentEnd (cs : List Char) : NoEnd (escapeCommentEnd cs) := by
  fun_induction escapeCommentEnd cs with
  | case1 => exact by decide
  | case2 rest ih =>
    refine noEnd_cons.2 ⟨?_, noEnd_cons.2 ⟨?_, noEnd_cons.2 ⟨?_, ih⟩⟩⟩
    all_goals simp
  | case3 c rest open_ ih =>
    refine noEnd_cons.2 ⟨?_, ih⟩
    rintro ⟨rfl, head⟩
    rw [head?_escapeCommentEnd] at head
    cases rest with
    | nil => cases head
    | cons d rest => exact open_ rest rfl (by rw [Option.some.inj head])

/-- The lines of a text are pieces of it, and the first one begins it. -/
theorem isInfix_of_mem_lines (cs : List Char) :
    (∀ line ∈ Text.lines cs, line <:+: cs) ∧ ∀ line ∈ (Text.lines cs).head?, line <+: cs := by
  fun_induction Text.lines cs with
  | case1 => simp
  | case2 rest ih =>
    refine ⟨List.forall_mem_cons.2 ⟨List.nil_infix, fun line hl => ?_⟩, ?_⟩
    · exact ((ih.1 line hl).trans (List.suffix_cons _ _).isInfix).trans
        (List.suffix_cons _ _).isInfix
    · rintro line ⟨⟩
      exact List.nil_prefix
  | case3 c rest _ _ ih =>
    refine ⟨List.forall_mem_cons.2 ⟨List.nil_infix, fun line hl => ?_⟩, ?_⟩
    · exact (ih.1 line hl).trans (List.suffix_cons _ _).isInfix
    · rintro line ⟨⟩
      exact List.nil_prefix
  | case4 c rest _ _ none ih =>
    refine ⟨fun line hl => ?_, ?_⟩
    · rw [List.mem_singleton.1 hl]
      exact (List.prefix_append [c] rest).isInfix
    · rintro line ⟨⟩
      exact List.prefix_append [c] rest
  | case5 c rest _ _ first more some ih =>
    rw [some] at ih
    have start : c :: first <+: c :: rest := (List.prefix_cons_inj c).2 (ih.2 first rfl)
    refine ⟨List.forall_mem_cons.2 ⟨start.isInfix, fun line hl => ?_⟩, ?_⟩
    · exact (ih.1 line (List.mem_cons_of_mem first hl)).trans (List.suffix_cons _ _).isInfix
    · rintro line ⟨⟩
      exact start

theorem isPrefix_trimEndBy (p : Char → Bool) (cs : List Char) : Text.trimEndBy p cs <+: cs := by
  rw [← List.reverse_suffix, Text.trimEndBy, List.reverse_reverse]
  exact List.dropWhile_suffix p

theorem noEnd_joinWith {texts : List String} (each : ∀ s ∈ texts, NoEnd s.toList) :
    NoEnd (Text.joinWith "\n" texts).toList := by
  induction texts with
  | nil => exact by decide
  | cons s texts ih =>
    cases texts with
    | nil => exact each s List.mem_cons_self
    | cons t rest =>
      have others := ih fun u hu => each u (List.mem_cons_of_mem s hu)
      rw [Text.joinWith, String.toList_append, String.toList_append, List.append_assoc]
      exact (each s List.mem_cons_self).append_cons (by decide) (by decide) others

/-- The scan of a comment runs up to the first end mark, wherever in the comment it is taken up. -/
theorem run_comment {cs : List Char} (h : NoEnd cs) (due rest : List Char) :
    Scan.run ⟨.comment, due⟩ (cs ++ '*' :: '/' :: rest) = Scan.run ⟨.code, due⟩ rest ∧
    (cs.head? ≠ some '/' →
      Scan.run ⟨.star, due⟩ (cs ++ '*' :: '/' :: rest) = Scan.run ⟨.code, due⟩ rest) := by
  induction cs with
  | nil => exact ⟨rfl, fun _ => rfl⟩
  | cons c cs ih =>
    obtain ⟨apart, others⟩ := noEnd_cons.1 h
    obtain ⟨fromComment, fromStar⟩ := ih others
    by_cases star : c = '*'
    · subst star
      have after := fromStar fun slash => apart ⟨rfl, slash⟩
      exact ⟨after, fun _ => after⟩
    · refine ⟨?_, fun slash => ?_⟩
      · simpa [Scan.next, star] using fromComment
      · have slash : c ≠ '/' := fun same => slash (congrArg some same)
        simpa [Scan.next, star, slash] using fromComment

/-- A comment whose text holds no end mark is contained, with blanks before it. -/
theorem Contained.of_comment {s : String} {lead : List Char} (text : List Char)
    (written : s.toList = lead ++ '/' :: '*' :: (text ++ ['*', '/']))
    (plain : ∀ c ∈ lead, isPlain c = true) (h : NoEnd text) : Contained s := by
  have front : Contained (String.ofList lead) := .of_isPlain (by rwa [String.toList_ofList])
  rw [Contained, String.toList_ofList] at front
  rw [Contained, written, Scan.run_append_of_run front]
  exact (run_comment h [] []).1

theorem mem_indentation {depth : Nat} {c : Char} (h : c ∈ (indentation depth).toList) :
    c = ' ' := by
  rw [indentation, String.toList_ofList] at h
  exact List.eq_of_mem_replicate h

theorem isPlain_indentation (depth : Nat) : ∀ c ∈ (indentation depth).toList, isPlain c = true := by
  intro c hc
  rw [mem_indentation hc]
  rfl

theorem noEnd_indentation (depth : Nat) : NoEnd (indentation depth).toList := by
  intro mark
  have star : '*' ∈ (indentation depth).toList := mark.subset List.mem_cons_self
  exact absurd (mem_indentation star) (by decide)

theorem noEnd_starred (depth : Nat) {line : List Char} (h : NoEnd line) :
    NoEnd (Text.trimEndBy Text.isBlank
      ((indentation depth).toList ++ ' ' :: '*' :: ' ' :: line)) := by
  have whole : NoEnd (((indentation depth).toList ++ ' ' :: ['*']) ++ ' ' :: line) :=
    ((noEnd_indentation depth).append_cons (by decide) (by decide) (by decide)).append_cons
      (by decide) (by decide) h
  rw [List.append_assoc] at whole
  exact whole.of_piece (isPrefix_trimEndBy Text.isBlank _).isInfix

/-- A written comment is its mark, a text in which no comment ends, and the end mark. -/
theorem exists_renderComment (depth : Nat) (comment : String) :
    ∃ text, (renderComment (indentation depth) comment).toList =
        (indentation depth).toList ++ '/' :: '*' :: ('*' :: text ++ ['*', '/']) ∧
      NoEnd ('*' :: text) := by
  have quiet : ∀ line ∈ Text.lines (escapeCommentEnd comment.toList), NoEnd line := fun line hl =>
    (noEnd_escapeCommentEnd comment.toList).of_piece ((isInfix_of_mem_lines _).1 line hl)
  have star : NoEnd ['*'] := by decide
  unfold CatalogTypes.renderComment
  split
  next => exact ⟨[' ', ' '], by simp, by decide⟩
  next line single =>
    have inner : NoEnd line := quiet line (by rw [single]; exact List.mem_singleton_self line)
    refine ⟨' ' :: (line ++ ' ' :: []), by simp, ?_⟩
    exact star.append_cons (by decide) (by decide)
      (inner.append_cons (by decide) (by decide) (by decide))
  next =>
    dsimp only
    generalize starred : List.map _ _ = lines
    have inner : NoEnd (Text.joinWith "\n" lines).toList := by
      refine noEnd_joinWith fun s hs => ?_
      rw [← starred] at hs
      obtain ⟨line, hl, rfl⟩ := List.mem_map.1 hs
      rw [String.toList_ofList]
      exact noEnd_starred depth (quiet line hl)
    refine ⟨'\n' :: ((Text.joinWith "\n" lines).toList ++
      '\n' :: ((indentation depth).toList ++ ' ' :: [])), by simp, ?_⟩
    exact star.append_cons (by decide) (by decide)
      (inner.append_cons (by decide) (by decide)
        ((noEnd_indentation depth).append_cons (by decide) (by decide) (by decide)))

/-- **A comment is contained whatever it says.** -/
theorem Contained.renderComment (depth : Nat) (comment : String) :
    Contained (renderComment (indentation depth) comment) := by
  obtain ⟨text, written, quiet⟩ := exists_renderComment depth comment
  exact .of_comment ('*' :: text) written (isPlain_indentation depth) quiet

end CatalogTypes
