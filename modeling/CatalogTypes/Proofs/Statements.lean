import CatalogTypes.Catalog.Sqlite
import CatalogTypes.Proofs.Check.Lexemes

/-!
# What the statements for columns ask for

A statement for the columns of a table holds the table's name as a quoted identifier.  Quoted
identifiers are read by the rule for literals: a doubled quote is one quote of the name, and a
single one ends it.

**Theorem (`statements_ask`).** Whatever the name, its statement is read as the keyword, one
identifier with exactly this name, and the closing parenthesis.  So every statement of a catalog
asks for the table that it was made for, and is answered with the columns of that table.

A name reaches the statement with its quotes doubled and nothing else changed, which makes the
identifier a literal (`quoteIdentifier_eq`); the parenthesis behind it is no quote, so its last
quote stays single.
-/

namespace CatalogTypes

open Check

/-- What stands before the name in a statement for columns. -/
def columnsOpening : List Lexeme := "PRAGMA table_info(".toList.map .code

/-- A statement for the columns of a table, lexeme by lexeme. -/
def columnsLexemes (name : String) : List Lexeme :=
  columnsOpening ++ [.literal '"' name.toList, .code ')']

/-- The table whose columns a statement asks for. -/
def askedTable (statement : String) : Option String :=
  match (lex statement.toList).map List.reverse with
  | some (.code ')' :: .literal '"' name :: before) =>
    if before.reverse = columnsOpening then some (String.ofList name) else none
  | _ => none

/-- What a catalog answers to a statement: the columns of the table that it asks for. -/
def SqliteCatalog.answer (c : SqliteCatalog) (statement : String) : List SqliteColumn :=
  ((askedTable statement).bind c.columns.find?).getD []

/-! ## Reading a statement -/

theorem quoteIdentifier_eq (name : List Char) : quoteIdentifier name = literal '"' name := rfl

theorem lex_plain_append {plain : List Char} (h : ∀ c ∈ plain, isQuote c = false)
    (cs : List Char) : lex (plain ++ cs) = (lex cs).map (plain.map .code ++ ·) := by
  induction plain with
  | nil => simp
  | cons c plain ih =>
    rw [List.cons_append, lex_code (h c List.mem_cons_self),
      ih fun d hd => h d (List.mem_cons_of_mem c hd), Option.map_map]
    rfl

theorem toList_columnsStatement (name : String) : (columnsStatement name).toList =
    "PRAGMA table_info(".toList ++ (literal '"' name.toList ++ [')']) := by
  -- stated for any opening, since rewriting would unfold the one that is written out
  have text : ∀ opening : String, ∀ cs : List Char,
      (opening ++ String.ofList cs ++ ")").toList = opening.toList ++ (cs ++ [')']) := by
    intro opening cs
    rw [String.toList_append, String.toList_append, String.toList_ofList, List.append_assoc]
    rfl
  rw [← quoteIdentifier_eq]
  exact text "PRAGMA table_info(" (quoteIdentifier name.toList)

theorem lex_columnsStatement (name : String) :
    lex (columnsStatement name).toList = some (columnsLexemes name) := by
  have unquoted : "PRAGMA table_info(".toList.all (!isQuote ·) = true := by decide +kernel
  have plain : ∀ c ∈ "PRAGMA table_info(".toList, isQuote c = false := fun c hc => by
    simpa only [Bool.not_eq_true'] using List.all_eq_true.1 unquoted c hc
  have close : lex [')'] = some [.code ')'] := by rw [lex_code (by decide), lex, Option.map_some]
  rw [toList_columnsStatement, lex_plain_append plain, lex_literal (by decide) (by decide), close]
  rfl

/-- A statement asks for a table exactly if it is read as the statement for its columns. -/
theorem askedTable_eq_some_iff {statement name : String} :
    askedTable statement = some name ↔ lex statement.toList = some (columnsLexemes name) := by
  constructor
  · intro asked
    rw [askedTable] at asked
    split at asked
    case h_2 => cases asked
    case h_1 text before read =>
    split at asked
    case isFalse => cases asked
    case isTrue opening =>
    cases asked
    obtain ⟨lexemes, hlex, reversed⟩ := Option.map_eq_some_iff.1 read
    have same : lexemes = before.reverse ++ [.literal '"' text, .code ')'] := by
      rw [← List.reverse_reverse lexemes, reversed]
      simp
    rw [hlex, same, opening, columnsLexemes, String.toList_ofList]
  · intro read
    rw [askedTable, read]
    simp [columnsLexemes]

example : columnsStatement "a\"b" = "PRAGMA table_info(\"a\"\"b\")" := by decide +kernel

theorem askedTable_columnsStatement (name : String) :
    askedTable (columnsStatement name) = some name :=
  askedTable_eq_some_iff.2 (lex_columnsStatement name)

theorem SqliteCatalog.answer_columnsStatement (c : SqliteCatalog) (o : SqliteObject) :
    c.answer (columnsStatement o.name) = c.columnsOf o := by
  rw [answer, askedTable_columnsStatement, Option.bind_some, columnsOf]

/-- **A statement asks for the table that it was made for**, and is answered with the columns of
that table. -/
theorem statements_ask (c : SqliteCatalog) :
    (∀ name, lex (columnsStatement name).toList = some (columnsLexemes name)) ∧
      (∀ name other, askedTable (columnsStatement name) = some other ↔ other = name) ∧
      c.statements.map askedTable = c.objects.map (fun o => some o.name) ∧
      c.statements.map c.answer = c.objects.map c.columnsOf := by
  refine ⟨lex_columnsStatement, fun name other => ?_, ?_, ?_⟩
  · rw [askedTable_columnsStatement, Option.some.injEq, eq_comm]
  · rw [SqliteCatalog.statements, List.map_map]
    exact List.map_congr_left fun o _ => askedTable_columnsStatement o.name
  · rw [SqliteCatalog.statements, List.map_map]
    exact List.map_congr_left fun o _ => c.answer_columnsStatement o

end CatalogTypes
