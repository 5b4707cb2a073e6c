import CatalogTypes.Proofs.Check.Bodies

/-!
# Constraints inside literals

The text of a literal is a value and states nothing, also where it reads like a constraint.
`constraintBodies` are the bodies of the constraints whose keywords stand outside the literals of
a definition.

`bodies` looks for keywords without regard to literals, and counts parentheses behind each of them
as if it stood outside.  So it finds what is to be found, and possibly more:

**Theorem (`ignoresLiterals_iff`).** Every constraint outside the literals is found.  Nothing else
is found exactly if no keyword inside a literal is followed by a balanced text in parentheses; and
what else is found permits nothing unless it has the shape of a list of values.
-/

namespace CatalogTypes.Check

open Place

/-! ## Constraints outside literals -/

/-- The bodies of the constraints of a text whose keywords stand in no literal. -/
def unquotedBodies (p : Place) (inWord : Bool) : List Char → List (List Char)
  | [] => []
  | c :: rest =>
    (if p.Free then bodyHere inWord (c :: rest) else none).toList ++
      unquotedBodies (p.next c) (Text.isWordChar c) rest

/-- The bodies of the constraints of a definition, without the blanks around them, in order. -/
def constraintBodies (sql : String) : List String :=
  ((unquotedBodies outside false sql.toList).map Text.trimChars).map String.ofList

/-- The values that the constraints of a definition permit. -/
def constraintValues (sql : String) : Keyed (List String) :=
  valuesOf ((constraintBodies sql).filterMap parseIn)

/-- Of a definition only its constraints are read, and nothing that its literals say. -/
def IgnoresLiterals (sql : String) : Prop :=
  bodies sql = constraintBodies sql ∧ permittedValues sql = constraintValues sql

/-- A literal that is open behind the text; one that is never closed reaches to the end. -/
def InLiteral (before : List Char) : Prop := ¬(outside.run before).Free

/-- A literal of the definition holds the keyword of what reads like a constraint with the body. -/
def QuotedConstraint (sql : String) (body : List Char) : Prop :=
  ∃ before rest, sql.toList = before ++ rest ∧ InLiteral before ∧
    (∀ c ∈ before.getLast?, Text.isWordChar c = false) ∧ BeginsConstraint rest body

/-! ## One scan against the other -/

/-- A constraint with the body begins at a place within a literal. -/
def QuotedFrom (p : Place) (inWord : Bool) (cs body : List Char) : Prop :=
  ∃ before rest, cs = before ++ rest ∧ ¬(p.run before).Free ∧
    bodyHere (endsInWord inWord before) rest = some body

theorem not_quotedFrom_nil (p : Place) (inWord : Bool) (body : List Char) :
    ¬QuotedFrom p inWord [] body := by
  rintro ⟨before, rest, hsplit, -, found⟩
  obtain ⟨rfl, rfl⟩ := List.append_eq_nil_iff.1 hsplit.symm
  obtain ⟨-, word, gap, after, -, -, -, hempty⟩ := bodyHere_eq_some_iff.1 found
  simp at hempty

theorem quotedFrom_cons {p : Place} {inWord : Bool} {c : Char} {rest body : List Char} :
    QuotedFrom p inWord (c :: rest) body ↔
      (¬p.Free ∧ bodyHere inWord (c :: rest) = some body) ∨
        QuotedFrom (p.next c) (Text.isWordChar c) rest body := by
  constructor
  · rintro ⟨before, more, hsplit, quoted, found⟩
    cases before with
    | nil =>
      obtain rfl : c :: rest = more := hsplit
      exact .inl ⟨quoted, found⟩
    | cons d before =>
      obtain ⟨rfl, rfl⟩ := List.cons.inj hsplit
      rw [endsInWord_cons] at found
      exact .inr ⟨before, more, rfl, quoted, found⟩
  · rintro (⟨quoted, found⟩ | ⟨before, more, rfl, quoted, found⟩)
    · exact ⟨[], c :: rest, rfl, quoted, found⟩
    · refine ⟨c :: before, more, rfl, quoted, ?_⟩
      rwa [endsInWord_cons]

theorem quotedFrom_outside_iff {sql : String} {body : List Char} :
    QuotedFrom outside false sql.toList body ↔ QuotedConstraint sql body := by
  simp only [QuotedFrom, QuotedConstraint, InLiteral, bodyHere_eq_some_iff,
    endsInWord_eq_false_iff]

theorem unquotedBodies_sublist (p : Place) (inWord : Bool) (cs : List Char) :
    (unquotedBodies p inWord cs).Sublist (rawBodies inWord cs) := by
  induction cs generalizing p inWord with
  | nil => exact List.Sublist.slnil
  | cons c rest ih =>
    rw [unquotedBodies, rawBodies_cons]
    refine List.Sublist.append ?_ (ih _ _)
    split
    · exact List.Sublist.refl _
    · exact List.nil_sublist _

theorem rawBodies_eq_unquotedBodies_iff {p : Place} {inWord : Bool} {cs : List Char} :
    rawBodies inWord cs = unquotedBodies p inWord cs ↔ ∀ body, ¬QuotedFrom p inWord cs body := by
  induction cs generalizing p inWord with
  | nil => exact iff_of_true rfl (not_quotedFrom_nil p inWord)
  | cons c rest ih =>
    simp only [quotedFrom_cons, not_or, forall_and, ← ih, rawBodies_cons, unquotedBodies]
    by_cases free : p.Free
    · simp [free]
    · have fewer := (unquotedBodies_sublist (p.next c) (Text.isWordChar c) rest).length_le
      cases found : bodyHere inWord (c :: rest) with
      | none => simp [free]
      | some body =>
        -- one body more is found here, and what is found later cannot make up for it
        refine iff_of_false ?_ (by simp [free])
        intro same
        have lengths := congrArg List.length same
        simp only [Option.toList_some, if_neg free, Option.toList_none, List.length_append,
          List.length_singleton, List.length_nil] at lengths
        omega

theorem filterMap_rawBodies_eq {α : Type} {f : List Char → Option α} {p : Place} {inWord : Bool}
    {cs : List Char} (h : ∀ body, QuotedFrom p inWord cs body → f body = none) :
    (rawBodies inWord cs).filterMap f = (unquotedBodies p inWord cs).filterMap f := by
  induction cs generalizing p inWord with
  | nil => rfl
  | cons c rest ih =>
    simp only [quotedFrom_cons] at h
    rw [rawBodies_cons, unquotedBodies, List.filterMap_append, List.filterMap_append,
      ih fun body quoted => h body (.inr quoted)]
    congr 1
    by_cases free : p.Free
    · rw [if_pos free]
    · rw [if_neg free]
      cases found : bodyHere inWord (c :: rest) with
      | none => rfl
      | some body => simp [h body (.inl ⟨free, found⟩)]

/-! ## Whole definitions -/

theorem constraintBodies_sublist (sql : String) : (constraintBodies sql).Sublist (bodies sql) :=
  ((unquotedBodies_sublist outside false sql.toList).map _).map _

theorem bodies_eq_constraintBodies_iff {sql : String} :
    bodies sql = constraintBodies sql ↔ ∀ body, ¬QuotedConstraint sql body := by
  simp only [← quotedFrom_outside_iff, ← rawBodies_eq_unquotedBodies_iff]
  constructor
  · intro same
    have lengths : (unquotedBodies outside false sql.toList).length =
        (rawBodies false sql.toList).length := by
      simpa [bodies, bodyChars, constraintBodies] using congrArg List.length same.symm
    exact ((unquotedBodies_sublist outside false sql.toList).eq_of_length lengths).symm
  · intro same
    rw [bodies, bodyChars, same, constraintBodies]

theorem filterMap_parseIn_trimmed (raw : List (List Char)) :
    ((raw.map Text.trimChars).map String.ofList).filterMap parseIn =
      raw.filterMap fun body => parseIn (String.ofList body) := by
  have twice : ∀ body, Text.trimChars (Text.trimChars body) = Text.trimChars body :=
    Text.trimBy_trimBy Text.isBlank
  have same : parseIn ∘ String.ofList ∘ Text.trimChars = fun body => parseIn (String.ofList body) :=
    funext fun body => by
      simp only [Function.comp_apply, parseIn, parseInChars, String.toList_ofList, twice]
  rw [List.map_map, List.filterMap_map, same]

theorem permittedValues_eq {sql : String}
    (h : ∀ body, QuotedConstraint sql body → parseIn (String.ofList body) = none) :
    permittedValues sql = constraintValues sql := by
  have same := filterMap_rawBodies_eq fun body quoted => h body (quotedFrom_outside_iff.1 quoted)
  rw [permittedValues, constraintValues, bodies, bodyChars, constraintBodies,
    filterMap_parseIn_trimmed, filterMap_parseIn_trimmed, same]

/-- **Constraints are read and literals are not, exactly if no literal holds the keyword of a
constraint that is closed.** -/
theorem ignoresLiterals_iff (sql : String) :
    (constraintBodies sql).Sublist (bodies sql) ∧
      (IgnoresLiterals sql ↔ ∀ body, ¬QuotedConstraint sql body) ∧
      ((∀ body, QuotedConstraint sql body → parseIn (String.ofList body) = none) →
        permittedValues sql = constraintValues sql) := by
  refine ⟨constraintBodies_sublist sql, ⟨?_, ?_⟩, permittedValues_eq⟩
  · intro ignores
    exact bodies_eq_constraintBodies_iff.1 ignores.1
  · intro unquoted
    exact ⟨bodies_eq_constraintBodies_iff.2 unquoted,
      permittedValues_eq fun body quoted => absurd quoted (unquoted body)⟩

/-- The text of a permitted value is read as a constraint and overwrites the values. -/
theorem value_not_ignoresLiterals :
    constraintValues "CREATE TABLE t (s TEXT CHECK (s IN ('a', 'CHECK (s IN (\"x\"))')))" =
        [("s", ["a", "CHECK (s IN (\"x\"))"])] ∧
      permittedValues "CREATE TABLE t (s TEXT CHECK (s IN ('a', 'CHECK (s IN (\"x\"))')))" =
        [("s", ["x"])] ∧
      ¬IgnoresLiterals "CREATE TABLE t (s TEXT CHECK (s IN ('a', 'CHECK (s IN (\"x\"))')))" := by
  have constraint :
      constraintValues "CREATE TABLE t (s TEXT CHECK (s IN ('a', 'CHECK (s IN (\"x\"))')))" =
        [("s", ["a", "CHECK (s IN (\"x\"))"])] := by decide +kernel
  have permitted :
      permittedValues "CREATE TABLE t (s TEXT CHECK (s IN ('a', 'CHECK (s IN (\"x\"))')))" =
        [("s", ["x"])] := by decide +kernel
  refine ⟨constraint, permitted, ?_⟩
  intro ignores
  have same := ignores.2
  rw [constraint, permitted] at same
  revert same
  decide

end CatalogTypes.Check
