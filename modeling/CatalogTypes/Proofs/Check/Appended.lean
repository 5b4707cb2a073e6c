import CatalogTypes.Proofs.Check.Bodies
import Mathlib.Data.List.Basic

/-!
# Constraints of a text that goes on

Columns are appended to a definition behind a comma.

**Theorem (`bodies_append`).** If every constraint that opens in a text is closed in it, then the
constraints of the text, a comma and more text are those of the text followed by those of what is
appended, and the values that the latter permit are set over the values that the former permit.

A keyword and its parenthesis do not reach across a comma (`openings_append`), the scan for the
parenthesis that closes one has stopped before what is appended, and behind the blank a keyword
begins as it does at the start of a text.
-/

namespace CatalogTypes.Check

/-! ## Opened constraints -/

/-- What follows the opening parenthesis of every constraint of a text, whether or not it is
closed. -/
def openings (inWord : Bool) : List Char → List (List Char)
  | [] => []
  | c :: rest =>
    (if inWord then none else afterOpening (c :: rest)).toList ++
      openings (Text.isWordChar c) rest

/-- The bodies are those of the constraints that are closed. -/
theorem rawBodies_eq_openings (inWord : Bool) (cs : List Char) :
    rawBodies inWord cs =
      (openings inWord cs).filterMap fun rest => (closeAt rest).map Prod.fst := by
  induction cs generalizing inWord with
  | nil => rfl
  | cons c cs ih =>
    rw [rawBodies_cons, ih, openings, List.filterMap_append]
    congr 1
    cases inWord with
    | true => rfl
    | false =>
      cases opened : afterOpening (c :: cs) with
      | none => simp [bodyHere, opened]
      | some rest => cases closed : closeAt rest <;> simp [bodyHere, opened, closed]

theorem mem_openings_iff {inWord : Bool} {cs rest : List Char} :
    rest ∈ openings inWord cs ↔ ∃ before more, cs = before ++ more ∧
      endsInWord inWord before = false ∧ afterOpening more = some rest := by
  induction cs generalizing inWord with
  | nil =>
    refine iff_of_false (List.not_mem_nil) ?_
    rintro ⟨before, more, whole, -, opened⟩
    obtain ⟨rfl, rfl⟩ := List.append_eq_nil_iff.1 whole.symm
    cases opened
  | cons c cs ih =>
    rw [openings, List.mem_append, Option.mem_toList, ih]
    constructor
    · rintro (here | ⟨before, more, rfl, edge, opened⟩)
      · cases inWord with
        | true => cases here
        | false => exact ⟨[], c :: cs, rfl, rfl, here⟩
      · exact ⟨c :: before, more, rfl, by rwa [endsInWord_cons], opened⟩
    · rintro ⟨before, more, whole, edge, opened⟩
      cases before with
      | nil =>
        obtain rfl : c :: cs = more := whole
        have fresh : inWord = false := edge
        left
        rw [fresh]
        exact opened
      | cons d before =>
        obtain ⟨rfl, rfl⟩ := List.cons.inj whole
        rw [endsInWord_cons] at edge
        exact .inr ⟨before, more, rfl, edge, opened⟩

/-- Every constraint that opens in a text is closed in it: behind the keyword, which no word
reaches up to, and its parenthesis follow a balanced text and a closing parenthesis. -/
def ClosesConstraints (sql : String) : Prop :=
  ∀ before word gap rest, sql.toList = before ++ (word ++ gap ++ '(' :: rest) →
    (∀ c ∈ before.getLast?, Text.isWordChar c = false) → CheckWord word →
    (∀ c ∈ gap, Text.isBlank c = true) → ∃ body after, rest = body ++ ')' :: after ∧ Balanced body

theorem closesConstraints_iff {sql : String} :
    ClosesConstraints sql ↔ ∀ rest ∈ openings false sql.toList, (closeAt rest).isSome = true := by
  have closes (rest : List Char) : (closeAt rest).isSome = true ↔
      ∃ body after, rest = body ++ ')' :: after ∧ Balanced body := by
    simp only [Option.isSome_iff_exists, Prod.exists, closeAt_eq_some_iff]
  simp only [closes, mem_openings_iff]
  constructor
  · rintro closed rest ⟨before, more, whole, edge, opened⟩
    obtain ⟨word, gap, check, blank, rfl⟩ := afterOpening_eq_some_iff.1 opened
    exact closed before word gap rest whole (endsInWord_eq_false_iff.1 edge) check blank
  · intro closed before word gap rest whole edge check blank
    exact closed rest ⟨before, _, whole, endsInWord_eq_false_iff.2 edge,
      afterOpening_eq_some_iff.2 ⟨word, gap, check, blank, rfl⟩⟩

instance (sql : String) : Decidable (ClosesConstraints sql) :=
  decidable_of_iff _ closesConstraints_iff.symm

/-! ## More text behind a comma -/

theorem not_mem_opening {word gap : List Char} (check : CheckWord word)
    (blank : ∀ c ∈ gap, Text.isBlank c = true) : ',' ∉ word ++ gap ++ ['('] := by
  obtain ⟨c, h, e, c₂, k, rfl, hc, hh, he, hc₂, hk⟩ := check
  have letter {x y : Char} (spelled : x.toLower = y) (apart : ',' ≠ y) : ',' ≠ x := by
    rintro rfl
    exact apart spelled
  have kelvin : ',' ≠ k := by
    rcases hk with hk | rfl
    · exact letter hk (by decide)
    · decide
  have gaps : ',' ∉ gap := fun there => absurd (blank ',' there) (by decide)
  simp [letter hc (by decide), letter hh (by decide), letter he (by decide),
    letter hc₂ (by decide), kelvin, gaps]

/-- A keyword and its parenthesis do not reach across a comma. -/
theorem afterOpening_append (cs more : List Char) :
    afterOpening (cs ++ ',' :: more) = (afterOpening cs).map (· ++ ',' :: more) := by
  refine Option.ext fun rest => ?_
  rw [Option.map_eq_some_iff]
  constructor
  · intro opened
    obtain ⟨word, gap, check, blank, whole⟩ := afterOpening_eq_some_iff.1 opened
    have shape : cs ++ ',' :: more = (word ++ gap ++ ['(']) ++ rest := by simp [whole]
    obtain ⟨inner, rfl, rfl⟩ := Text.exists_of_append_eq _ (not_mem_opening check blank) shape
    exact ⟨inner, afterOpening_eq_some_iff.2 ⟨word, gap, check, blank, by simp⟩, rfl⟩
  · rintro ⟨inner, opened, rfl⟩
    obtain ⟨word, gap, check, blank, rfl⟩ := afterOpening_eq_some_iff.1 opened
    exact afterOpening_eq_some_iff.2 ⟨word, gap, check, blank, by simp⟩

/-- **The constraints that open in two texts with a comma and a blank between them are those that
open in each.** -/
theorem openings_append (inWord : Bool) (cs ds : List Char) :
    openings inWord (cs ++ ',' :: ' ' :: ds) =
      (openings inWord cs).map (· ++ ',' :: ' ' :: ds) ++ openings false ds := by
  induction cs generalizing inWord with
  | nil =>
    have comma : afterOpening (',' :: ' ' :: ds) = none := afterOpening_append [] (' ' :: ds)
    have blank : afterOpening (' ' :: ds) = none := by
      rw [← Option.not_isSome_iff_eq_none, Option.isSome_iff_exists]
      rintro ⟨rest, opened⟩
      obtain ⟨_, _, ⟨c, h, e, c₂, k, rfl, hc, -⟩, -, whole⟩ := afterOpening_eq_some_iff.1 opened
      obtain ⟨rfl, -⟩ := List.cons.inj whole
      exact absurd hc (by decide)
    show (if inWord then none else afterOpening (',' :: ' ' :: ds)).toList ++
      ((afterOpening (' ' :: ds)).toList ++ openings false ds) = openings false ds
    rw [comma, blank, ite_self]
    rfl
  | cons c cs ih =>
    rw [List.cons_append, openings, openings, ih, List.map_append, List.append_assoc,
      ← List.cons_append, afterOpening_append]
    cases inWord with
    | true => rfl
    | false => cases afterOpening (c :: cs) <;> rfl

/-- What follows the end of a constraint is not looked at. -/
theorem closeAt_append {rest : List Char} (closed : (closeAt rest).isSome = true)
    (more : List Char) :
    (closeAt (rest ++ more)).map Prod.fst = (closeAt rest).map Prod.fst := by
  obtain ⟨⟨body, after⟩, found⟩ := Option.isSome_iff_exists.1 closed
  obtain ⟨rfl, balanced⟩ := closeAt_eq_some_iff.1 found
  have longer : closeAt (body ++ ')' :: after ++ more) = some (body, after ++ more) :=
    closeAt_eq_some_iff.2 ⟨by simp, balanced⟩
  rw [found, longer]
  rfl

theorem rawBodies_append {cs : List Char} {inWord : Bool}
    (closed : ∀ rest ∈ openings inWord cs, (closeAt rest).isSome = true) (ds : List Char) :
    rawBodies inWord (cs ++ ',' :: ' ' :: ds) = rawBodies inWord cs ++ rawBodies false ds := by
  simp only [rawBodies_eq_openings, openings_append, List.filterMap_append, List.filterMap_map]
  congr 1
  exact List.filterMap_congr fun rest opened => closeAt_append (closed rest opened) _

/-! ## Appended definitions -/

/-- **Where every constraint is closed, appended definitions add their constraints and leave the
others as they are.** -/
theorem bodies_append {a : String} (closed : ClosesConstraints a) (b : String) :
    bodies (a ++ ", " ++ b) = bodies a ++ bodies b ∧
      permittedValues (a ++ ", " ++ b) = (permittedValues a).update (permittedValues b) ∧
      ∀ column, (permittedValues (a ++ ", " ++ b)).find? column =
        ((permittedValues b).find? column).or ((permittedValues a).find? column) := by
  have text : (a ++ ", " ++ b).toList = a.toList ++ ',' :: ' ' :: b.toList := by simp
  have found : bodies (a ++ ", " ++ b) = bodies a ++ bodies b := by
    simp only [bodies, bodyChars, text, rawBodies_append (closesConstraints_iff.1 closed),
      List.map_append]
  have values : permittedValues (a ++ ", " ++ b) =
      (permittedValues a).update (permittedValues b) := by
    simp only [permittedValues, valuesOf, found, List.filterMap_append, List.map_append]
    exact Keyed.ofPairs_append _ _
  refine ⟨found, values, fun column => ?_⟩
  rw [values]
  exact Keyed.find?_update (Keyed.nodup_keys_ofPairs _)

theorem bodies_append_same_column :
    ClosesConstraints "s TEXT CHECK (s IN ('a', ')')), t TEXT CHECK (t IN ('b'))" ∧
      permittedValues ("s TEXT CHECK (s IN ('a', ')')), t TEXT CHECK (t IN ('b'))" ++ ", " ++
        "CHECK (s IN ('c'))") = [("s", ["c"]), ("t", ["b"])] := by
  have closed : ClosesConstraints "s TEXT CHECK (s IN ('a', ')')), t TEXT CHECK (t IN ('b'))" := by
    decide +kernel
  have first : permittedValues "s TEXT CHECK (s IN ('a', ')')), t TEXT CHECK (t IN ('b'))" =
      [("s", ["a", ")"]), ("t", ["b"])] := by decide +kernel
  have second : permittedValues "CHECK (s IN ('c'))" = [("s", ["c"])] := by decide +kernel
  refine ⟨closed, ?_⟩
  rw [(bodies_append closed "CHECK (s IN ('c'))").2.1, first, second]
  rfl

end CatalogTypes.Check
