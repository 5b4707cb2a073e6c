import CatalogTypes.Proofs.Check.Scan

/-!
# Plain text around a text

Blanks mean nothing to a scan outside literals, and so do the letters of a keyword.  `Padded` says
that a text stands between characters of that kind.  Whatever the scans count is the same with the
padding and without it: the parentheses, whether there is a quote, and, where the text ends in no
literal, what its literals gain and what it permits as a list.
-/

namespace CatalogTypes.Check

open Place

/-! ## Plain characters -/

/-- A character with no meaning to a scan outside literals. -/
def Plain (c : Char) : Prop := isQuote c = false ∧ c ≠ '(' ∧ c ≠ ')' ∧ c ≠ ','

theorem plain_of_class {p : Char → Bool}
    (hp : p '\'' = false ∧ p '"' = false ∧ p '(' = false ∧ p ')' = false ∧ p ',' = false)
    {c : Char} (h : p c = true) : Plain c := by
  have ne : ∀ d, p d = false → c ≠ d := by
    intro d hd hcd
    rw [← hcd, h] at hd
    cases hd
  obtain ⟨single, double, opened, closed, comma⟩ := hp
  refine ⟨?_, ne _ opened, ne _ closed, ne _ comma⟩
  rw [isQuote, Bool.or_eq_false_iff, decide_eq_false_iff_not, decide_eq_false_iff_not]
  exact ⟨ne _ single, ne _ double⟩

theorem plain_of_isBlank {c : Char} (h : Text.isBlank c = true) : Plain c :=
  plain_of_class (by decide) h

theorem plain_of_isAsciiBlank {c : Char} (h : Text.isAsciiBlank c = true) : Plain c :=
  plain_of_isBlank (Text.isBlank_of_isAsciiBlank h)

theorem smooth_of_plain {cs : List Char} (h : ∀ c ∈ cs, Plain c) (p : Place) : Smooth p cs :=
  smooth_of_forall (fun c hc => (h c hc).2) p

/-- Outside literals a scan passes over a plain character. -/
theorem scanLiterals_cons_plain {p : Place} (hp : p.Proper) (free : p.Free) {c : Char}
    (plain : Plain c) (d : Nat) (current : List Char) (seen : Bool) (rest : List Char) :
    scanLiterals d p current seen (c :: rest) = scanLiterals d outside current seen rest := by
  obtain ⟨quiet, opens, closes, cuts⟩ := plain
  have code : p.isCode c = true := (isCode_iff hp).2 ⟨free, quiet⟩
  have hcut : ¬(p.isCode c = true ∧ c = ',' ∧ d = 0) := fun hc => cuts hc.2.1
  rw [scanLiterals_cons, turn_of_plain (fun _ => ⟨opens, closes⟩), Option.bind_some, if_neg hcut,
    gain_of_isCode code, next_of_isCode code, code, Bool.not_true, Bool.or_false]
  rfl

theorem scanLiterals_plain_append {lead : List Char} (plain : ∀ c ∈ lead, Plain c) (d : Nat)
    (current : List Char) (seen : Bool) (cs : List Char) :
    scanLiterals d outside current seen (lead ++ cs) =
      scanLiterals d outside current seen cs := by
  induction lead with
  | nil => rfl
  | cons c lead ih =>
    have hc := plain c List.mem_cons_self
    rw [List.cons_append, scanLiterals_cons_plain proper_outside trivial hc]
    exact ih fun e he => plain e (List.mem_cons_of_mem c he)

theorem scanLiterals_append_plain {d : Nat} {p : Place} (hp : p.Proper) {cs trail : List Char}
    (free : (p.run cs).Free) (plain : ∀ c ∈ trail, Plain c) (current : List Char) (seen : Bool) :
    scanLiterals d p current seen (cs ++ trail) = scanLiterals d p current seen cs := by
  induction cs generalizing d p current seen with
  | nil =>
    cases trail with
    | nil => rfl
    | cons c trail =>
      have hc := plain c List.mem_cons_self
      have rest := scanLiterals_plain_append
        (fun e he => plain e (List.mem_cons_of_mem c he)) d current seen []
      rw [List.append_nil] at rest
      rw [List.nil_append, scanLiterals_cons_plain hp free hc, rest]
      rfl
  | cons c cs ih =>
    rw [List.cons_append, scanLiterals_cons, scanLiterals_cons]
    cases turn d p c with
    | none => rfl
    | some e =>
      rw [Option.bind_some, Option.bind_some]
      split <;> rw [ih (hp.next c) free]

/-! ## Padding -/

/-- The second text is the first between plain characters. -/
def Padded (core cs : List Char) : Prop :=
  ∃ lead trail, cs = lead ++ core ++ trail ∧ (∀ c ∈ lead, Plain c) ∧ ∀ c ∈ trail, Plain c

/-- What trimming takes off is padding. -/
theorem padded_trimBy {p : Char → Bool} (blank : ∀ c, p c = true → Plain c) (cs : List Char) :
    Padded (Text.trimBy p cs) cs := by
  obtain ⟨lead, trail, hcs, hlead, htrail⟩ := Text.exists_trimBy p cs
  exact ⟨lead, trail, hcs, fun c hc => blank c (hlead c hc), fun c hc => blank c (htrail c hc)⟩

namespace Padded

variable {core cs : List Char} (padded : Padded core cs)

include padded

theorem any_isQuote : cs.any isQuote = core.any isQuote := by
  obtain ⟨lead, trail, rfl, hlead, htrail⟩ := padded
  have quiet : ∀ xs : List Char, (∀ c ∈ xs, Plain c) → xs.any isQuote = false := by
    intro xs plain
    rw [List.any_eq_false]
    intro c hc
    simp [(plain c hc).1]
  rw [List.any_append, List.any_append, quiet lead hlead, quiet trail htrail, Bool.or_false,
    Bool.false_or]

theorem smooth (h : Smooth outside core) : Smooth outside cs := by
  obtain ⟨lead, trail, rfl, hlead, htrail⟩ := padded
  refine Smooth.append (Smooth.append (smooth_of_plain hlead outside) ?_) (smooth_of_plain htrail _)
  rw [run_of_no_quote fun c hc => (hlead c hc).1]
  exact h

theorem nest_eq : nest 0 outside cs = nest 0 outside core := by
  obtain ⟨lead, trail, rfl, hlead, htrail⟩ := padded
  rw [nest_append, nest_append, nest_of_smooth (smooth_of_plain hlead outside), Option.bind_some,
    run_of_no_quote fun c hc => (hlead c hc).1]
  cases nest 0 outside core with
  | none => rfl
  | some d => rw [Option.bind_some, nest_of_smooth (smooth_of_plain htrail _)]

theorem free_run_iff : (outside.run cs).Free ↔ (outside.run core).Free := by
  obtain ⟨lead, trail, rfl, hlead, htrail⟩ := padded
  rw [run_append, run_append, run_of_no_quote fun c hc => (hlead c hc).1,
    free_run_of_no_quote (proper_run_outside core) fun c hc => (htrail c hc).1]

theorem balanced_iff : Balanced cs ↔ Balanced core := by
  rw [Balanced, Balanced, padded.nest_eq, padded.free_run_iff]

/-- Padding around a text that ends in no literal gains nothing. -/
theorem value?_eq (free : (outside.run core).Free) : value? cs = value? core := by
  have quoted := padded.any_isQuote
  obtain ⟨lead, trail, rfl, hlead, htrail⟩ := padded
  have gains : gained outside (lead ++ core ++ trail) = gained outside core := by
    rw [gained_append, gained_append, run_append, run_of_no_quote fun c hc => (hlead c hc).1,
      gained_of_no_quote proper_outside trivial fun c hc => (hlead c hc).1,
      gained_of_no_quote (proper_run_outside core) free fun c hc => (htrail c hc).1,
      List.append_nil, List.nil_append]
  rw [value?, value?, quoted, gains]

/-- Padding around a list that ends in no literal permits nothing. -/
theorem splitLiterals_eq (free : (outside.run core).Free) :
    splitLiterals cs = splitLiterals core := by
  obtain ⟨lead, trail, rfl, hlead, htrail⟩ := padded
  rw [List.append_assoc, splitLiterals, splitLiterals, scanLiterals_plain_append hlead,
    scanLiterals_append_plain proper_outside free htrail]

end Padded

end CatalogTypes.Check
