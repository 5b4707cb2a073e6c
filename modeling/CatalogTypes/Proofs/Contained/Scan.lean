import CatalogTypes.Text.Blank
import Mathlib.Data.List.Basic

/-!
# Scanning a module

A reader of a module tells code from comments and literals character by character.  A comment lies
between `/*` and `*/`, a literal between double quotes with a backslash before a character that
does not end it.  In code the brackets `()`, `[]` and `{}` nest: the scan keeps the closing
brackets that are due, innermost first, and fails at one that is not.

**Containment.** A text is *contained* if the scan of it ends as it began, in code with nothing due.
What is due outside a text plays no part in the scan of it (`Scan.run_append_due`), so contained
texts can be put one after the other, separated by contained texts and put into brackets.
-/

namespace CatalogTypes

/-! ## The scan -/

/-- Where a scan stands: in code, possibly right after a slash; in a comment, possibly right after
a star; or in a literal, possibly right after a backslash. -/
inductive Region where
  | code
  | slash
  | comment
  | star
  | literal
  | escape
deriving DecidableEq, Repr

/-- A scan: where it stands, and the closing brackets that are due, innermost first. -/
structure Scan where
  region : Region := .code
  due : List Char := []
deriving DecidableEq, Repr

namespace Scan

/-- The bracket that closes what a character opens. -/
def closer? (c : Char) : Option Char :=
  if c = '(' then some ')' else if c = '[' then some ']' else if c = '{' then some '}' else none

/-- Whether a character closes a bracket. -/
def isCloser (c : Char) : Bool := c = ')' || c = ']' || c = '}'

/-- The scan after a character of code. -/
def read (due : List Char) (c : Char) : Option Scan :=
  match closer? c with
  | some close => some ⟨.code, close :: due⟩
  | none =>
    if isCloser c then
      match due with
      | close :: outer => if c = close then some ⟨.code, outer⟩ else none
      | [] => none
    else if c = '"' then some ⟨.literal, due⟩
    else if c = '/' then some ⟨.slash, due⟩
    else some ⟨.code, due⟩

/-- The scan after a character. -/
def next (s : Scan) (c : Char) : Option Scan :=
  match s.region with
  | .code => read s.due c
  | .slash => if c = '*' then some ⟨.comment, s.due⟩ else read s.due c
  | .comment => some ⟨if c = '*' then .star else .comment, s.due⟩
  | .star => some ⟨if c = '/' then .code else if c = '*' then .star else .comment, s.due⟩
  | .literal => some ⟨if c = '"' then .code else if c = '\\' then .escape else .literal, s.due⟩
  | .escape => some ⟨.literal, s.due⟩

/-- The scan after a text. -/
def run (s : Scan) (cs : List Char) : Option Scan := cs.foldlM next s

/-! ## Runs -/

@[simp] theorem run_nil (s : Scan) : s.run [] = some s := rfl

@[simp] theorem run_cons (s : Scan) (c : Char) (cs : List Char) :
    s.run (c :: cs) = (s.next c).bind fun t => t.run cs := rfl

theorem run_append (s : Scan) (cs ds : List Char) :
    s.run (cs ++ ds) = (s.run cs).bind fun t => t.run ds := List.foldlM_append

theorem run_append_of_run {s t : Scan} {cs : List Char} (h : s.run cs = some t) (ds : List Char) :
    s.run (cs ++ ds) = t.run ds := by
  rw [run_append, h, Option.bind_some]

/-- The scan with further brackets due outside. -/
def within (s : Scan) (outer : List Char) : Scan := { s with due := s.due ++ outer }

theorem read_append_due {due : List Char} {c : Char} {t : Scan} (h : read due c = some t)
    (outer : List Char) : read (due ++ outer) c = some (t.within outer) := by
  unfold read at h ⊢
  split at h
  · cases h
    rfl
  · split_ifs at h ⊢
    · cases due with
      | nil => cases h
      | cons close inner =>
        simp only [List.cons_append] at h ⊢
        split_ifs at h ⊢
        cases h
        rfl
    all_goals
      cases h
      rfl

theorem next_append_due {s t : Scan} {c : Char} (h : s.next c = some t) (outer : List Char) :
    (s.within outer).next c = some (t.within outer) := by
  obtain ⟨region, due⟩ := s
  cases region with
  | code => exact read_append_due h outer
  | slash =>
    simp only [next, within] at h ⊢
    split_ifs at h ⊢
    · cases h
      rfl
    · exact read_append_due h outer
  | comment | star | literal | escape =>
    simp only [next, Option.some.injEq] at h
    subst h
    rfl

/-- **What is due outside a text plays no part in the scan of it.** -/
theorem run_append_due {s t : Scan} {cs : List Char} (h : s.run cs = some t) (outer : List Char) :
    (s.within outer).run cs = some (t.within outer) := by
  induction cs generalizing s with
  | nil =>
    cases h
    rfl
  | cons c cs ih =>
    rw [run_cons, Option.bind_eq_some_iff] at h
    obtain ⟨u, step, rest⟩ := h
    rw [run_cons, next_append_due step outer]
    exact ih rest

end Scan

/-! ## Contained texts -/

/-- A text is contained if the scan of it ends as it began, in code with no bracket due. -/
def Contained (s : String) : Prop := Scan.run {} s.toList = some {}

instance (s : String) : Decidable (Contained s) :=
  inferInstanceAs (Decidable (Scan.run {} s.toList = some {}))

-- the first end mark ends the comment, and the brace behind it closes nothing
example : ¬ Contained "/* an end mark */ \x7d */" := by decide

/-- A character that code may hold anywhere. -/
def isPlain (c : Char) : Bool :=
  !(c = '(' || c = ')' || c = '[' || c = ']' || c = '{' || c = '}' || c = '"' || c = '/')

namespace Contained

variable {s t : String}

/-- A contained text is passed by in any code. -/
theorem run (h : Contained s) (due : List Char) :
    Scan.run ⟨.code, due⟩ s.toList = some ⟨.code, due⟩ :=
  Scan.run_append_due h due

theorem empty : Contained "" := rfl

theorem append (hs : Contained s) (ht : Contained t) : Contained (s ++ t) := by
  rw [Contained, String.toList_append, Scan.run_append_of_run hs]
  exact ht

theorem join {separator : String} (h : Contained separator) {texts : List String}
    (each : ∀ s ∈ texts, Contained s) : Contained (Text.joinWith separator texts) := by
  induction texts with
  | nil => exact empty
  | cons s texts ih =>
    cases texts with
    | nil => exact each s List.mem_cons_self
    | cons t rest =>
      have first : Contained s := each s List.mem_cons_self
      have others : Contained (Text.joinWith separator (t :: rest)) :=
        ih fun u hu => each u (List.mem_cons_of_mem s hu)
      exact (first.append h).append others

/-- A text in brackets, which may come with contained texts of their own inside. -/
theorem bracketed {opening closing : String} (close : Char) (h : Contained s)
    (opens : Scan.run {} opening.toList = some ⟨.code, [close]⟩)
    (closes : Scan.run ⟨.code, [close]⟩ closing.toList = some {}) :
    Contained (opening ++ s ++ closing) := by
  rw [Contained, String.toList_append, String.toList_append, List.append_assoc,
    Scan.run_append_of_run opens, Scan.run_append_of_run (h.run [close])]
  exact closes

theorem next_of_isPlain {c : Char} (h : isPlain c = true) (due : List Char) :
    Scan.next ⟨.code, due⟩ c = some ⟨.code, due⟩ := by
  simp only [isPlain, Bool.not_eq_true', Bool.or_eq_false_iff, decide_eq_false_iff_not] at h
  simp [Scan.next, Scan.read, Scan.closer?, Scan.isCloser, h]

theorem of_isPlain (h : ∀ c ∈ s.toList, isPlain c = true) : Contained s := by
  rw [Contained]
  revert h
  induction s.toList with
  | nil =>
    intro _
    rfl
  | cons c cs ih =>
    intro h
    rw [Scan.run_cons, next_of_isPlain (h c List.mem_cons_self)]
    exact ih fun d hd => h d (List.mem_cons_of_mem c hd)

end Contained

end CatalogTypes
