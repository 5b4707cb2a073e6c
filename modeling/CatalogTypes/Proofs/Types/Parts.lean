import CatalogTypes.Text.Blank
import Mathlib.Data.List.Basic

/-!
# The parts of a type's text

A reader of a type tells its alternatives, and the arguments of a generic type, by the marks that
stand outside quotes and brackets.  The reading goes character by character: it keeps where it
stands and how many brackets are open.  The angle bracket of an arrow closes nothing.

A text is *closed* if the reading of it ends as it began, at any depth, and inside brackets no part
ends in it.  Closed texts can be put one after the other, into quotes and into brackets, and a
separator with a mark puts the parts apart again (`parts_joinWith_injective`).
-/

namespace CatalogTypes

/-! ## Reading -/

/-- Where a reading stands: in code, possibly right after an equals sign; or between quotes,
possibly right after a backslash. -/
inductive Spot where
  | code
  | equals
  | quoted (quote : Char)
  | escaped (quote : Char)
deriving DecidableEq, Repr

/-- A reading: where it stands, and how many brackets are open. -/
structure TypeReading where
  spot : Spot := .code
  depth : Nat := 0
deriving DecidableEq, Repr

namespace TypeReading

/-- Whether a character opens a bracket. -/
def opens (c : Char) : Bool := c = '(' || c = '[' || c = '{' || c = '<'

/-- Whether a character closes a bracket. -/
def closes (c : Char) : Bool := c = ')' || c = ']' || c = '}' || c = '>'

/-- Whether a character opens a literal. -/
def quotes (c : Char) : Bool := c = '"' || c = '\'' || c = '`'

/-- The reading after a character of code. -/
def read (depth : Nat) (c : Char) : TypeReading :=
  if opens c then ⟨.code, depth + 1⟩
  else if closes c then ⟨.code, depth - 1⟩
  else if quotes c then ⟨.quoted c, depth⟩
  else ⟨if c = '=' then .equals else .code, depth⟩

/-- The reading after a character. -/
def next (r : TypeReading) (c : Char) : TypeReading :=
  match r.spot with
  | .code => read r.depth c
  | .equals => if c = '>' then ⟨.code, r.depth⟩ else read r.depth c
  | .quoted quote =>
    ⟨if c = quote then .code else if c = '\\' then .escaped quote else .quoted quote, r.depth⟩
  | .escaped quote => ⟨.quoted quote, r.depth⟩

/-- The reading after a text. -/
def run (r : TypeReading) (cs : List Char) : TypeReading := cs.foldl next r

/-- Whether a reading stands outside quotes and brackets. -/
def isOutside (r : TypeReading) : Bool :=
  match r.spot with
  | .code | .equals => r.depth = 0
  | .quoted _ | .escaped _ => false

@[simp] theorem run_nil (r : TypeReading) : r.run [] = r := rfl

@[simp] theorem run_cons (r : TypeReading) (c : Char) (cs : List Char) :
    r.run (c :: cs) = (r.next c).run cs := rfl

@[simp] theorem run_append (r : TypeReading) (cs ds : List Char) :
    r.run (cs ++ ds) = (r.run cs).run ds := List.foldl_append

end TypeReading

/-! ## Parts -/

/-- The pieces of a text between the marks outside quotes and brackets. -/
def parts (mark : Char) : TypeReading → List Char → List (List Char)
  | _, [] => [[]]
  | r, c :: cs =>
    if r.isOutside && c = mark then [] :: parts mark (r.next c) cs
    else (parts mark (r.next c) cs).modifyHead (c :: ·)

/-- No part ends in a text. -/
def Whole (mark : Char) (r : TypeReading) (cs : List Char) : Prop := parts mark r cs = [cs]

instance (mark : Char) (r : TypeReading) (cs : List Char) : Decidable (Whole mark r cs) :=
  inferInstanceAs (Decidable (parts mark r cs = [cs]))

variable {mark : Char} {r : TypeReading} {cs ds : List Char}

theorem parts_cons_of_passed {c : Char} (h : (r.isOutside && c = mark) = false) :
    parts mark r (c :: cs) = (parts mark (r.next c) cs).modifyHead (c :: ·) := by
  rw [parts, h]
  rfl

theorem parts_mark (h : r.isOutside = true) :
    parts mark r (mark :: cs) = [] :: parts mark (r.next mark) cs := by
  rw [parts, h]
  simp

theorem whole_cons_iff {c : Char} :
    Whole mark r (c :: cs) ↔ (r.isOutside && c = mark) = false ∧ Whole mark (r.next c) cs := by
  unfold Whole
  cases h : r.isOutside && decide (c = mark) with
  | true => simp [parts, h]
  | false =>
    rw [parts_cons_of_passed h]
    cases rest : parts mark (r.next c) cs <;> simp

theorem parts_append (h : Whole mark r cs) (ds : List Char) :
    parts mark r (cs ++ ds) = (parts mark (r.run cs) ds).modifyHead (cs ++ ·) := by
  induction cs generalizing r with
  | nil => cases rest : parts mark r ds <;> simp [rest]
  | cons c cs ih =>
    obtain ⟨passed, whole⟩ := whole_cons_iff.1 h
    rw [List.cons_append, parts_cons_of_passed passed, ih whole, TypeReading.run_cons]
    cases rest : parts mark ((r.next c).run cs) ds <;> simp

theorem Whole.append (h : Whole mark r cs) (h' : Whole mark (r.run cs) ds) :
    Whole mark r (cs ++ ds) := by
  rw [Whole, parts_append h, h']
  rfl

theorem parts_ne_nil (mark : Char) (r : TypeReading) (cs : List Char) : parts mark r cs ≠ [] := by
  induction cs generalizing r with
  | nil => simp [parts]
  | cons c cs ih =>
    rw [parts]
    split
    · simp
    · simp [ih]

/-! ## Passed texts -/

/-- The reading passes by a text: it ends as it began, and no part ends in between. -/
structure Passed (r : TypeReading) (cs : List Char) : Prop where
  run : r.run cs = r
  whole : ∀ mark, Whole mark r cs

namespace Passed

theorem nil (r : TypeReading) : Passed r [] := ⟨rfl, fun _ => rfl⟩

theorem append (h : Passed r cs) (h' : Passed r ds) : Passed r (cs ++ ds) := by
  refine ⟨by rw [TypeReading.run_append, h.run, h'.run], fun mark => (h.whole mark).append ?_⟩
  rw [h.run]
  exact h'.whole mark

theorem flatMap {spell : Char → List Char} (h : ∀ c, Passed r (spell c)) (cs : List Char) :
    Passed r (cs.flatMap spell) := by
  induction cs with
  | nil => exact .nil r
  | cons c cs ih => exact (h c).append ih

/-- Where no part can end, only the reading counts. -/
theorem of_next {c : Char} (inside : r.isOutside = false) (h : r.next c = r) : Passed r [c] := by
  refine ⟨h, fun mark => ?_⟩
  simp [Whole, parts, inside]

end Passed

/-! ## Closed texts -/

/-- A text is closed: the reading of it ends as it began, and inside brackets no part ends in it. -/
structure Closed (cs : List Char) : Prop where
  run : TypeReading.run {} cs = {}
  inside : ∀ depth, Passed ⟨.code, depth + 1⟩ cs

/-- A character that plays no part in a reading of code. -/
def isOrdinary (c : Char) : Bool :=
  !(TypeReading.opens c || TypeReading.closes c || TypeReading.quotes c || c = '=')

theorem next_of_isOrdinary {c : Char} (h : isOrdinary c = true) (depth : Nat) :
    TypeReading.next ⟨.code, depth⟩ c = ⟨.code, depth⟩ := by
  simp only [isOrdinary, Bool.not_eq_true', Bool.or_eq_false_iff, decide_eq_false_iff_not] at h
  simp [TypeReading.next, TypeReading.read, h]

/-- An ordinary text holds as many parts as marks put apart. -/
theorem whole_of_isOrdinary (h : ∀ c ∈ cs, isOrdinary c = true) (absent : mark ∉ cs) (depth : Nat) :
    Whole mark ⟨.code, depth⟩ cs := by
  induction cs with
  | nil => rfl
  | cons c cs ih =>
    obtain ⟨other, later⟩ := List.ne_and_not_mem_of_not_mem_cons absent
    refine whole_cons_iff.2 ⟨by simp [Ne.symm other], ?_⟩
    rw [next_of_isOrdinary (h c List.mem_cons_self)]
    exact ih (fun d hd => h d (List.mem_cons_of_mem c hd)) later

namespace Closed

theorem nil : Closed [] := ⟨rfl, fun _ => .nil _⟩

theorem append (h : Closed cs) (h' : Closed ds) : Closed (cs ++ ds) := by
  refine ⟨by rw [TypeReading.run_append, h.run, h'.run], fun depth => ?_⟩
  exact (h.inside depth).append (h'.inside depth)

theorem whole_append (h : Closed cs) (whole : Whole mark {} cs) (whole' : Whole mark {} ds) :
    Whole mark {} (cs ++ ds) := by
  refine whole.append ?_
  rw [h.run]
  exact whole'

theorem of_isOrdinary (h : ∀ c ∈ cs, isOrdinary c = true) : Closed cs := by
  induction cs with
  | nil => exact .nil
  | cons c cs ih =>
    have first : Closed [c] := by
      have ordinary := h c List.mem_cons_self
      refine ⟨next_of_isOrdinary ordinary 0, fun depth => ?_⟩
      exact .of_next rfl (next_of_isOrdinary ordinary (depth + 1))
    exact first.append (ih fun d hd => h d (List.mem_cons_of_mem c hd))

/-- The run through brackets, from any depth. -/
theorem run_bracketed {opening closing : Char} (h : Closed cs)
    (opens : TypeReading.opens opening = true) (closes : TypeReading.closes closing = true)
    (depth : Nat) :
    TypeReading.run ⟨.code, depth⟩ (opening :: (cs ++ [closing])) = ⟨.code, depth⟩ := by
  have shut : TypeReading.opens closing = false := by
    simp only [TypeReading.closes, Bool.or_eq_true, decide_eq_true_eq] at closes
    rcases closes with ((rfl | rfl) | rfl) | rfl <;> decide
  have into : TypeReading.next ⟨.code, depth⟩ opening = ⟨.code, depth + 1⟩ := by
    simp [TypeReading.next, TypeReading.read, opens]
  have out : TypeReading.next ⟨.code, depth + 1⟩ closing = ⟨.code, depth⟩ := by
    simp [TypeReading.next, TypeReading.read, closes, shut]
  rw [TypeReading.run_cons, into, TypeReading.run_append, (h.inside depth).run]
  exact out

/-- No part ends in brackets unless the bracket is a mark. -/
theorem whole_bracketed {opening closing : Char} (h : Closed cs)
    (opens : TypeReading.opens opening = true) (other : opening ≠ mark) (depth : Nat) :
    Whole mark ⟨.code, depth⟩ (opening :: (cs ++ [closing])) := by
  have into : TypeReading.next ⟨.code, depth⟩ opening = ⟨.code, depth + 1⟩ := by
    simp [TypeReading.next, TypeReading.read, opens]
  refine whole_cons_iff.2 ⟨by simp [other], ?_⟩
  rw [into]
  refine ((h.inside depth).whole mark).append ?_
  rw [(h.inside depth).run]
  exact whole_cons_iff.2 ⟨rfl, rfl⟩

theorem bracketed {opening closing : Char} (h : Closed cs)
    (opens : TypeReading.opens opening = true) (closes : TypeReading.closes closing = true) :
    Closed (opening :: (cs ++ [closing])) := by
  refine ⟨h.run_bracketed opens closes 0, fun depth => ⟨h.run_bracketed opens closes _, ?_⟩⟩
  intro mark
  have into : TypeReading.next ⟨.code, depth + 1⟩ opening = ⟨.code, depth + 1 + 1⟩ := by
    simp [TypeReading.next, TypeReading.read, opens]
  refine whole_cons_iff.2 ⟨rfl, ?_⟩
  rw [into]
  refine ((h.inside (depth + 1)).whole mark).append ?_
  rw [(h.inside (depth + 1)).run]
  exact whole_cons_iff.2 ⟨rfl, rfl⟩

end Closed

/-! ## Separated texts -/

/-- A text that can stand between separators: it is closed, and none of its marks is outside. -/
structure IsPart (mark : Char) (cs : List Char) : Prop where
  closed : Closed cs
  whole : Whole mark {} cs

theorem IsPart.append (h : IsPart mark cs) (h' : IsPart mark ds) : IsPart mark (cs ++ ds) :=
  ⟨h.closed.append h'.closed, h.closed.whole_append h.whole h'.whole⟩

theorem IsPart.of_isOrdinary (h : ∀ c ∈ cs, isOrdinary c = true) (absent : mark ∉ cs) :
    IsPart mark cs :=
  ⟨.of_isOrdinary h, whole_of_isOrdinary h absent 0⟩

/-- Brackets may hold any closed text. -/
theorem Closed.isPart_bracketed {opening closing : Char} (h : Closed cs)
    (opens : TypeReading.opens opening = true) (closes : TypeReading.closes closing = true)
    (other : opening ≠ mark) : IsPart mark (opening :: (cs ++ [closing])) :=
  ⟨h.bracketed opens closes, h.whole_bracketed opens other 0⟩

/-- A separator holds one mark, with other ordinary characters around it. -/
structure Separates (separator : String) (mark : Char) (before behind : List Char) : Prop where
  text : separator.toList = before ++ mark :: behind
  ordinary : ∀ c ∈ separator.toList, isOrdinary c = true
  single : mark ∉ before ∧ mark ∉ behind

namespace Separates

variable {separator : String} {before behind : List Char}

theorem parts_append (h : Separates separator mark before behind) {s : String}
    (hs : IsPart mark s.toList) (ds : List Char) :
    parts mark {} (s.toList ++ separator.toList ++ ds) =
      (s.toList ++ before) :: (parts mark {} ds).modifyHead (behind ++ ·) := by
  have ordinary := h.ordinary
  rw [h.text] at ordinary
  have front : ∀ c ∈ before, isOrdinary c = true := fun c hc =>
    ordinary c (List.mem_append_left _ hc)
  have back : ∀ c ∈ behind, isOrdinary c = true := fun c hc =>
    ordinary c (List.mem_append_right _ (List.mem_cons_of_mem _ hc))
  have head : Whole mark {} (s.toList ++ before) :=
    hs.closed.whole_append hs.whole (whole_of_isOrdinary front h.single.1 0)
  have through : TypeReading.run {} (s.toList ++ before) = {} :=
    (hs.closed.append (.of_isOrdinary front)).run
  have past : TypeReading.next {} mark = {} :=
    next_of_isOrdinary (ordinary mark (List.mem_append_right _ List.mem_cons_self)) 0
  have split : s.toList ++ separator.toList ++ ds =
      (s.toList ++ before) ++ mark :: (behind ++ ds) := by simp [h.text]
  rw [split, CatalogTypes.parts_append head, through, parts_mark rfl, past,
    CatalogTypes.parts_append (whole_of_isOrdinary back h.single.2 0),
    (Closed.of_isOrdinary back).run]
  simp

/-- A separator puts the parts of a text apart again. -/
theorem length_parts_joinWith (h : Separates separator mark before behind) {texts : List String}
    (some_ : texts ≠ []) (each : ∀ s ∈ texts, IsPart mark s.toList) :
    (parts mark {} (Text.joinWith separator texts).toList).length = texts.length := by
  induction texts with
  | nil => exact absurd rfl some_
  | cons s texts ih =>
    have first := each s List.mem_cons_self
    cases texts with
    | nil => exact congrArg List.length first.whole
    | cons t rest =>
      have others := ih (by simp) fun u hu => each u (List.mem_cons_of_mem s hu)
      rw [Text.joinWith, String.toList_append, String.toList_append, h.parts_append first]
      simpa using others

/-- The texts between the marks outside quotes and brackets determine what was joined. -/
theorem joinWith_injective (h : Separates separator mark before behind) {ss ts : List String}
    (left : ss ≠ []) (right : ts ≠ []) (eachLeft : ∀ s ∈ ss, IsPart mark s.toList)
    (eachRight : ∀ t ∈ ts, IsPart mark t.toList)
    (same : Text.joinWith separator ss = Text.joinWith separator ts) : ss = ts := by
  have lengths : ss.length = ts.length := by
    rw [← h.length_parts_joinWith left eachLeft, same, h.length_parts_joinWith right eachRight]
  induction ss generalizing ts with
  | nil => exact absurd rfl left
  | cons s ss ih =>
    cases ts with
    | nil => exact absurd rfl right
    | cons t ts =>
      cases ss with
      | nil =>
        obtain rfl : ts = [] := by simpa using lengths
        exact congrArg (· :: []) same
      | cons s' ss =>
        obtain ⟨t', ts, rfl⟩ : ∃ t' ts', ts = t' :: ts' := by
          cases ts with
          | nil => simp at lengths
          | cons t' ts => exact ⟨t', ts, rfl⟩
        have texts := congrArg String.toList same
        rw [Text.joinWith, Text.joinWith, String.toList_append, String.toList_append,
          String.toList_append, String.toList_append] at texts
        have pieces := congrArg (parts mark {}) texts
        rw [h.parts_append (eachLeft s List.mem_cons_self),
          h.parts_append (eachRight t List.mem_cons_self)] at pieces
        have head : s = t := by
          have chars := List.append_cancel_right (List.cons.inj pieces).1
          exact String.toList_inj.1 chars
        subst head
        rw [List.append_assoc, List.append_assoc] at texts
        have others := List.append_cancel_left (List.append_cancel_left texts)
        have rest := ih (by simp) (by simp) (fun u hu => eachLeft u (List.mem_cons_of_mem _ hu))
          (fun u hu => eachRight u (List.mem_cons_of_mem _ hu)) (String.toList_inj.1 others)
          (by simpa using lengths)
        rw [rest]

theorem closed (h : Separates separator mark before behind) {texts : List String}
    (each : ∀ s ∈ texts, Closed s.toList) : Closed (Text.joinWith separator texts).toList := by
  induction texts with
  | nil => exact .nil
  | cons s texts ih =>
    cases texts with
    | nil => exact each s List.mem_cons_self
    | cons t rest =>
      have others := ih fun u hu => each u (List.mem_cons_of_mem s hu)
      rw [Text.joinWith, String.toList_append, String.toList_append]
      exact ((each s List.mem_cons_self).append (.of_isOrdinary h.ordinary)).append others

/-- Marks that the separator does not hold put nothing apart. -/
theorem isPart (h : Separates separator mark before behind) {other : Char}
    (absent : other ∉ separator.toList) {texts : List String}
    (each : ∀ s ∈ texts, IsPart other s.toList) :
    IsPart other (Text.joinWith separator texts).toList := by
  induction texts with
  | nil => exact ⟨.nil, rfl⟩
  | cons s texts ih =>
    have first := each s List.mem_cons_self
    cases texts with
    | nil => exact first
    | cons t rest =>
      have others := ih fun u hu => each u (List.mem_cons_of_mem s hu)
      rw [Text.joinWith, String.toList_append, String.toList_append]
      exact (first.append (.of_isOrdinary h.ordinary absent)).append others

end Separates

theorem separates_bar : Separates " | " '|' [' '] [' '] :=
  ⟨rfl, List.all_eq_true.1 rfl, by decide⟩

theorem separates_comma : Separates ", " ',' [] [' '] :=
  ⟨rfl, List.all_eq_true.1 rfl, by decide⟩

end CatalogTypes
