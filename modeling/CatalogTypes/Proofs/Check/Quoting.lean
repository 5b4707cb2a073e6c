import CatalogTypes.Catalog.Check

/-!
# Literals and the places of a scan

A scan knows at every character whether it stands outside literals, in one, or behind a quote that
may have ended one.  `Place.run` is the place after a text.

`literal q s` is how a text is written between quotes: every quote in it stands twice.  A scan
over a literal gains exactly its text (`gained_literal`) and ends behind its last quote
(`run_literal`); conversely, a scan that was in a literal and no longer is has read the rest of a
literal (`exists_double_of_free`).
-/

namespace CatalogTypes.Check

namespace Place

/-- The place after a text. -/
def run (p : Place) (cs : List Char) : Place := cs.foldl next p

@[simp] theorem run_nil (p : Place) : p.run [] = p := rfl

@[simp] theorem run_cons (p : Place) (c : Char) (cs : List Char) :
    p.run (c :: cs) = (p.next c).run cs := rfl

@[simp] theorem run_append (p : Place) (xs ys : List Char) : p.run (xs ++ ys) = (p.run xs).run ys :=
  List.foldl_append

/-- The place is in no literal. -/
def Free : Place → Prop
  | within _ => False
  | _ => True

instance : DecidablePred Free
  | outside => isTrue trivial
  | within _ => isFalse id
  | closing _ => isTrue trivial

/-- The quote that the place remembers is one. -/
def Proper : Place → Prop
  | outside => True
  | within q => isQuote q = true
  | closing q => isQuote q = true

theorem Proper.next {p : Place} (h : p.Proper) (c : Char) : (p.next c).Proper := by
  cases p with
  | outside =>
    by_cases hc : isQuote c = true <;> simp [Place.next, hc, Proper]
  | within q =>
    by_cases hc : c = q <;> simpa [Place.next, hc, Proper] using h
  | closing q =>
    by_cases hc : c = q
    · simpa [Place.next, hc, Proper] using h
    · by_cases hq : isQuote c = true <;> simp [Place.next, hc, hq, Proper]

theorem Proper.run {p : Place} (h : p.Proper) (cs : List Char) : (p.run cs).Proper := by
  induction cs generalizing p with
  | nil => exact h
  | cons c cs ih => exact ih (h.next c)

theorem proper_outside : outside.Proper := trivial

theorem proper_run_outside (cs : List Char) : (outside.run cs).Proper := proper_outside.run cs

/-- Code is what is neither quoted nor a quote. -/
theorem isCode_iff {p : Place} (h : p.Proper) {c : Char} :
    p.isCode c = true ↔ p.Free ∧ isQuote c = false := by
  cases p with
  | outside => simp [isCode, Free]
  | within q => simp [isCode, Free]
  | closing q =>
    have ne : isQuote c = false → c ≠ q := by
      intro hc heq
      rw [Proper, ← heq, hc] at h
      cases h
    simp only [isCode, Free, Bool.and_eq_true, ne_eq, Bool.not_eq_true', decide_eq_true_eq,
      true_and]
    exact ⟨And.right, fun hc => ⟨by simpa using ne hc, hc⟩⟩

theorem next_of_isCode {p : Place} {c : Char} (h : p.isCode c = true) : p.next c = outside := by
  cases p with
  | outside => simp_all [isCode, next]
  | within q => simp [isCode] at h
  | closing q => simp_all [isCode, next]

theorem gain_of_isCode {p : Place} {c : Char} (h : p.isCode c = true) : p.gain c = none := by
  cases p with
  | outside => rfl
  | within q => simp [isCode] at h
  | closing q => simp_all [isCode, gain]

/-! ## Texts without quotes -/

theorem run_within {q : Char} {cs : List Char} (h : q ∉ cs) : (within q).run cs = within q := by
  induction cs with
  | nil => rfl
  | cons c cs ih =>
    rw [List.mem_cons, not_or] at h
    rw [run_cons, next, if_neg (Ne.symm h.1)]
    exact ih h.2

theorem run_of_no_quote {cs : List Char} (h : ∀ c ∈ cs, isQuote c = false) :
    outside.run cs = outside := by
  induction cs with
  | nil => rfl
  | cons c cs ih =>
    have hc : outside.next c = outside := by simp [next, h c List.mem_cons_self]
    rw [run_cons, hc]
    exact ih fun d hd => h d (List.mem_cons_of_mem c hd)

/-- Behind anything but a quote a place that is in no literal is outside. -/
theorem next_of_free {p : Place} (hp : p.Proper) (free : p.Free) {c : Char}
    (hc : isQuote c = false) : p.next c = outside :=
  next_of_isCode ((isCode_iff hp).2 ⟨free, hc⟩)

theorem run_of_free {p : Place} (hp : p.Proper) (free : p.Free) {cs : List Char} (hne : cs ≠ [])
    (h : ∀ c ∈ cs, isQuote c = false) : p.run cs = outside := by
  cases cs with
  | nil => exact absurd rfl hne
  | cons c cs =>
    rw [run_cons, next_of_free hp free (h c List.mem_cons_self)]
    exact run_of_no_quote fun d hd => h d (List.mem_cons_of_mem c hd)

theorem free_run_of_no_quote {p : Place} (hp : p.Proper) {cs : List Char}
    (h : ∀ c ∈ cs, isQuote c = false) : (p.run cs).Free ↔ p.Free := by
  induction cs generalizing p with
  | nil => exact Iff.rfl
  | cons c cs ih =>
    have hc := h c List.mem_cons_self
    have hcs : ∀ d ∈ cs, isQuote d = false := fun d hd => h d (List.mem_cons_of_mem c hd)
    rw [run_cons, ih (hp.next c) hcs]
    cases p with
    | outside => simp [next, hc, Free]
    | within q =>
      have hne : c ≠ q := by
        intro heq
        rw [Proper, ← heq, hc] at hp
        cases hp
      simp [next, hne, Free]
    | closing q =>
      rw [next_of_free hp trivial hc]
      exact Iff.rfl

end Place

open Place

/-! ## Literals -/

/-- A text with every occurrence of the quote doubled. -/
def double (q : Char) (s : List Char) : List Char :=
  s.flatMap fun c => if c = q then [q, q] else [c]

/-- A text between quotes. -/
def literal (q : Char) (s : List Char) : List Char := q :: (double q s ++ [q])

/-- What the literals of a text gain. -/
def gained (p : Place) : List Char → List Char
  | [] => []
  | c :: cs => (p.gain c).toList ++ gained (p.next c) cs

theorem gained_append (p : Place) (xs ys : List Char) :
    gained p (xs ++ ys) = gained p xs ++ gained (p.run xs) ys := by
  induction xs generalizing p with
  | nil => rfl
  | cons c xs ih => rw [List.cons_append, gained, gained, ih, run_cons, List.append_assoc]

theorem gained_of_no_quote {p : Place} (hp : p.Proper) (free : p.Free) {cs : List Char}
    (h : ∀ c ∈ cs, isQuote c = false) : gained p cs = [] := by
  induction cs generalizing p with
  | nil => rfl
  | cons c cs ih =>
    have hc := h c List.mem_cons_self
    have hgain : p.gain c = none := gain_of_isCode ((isCode_iff hp).2 ⟨free, hc⟩)
    rw [gained, hgain, next_of_free hp free hc]
    exact ih trivial trivial fun d hd => h d (List.mem_cons_of_mem c hd)

theorem double_cons_self (q : Char) (s : List Char) : double q (q :: s) = q :: q :: double q s := by
  simp [double]

theorem double_cons_of_ne {q c : Char} (h : c ≠ q) (s : List Char) :
    double q (c :: s) = c :: double q s := by
  simp [double, h]

theorem run_double (q : Char) (s : List Char) : (within q).run (double q s) = within q := by
  induction s with
  | nil => rfl
  | cons c s ih =>
    by_cases h : c = q
    · rw [h, double_cons_self]
      simpa [next] using ih
    · rw [double_cons_of_ne h]
      simpa [next, h] using ih

theorem gained_double (q : Char) (s : List Char) : gained (within q) (double q s) = s := by
  induction s with
  | nil => rfl
  | cons c s ih =>
    by_cases h : c = q
    · rw [h, double_cons_self]
      simpa [gained, gain, next] using ih
    · rw [double_cons_of_ne h]
      simpa [gained, gain, next, h] using ih

theorem next_quote {q : Char} (h : isQuote q = true) : outside.next q = within q := by
  simp [next, h]

theorem run_literal {q : Char} (h : isQuote q = true) (s : List Char) :
    outside.run (literal q s) = closing q := by
  rw [literal, run_cons, next_quote h, run_append, run_double]
  simp [next]

/-- **A literal gains its text.** -/
theorem gained_literal {q : Char} (h : isQuote q = true) (s : List Char) :
    gained outside (literal q s) = s := by
  rw [literal, gained, next_quote h, gained_append, gained_double, run_double]
  simp [gain, gained]

/-- Where a scan leaves the literal that it was in, the literal ends. -/
theorem exists_double_of_free {q : Char} : ∀ cs : List Char, ((within q).run cs).Free →
    ∃ s after, cs = double q s ++ q :: after ∧ after.head? ≠ some q
  | [], h => h.elim
  | c :: cs, h => by
    by_cases hc : c = q
    · subst hc
      match cs with
      | [] => exact ⟨[], [], rfl, by simp⟩
      | d :: rest =>
        by_cases hd : d = c
        · -- a doubled quote is one of the text
          subst hd
          have h' : ((within d).run rest).Free := by simpa [next] using h
          obtain ⟨s, after, rfl, hafter⟩ := exists_double_of_free rest h'
          exact ⟨d :: s, after, by rw [double_cons_self]; rfl, hafter⟩
        · exact ⟨[], d :: rest, rfl, by simpa using hd⟩
    · have h' : ((within q).run cs).Free := by simpa [next, hc] using h
      obtain ⟨s, after, rfl, hafter⟩ := exists_double_of_free cs h'
      exact ⟨c :: s, after, by rw [double_cons_of_ne hc]; rfl, hafter⟩

end CatalogTypes.Check
