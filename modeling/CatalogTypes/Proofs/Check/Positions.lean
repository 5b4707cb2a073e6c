import CatalogTypes.Proofs.Check.Lexemes

/-!
# The position of the closing parenthesis

`closeAt` divides a text where the parenthesis that is open before it is closed.  Here the same is
said by positions, for a parenthesis that is open before any position of a longer text.

**Theorem (`closingPosition_laws`).** The position found is the one of a closing parenthesis whose
text from the start on is read as nested lexemes, and none is found exactly if there is no such
position.  A cursor finds it that moves on by one character, or by two over a doubled quote; so it
visits every position up to the one found, or to the end of the text, once and in order, the second
quotes of doubled ones aside.

The cursor knows of the character behind a quote at once, while a scan learns of it at its next
step.  They agree (`Cursor.Agrees`) where the next character decides nothing that is still open,
and every move of the cursor is one step of the scan or two (`Cursor.Moves`).
-/

namespace CatalogTypes.Check

open Place

/-! ## Positions -/

/-- The position behind the body of what a scan has found, if the scan began at the index. -/
def positionFrom (index : Nat) (found : Option (List Char × List Char)) : Option Nat :=
  found.map fun (body, _) => index + body.length

/-- The position of the parenthesis that closes one that is open before the start. -/
def closingPosition (text : List Char) (start : Nat) : Option Nat :=
  positionFrom start (closeAt (text.drop start))

/-- The position holds a parenthesis that closes one that is open before the start. -/
structure ClosesAt (text : List Char) (start i : Nat) : Prop where
  from_start : start ≤ i
  closing : text[i]? = some ')'
  nested : ∃ lexemes, Lexed (text.extract start i) lexemes ∧ Nested lexemes

/-- The position holds the second quote of a doubled one: what stands before it, from the start on,
could end with a literal, if the quote of that literal did not come again. -/
def IsSecondQuote (text : List Char) (start j : Nat) : Prop :=
  ∃ lexemes q s, Lexed (text.extract start j) (lexemes ++ [.literal q s]) ∧ text[j]? = some q

theorem isSecondQuote_iff {text : List Char} {start j : Nat} : IsSecondQuote text start j ↔
    ∃ q, outside.run (text.extract start j) = Place.closing q ∧ text[j]? = some q := by
  simp only [run_eq_closing_iff]
  constructor
  · intro second
    obtain ⟨lexemes, q, s, lexed, again⟩ := second
    exact ⟨q, ⟨lexemes, s, lexed⟩, again⟩
  · intro second
    obtain ⟨q, ⟨lexemes, s, lexed⟩, again⟩ := second
    exact ⟨lexemes, q, s, lexed, again⟩

theorem drop_of_getElem? {text : List Char} {i : Nat} {c : Char} (h : text[i]? = some c) :
    text.drop i = c :: text.drop (i + 1) := by
  obtain ⟨hi, rfl⟩ := List.getElem?_eq_some_iff.1 h
  exact List.drop_eq_getElem_cons hi

theorem extract_append_drop {start i : Nat} (h : start ≤ i) (text : List Char) :
    text.extract start i ++ text.drop i = text.drop start := by
  have rest : text.drop i = (text.drop start).drop (i - start) := by
    rw [List.drop_drop, Nat.add_sub_cancel' h]
  rw [rest, List.take_append_drop]

theorem extract_add_one {start i : Nat} (h : start ≤ i) {text : List Char} {c : Char}
    (hc : text[i]? = some c) : text.extract start (i + 1) = text.extract start i ++ [c] := by
  rw [List.extract, Nat.sub_add_comm h, List.take_add_one, List.getElem?_drop,
    Nat.add_sub_cancel' h, hc]
  rfl

theorem length_extract {start i : Nat} {text : List Char} (h : i ≤ text.length) :
    (text.extract start i).length = i - start := by
  rw [List.length_take, List.length_drop]
  omega

theorem closingPosition_eq_some_iff {text : List Char} {start i : Nat} :
    closingPosition text start = some i ↔ ClosesAt text start i := by
  constructor
  · intro found
    obtain ⟨⟨body, after⟩, hclose, rfl⟩ := Option.map_eq_some_iff.1 found
    obtain ⟨split, balanced⟩ := closeAt_eq_some_iff.1 hclose
    have body_eq : text.extract start (start + body.length) = body := by
      rw [List.extract, split, Nat.add_sub_cancel_left, List.take_left]
    refine ⟨Nat.le_add_right _ _, ?_, ?_⟩
    · rw [← List.getElem?_drop, split, List.getElem?_append_right (Nat.le_refl _)]
      simp
    · rw [body_eq]
      exact balanced_iff_lexed.1 balanced
  · intro closes
    have bound := (List.getElem?_eq_some_iff.1 closes.closing).1
    have split : text.drop start = text.extract start i ++ ')' :: text.drop (i + 1) := by
      rw [← drop_of_getElem? closes.closing, extract_append_drop closes.from_start]
    have balanced := balanced_iff_lexed.2 closes.nested
    refine Option.map_eq_some_iff.2 ⟨_, closeAt_eq_some_iff.2 ⟨split, balanced⟩, ?_⟩
    show start + (text.extract start i).length = i
    rw [length_extract (Nat.le_of_lt bound), Nat.add_sub_cancel' closes.from_start]

/-! ## The cursor -/

/-- How many parentheses are open beside the one before the start, the quote of the literal that is
open, and the position of the next character. -/
structure Cursor where
  depth : Nat
  quote : Option Char
  index : Nat
deriving DecidableEq, Repr

/-- What a cursor has visited, in order, and the position that it has found. -/
structure Search where
  visited : List Nat
  found : Option Nat
deriving DecidableEq, Repr

/-- A search that visits a position first. -/
def Search.behind (later : Search) (index : Nat) : Search :=
  { later with visited := index :: later.visited }

/-- Where a search in a text ends: behind what it has found, or with the text. -/
def Search.stop (text : List Char) (search : Search) : Nat :=
  (search.found.map (· + 1)).getD text.length

namespace Cursor

/-- The cursor at the start of a text. -/
def start (index : Nat) : Cursor := { depth := 0, quote := none, index }

/-- The cursor behind its next character; none where that closes what is open before the start. -/
def step (text : List Char) (s : Cursor) (c : Char) : Option Cursor :=
  match s.quote with
  | some q =>
    some <|
      if c = q then
        -- only here one character is looked ahead
        if text[s.index + 1]? = some q then { s with index := s.index + 2 }
        else { s with quote := none, index := s.index + 1 }
      else { s with index := s.index + 1 }
  | none =>
    if isQuote c then some { s with quote := some c, index := s.index + 1 }
    else (turn s.depth outside c).map fun depth => { s with depth, index := s.index + 1 }

/-- A scan at the place goes on as the cursor does: no quote comes next that the place waits for. -/
def Agrees (text : List Char) (p : Place) (s : Cursor) : Prop :=
  match s.quote with
  | some q => p = within q
  | none => p.Free ∧ ∀ q, p = closing q → text[s.index]? ≠ some q

/-- A move of the cursor, as seen by a scan that is at the place. -/
inductive Moves (text : List Char) (p : Place) (s : Cursor) (c : Char) (t : Cursor) : Prop
  | one (index : t.index = s.index + 1) (depth : turn s.depth p c = some t.depth)
      (agrees : Agrees text (p.next c) t)
  | two (index : t.index = s.index + 2) (depth : t.depth = s.depth) (place : p = within c)
      (doubled : text[s.index + 1]? = some c) (agrees : Agrees text p t)

theorem agrees_start (text : List Char) (index : Nat) : Agrees text outside (start index) :=
  ⟨trivial, fun _ h => nomatch h⟩

theorem exists_agrees (text : List Char) (s : Cursor) : ∃ p, Agrees text p s := by
  cases hq : s.quote with
  | none => exact ⟨outside, by simp [Agrees, hq, Free]⟩
  | some q => exact ⟨within q, by simp [Agrees, hq]⟩

/-- A scan that agrees with a cursor in no literal goes on as from outside. -/
theorem Agrees.as_outside {text : List Char} {p : Place} {s : Cursor} {c : Char}
    (agrees : Agrees text p s) (hq : s.quote = none) (hc : text[s.index]? = some c) :
    turn s.depth p c = turn s.depth outside c ∧ p.next c = outside.next c := by
  simp only [Agrees, hq] at agrees
  obtain ⟨free, settled⟩ := agrees
  cases p with
  | outside => exact ⟨rfl, rfl⟩
  | within q => exact free.elim
  | closing q =>
    have ne : c ≠ q := by simpa [hc] using settled q rfl
    exact ⟨turn_closing ne s.depth, next_closing ne⟩

theorem turn_of_step_eq_none {text : List Char} {p : Place} {s : Cursor} {c : Char}
    (agrees : Agrees text p s) (hc : text[s.index]? = some c) (h : s.step text c = none) :
    turn s.depth p c = none := by
  cases hq : s.quote with
  | some q =>
    simp [step, hq] at h
  | none =>
    rw [(agrees.as_outside hq hc).1]
    simp only [step, hq] at h
    split at h
    · cases h
    · exact Option.map_eq_none_iff.1 h

/-- Whatever a cursor does is a step of the scan, or two over a doubled quote. -/
theorem moves_of_step {text : List Char} {p : Place} {s t : Cursor} {c : Char}
    (agrees : Agrees text p s) (hc : text[s.index]? = some c) (h : s.step text c = some t) :
    Moves text p s c t := by
  cases hq : s.quote with
  | some q =>
    obtain rfl : p = within q := by simpa [Agrees, hq] using agrees
    have same := turn_within s.depth q c
    simp only [step, hq] at h
    by_cases hcq : c = q
    · subst hcq
      by_cases doubled : text[s.index + 1]? = some c
      · rw [if_pos rfl, if_pos doubled] at h
        cases h
        exact .two rfl rfl rfl doubled (by simp [Agrees])
      · rw [if_pos rfl, if_neg doubled] at h
        cases h
        refine .one rfl same ?_
        rw [next_within_self]
        refine ⟨trivial, ?_⟩
        intro q hq
        cases hq
        exact doubled
    · rw [if_neg hcq] at h
      cases h
      have stays : (within q).next c = within q := if_neg hcq
      exact .one rfl same (by simp [Agrees, stays])
  | none =>
    obtain ⟨turned, goes⟩ := agrees.as_outside hq hc
    simp only [step, hq] at h
    by_cases quote : isQuote c = true
    · rw [if_pos quote] at h
      cases h
      have code : outside.isCode c = true → c ≠ '(' ∧ c ≠ ')' := by simp [isCode, quote]
      refine .one rfl (turned.trans (turn_of_plain code _)) ?_
      rw [goes, next_quote quote]
      rfl
    · rw [if_neg quote] at h
      obtain ⟨depth, hdepth, rfl⟩ := Option.map_eq_some_iff.1 h
      have code : outside.isCode c = true := by simpa [isCode] using quote
      refine .one rfl (turned.trans hdepth) ?_
      rw [goes, next_of_isCode code]
      simp [Agrees, Free]

theorem lt_index_of_step {text : List Char} {s t : Cursor} {c : Char}
    (hc : text[s.index]? = some c) (h : s.step text c = some t) : s.index < t.index := by
  obtain ⟨p, agrees⟩ := exists_agrees text s
  cases moves_of_step agrees hc h with
  | one index => omega
  | two index => omega

/-- The cursor moves on until it has found what it looks for or the text is at its end. -/
def search (text : List Char) (s : Cursor) : Search :=
  match _next : text[s.index]? with
  | none => { visited := [], found := none }
  | some c =>
    match _moved : s.step text c with
    | none => { visited := [s.index], found := some s.index }
    | some t => (t.search text).behind s.index
termination_by text.length - s.index
decreasing_by
  have bound := (List.getElem?_eq_some_iff.1 _next).1
  have forward := lt_index_of_step _next _moved
  omega

theorem positionFrom_scanClose_cons {d e : Nat} {p : Place} {c : Char} (h : turn d p c = some e)
    (index : Nat) (rest : List Char) :
    positionFrom index (scanClose d p (c :: rest)) =
      positionFrom (index + 1) (scanClose e (p.next c) rest) := by
  rw [scanClose_cons, h, positionFrom, positionFrom, Option.map_map]
  congr 1
  funext found
  simp [Nat.add_assoc, Nat.add_comm 1]

/-- A cursor finds what a scan finds from its place on. -/
theorem found_search {text : List Char} {p : Place} {s : Cursor} (agrees : Agrees text p s) :
    (s.search text).found = positionFrom s.index (scanClose s.depth p (text.drop s.index)) := by
  fun_induction search text s generalizing p with
  | case1 s next =>
    rw [List.drop_eq_nil_of_le (List.getElem?_eq_none_iff.1 next)]
    rfl
  | case2 s c next moved =>
    rw [drop_of_getElem? next, scanClose_cons, turn_of_step_eq_none agrees next moved]
    rfl
  | case3 s c next t moved ih =>
    rw [drop_of_getElem? next]
    cases moves_of_step agrees next moved with
    | one index depth agrees =>
      rw [positionFrom_scanClose_cons depth, ← index]
      exact ih agrees
    | two index depth place doubled agrees' =>
      -- the scan takes two steps, of which the first leaves it undecided
      subst place
      have first := turn_within s.depth c c
      have second := turn_closing_self s.depth c
      rw [positionFrom_scanClose_cons first, next_within_self, drop_of_getElem? doubled,
        positionFrom_scanClose_cons second, next_closing_self, ← depth, Nat.add_assoc, ← index]
      exact ih agrees'

/-! ## What is visited -/

/-- A cursor that stands where a scan from the start agrees with it. -/
structure Follows (text : List Char) (start : Nat) (s : Cursor) : Prop where
  from_start : start ≤ s.index
  agrees : Agrees text (outside.run (text.extract start s.index)) s

theorem follows_start (text : List Char) (index : Nat) : Follows text index (start index) where
  from_start := Nat.le_refl index
  agrees := by
    rw [start, List.extract, Nat.sub_self, List.take_zero]
    exact agrees_start text index

theorem Follows.not_isSecondQuote {text : List Char} {start : Nat} {s : Cursor}
    (follows : Follows text start s) : ¬IsSecondQuote text start s.index := by
  intro second
  obtain ⟨q, ends, doubled⟩ := isSecondQuote_iff.1 second
  have agrees := follows.agrees
  rw [ends] at agrees
  cases hq : s.quote with
  | none =>
    simp only [Agrees, hq] at agrees
    exact agrees.2 q rfl doubled
  | some r => simp [Agrees, hq] at agrees

/-- A move leads to where the cursor follows the scan, and passes over nothing but the second quote
of a doubled one. -/
theorem Follows.step {text : List Char} {start : Nat} {s t : Cursor} {c : Char}
    (follows : Follows text start s) (hc : text[s.index]? = some c)
    (h : s.step text c = some t) :
    Follows text start t ∧ (t.index = s.index + 1 ∨
      t.index = s.index + 2 ∧ IsSecondQuote text start (s.index + 1)) := by
  have from_start := follows.from_start
  have behind : outside.run (text.extract start (s.index + 1)) =
      (outside.run (text.extract start s.index)).next c := by
    rw [extract_add_one from_start hc, run_append]
    rfl
  cases moves_of_step follows.agrees hc h with
  | one index depth agrees =>
    exact ⟨⟨by omega, by rwa [index, behind]⟩, .inl index⟩
  | two index depth place doubled agrees =>
    rw [place, next_within_self] at behind
    refine ⟨⟨by omega, ?_⟩, .inr ⟨index, isSecondQuote_iff.2 ⟨c, behind, doubled⟩⟩⟩
    rw [index, ← Nat.add_assoc s.index 1 1, extract_add_one (by omega) doubled, run_append, behind,
      run_cons, run_nil, next_closing_self]
    rwa [place] at agrees

theorem lt_stop_search {text : List Char} {i : Nat} {t : Cursor} (bound : i < text.length)
    (later : i < t.index) : i < (t.search text).stop text := by
  obtain ⟨p, agrees⟩ := exists_agrees text t
  rw [Search.stop, found_search agrees, positionFrom]
  cases scanClose t.depth p (text.drop t.index) with
  | none => exact bound
  | some found =>
    simp only [Option.map_some, Option.getD_some]
    omega

/-- The positions visited are those up to the end of the search, second quotes aside. -/
theorem mem_visited_search_iff {text : List Char} {start : Nat} {s : Cursor}
    (follows : Follows text start s) (j : Nat) : j ∈ (s.search text).visited ↔
      s.index ≤ j ∧ j < (s.search text).stop text ∧ ¬IsSecondQuote text start j := by
  fun_induction search text s with
  | case1 s next =>
    have past := List.getElem?_eq_none_iff.1 next
    apply iff_of_false List.not_mem_nil
    intro within_search
    obtain ⟨from_index, before_end, -⟩ := within_search
    exact absurd (Nat.lt_of_lt_of_le before_end past) (Nat.not_lt.2 from_index)
  | case2 s c next moved =>
    rw [List.mem_singleton]
    constructor
    · intro hj
      subst hj
      exact ⟨Nat.le_refl _, Nat.lt_succ_self _, follows.not_isSecondQuote⟩
    · intro within_search
      obtain ⟨from_index, before_end, -⟩ := within_search
      exact Nat.le_antisymm (Nat.le_of_lt_succ before_end) from_index
  | case3 s c next t moved ih =>
    obtain ⟨follows', passed⟩ := follows.step next moved
    have forward := lt_index_of_step next moved
    have bound := (List.getElem?_eq_some_iff.1 next).1
    have here := lt_stop_search bound forward
    show j ∈ s.index :: (t.search text).visited ↔
      s.index ≤ j ∧ j < (t.search text).stop text ∧ ¬IsSecondQuote text start j
    rw [List.mem_cons, ih follows']
    constructor
    · intro visited
      rcases visited with rfl | ⟨from_index, before_end, single⟩
      · exact ⟨Nat.le_refl _, here, follows.not_isSecondQuote⟩
      · exact ⟨by omega, before_end, single⟩
    · intro within_search
      obtain ⟨from_index, before_end, single⟩ := within_search
      by_cases hj : j = s.index
      · exact .inl hj
      · refine .inr ⟨?_, before_end, single⟩
        rcases passed with one | ⟨two, second⟩
        · omega
        · have hne : j ≠ s.index + 1 := by
            intro heq
            exact single (heq ▸ second)
          omega

theorem pairwise_visited_search {text : List Char} {start : Nat} {s : Cursor}
    (follows : Follows text start s) : (s.search text).visited.Pairwise (· < ·) := by
  fun_induction search text s with
  | case1 => exact .nil
  | case2 s => exact List.pairwise_singleton _ _
  | case3 s c next t moved ih =>
    obtain ⟨follows', -⟩ := follows.step next moved
    have forward := lt_index_of_step next moved
    apply List.Pairwise.cons _ (ih follows')
    intro j hj
    exact Nat.lt_of_lt_of_le forward ((mem_visited_search_iff follows' j).1 hj).1

end Cursor

/-- A search that finds what a scan finds and reads every character once, in order, the second
quotes of doubled ones aside. -/
structure ReadsOnce (text : List Char) (start : Nat) (search : Search) : Prop where
  found : search.found = closingPosition text start
  in_order : search.visited.Pairwise (· < ·)
  mem_visited_iff : ∀ j, j ∈ search.visited ↔
    start ≤ j ∧ j < search.stop text ∧ ¬IsSecondQuote text start j

/-- **The closing parenthesis is found exactly where the text from the start on is nested**, and
the search for it ends. -/
theorem closingPosition_laws (text : List Char) (start : Nat) :
    (∀ i, closingPosition text start = some i ↔ ClosesAt text start i) ∧
      (closingPosition text start = none ↔ ∀ i, ¬ClosesAt text start i) ∧
      ReadsOnce text start ((Cursor.start start).search text) := by
  refine ⟨fun i => closingPosition_eq_some_iff, ?_, ?_⟩
  · rw [Option.eq_none_iff_forall_ne_some]
    exact forall_congr' fun i => not_congr closingPosition_eq_some_iff
  · have follows := Cursor.follows_start text start
    exact {
      found := Cursor.found_search (Cursor.agrees_start text start)
      in_order := Cursor.pairwise_visited_search follows
      mem_visited_iff := Cursor.mem_visited_search_iff follows }

example : ((Cursor.start 1).search "('a)''b')".toList) =
    { visited := [1, 2, 3, 4, 6, 7, 8], found := some 8 } := by
  decide +kernel

end CatalogTypes.Check
