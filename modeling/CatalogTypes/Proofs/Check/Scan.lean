import CatalogTypes.Proofs.Check.Quoting

/-!
# Parentheses and items of a scan

`nest` counts the parentheses that a text leaves open, those inside literals aside, and fails where
the text closes one that was not open.  Both scans are stated by it:

* `closeAt` stops at the first parenthesis that closes more than was opened
  (`closeAt_eq_some_iff`);
* `splitLiterals` cuts its list at the commas outside literals and parentheses, fails where `nest`
  fails, and reads every item by itself (`splitLiterals_eq`).

An item counts only by its quotes: one without quotes is dropped, and from any other the texts of
its literals are put together, whatever stands beside them.
-/

namespace CatalogTypes.Check

open Place

/-! ## Open parentheses -/

/-- How many parentheses are open after a character; none if it closes one that was not open. -/
def turn (d : Nat) (p : Place) (c : Char) : Option Nat :=
  if p.isCode c then
    if c = '(' then some (d + 1)
    else if c = ')' then (if d = 0 then none else some (d - 1))
    else some d
  else some d

/-- How many parentheses are open after a text; none if it closes one that was not open. -/
def nest (d : Nat) (p : Place) : List Char → Option Nat
  | [] => some d
  | c :: rest => (turn d p c).bind fun e => nest e (p.next c) rest

theorem turn_eq_none_iff {d : Nat} {p : Place} {c : Char} :
    turn d p c = none ↔ p.isCode c = true ∧ c = ')' ∧ d = 0 := by
  by_cases hp : p.isCode c = true
  · by_cases ho : c = '('
    · subst ho
      simp [turn, hp]
    · by_cases hc : c = ')'
      · subst hc
        simp [turn, hp]
      · simp [turn, hp, ho, hc]
  · simp [turn, hp]

theorem turn_of_plain {p : Place} {c : Char} (h : p.isCode c = true → c ≠ '(' ∧ c ≠ ')') (d : Nat) :
    turn d p c = some d := by
  by_cases hp : p.isCode c = true
  · rw [turn, if_pos hp, if_neg (h hp).1, if_neg (h hp).2]
  · rw [turn, if_neg hp]

theorem turn_close {p : Place} (code : p.isCode ')' = true) (d : Nat) :
    turn (d + 1) p ')' = some d := by
  rw [turn, if_pos code, if_neg (by decide), if_pos rfl, if_neg (Nat.succ_ne_zero d)]
  rfl

theorem turn_add {d e : Nat} {p : Place} {c : Char} (h : turn d p c = some e) (k : Nat) :
    turn (d + k) p c = some (e + k) := by
  by_cases hp : p.isCode c = true
  · by_cases ho : c = '('
    · simp only [turn, if_pos hp, if_pos ho, Option.some.injEq] at h ⊢
      omega
    · by_cases hc : c = ')'
      · rw [turn, if_pos hp, if_neg ho, if_pos hc] at h ⊢
        split at h
        · cases h
        · rw [if_neg (by omega)]
          simp only [Option.some.injEq] at h ⊢
          omega
      · rw [turn, if_pos hp, if_neg ho, if_neg hc] at h ⊢
        simpa using h
  · rw [turn, if_neg hp] at h ⊢
    simpa using h

theorem nest_cons_of_turn {d e : Nat} {p : Place} {c : Char} (h : turn d p c = some e)
    (cs : List Char) : nest d p (c :: cs) = nest e (p.next c) cs := by
  rw [nest, h, Option.bind_some]

theorem nest_append (d : Nat) (p : Place) (xs ys : List Char) :
    nest d p (xs ++ ys) = (nest d p xs).bind fun e => nest e (p.run xs) ys := by
  induction xs generalizing d p with
  | nil => rfl
  | cons c xs ih =>
    rw [List.cons_append, nest, nest]
    cases turn d p c with
    | none => rfl
    | some e => exact ih e (p.next c)

/-- Parentheses that are open around a text stay open. -/
theorem nest_add {d e : Nat} {p : Place} {cs : List Char} (h : nest d p cs = some e) (k : Nat) :
    nest (d + k) p cs = some (e + k) := by
  induction cs generalizing d p with
  | nil =>
    cases h
    rfl
  | cons c cs ih =>
    rw [nest, Option.bind_eq_some_iff] at h
    obtain ⟨f, hf, hcs⟩ := h
    rw [nest_cons_of_turn (turn_add hf k)]
    exact ih hcs

/-! ## Smooth texts -/

/-- A text whose parentheses and commas all stand in literals. -/
def Smooth (p : Place) : List Char → Prop
  | [] => True
  | c :: rest => (p.isCode c = true → c ≠ '(' ∧ c ≠ ')' ∧ c ≠ ',') ∧ Smooth (p.next c) rest

theorem Smooth.append {p : Place} {xs ys : List Char} (hx : Smooth p xs)
    (hy : Smooth (p.run xs) ys) : Smooth p (xs ++ ys) := by
  induction xs generalizing p with
  | nil => exact hy
  | cons c xs ih => exact ⟨hx.1, ih hx.2 hy⟩

theorem smooth_of_forall {cs : List Char} (h : ∀ c ∈ cs, c ≠ '(' ∧ c ≠ ')' ∧ c ≠ ',') (p : Place) :
    Smooth p cs := by
  induction cs generalizing p with
  | nil => trivial
  | cons c cs ih =>
    exact ⟨fun _ => h c List.mem_cons_self,
      ih (fun d hd => h d (List.mem_cons_of_mem c hd)) (p.next c)⟩

theorem smooth_double (q : Char) (s : List Char) : Smooth (within q) (double q s) := by
  induction s with
  | nil => trivial
  | cons c s ih =>
    by_cases h : c = q
    · rw [h, double_cons_self]
      simpa [Smooth, isCode, next] using ih
    · rw [double_cons_of_ne h]
      simpa [Smooth, isCode, next, h] using ih

theorem smooth_literal {q : Char} (h : isQuote q = true) (s : List Char) :
    Smooth outside (literal q s) := by
  refine ⟨by simp [isCode, h], ?_⟩
  rw [next_quote h]
  refine (smooth_double q s).append ?_
  rw [run_double]
  simp [Smooth, isCode]

theorem nest_of_smooth {p : Place} {cs : List Char} (h : Smooth p cs) (d : Nat) :
    nest d p cs = some d := by
  induction cs generalizing p with
  | nil => rfl
  | cons c cs ih =>
    rw [nest_cons_of_turn (turn_of_plain (fun hp => ⟨(h.1 hp).1, (h.1 hp).2.1⟩) d)]
    exact ih h.2

/-! ## The parenthesis that closes -/

theorem scanClose_cons (d : Nat) (p : Place) (c : Char) (rest : List Char) :
    scanClose d p (c :: rest) = match turn d p c with
      | none => some ([], rest)
      | some e => (scanClose e (p.next c) rest).map fun (body, after) => (c :: body, after) := by
  by_cases hp : p.isCode c = true
  · by_cases ho : c = '('
    · subst ho
      simp [scanClose, turn, hp]
    · by_cases hc : c = ')'
      · cases d with
        | zero => simp_all [scanClose, turn]
        | succ d => simp_all [scanClose, turn]
      · simp [scanClose, turn, hp, ho, hc]
  · simp [scanClose, turn, hp]

theorem scanClose_eq_some_iff {d : Nat} {p : Place} {cs body after : List Char} :
    scanClose d p cs = some (body, after) ↔
      cs = body ++ ')' :: after ∧ nest d p body = some 0 ∧ (p.run body).isCode ')' = true := by
  induction cs generalizing d p body with
  | nil => simp [scanClose]
  | cons c rest ih =>
    rw [scanClose_cons]
    cases ht : turn d p c with
    | none =>
      -- the scan stops here, and a longer body would have a negative count
      obtain ⟨hp, rfl, rfl⟩ := turn_eq_none_iff.1 ht
      cases body with
      | nil => simp [nest, hp, eq_comm]
      | cons b body =>
        refine iff_of_false (by simp) ?_
        intro closing
        obtain ⟨heq, hnest, -⟩ := closing
        rw [List.cons_append, List.cons.injEq] at heq
        rw [← heq.1, nest, ht] at hnest
        cases hnest
    | some e =>
      cases body with
      | nil =>
        refine iff_of_false (by simp) ?_
        intro closing
        obtain ⟨heq, hnest, hcode⟩ := closing
        rw [List.nil_append, List.cons.injEq] at heq
        have hd : d = 0 := by simpa [nest] using hnest
        rw [turn_eq_none_iff.2 ⟨heq.1 ▸ hcode, heq.1, hd⟩] at ht
        cases ht
      | cons b body =>
        constructor
        · intro h
          obtain ⟨⟨body', after'⟩, hscan, heq⟩ := Option.map_eq_some_iff.1 h
          cases heq
          obtain ⟨hrest, hnest, hcode⟩ := ih.1 hscan
          exact ⟨by rw [hrest]; rfl, by rw [nest_cons_of_turn ht]; exact hnest, hcode⟩
        · intro closing
          obtain ⟨heq, hnest, hcode⟩ := closing
          rw [List.cons_append, List.cons.injEq] at heq
          obtain ⟨rfl, hrest⟩ := heq
          rw [nest_cons_of_turn ht] at hnest
          exact Option.map_eq_some_iff.2 ⟨(body, after), ih.2 ⟨hrest, hnest, hcode⟩, rfl⟩

/-- A text that closes every parenthesis that it opens, and no other, and ends in no literal. -/
def Balanced (cs : List Char) : Prop := nest 0 outside cs = some 0 ∧ (outside.run cs).Free

/-- **A constraint ends at the first parenthesis outside literals that closes more than was
opened.** -/
theorem closeAt_eq_some_iff {cs body after : List Char} :
    closeAt cs = some (body, after) ↔ cs = body ++ ')' :: after ∧ Balanced body := by
  have code : (outside.run body).isCode ')' = true ↔ (outside.run body).Free := by
    rw [isCode_iff (proper_run_outside body)]
    simp [isQuote]
  rw [closeAt, scanClose_eq_some_iff, code, Balanced]

/-! ## The items of a list -/

/-- The pieces of a text between its commas outside literals and parentheses; none if it closes a
parenthesis that was not open. -/
def itemsFrom (d : Nat) (p : Place) : List Char → Option (List (List Char))
  | [] => some [[]]
  | c :: rest =>
    (turn d p c).bind fun e =>
      (itemsFrom e (p.next c) rest).map fun items =>
        if p.isCode c = true ∧ c = ',' ∧ d = 0 then [] :: items else items.modifyHead (c :: ·)

/-- The items of a list. -/
def itemsOf (list : List Char) : Option (List (List Char)) := itemsFrom 0 outside list

/-- What an item gives: the texts of its literals put together, if it has a quote. -/
def value? (item : List Char) : Option (List Char) :=
  if item.any isQuote then some (gained outside item) else none

theorem itemsFrom_ne_nil {d : Nat} {p : Place} {cs : List Char} {items : List (List Char)}
    (h : itemsFrom d p cs = some items) : items ≠ [] := by
  induction cs generalizing d p items with
  | nil =>
    cases h
    simp
  | cons c cs ih =>
    obtain ⟨e, -, hmap⟩ := Option.bind_eq_some_iff.1 h
    obtain ⟨items', hitems, rfl⟩ := Option.map_eq_some_iff.1 hmap
    split
    · simp
    · obtain ⟨item, more, rfl⟩ := List.exists_cons_of_ne_nil (ih hitems)
      simp

theorem isSome_itemsFrom (d : Nat) (p : Place) (cs : List Char) :
    (itemsFrom d p cs).isSome = (nest d p cs).isSome := by
  induction cs generalizing d p with
  | nil => rfl
  | cons c cs ih =>
    rw [itemsFrom, nest]
    cases turn d p c with
    | none => rfl
    | some e => simpa using ih e (p.next c)

theorem intercalate_modifyHead {sep : List Char} (c : Char) {items : List (List Char)}
    (h : items ≠ []) :
    sep.intercalate (items.modifyHead (c :: ·)) = c :: sep.intercalate items := by
  match items with
  | [] => exact absurd rfl h
  | [item] => simp [List.intercalate]
  | item :: second :: more => simp [List.intercalate]

/-- The items with commas between them are the list. -/
theorem intercalate_itemsFrom {d : Nat} {p : Place} {cs : List Char} {items : List (List Char)}
    (h : itemsFrom d p cs = some items) : [','].intercalate items = cs := by
  induction cs generalizing d p items with
  | nil =>
    cases h
    rfl
  | cons c cs ih =>
    obtain ⟨e, -, hmap⟩ := Option.bind_eq_some_iff.1 h
    obtain ⟨items', hitems, rfl⟩ := Option.map_eq_some_iff.1 hmap
    have hne := itemsFrom_ne_nil hitems
    split
    case isTrue hcut =>
      obtain ⟨item, more, rfl⟩ := List.exists_cons_of_ne_nil hne
      rw [List.intercalate_cons_cons, ih hitems, hcut.2.1]
      rfl
    case isFalse => rw [intercalate_modifyHead c hne, ih hitems]

/-- A smooth text stays in one item. -/
theorem itemsFrom_smooth_append {p : Place} {xs : List Char} (h : Smooth p xs) (d : Nat)
    (ys : List Char) :
    itemsFrom d p (xs ++ ys) = (itemsFrom d (p.run xs) ys).map (List.modifyHead (xs ++ ·)) := by
  induction xs generalizing p with
  | nil =>
    have same : List.modifyHead (fun item : List Char => [] ++ item) = id := by
      funext items
      cases items <;> rfl
    rw [same, Option.map_id_fun]
    rfl
  | cons c xs ih =>
    have hcut : ¬(p.isCode c = true ∧ c = ',' ∧ d = 0) := fun hc => (h.1 hc.1).2.2 hc.2.1
    rw [List.cons_append, itemsFrom, turn_of_plain (fun hp => ⟨(h.1 hp).1, (h.1 hp).2.1⟩) d,
      Option.bind_some, ih h.2, Option.map_map]
    simp only [if_neg hcut]
    congr 1
    funext items
    cases items <;> rfl

/-! ## Reading a list -/

/-- What a scan for literals gives for the items before it, of which it has begun the first. -/
def collect (p : Place) (current : List Char) (seen : Bool) : List (List Char) → List (List Char)
  | [] => []
  | item :: more =>
    (if seen || item.any isQuote then [current.reverse ++ gained p item] else []) ++
      more.filterMap value?

theorem collect_outside {items : List (List Char)} :
    collect outside [] false items = items.filterMap value? := by
  cases items with
  | nil => rfl
  | cons item more =>
    by_cases h : item.any isQuote = true <;> simp [collect, value?, h]

theorem scanLiterals_cons (d : Nat) (p : Place) (current : List Char) (seen : Bool) (c : Char)
    (rest : List Char) :
    scanLiterals d p current seen (c :: rest) = (turn d p c).bind fun e =>
      if p.isCode c = true ∧ c = ',' ∧ d = 0 then
        (scanLiterals e (p.next c) [] false rest).map fun values =>
          if seen then current.reverse :: values else values
      else
        scanLiterals e (p.next c) ((p.gain c).toList ++ current) (seen || !p.isCode c) rest := by
  by_cases hp : p.isCode c = true
  · have hgain := gain_of_isCode hp
    by_cases ho : c = '('
    · simp_all [scanLiterals, turn]
    · by_cases hc : c = ')'
      · cases d with
        | zero => simp_all [scanLiterals, turn]
        | succ d => simp_all [scanLiterals, turn]
      · by_cases hcut : c = ',' ∧ d = 0 <;> simp_all [scanLiterals, turn]
  · simp_all [scanLiterals, turn]

/-- A scan that has not seen a quote stands outside literals. -/
def Fresh (p : Place) (current : List Char) (seen : Bool) : Prop :=
  seen = false → p = outside ∧ current = []

theorem Fresh.next {p : Place} {current : List Char} {seen : Bool} (h : Fresh p current seen)
    (c : Char) :
    Fresh (p.next c) ((p.gain c).toList ++ current) (seen || !p.isCode c) := by
  intro hseen
  rw [Bool.or_eq_false_iff, Bool.not_eq_false'] at hseen
  obtain ⟨rfl, rfl⟩ := h hseen.1
  exact ⟨next_of_isCode hseen.2, rfl⟩

/-- A character that ends no item counts for the first. -/
theorem collect_grow {p : Place} {current : List Char} {seen : Bool} (h : Fresh p current seen)
    (c : Char) (items : List (List Char)) :
    collect (p.next c) ((p.gain c).toList ++ current) (seen || !p.isCode c) items =
      collect p current seen (items.modifyHead (c :: ·)) := by
  cases items with
  | nil => rfl
  | cons item more =>
    have text : ((p.gain c).toList ++ current).reverse ++ gained (p.next c) item =
        current.reverse ++ gained p (c :: item) := by
      rw [gained]
      cases p.gain c <;> simp
    have flag : (seen || !p.isCode c || item.any isQuote) =
        (seen || (c :: item).any isQuote) := by
      cases seen with
      | true => rfl
      | false =>
        obtain ⟨rfl, -⟩ := h rfl
        simp [isCode]
    rw [List.modifyHead_cons, collect, collect, text, flag]

theorem scanLiterals_eq {d : Nat} {p : Place} {current : List Char} {seen : Bool}
    (h : Fresh p current seen) (cs : List Char) :
    scanLiterals d p current seen cs = (itemsFrom d p cs).map (collect p current seen) := by
  induction cs generalizing d p current seen with
  | nil => cases seen <;> simp [scanLiterals, itemsFrom, collect, gained]
  | cons c cs ih =>
    rw [scanLiterals_cons, itemsFrom]
    cases turn d p c with
    | none => rfl
    | some e =>
      rw [Option.bind_some, Option.bind_some, Option.map_map]
      -- a comma that cuts begins an item afresh; all else belongs to the item that is begun
      by_cases hcut : p.isCode c = true ∧ c = ',' ∧ d = 0
      · have hnext : p.next c = outside := next_of_isCode hcut.1
        have fresh : Fresh outside [] false := fun _ => ⟨rfl, rfl⟩
        rw [if_pos hcut, hnext, ih fresh, Option.map_map]
        congr 1
        funext items
        simp only [Function.comp_apply, if_pos hcut, collect_outside]
        cases seen <;> simp [collect, gained]
      · rw [if_neg hcut, ih (h.next c)]
        congr 1
        funext items
        simp only [Function.comp_apply, if_neg hcut]
        exact collect_grow h c items

/-- **A list is read item by item.** -/
theorem splitLiterals_eq (list : List Char) :
    splitLiterals list = (itemsOf list).map fun items => items.filterMap value? := by
  have fresh : Fresh outside [] false := fun _ => ⟨rfl, rfl⟩
  rw [splitLiterals, scanLiterals_eq fresh, itemsOf]
  congr 1
  funext items
  exact collect_outside

example : splitLiterals "'a', f('b', 'c'), 1".toList = some ["a".toList, "bc".toList] := by
  decide +kernel

theorem any_isQuote_intercalate (items : List (List Char)) :
    ([','].intercalate items).any isQuote = items.any fun item => item.any isQuote := by
  induction items with
  | nil => rfl
  | cons item more ih =>
    cases more with
    | nil => simp
    | cons second more =>
      rw [List.intercalate_cons_cons, List.any_append, List.any_append, ih, List.any_cons]
      simp [isQuote]

/-- A list permits something if it has a quote. -/
theorem filterMap_value_eq_nil_iff {list : List Char} {items : List (List Char)}
    (h : itemsOf list = some items) :
    items.filterMap value? = [] ↔ list.any isQuote = false := by
  rw [← intercalate_itemsFrom h, any_isQuote_intercalate, List.filterMap_eq_nil_iff,
    List.any_eq_false]
  have each : ∀ item : List Char, value? item = none ↔ ¬item.any isQuote = true := by
    intro item
    by_cases hq : item.any isQuote = true <;> simp [value?, hq]
  exact forall₂_congr fun item _ => each item

end CatalogTypes.Check
