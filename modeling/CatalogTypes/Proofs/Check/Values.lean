import CatalogTypes.Proofs.Check.Bodies

/-!
# What a constraint permits

**Theorem (`parseIn_text`).** A constraint whose items are literals is read back: the column and
the texts of the literals, whatever characters they hold, and however the constraint is spaced and
quoted.  It is found in any definition that it is part of.

**Theorem (`isLiteralList_iff`).** Where anything is accepted, it has the shape of a constraint, and
every item with a quote gives one value.  The value is the text of a literal of the list only if
that literal is all of the item; of a query or a call the literals inside are taken for permitted
values as well.
-/

namespace CatalogTypes.Check

open Place

/-! ## Literals that are items -/

/-- An item that is one literal of a text, with nothing but blanks around it. -/
def LoneLiteral (item s : List Char) : Prop :=
  ∃ before q after, (∀ c ∈ before, Text.isBlank c = true) ∧ isQuote q = true ∧
    (∀ c ∈ after, Text.isBlank c = true) ∧ item = before ++ literal q s ++ after

theorem free_run_literal {q : Char} (hq : isQuote q = true) (s : List Char) :
    (outside.run (literal q s)).Free := by
  rw [run_literal hq]
  trivial

theorem value?_literal {q : Char} (hq : isQuote q = true) (s : List Char) :
    value? (literal q s) = some s := by
  have quoted : (literal q s).any isQuote = true := by simp [literal, hq]
  rw [value?, if_pos quoted, gained_literal hq]

theorem head?_of_loneLiteral {item s : List Char} (lone : LoneLiteral item s) :
    ∀ c ∈ item.head?, Text.isBlank c = true ∨ isQuote c = true := by
  obtain ⟨before, q, after, hbefore, hq, -, rfl⟩ := lone
  intro c hc
  cases before with
  | nil =>
    have first : q = c := by simpa [literal] using hc
    exact .inr (first ▸ hq)
  | cons b before =>
    have first : b = c := by simpa using hc
    exact .inl (hbefore c (by simp [first]))

/-- A literal that is all of its item gives its text. -/
theorem value?_of_loneLiteral {item s : List Char} (lone : LoneLiteral item s) :
    value? item = some s := by
  obtain ⟨before, q, after, hbefore, hq, hafter, hitem⟩ := lone
  have padded : Padded (literal q s) item :=
    ⟨before, after, hitem, fun c hc => plain_of_isBlank (hbefore c hc),
      fun c hc => plain_of_isBlank (hafter c hc)⟩
  rw [padded.value?_eq (free_run_literal hq s), value?_literal hq]

/-! ## Written items -/

/-- An item of a list as it is written: a text between quotes of either kind, with blanks around
it. -/
structure Item where
  before : List Char
  quote : Char
  value : List Char
  after : List Char
  before_blank : ∀ c ∈ before, Text.isAsciiBlank c = true
  quote_isQuote : isQuote quote = true
  after_blank : ∀ c ∈ after, Text.isAsciiBlank c = true

namespace Item

/-- The text of an item. -/
def text (i : Item) : List Char := i.before ++ literal i.quote i.value ++ i.after

variable (i : Item)

theorem padded_text : Padded (literal i.quote i.value) i.text :=
  ⟨i.before, i.after, rfl, fun c hc => plain_of_isAsciiBlank (i.before_blank c hc),
    fun c hc => plain_of_isAsciiBlank (i.after_blank c hc)⟩

theorem smooth_text : Smooth outside i.text :=
  i.padded_text.smooth (smooth_literal i.quote_isQuote i.value)

theorem free_run_text : (outside.run i.text).Free :=
  i.padded_text.free_run_iff.2 (free_run_literal i.quote_isQuote i.value)

theorem loneLiteral_text : LoneLiteral i.text i.value :=
  ⟨i.before, i.quote, i.after, fun c hc => Text.isBlank_of_isAsciiBlank (i.before_blank c hc),
    i.quote_isQuote, fun c hc => Text.isBlank_of_isAsciiBlank (i.after_blank c hc), rfl⟩

end Item

/-- Items that stand for themselves are what the list of them is cut into. -/
theorem itemsOf_intercalate {items : List (List Char)} (ne_nil : items ≠ [])
    (whole : ∀ item ∈ items, Smooth outside item ∧ (outside.run item).Free) :
    itemsOf ([','].intercalate items) = some items ∧ Balanced ([','].intercalate items) := by
  induction items with
  | nil => exact absurd rfl ne_nil
  | cons item more ih =>
    obtain ⟨smooth, free⟩ := whole item List.mem_cons_self
    have nested := nest_of_smooth smooth 0
    cases more with
    | nil =>
      rw [List.intercalate_singleton]
      refine ⟨?_, nested, free⟩
      rw [itemsOf, ← List.append_nil item, itemsFrom_smooth_append smooth]
      rfl
    | cons second more =>
      -- the item ends outside literals, so the comma behind it cuts
      obtain ⟨cut, balanced⟩ :=
        ih (by simp) fun other hother => whole other (List.mem_cons_of_mem item hother)
      have code : (outside.run item).isCode ',' = true :=
        (isCode_iff (proper_run_outside item)).2 ⟨free, by decide⟩
      have comma : turn 0 (outside.run item) ',' = some 0 := turn_of_plain (fun _ => by decide) 0
      rw [List.intercalate_cons_cons, List.append_assoc, List.singleton_append]
      refine ⟨?_, ?_, ?_⟩
      · rw [itemsOf] at cut
        rw [itemsOf, itemsFrom_smooth_append smooth, itemsFrom, comma, Option.bind_some,
          next_of_isCode code, cut]
        simp [code]
      · rw [nest_append, nested, Option.bind_some, nest_cons_of_turn comma, next_of_isCode code]
        exact balanced.1
      · rw [run_append, run_cons, next_of_isCode code]
        exact balanced.2

/-! ## Written constraints -/

/-- A constraint that permits the values of its items, as it is written. -/
structure Written where
  head : Head
  items : List Item
  lead : List Char
  trail : List Char
  same_quotes : head.opening = head.closing
  items_ne_nil : items ≠ []
  lead_blank : ∀ c ∈ lead, Text.isAsciiBlank c = true
  trail_blank : ∀ c ∈ trail, Text.isAsciiBlank c = true

namespace Written

variable (w : Written)

/-- The items with commas between them. -/
def list : List Char := [','].intercalate (w.items.map Item.text)

/-- The constraint without the blanks around it. -/
def core : List Char := w.head.text ++ '(' :: (w.list ++ [')'])

/-- The text of the constraint. -/
def text : String := String.ofList (w.lead ++ w.core ++ w.trail)

theorem itemsOf_list : itemsOf w.list = some (w.items.map Item.text) ∧ Balanced w.list := by
  refine itemsOf_intercalate (by simpa using w.items_ne_nil) ?_
  intro item hitem
  obtain ⟨i, -, rfl⟩ := List.mem_map.1 hitem
  exact ⟨i.smooth_text, i.free_run_text⟩

theorem filterMap_value_items :
    (w.items.map Item.text).filterMap value? = w.items.map Item.value := by
  rw [List.filterMap_map]
  have each : value? ∘ Item.text = some ∘ Item.value :=
    funext fun i => value?_of_loneLiteral i.loneLiteral_text
  rw [each, List.filterMap_eq_map]

theorem trimChars_text : Text.trimChars (w.lead ++ w.core ++ w.trail) = w.core := by
  have blank : ∀ cs : List Char, (∀ c ∈ cs, Text.isAsciiBlank c = true) →
      ∀ c ∈ cs, Text.isBlank c = true := fun cs hcs c hc =>
    Text.isBlank_of_isAsciiBlank (hcs c hc)
  exact Text.trimBy_of_trimmed (blank _ w.lead_blank) (blank _ w.trail_blank)
    (trimmed_text w.head w.list)

theorem padded_core : Padded w.core (w.lead ++ w.core ++ w.trail) :=
  ⟨w.lead, w.trail, rfl, fun c hc => plain_of_isAsciiBlank (w.lead_blank c hc),
    fun c hc => plain_of_isAsciiBlank (w.trail_blank c hc)⟩

theorem balanced_core : Balanced w.core := balanced_text w.same_quotes w.itemsOf_list.2

end Written

/-- **A constraint is read back, and it is found wherever it stands.** -/
theorem parseIn_text (w : Written) :
    parseIn w.text =
        some (String.ofList w.head.column, w.items.map fun i => String.ofList i.value) ∧
      ∀ before after : String, (∀ c ∈ before.toList.getLast?, Text.isWordChar c = false) →
        Text.trim w.text ∈ bodies (before ++ "CHECK (" ++ w.text ++ ")" ++ after) := by
  obtain ⟨cut, balanced⟩ := w.itemsOf_list
  constructor
  · have hsplit : splitIn (Text.trimChars (w.lead ++ w.core ++ w.trail)) =
        some (w.head.column, Text.trimBy Text.isAsciiBlank w.list) := by
      rw [w.trimChars_text]
      exact splitIn_text w.head w.list
    have values : splitLiterals (Text.trimBy Text.isAsciiBlank w.list) =
        some (w.items.map Item.value) := by
      have padded := padded_trimBy (fun _ => plain_of_isAsciiBlank) w.list
      rw [← padded.splitLiterals_eq (padded.free_run_iff.1 balanced.2), splitLiterals_eq, cut,
        Option.map_some, w.filterMap_value_items]
    have parsed : parseInChars (w.lead ++ w.core ++ w.trail) =
        some (w.head.column, w.items.map Item.value) :=
      parseInChars_eq_some_iff.2 ⟨_, hsplit, values, by simpa using w.items_ne_nil⟩
    rw [parseIn, Written.text, String.toList_ofList, parsed]
    simp
  · intro before after edge
    have whole : Balanced (w.lead ++ w.core ++ w.trail) :=
      w.padded_core.balanced_iff.2 w.balanced_core
    have found := mem_bodies_of_balanced whole before after edge
    rw [Text.trim, Written.text, String.toList_ofList]
    exact found

theorem parseIn_text_two_values :
    parseIn "s IN ( 'it''s' ,\"a,)\")" = some ("s", ["it's", "a,)"]) ∧
      "s IN ( 'it''s' ,\"a,)\")" ∈
        bodies ("s TEXT " ++ "CHECK (" ++ "s IN ( 'it''s' ,\"a,)\")" ++ ")" ++ " NOT NULL") := by
  let first : Item := ⟨[' '], '\'', "it's".toList, [' '], List.all_eq_true.1 (by decide), by decide,
    List.all_eq_true.1 (by decide)⟩
  let second : Item := ⟨[], '"', "a,)".toList, [], by simp, by decide, by simp⟩
  let w : Written := {
    head := Head.bare ['s'] (by decide) (by decide)
    items := [first, second]
    lead := []
    trail := []
    same_quotes := rfl
    items_ne_nil := by simp
    lead_blank := by simp
    trail_blank := by simp }
  have text : w.text = "s IN ( 'it''s' ,\"a,)\")" := by decide +kernel
  obtain ⟨parsed, found⟩ := parseIn_text w
  have last : "s TEXT ".toList.getLast? = some ' ' := by decide
  have edge : ∀ c ∈ "s TEXT ".toList.getLast?, Text.isWordChar c = false := by
    rw [last]
    intro c hc
    cases hc
    decide
  have stands := found "s TEXT " " NOT NULL" edge
  rw [text] at parsed stands
  have stripped : Text.trim "s IN ( 'it''s' ,\"a,)\")" = "s IN ( 'it''s' ,\"a,)\")" := by
    decide +kernel
  rw [stripped] at stands
  exact ⟨parsed, stands⟩

/-! ## Lists of literals -/

/-- A text is a constraint on the column, and its list has the items. -/
def Listed (e column : String) (items : List (List Char)) : Prop :=
  ∃ (h : Head) (inner : List Char), Text.trimChars e.toList = h.text ++ '(' :: (inner ++ [')']) ∧
    String.ofList h.column = column ∧ itemsOf (Text.trimBy Text.isAsciiBlank inner) = some items

/-- Every item is a literal or has no quote, and the values are the texts of the literals, in
order. -/
inductive Reads : List (List Char) → List (List Char) → Prop
  | nil : Reads [] []
  | literal {item s items values} :
      LoneLiteral item s → Reads items values → Reads (item :: items) (s :: values)
  | other {item items values} :
      item.any isQuote = false → Reads items values → Reads (item :: items) values

/-- A text is a constraint on the column, and its list permits the values and nothing else. -/
def IsLiteralList (e column : String) (values : List String) : Prop :=
  ∃ items, Listed e column items ∧ Reads items (values.map String.toList)

theorem Listed.unique {e column column' : String} {items items' : List (List Char)}
    (listed : Listed e column items) (listed' : Listed e column' items') : items = items' := by
  obtain ⟨h, inner, htext, -, hitems⟩ := listed
  obtain ⟨h', inner', htext', -, hitems'⟩ := listed'
  have split := splitIn_text h inner
  rw [← htext, htext', splitIn_text, Option.some.injEq, Prod.mk.injEq] at split
  rw [split.2, hitems, Option.some.injEq] at hitems'
  exact hitems'

theorem reads_iff (items : List (List Char)) :
    Reads items (items.filterMap value?) ↔
      ∀ item ∈ items, item.any isQuote = true → ∃ s, LoneLiteral item s := by
  constructor
  · generalize items.filterMap value? = values
    intro reads
    induction reads with
    | nil => simp
    | literal lone _ ih =>
      intro item hitem quoted
      rcases List.mem_cons.1 hitem with rfl | hitem
      · exact ⟨_, lone⟩
      · exact ih item hitem quoted
    | other quiet _ ih =>
      intro item hitem quoted
      rcases List.mem_cons.1 hitem with rfl | hitem
      · rw [quiet] at quoted
        cases quoted
      · exact ih item hitem quoted
  · intro each
    induction items with
    | nil => exact .nil
    | cons item items ih =>
      have rest := ih fun other hother => each other (List.mem_cons_of_mem item hother)
      by_cases quoted : item.any isQuote = true
      · obtain ⟨s, lone⟩ := each item List.mem_cons_self quoted
        rw [List.filterMap_cons_some (value?_of_loneLiteral lone)]
        exact .literal lone rest
      · have dropped : value? item = none := if_neg quoted
        rw [List.filterMap_cons_none dropped]
        exact .other (by simpa using quoted) rest

/-- **What is accepted has the shape of a constraint; it is a list of literals exactly if every item
with a quote is a literal.** -/
theorem isLiteralList_iff {e column : String} {values : List String}
    (accepted : parseIn e = some (column, values)) :
    ∃ items, Listed e column items ∧ values = (items.filterMap value?).map String.ofList ∧
      (IsLiteralList e column values ↔
        ∀ item ∈ items, item.any isQuote = true → ∃ s, LoneLiteral item s) := by
  obtain ⟨⟨word, texts⟩, parsed, heq⟩ := Option.map_eq_some_iff.1 accepted
  obtain ⟨rfl, rfl⟩ := Prod.mk.inj heq
  obtain ⟨list, hsplit, hvalues, -⟩ := parseInChars_eq_some_iff.1 parsed
  obtain ⟨h, inner, htext, rfl, rfl⟩ := exists_head_of_splitIn hsplit
  rw [splitLiterals_eq] at hvalues
  obtain ⟨items, hitems, rfl⟩ := Option.map_eq_some_iff.1 hvalues
  have listed : Listed e (String.ofList h.column) items := ⟨h, inner, htext, rfl, hitems⟩
  refine ⟨items, listed, rfl, ?_⟩
  have back : ((items.filterMap value?).map String.ofList).map String.toList =
      items.filterMap value? := by
    simp
  rw [← reads_iff, IsLiteralList, back]
  constructor
  · intro literals
    obtain ⟨items', listed', reads⟩ := literals
    rw [listed.unique listed'] at reads ⊢
    exact reads
  · exact fun reads => ⟨items, listed, reads⟩

/-- A literal in a query is taken for a permitted value. -/
theorem query_not_isLiteralList :
    parseIn "s IN (SELECT 'x')" = some ("s", ["x"]) ∧
      ¬IsLiteralList "s IN (SELECT 'x')" "s" ["x"] := by
  refine ⟨by decide +kernel, ?_⟩
  intro literals
  obtain ⟨items, listed, reads⟩ := literals
  have query : Listed "s IN (SELECT 'x')" "s" ["SELECT 'x'".toList] :=
    ⟨Head.bare ['s'] (by decide) (by decide), "SELECT 'x'".toList, by decide +kernel,
      by decide +kernel, by decide +kernel⟩
  rw [listed.unique query] at reads
  cases reads with
  | literal lone =>
    have start := head?_of_loneLiteral lone 'S' rfl
    revert start
    decide
  | other quiet =>
    revert quiet
    decide

theorem isLiteralList_iff_two_values :
    parseIn "s IN ('a', NULL, 'b')" = some ("s", ["a", "b"]) ∧
      IsLiteralList "s IN ('a', NULL, 'b')" "s" ["a", "b"] := by
  have accepted : parseIn "s IN ('a', NULL, 'b')" = some ("s", ["a", "b"]) := by decide +kernel
  obtain ⟨items, listed, -, exact_when⟩ := isLiteralList_iff accepted
  have list : Listed "s IN ('a', NULL, 'b')" "s" ["'a'".toList, " NULL".toList, " 'b'".toList] :=
    ⟨Head.bare ['s'] (by decide) (by decide), "'a', NULL, 'b'".toList, by decide +kernel,
      by decide +kernel, by decide +kernel⟩
  refine ⟨accepted, exact_when.2 ?_⟩
  rw [listed.unique list]
  intro item hitem quoted
  simp only [List.mem_cons, List.not_mem_nil, or_false] at hitem
  rcases hitem with rfl | rfl | rfl
  · exact ⟨['a'], [], '\'', [], by simp, by decide, by simp, by decide⟩
  · have quiet : " NULL".toList.any isQuote = false := by decide
    rw [quiet] at quoted
    cases quoted
  · have space : ∀ c ∈ [' '], Text.isBlank c = true := List.all_eq_true.1 (by decide)
    exact ⟨['b'], [' '], '\'', [], space, by decide, by simp, by decide⟩

end CatalogTypes.Check
