import CatalogTypes.Json.Printer
import CatalogTypes.Proofs.Spelling
import Mathlib.Data.List.TakeDrop

/-!
# Values that are read back from their lines

A value is *plain* if it holds no number with a fraction or an exponent, no object of it has two
fields of one name, and its whole numbers have no more digits than the reader takes.

**Theorem (`parse_print`).** A plain value is read back from its line, whatever limit the reader
has for the digits, or if it has none.

A number goes on as far as it can be read on.  So a value is read back in front of something that
ends it (`Ends`): a comma, a closing bracket or brace, or nothing.  The invariant of the induction
over the value is `ReadsBack`: a reader whose bound on the nesting is above the length of the line
yields the value and leaves what stands behind it.  Each step into a list or an object, and each
step on to the next item, takes one off the bound and at least one character off the line.
-/

namespace CatalogTypes.Json

/-! ## Plain values -/

/-- The digits of a whole number keep to a limit. -/
def Fits (limit : Option Nat) (n : Int) : Prop :=
  ∀ most ∈ limit, (Nat.toDigits 10 n.natAbs).length ≤ most

/-- A value that loses nothing in its line, for a reader with a limit for the digits of whole
numbers. -/
inductive IsPlain (limit : Option Nat) : Json → Prop
  | null : IsPlain limit .null
  | bool (b : Bool) : IsPlain limit (.bool b)
  | int {n : Int} : Fits limit n → IsPlain limit (.int n)
  | str (s : String) : IsPlain limit (.str s)
  | arr {items : List Json} : (∀ item ∈ items, IsPlain limit item) → IsPlain limit (.arr items)
  | obj {fields : List (String × Json)} : (Keyed.keys fields).Nodup →
      (∀ field ∈ fields, IsPlain limit field.2) → IsPlain limit (.obj fields)

/-! ## Whole numbers -/

/-- Nothing that follows is read as part of a value. -/
def Ends (rest : List Char) : Prop := ∀ c ∈ rest.head?, c = ',' ∨ c = ']' ∨ c = '}'

theorem isDigit_of_mem_toDigits {n : Nat} {c : Char} (h : c ∈ Nat.toDigits 10 n) :
    c.isDigit = true :=
  Nat.isDigit_of_mem_toDigits (by decide) (by decide) h

theorem decimalValue_toDigits (n : Nat) : Text.decimalValue (Nat.toDigits 10 n) = n := by
  have same : Text.decimalValue (Nat.toDigits 10 n) =
      Nat.ofDigitChars 10 (Nat.toDigits 10 n) 0 := by
    unfold Text.decimalValue Nat.ofDigitChars
    congr 1
    funext value c
    rw [Nat.mul_comm]
    rfl
  rw [same, Nat.ofDigitChars_ten_toDigits]

/-- A whole number begins with a digit, and only zero begins with a zero. -/
theorem exists_toDigits (n : Nat) :
    ∃ d more, Nat.toDigits 10 n = d :: more ∧ d.isDigit = true ∧ (d = '0' → n = 0) := by
  induction n using Nat.strongRecOn with
  | ind n ih =>
    by_cases small : n < 10
    · have single := Nat.toDigits_of_lt_base small
      refine ⟨n.digitChar, [], single, ?_, Nat.digitChar_eq_zero.1⟩
      apply isDigit_of_mem_toDigits (n := n)
      simp [single]
    · obtain ⟨d, more, digits, digit, zero⟩ := ih (n / 10) (by omega)
      refine ⟨d, more ++ [(n % 10).digitChar], ?_, digit, fun leading => ?_⟩
      · rw [Nat.toDigits_of_base_le (by decide) (by omega), digits]
        rfl
      · have front := zero leading
        omega

theorem wholeDigits_toDigits (n : Nat) {rest : List Char} (ends : Ends rest) :
    wholeDigits (Nat.toDigits 10 n ++ rest) = (Nat.toDigits 10 n, rest) := by
  have ended : ∀ c ∈ rest.head?, c.isDigit = false := by
    intro c first
    rcases ends c first with rfl | rfl | rfl <;> rfl
  obtain ⟨taken, dropped⟩ :=
    Text.cut_append (fun c inside => isDigit_of_mem_toDigits (n := n) inside) ended
  obtain ⟨d, more, digits, -, zero⟩ := exists_toDigits n
  by_cases leading : d = '0'
  · rw [zero leading]
    rfl
  · rw [digits, List.cons_append] at taken dropped ⊢
    simp [wholeDigits, leading, spanDigits, List.span_eq_takeWhile_dropWhile, taken, dropped]

variable {limit : Option Nat}

theorem finishNumber_toDigits {n : Int} (fits : Fits limit n) {rest : List Char} (ends : Ends rest)
    (start : List Char) (negative : Bool) :
    finishNumber start negative (Nat.toDigits 10 n.natAbs) rest limit =
      .ok (.int (if negative then -n.natAbs else n.natAbs), rest) := by
  have fraction : scanFraction rest = none := by
    rcases rest with _ | ⟨c, rest⟩
    · rfl
    · rcases ends c rfl with rfl | rfl | rfl <;> rfl
  have exponent : scanExponent rest = none := by
    rcases rest with _ | ⟨c, rest⟩
    · rfl
    · rcases ends c rfl with rfl | rfl | rfl <;> rfl
  have short : limit.filter (· < (Nat.toDigits 10 n.natAbs).length) = none := by
    rw [Option.filter_eq_none_iff]
    intro most given
    simpa using fits most given
  simp [finishNumber, Nat.toDigits_ne_nil, fraction, exponent, short, decimalValue_toDigits]

theorem toList_toString (n : Int) :
    (toString n).toList =
      if n < 0 then '-' :: Nat.toDigits 10 n.natAbs else Nat.toDigits 10 n.natAbs := by
  rcases n with m | m
  · have positive : ¬ Int.ofNat m < 0 := Int.not_lt.2 (Int.natCast_nonneg m)
    rw [if_neg positive]
    exact Nat.toList_repr
  · rw [if_pos (Int.negSucc_lt_zero m)]
    show ("-" ++ Nat.repr (m + 1)).toList = '-' :: Nat.toDigits 10 (m + 1)
    rw [String.toList_append, Nat.toList_repr]
    rfl

theorem ne_of_isDigit {c d : Char} (h : c.isDigit = true) (other : d.isDigit = false) : c ≠ d := by
  rintro rfl
  rw [h] at other
  cases other

/-- A whole number is read back from its digits and its sign. -/
theorem scanNumber_toString {n : Int} (fits : Fits limit n) {rest : List Char} (ends : Ends rest)
    (start : List Char) :
    scanNumber start ((toString n).toList ++ rest) limit = .ok (.int n, rest) := by
  unfold scanNumber
  rw [toList_toString]
  by_cases negative : n < 0
  · have signed : numberSign ('-' :: Nat.toDigits 10 n.natAbs ++ rest) =
        (true, Nat.toDigits 10 n.natAbs ++ rest) := rfl
    have value : (-n.natAbs : Int) = n := by omega
    rw [if_pos negative, signed]
    simp only [wholeDigits_toDigits n.natAbs ends, finishNumber_toDigits fits ends, if_true, value]
  · have signed : numberSign (Nat.toDigits 10 n.natAbs ++ rest) =
        (false, Nat.toDigits 10 n.natAbs ++ rest) := by
      obtain ⟨d, more, digits, digit, -⟩ := exists_toDigits n.natAbs
      have unsigned : d ≠ '-' := ne_of_isDigit digit rfl
      rw [digits]
      simp [numberSign, unsigned]
    have value : (n.natAbs : Int) = n := by omega
    rw [if_neg negative, signed]
    simp only [wholeDigits_toDigits n.natAbs ends, finishNumber_toDigits fits ends,
      Bool.false_eq_true, if_false, value]

/-- What begins with a digit is read as a number. -/
theorem parseValue_digit {d : Char} (digit : d.isDigit = true) (bound : Nat) (more : List Char) :
    parseValue (bound + 1) (d :: more) limit = scanNumber (d :: more) (d :: more) limit := by
  rw [parseValue]
  all_goals
    intro rest shape
    cases shape
    cases digit

/-- And what begins with a minus before a digit. -/
theorem parseValue_minus {d : Char} (digit : d.isDigit = true) (bound : Nat) (more : List Char) :
    parseValue (bound + 1) ('-' :: d :: more) limit =
      scanNumber ('-' :: d :: more) ('-' :: d :: more) limit := by
  rw [parseValue]
  all_goals
    intro rest shape
    cases shape
  cases digit

theorem parseValue_toString {n : Int} (fits : Fits limit n) {rest : List Char} (ends : Ends rest)
    (bound : Nat) :
    parseValue (bound + 1) ((toString n).toList ++ rest) limit = .ok (.int n, rest) := by
  rw [← scanNumber_toString fits ends ((toString n).toList ++ rest), toList_toString]
  obtain ⟨d, more, digits, digit, -⟩ := exists_toDigits n.natAbs
  rw [digits]
  split
  · exact parseValue_minus digit bound _
  · exact parseValue_digit digit bound _

/-! ## Where a value begins -/

/-- The text is not empty and begins with no blank and no closing bracket or brace. -/
def Begins (cs : List Char) : Prop :=
  ∃ c more, cs = c :: more ∧ isLayout c = false ∧ c ≠ ']' ∧ c ≠ '}'

theorem Begins.append {cs : List Char} (h : Begins cs) (rest : List Char) :
    Begins (cs ++ rest) := by
  obtain ⟨c, more, rfl, visible⟩ := h
  exact ⟨c, more ++ rest, rfl, visible⟩

theorem Begins.skipLayout {cs : List Char} (h : Begins cs) : skipLayout cs = cs := by
  obtain ⟨c, more, rfl, visible, -⟩ := h
  exact List.dropWhile_cons_of_neg (by simp [visible])

theorem quoteAscii_append (s : String) (rest : List Char) :
    (quoteAscii s).toList ++ rest = '"' :: (s.toList.flatMap asciiChar ++ '"' :: rest) := by
  rw [quoteAscii, String.toList_ofList, literal, List.append_assoc]
  rfl

theorem begins_quoteAscii (s : String) : Begins (quoteAscii s).toList := by
  rw [quoteAscii, String.toList_ofList]
  exact ⟨'"', _, rfl, by decide⟩

theorem begins_digits (n : Nat) : Begins (Nat.toDigits 10 n) := by
  obtain ⟨d, more, digits, digit, -⟩ := exists_toDigits n
  refine ⟨d, more, digits, ?_, ne_of_isDigit digit rfl, ne_of_isDigit digit rfl⟩
  have apart : d ≠ ' ' ∧ d ≠ '\t' ∧ d ≠ '\n' ∧ d ≠ '\r' :=
    ⟨ne_of_isDigit digit rfl, ne_of_isDigit digit rfl, ne_of_isDigit digit rfl,
      ne_of_isDigit digit rfl⟩
  simp [isLayout, apart]

theorem begins_print {v : Json} (plain : IsPlain limit v) : Begins (print v).toList := by
  cases plain with
  | null => exact ⟨'n', _, rfl, by decide⟩
  | bool b =>
    cases b
    · exact ⟨'f', _, rfl, by decide⟩
    · exact ⟨'t', _, rfl, by decide⟩
  | @int n =>
    rw [print, toList_toString]
    split
    · exact ⟨'-', _, rfl, by decide⟩
    · exact begins_digits _
  | str s => exact begins_quoteAscii s
  | arr =>
    rw [print, String.toList_append, String.toList_append]
    exact ⟨'[', _, rfl, by decide⟩
  | obj =>
    rw [print, String.toList_append, String.toList_append]
    exact ⟨'\x7b', _, rfl, by decide⟩

/-! ## Values -/

/-- The value is read back from its line, in front of what ends it, under a bound above the length
of the line. -/
def ReadsBack (limit : Option Nat) (v : Json) : Prop :=
  ∀ (bound : Nat) (rest : List Char), (print v).toList.length < bound → Ends rest →
    parseValue bound ((print v).toList ++ rest) limit = .ok (v, rest)

theorem ReadsBack.of_succ {v : Json}
    (h : ∀ (bound : Nat) (rest : List Char), (print v).toList.length ≤ bound → Ends rest →
      parseValue (bound + 1) ((print v).toList ++ rest) limit = .ok (v, rest)) :
    ReadsBack limit v := by
  rintro (_ | bound) rest room ends
  · omega
  · exact h bound rest (Nat.le_of_lt_succ room) ends

theorem ends_cons {c : Char} (h : c = ',' ∨ c = ']' ∨ c = '}') (rest : List Char) :
    Ends (c :: rest) := by
  intro d first
  rwa [← Option.some.inj first]

theorem skipLayout_cons {c : Char} (h : isLayout c = false) (rest : List Char) :
    skipLayout (c :: rest) = c :: rest :=
  List.dropWhile_cons_of_neg (by simp [h])

/-! ### Lists -/

/-- The items of a list as they stand between its brackets. -/
def itemsText (items : List Json) : List Char := (Text.joinWith ", " (printItems items)).toList

theorem itemsText_cons (item next : Json) (items : List Json) :
    itemsText (item :: next :: items) =
      (print item).toList ++ (',' :: ' ' :: itemsText (next :: items)) := by
  unfold itemsText
  rw [printItems, printItems, Text.joinWith, String.toList_append, String.toList_append,
    List.append_assoc]
  rfl

theorem begins_itemsText {item : Json} (plain : IsPlain limit item) (items : List Json) :
    Begins (itemsText (item :: items)) := by
  cases items with
  | nil => exact begins_print plain
  | cons next items =>
    rw [itemsText_cons]
    exact (begins_print plain).append _

theorem parseItems_itemsText {item : Json} {items : List Json}
    (each : ∀ v ∈ item :: items, IsPlain limit v ∧ ReadsBack limit v) {bound : Nat}
    (room : (itemsText (item :: items)).length + 1 < bound) (rest : List Char) :
    parseItems bound (itemsText (item :: items) ++ ']' :: rest) limit =
      .ok (item :: items, rest) := by
  induction items generalizing item bound with
  | nil =>
    cases bound with
    | zero => omega
    | succ bound =>
      have single : itemsText [item] = (print item).toList := rfl
      rw [single] at room ⊢
      have read := (each item List.mem_cons_self).2 bound (']' :: rest) (by omega)
        (ends_cons (by simp) rest)
      rw [parseItems, read]
      rfl
  | cons next items ih =>
    cases bound with
    | zero => omega
    | succ bound =>
      obtain ⟨here, others⟩ := List.forall_mem_cons.1 each
      rw [itemsText_cons] at room ⊢
      simp only [List.length_append, List.length_cons] at room
      have read := here.2 bound (',' :: ' ' :: itemsText (next :: items) ++ ']' :: rest) (by omega)
        (ends_cons (by simp) _)
      have blank : skipLayout (' ' :: itemsText (next :: items) ++ ']' :: rest) =
          itemsText (next :: items) ++ ']' :: rest :=
        ((begins_itemsText (others next List.mem_cons_self).1 items).append _).skipLayout
      have more : parseItems bound (itemsText (next :: items) ++ ']' :: rest) limit =
          .ok (next :: items, rest) := ih others (by omega)
      rw [List.append_assoc, parseItems, read]
      show (parseItems bound (skipLayout (' ' :: itemsText (next :: items) ++ ']' :: rest)) limit
        >>= _) = _
      rw [blank, more]
      rfl

theorem parseValue_bracket {cs : List Char} (h : Begins cs) (bound : Nat) :
    parseValue (bound + 1) ('[' :: cs) limit =
      (parseItems bound cs limit).map fun (items, rest) => (.arr items, rest) := by
  obtain ⟨c, more, rfl, visible, other, -⟩ := h
  rw [parseValue, skipLayout_cons visible]
  split
  next closed => exact absurd (List.cons.inj closed).1 other
  next => rfl

theorem print_arr (items : List Json) :
    (print (.arr items)).toList = '[' :: (itemsText items ++ [']']) := by
  rw [print, String.toList_append, String.toList_append]
  rfl

theorem readsBack_arr {items : List Json}
    (each : ∀ v ∈ items, IsPlain limit v ∧ ReadsBack limit v) : ReadsBack limit (.arr items) := by
  apply ReadsBack.of_succ
  intro bound rest room _
  rw [print_arr] at room ⊢
  cases items with
  | nil => rfl
  | cons item items =>
    have room : (itemsText (item :: items)).length + 1 < bound := by
      simp only [List.length_cons, List.length_append, List.length_nil] at room
      omega
    have begins := begins_itemsText (each item List.mem_cons_self).1 items
    rw [List.cons_append, List.append_assoc, parseValue_bracket (begins.append _)]
    show (parseItems bound (itemsText (item :: items) ++ ']' :: rest) limit).map _ = _
    rw [parseItems_itemsText each room]
    rfl

/-! ### Objects -/

/-- The fields of an object as they stand between its braces. -/
def fieldsText (fields : List (String × Json)) : List Char :=
  (Text.joinWith ", " (printFields fields)).toList

theorem fieldsText_single (key : String) (value : Json) :
    fieldsText [(key, value)] = (quoteAscii key).toList ++ ':' :: ' ' :: (print value).toList := by
  show (quoteAscii key ++ ": " ++ print value).toList = _
  rw [String.toList_append, String.toList_append, List.append_assoc]
  rfl

theorem fieldsText_cons (key : String) (value : Json) (next : String × Json)
    (fields : List (String × Json)) :
    fieldsText ((key, value) :: next :: fields) =
      (quoteAscii key).toList ++
        ':' :: ' ' :: ((print value).toList ++ ',' :: ' ' :: fieldsText (next :: fields)) := by
  obtain ⟨name, other⟩ := next
  show (quoteAscii key ++ ": " ++ print value ++ ", " ++ _).toList = _
  simp only [String.toList_append, List.append_assoc]
  rfl

theorem begins_fieldsText (field : String × Json) (fields : List (String × Json)) :
    Begins (fieldsText (field :: fields)) := by
  obtain ⟨key, value⟩ := field
  cases fields with
  | nil =>
    rw [fieldsText_single]
    exact (begins_quoteAscii key).append _
  | cons next fields =>
    rw [fieldsText_cons]
    exact (begins_quoteAscii key).append _

/-- A field is read back, and what ends it decides whether there are more. -/
theorem parseFields_field (key : String) {value : Json} (plain : IsPlain limit value)
    (reads : ReadsBack limit value) {bound : Nat} (room : (print value).toList.length < bound)
    {rest : List Char} (ends : Ends rest) :
    parseFields (bound + 1)
        ((quoteAscii key).toList ++ ':' :: ' ' :: ((print value).toList ++ rest)) limit =
      match skipLayout rest with
      | '}' :: rest => .ok ([(key, value)], rest)
      | ',' :: rest => do
        let (fields, rest) ← parseFields bound (skipLayout rest) limit
        .ok ((key, value) :: fields, rest)
      | rest => .error ⟨.expectingComma, rest⟩ := by
  have blank : skipLayout (' ' :: ((print value).toList ++ rest)) = (print value).toList ++ rest :=
    ((begins_print plain).append rest).skipLayout
  rw [quoteAscii_append, parseFields, scanString_text spells_asciiChar]
  show (parseValue bound (skipLayout (' ' :: ((print value).toList ++ rest))) limit >>= _) = _
  rw [blank, reads bound rest room ends]
  rfl

theorem parseFields_fieldsText {field : String × Json} {fields : List (String × Json)}
    (each : ∀ f ∈ field :: fields, IsPlain limit f.2 ∧ ReadsBack limit f.2) {bound : Nat}
    (room : (fieldsText (field :: fields)).length + 1 < bound) (rest : List Char) :
    parseFields bound (fieldsText (field :: fields) ++ '}' :: rest) limit =
      .ok (field :: fields, rest) := by
  induction fields generalizing field bound with
  | nil =>
    obtain ⟨key, value⟩ := field
    cases bound with
    | zero => omega
    | succ bound =>
      obtain ⟨plain, reads⟩ := each _ List.mem_cons_self
      rw [fieldsText_single, List.length_append] at room
      have here : (print value).toList.length < bound := by
        simp only [List.length_cons] at room
        omega
      rw [fieldsText_single, List.append_assoc]
      exact parseFields_field key plain reads here (ends_cons (by simp) rest)
  | cons next fields ih =>
    obtain ⟨key, value⟩ := field
    cases bound with
    | zero => omega
    | succ bound =>
      obtain ⟨⟨plain, reads⟩, others⟩ := List.forall_mem_cons.1 each
      rw [fieldsText_cons] at room ⊢
      simp only [List.length_append, List.length_cons] at room
      have here : (print value).toList.length < bound := by omega
      have ends : Ends (',' :: ' ' :: fieldsText (next :: fields) ++ '}' :: rest) :=
        ends_cons (by simp) _
      have blank : skipLayout (' ' :: fieldsText (next :: fields) ++ '}' :: rest) =
          fieldsText (next :: fields) ++ '}' :: rest :=
        ((begins_fieldsText next fields).append _).skipLayout
      have more : parseFields bound (fieldsText (next :: fields) ++ '}' :: rest) limit =
          .ok (next :: fields, rest) := ih others (by omega)
      rw [List.append_assoc, List.cons_append, List.cons_append, List.append_assoc]
      refine (parseFields_field key plain reads here ends).trans ?_
      show (parseFields bound (skipLayout (' ' :: fieldsText (next :: fields) ++ '}' :: rest)) limit
        >>= _) = _
      rw [blank, more]
      rfl

theorem parseValue_brace {cs : List Char} (h : Begins cs) (bound : Nat) :
    parseValue (bound + 1) ('{' :: cs) limit =
      (parseFields bound cs limit).map fun (fields, rest) =>
        (.obj (Keyed.ofPairs fields), rest) := by
  obtain ⟨c, more, rfl, visible, -, other⟩ := h
  rw [parseValue, skipLayout_cons visible]
  split
  next closed => exact absurd (List.cons.inj closed).1 other
  next => rfl

theorem print_obj (fields : List (String × Json)) :
    (print (.obj fields)).toList = '{' :: (fieldsText fields ++ ['}']) := by
  rw [print, String.toList_append, String.toList_append]
  rfl

theorem readsBack_obj {fields : List (String × Json)} (distinct : (Keyed.keys fields).Nodup)
    (each : ∀ f ∈ fields, IsPlain limit f.2 ∧ ReadsBack limit f.2) :
    ReadsBack limit (.obj fields) := by
  apply ReadsBack.of_succ
  intro bound rest room _
  rw [print_obj] at room ⊢
  cases fields with
  | nil => rfl
  | cons field fields =>
    have room : (fieldsText (field :: fields)).length + 1 < bound := by
      simp only [List.length_cons, List.length_append, List.length_nil] at room
      omega
    have begins := begins_fieldsText field fields
    rw [List.cons_append, List.append_assoc, parseValue_brace (begins.append _)]
    show (parseFields bound (fieldsText (field :: fields) ++ '}' :: rest) limit).map _ = _
    rw [parseFields_fieldsText each room]
    show Except.ok (Json.obj (Keyed.ofPairs (field :: fields)), rest) = _
    rw [Keyed.ofPairs_eq_self distinct]

/-! ### All values -/

/-- **A plain value is read back** in front of what ends it. -/
theorem readsBack {v : Json} (plain : IsPlain limit v) : ReadsBack limit v := by
  induction plain with
  | null => exact .of_succ fun _ _ _ _ => rfl
  | bool b => exact .of_succ fun _ _ _ _ => by cases b <;> rfl
  | int fits => exact .of_succ fun bound _ _ ends => parseValue_toString fits ends bound
  | str s =>
    apply ReadsBack.of_succ
    intro bound rest _ _
    rw [print, quoteAscii_append, parseValue_quote, scanString_text spells_asciiChar]
    rfl
  | arr plain ih => exact readsBack_arr fun v there => ⟨plain v there, ih v there⟩
  | obj distinct plain ih => exact readsBack_obj distinct fun f there => ⟨plain f there, ih f there⟩

/-! ## Lines -/

theorem all_isPrintable_toDigits (n : Nat) : (Nat.toDigits 10 n).all isPrintable = true := by
  rw [List.all_eq_true]
  intro c inside
  have digit : 48 ≤ c.toNat ∧ c.toNat ≤ 57 :=
    Char.isDigit_iff_toNat.1 (isDigit_of_mem_toDigits inside)
  simp only [isPrintable, Bool.and_eq_true, decide_eq_true_eq]
  omega

theorem all_isPrintable_itemsText {items : List Json}
    (each : ∀ v ∈ items, (print v).toList.all isPrintable = true) :
    (itemsText items).all isPrintable = true := by
  induction items with
  | nil => rfl
  | cons item items ih =>
    obtain ⟨here, others⟩ := List.forall_mem_cons.1 each
    cases items with
    | nil => exact here
    | cons next items =>
      rw [itemsText_cons, List.all_append, here, List.all_cons, List.all_cons, ih others]
      decide

theorem all_isPrintable_fieldsText {fields : List (String × Json)}
    (each : ∀ f ∈ fields, (print f.2).toList.all isPrintable = true) :
    (fieldsText fields).all isPrintable = true := by
  induction fields with
  | nil => rfl
  | cons field fields ih =>
    obtain ⟨key, value⟩ := field
    obtain ⟨here, others⟩ := List.forall_mem_cons.1 each
    cases fields with
    | nil =>
      rw [fieldsText_single]
      simp only [List.all_append, List.all_cons, all_isPrintable_quoteAscii, here]
      decide
    | cons next fields =>
      rw [fieldsText_cons]
      simp only [List.all_append, List.all_cons, all_isPrintable_quoteAscii, here, ih others]
      decide

/-- The line of a plain value is printable ASCII. -/
theorem all_isPrintable_print {v : Json} (plain : IsPlain limit v) :
    (print v).toList.all isPrintable = true := by
  induction plain with
  | null => decide
  | bool b => cases b <;> decide
  | @int n =>
    rw [print, toList_toString]
    split
    · rw [List.all_cons, all_isPrintable_toDigits]
      decide
    · exact all_isPrintable_toDigits _
  | str s => exact all_isPrintable_quoteAscii s
  | @arr items _ ih =>
    rw [print_arr, List.all_cons, List.all_append, all_isPrintable_itemsText ih]
    decide
  | @obj fields _ _ ih =>
    rw [print_obj, List.all_cons, List.all_append, all_isPrintable_fieldsText ih]
    decide

/-- **A plain value is read back from its line.** -/
theorem parse_print {v : Json} (plain : IsPlain limit v) : parse (print v) limit = .ok v := by
  have begins := begins_print plain
  have read := readsBack plain _ [] (Nat.lt_succ_self _) (by simp [Ends])
  rw [List.append_nil] at read
  unfold parse parseChars
  dsimp only
  split
  next mark =>
    have printable := all_isPrintable_print plain
    rw [mark, List.all_cons] at printable
    exact absurd (Bool.and_eq_true_iff.1 printable).1 (by decide)
  next =>
    rw [begins.skipLayout, read]
    rfl

end CatalogTypes.Json
