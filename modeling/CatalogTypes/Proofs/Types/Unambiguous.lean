import CatalogTypes.Proofs.Types.Literals

/-!
# The text of a type determines it

Expressions of names, literals, generic types, unions and arrays are written as TypeScript writes
types, so several expressions may stand for one type: a union may be nested in another, or have one
member or none.  The *normal form* of an expression leaves these apart.

**Theorem (`render_eq_iff`).** Two expressions have the same text exactly if their normal forms are
equal, as long as no array in them is *ungrouped*: its element is not a union of several members,
but becomes one in the normal form.  Such an array is written without the brackets that would hold
its element together, and its text is that of another type.

The text of a normal form is taken apart again: the marks outside quotes and brackets tell the
members of a union and the arguments of a generic type, and the last character tells the other
forms (`TypeExpr.Normal.eq_of_render`).  The text of any expression is that of its normal form but
for a pair of brackets at every ungrouped array (`TypeExpr.Shaped.bracketed`).
-/

namespace CatalogTypes

/-! ## Normal forms -/

/-- The members of a union; any other expression is the only alternative. -/
def TypeExpr.alternatives : TypeExpr → List TypeExpr
  | .union members => members
  | e => [e]

/-- Whether an expression is a union. -/
def TypeExpr.isUnion : TypeExpr → Bool
  | .union _ => true
  | _ => false

/-- The union of alternatives, which is the only one if there is one, and `never` if there is
none. -/
def unionOf : List TypeExpr → TypeExpr
  | [] => .named "never"
  | [e] => e
  | es => .union es

/-- The generic type with arguments, which is its name if there are none. -/
def genericOf (name : String) : List TypeExpr → TypeExpr
  | [] => .named name
  | args => .generic name args

mutual

/-- The normal form of an expression: unions are flat and have several members, generic types have
arguments, and the types of tables are names. -/
def TypeExpr.normal : TypeExpr → TypeExpr
  | .named name => .named name
  | .table name => .named name
  | .literal value => .literal value
  | .raw text => .raw text
  | .generic name args => genericOf name (normalAll args)
  | .union members => unionOf ((normalAll members).flatMap TypeExpr.alternatives)
  | .array element => .array element.normal
  | .jsonColumn text => .jsonColumn text
  | .object properties => .object properties

/-- The normal form of each expression of a list. -/
def normalAll : List TypeExpr → List TypeExpr
  | [] => []
  | e :: rest => e.normal :: normalAll rest

end

mutual

/-- The number of arrays in an expression whose element is written without brackets although it
stands for a union of several members. -/
def TypeExpr.ungrouped : TypeExpr → Nat
  | .generic _ args => ungroupedAll args
  | .union members => ungroupedAll members
  | .array element =>
    element.ungrouped + if element.normal.isWideUnion && !element.isWideUnion then 1 else 0
  | .named _ | .table _ | .literal _ | .raw _ | .jsonColumn _ | .object _ => 0

/-- The number of ungrouped arrays in the expressions of a list. -/
def ungroupedAll : List TypeExpr → Nat
  | [] => 0
  | e :: rest => e.ungrouped + ungroupedAll rest

end

theorem normalAll_eq_map (es : List TypeExpr) : normalAll es = es.map TypeExpr.normal := by
  induction es with
  | nil => rfl
  | cons e es ih => rw [normalAll, ih, List.map_cons]

theorem ungroupedAll_eq_zero {es : List TypeExpr} (h : ∀ e ∈ es, e.ungrouped = 0) :
    ungroupedAll es = 0 := by
  induction es with
  | nil => rfl
  | cons e es ih =>
    rw [ungroupedAll, h e List.mem_cons_self, ih fun d hd => h d (List.mem_cons_of_mem e hd)]

/-! ## Shapes -/

/-- An expression of names, literals, generic types, unions and arrays, whose names are
identifiers. -/
inductive TypeExpr.Shaped : TypeExpr → Prop
  | named {name : String} : isIdentifier name.toList = true → Shaped (.named name)
  | table {name : String} : isIdentifier name.toList = true → Shaped (.table name)
  | literal (value : String) : Shaped (.literal value)
  | generic {name : String} {args : List TypeExpr} :
      isIdentifier name.toList = true → (∀ e ∈ args, Shaped e) → Shaped (.generic name args)
  | union {members : List TypeExpr} : (∀ e ∈ members, Shaped e) → Shaped (.union members)
  | array {element : TypeExpr} : Shaped element → Shaped (.array element)

/-- An expression in normal form. -/
inductive TypeExpr.Normal : TypeExpr → Prop
  | named {name : String} : isIdentifier name.toList = true → Normal (.named name)
  | literal (value : String) : Normal (.literal value)
  | generic {name : String} {args : List TypeExpr} :
      isIdentifier name.toList = true → args ≠ [] → (∀ e ∈ args, Normal e) →
      Normal (.generic name args)
  | union {members : List TypeExpr} :
      (TypeExpr.union members).isWideUnion = true → (∀ e ∈ members, Normal e) →
      (∀ e ∈ members, e.isUnion = false) → Normal (.union members)
  | array {element : TypeExpr} : Normal element → Normal (.array element)

namespace TypeExpr

theorem ne_nil_of_isWideUnion {members : List TypeExpr}
    (h : (TypeExpr.union members).isWideUnion = true) : members ≠ [] := by
  rintro rfl
  cases h

theorem Normal.isWideUnion_eq {e : TypeExpr} (h : e.Normal) : e.isWideUnion = e.isUnion := by
  cases h with
  | union wide _ _ => exact wide
  | named | literal | generic | array => rfl

theorem alternatives_of_isUnion_eq_false {e : TypeExpr} (single : e.isUnion = false) :
    e.alternatives = [e] := by
  cases e with
  | union => cases single
  | named | table | literal | raw | generic | array | jsonColumn | object => rfl

theorem Normal.of_mem_alternatives {e m : TypeExpr} (h : e.Normal) (hm : m ∈ e.alternatives) :
    m.Normal ∧ m.isUnion = false := by
  cases single : e.isUnion with
  | false =>
    rw [alternatives_of_isUnion_eq_false single, List.mem_singleton] at hm
    subst hm
    exact ⟨h, single⟩
  | true =>
    cases h with
    | union _ normal flat => exact ⟨normal m hm, flat m hm⟩
    | named | literal | generic | array => cases single

theorem normal_unionOf {es : List TypeExpr} (h : ∀ e ∈ es, e.Normal ∧ e.isUnion = false) :
    (unionOf es).Normal := by
  cases es with
  | nil => exact .named (by decide)
  | cons e es =>
    cases es with
    | nil => exact (h e List.mem_cons_self).1
    | cons f es => exact .union rfl (fun m hm => (h m hm).1) fun m hm => (h m hm).2

/-- **The normal form of an expression is in normal form.** -/
theorem Shaped.normal {e : TypeExpr} (h : e.Shaped) : e.normal.Normal := by
  induction h with
  | named h => exact .named h
  | table h => exact .named h
  | literal value => exact .literal value
  | @generic name args h _ ih =>
    rw [TypeExpr.normal, normalAll_eq_map]
    cases args with
    | nil => exact .named h
    | cons e args => exact .generic h (by simp) (List.forall_mem_map.2 ih)
  | @union members _ ih =>
    rw [TypeExpr.normal, normalAll_eq_map]
    refine normal_unionOf fun m hm => ?_
    obtain ⟨f, hf, hm⟩ := List.mem_flatMap.1 hm
    obtain ⟨e, he, rfl⟩ := List.mem_map.1 hf
    exact (ih e he).of_mem_alternatives hm
  | array _ ih => exact .array ih

end TypeExpr

/-! ## Texts of normal forms -/

theorem isOrdinary_of_isIdentifierPart {c : Char} (h : isIdentifierPart c = true) :
    isOrdinary c = true := by
  by_contra special
  simp only [isOrdinary, TypeReading.opens, TypeReading.closes, TypeReading.quotes,
    Bool.not_eq_true', Bool.not_eq_false, Bool.or_eq_true, decide_eq_true_eq] at special
  rcases special with (((((rfl | rfl) | rfl) | rfl) | (((rfl | rfl) | rfl) | rfl)) |
    ((rfl | rfl) | rfl)) | rfl
  all_goals exact absurd h (by decide)

theorem isPart_of_isIdentifier {cs : List Char} {mark : Char} (h : isIdentifier cs = true)
    (apart : isIdentifierPart mark = false) : IsPart mark cs := by
  have parts := isIdentifierPart_of_isIdentifier h
  refine .of_isOrdinary (fun c hc => isOrdinary_of_isIdentifierPart (parts c hc)) fun there => ?_
  rw [parts mark there] at apart
  cases apart

namespace TypeExpr

/-- The arguments of a generic type as they are written. -/
def renderArguments (depth : Nat) (args : List TypeExpr) : String :=
  Text.joinWith ", " (args.map (TypeExpr.render depth))

theorem render_generic (depth : Nat) (name : String) {args : List TypeExpr} (h : args ≠ []) :
    (TypeExpr.generic name args).render depth =
      name ++ "<" ++ renderArguments depth args ++ ">" := by
  cases args with
  | nil => exact absurd rfl h
  | cons e args =>
    rw [renderArguments, ← renderAll_eq_map]
    rfl

theorem render_union (depth : Nat) {members : List TypeExpr} (h : members ≠ []) :
    (TypeExpr.union members).render depth =
      Text.joinWith " | " (members.map (TypeExpr.render depth)) := by
  cases members with
  | nil => exact absurd rfl h
  | cons e members =>
    rw [← renderAll_eq_map]
    rfl

/-- The element of an array as it is written: a union of several members in brackets. -/
def renderElement (depth : Nat) (element : TypeExpr) : String :=
  if element.isWideUnion then "(" ++ element.render depth ++ ")" else element.render depth

theorem render_array (depth : Nat) (element : TypeExpr) :
    (TypeExpr.array element).render depth = element.renderElement depth ++ "[]" := rfl

/-- The brackets of an element hold what would be put apart. -/
theorem isPart_renderElement {element : TypeExpr} {depth : Nat} {mark : Char}
    (closed : Closed (element.render depth).toList) (other : '(' ≠ mark)
    (part : element.isWideUnion = false → IsPart mark (element.render depth).toList) :
    IsPart mark (element.renderElement depth).toList := by
  unfold renderElement
  cases wide : element.isWideUnion with
  | true =>
    have held : IsPart mark ('(' :: ((element.render depth).toList ++ [')'])) :=
      closed.isPart_bracketed rfl rfl other
    simpa using held
  | false => exact part wide

/-- The text of a normal form is closed, and a bar is outside only in that of a union. -/
theorem Normal.isPart {e : TypeExpr} (h : e.Normal) (depth : Nat) :
    IsPart ',' (e.render depth).toList ∧
      (e.isUnion = false → IsPart '|' (e.render depth).toList) := by
  induction h with
  | named h => exact ⟨isPart_of_isIdentifier h rfl, fun _ => isPart_of_isIdentifier h rfl⟩
  | literal value =>
    exact ⟨isPart_quotePlain (by decide) value, fun _ => isPart_quotePlain (by decide) value⟩
  | @generic name args h some_ _ ih =>
    have inner : Closed (renderArguments depth args).toList :=
      separates_comma.closed (List.forall_mem_map.2 fun e he => (ih e he).1.closed)
    have text : ((TypeExpr.generic name args).render depth).toList =
        name.toList ++ '<' :: ((renderArguments depth args).toList ++ ['>']) := by
      simp [render_generic depth name some_]
    rw [text]
    exact ⟨(isPart_of_isIdentifier h rfl).append (inner.isPart_bracketed rfl rfl (by decide)),
      fun _ => (isPart_of_isIdentifier h rfl).append (inner.isPart_bracketed rfl rfl (by decide))⟩
  | @union members wide _ _ ih =>
    have some_ := ne_nil_of_isWideUnion wide
    rw [render_union depth some_]
    refine ⟨separates_bar.isPart (by decide) (List.forall_mem_map.2 fun e he => (ih e he).1), ?_⟩
    intro h
    cases h
  | @array element h ih =>
    have grouped {mark : Char} (other : '(' ≠ mark)
        (part : element.isUnion = false → IsPart mark (element.render depth).toList) :
        IsPart mark (element.renderElement depth).toList :=
      isPart_renderElement ih.1.closed other fun narrow => part (by rwa [← h.isWideUnion_eq])
    have array {mark : Char} (other : '[' ≠ mark)
        (part : IsPart mark (element.renderElement depth).toList) :
        IsPart mark ((TypeExpr.array element).render depth).toList := by
      rw [render_array, String.toList_append]
      exact part.append (Closed.nil.isPart_bracketed rfl rfl other)
    exact ⟨array (by decide) (grouped (by decide) fun _ => ih.1),
      fun _ => array (by decide) (grouped (by decide) ih.2)⟩

/-! ## The form of a text -/

/-- The forms that are told apart. -/
inductive Form where
  | name
  | literal
  | generic
  | array
  | union
deriving DecidableEq, Repr

/-- The form of an expression in normal form. -/
def form : TypeExpr → Form
  | .literal _ => .literal
  | .generic _ _ => .generic
  | .array _ => .array
  | .union _ => .union
  | .named _ | .table _ | .raw _ | .jsonColumn _ | .object _ => .name

/-- The form of a text without an outer bar, by its last character. -/
def formOfLast (c : Char) : Form :=
  if c = '"' then .literal else if c = '>' then .generic else if c = ']' then .array else .name

/-- The form of a text. -/
def formOf (cs : List Char) : Form :=
  if (parts '|' {} cs).length = 1 then (cs.getLast?.map formOfLast).getD .name else .union

/-- The text of a normal form ends as its form says, and never with a parenthesis if it is not a
union. -/
theorem Normal.getLast?_render {e : TypeExpr} (h : e.Normal) (single : e.isUnion = false)
    (depth : Nat) :
    ∃ c, (e.render depth).toList.getLast? = some c ∧ formOfLast c = e.form ∧ c ≠ ')' := by
  cases h with
  | @named name h =>
    have filled : name.toList ≠ [] := by
      intro none
      rw [none] at h
      cases h
    refine ⟨name.toList.getLast filled, List.getLast?_eq_some_getLast filled, ?_⟩
    have part := isIdentifierPart_of_isIdentifier h _ (List.getLast_mem filled)
    generalize name.toList.getLast filled = c at part
    have apart (d : Char) (other : isIdentifierPart d = false) : c ≠ d := by
      rintro rfl
      rw [part] at other
      cases other
    simp [formOfLast, form, apart '"' rfl, apart '>' rfl, apart ']' rfl, apart ')' rfl]
  | literal value =>
    have text : ((TypeExpr.literal value).render depth).toList =
        ('"' :: value.toList.flatMap Json.plainChar) ++ ['"'] := by
      show (Json.quotePlain value).toList = _
      simp [Json.quotePlain, Json.literal]
    exact ⟨'"', by rw [text, List.getLast?_concat], rfl, by decide⟩
  | @generic name args _ some_ _ =>
    have text : ((TypeExpr.generic name args).render depth).toList =
        (name.toList ++ '<' :: (renderArguments depth args).toList) ++ ['>'] := by
      simp [render_generic depth name some_]
    exact ⟨'>', by rw [text, List.getLast?_concat], rfl, by decide⟩
  | array h => exact ⟨']', by simp [render_array], rfl, by decide⟩
  | union => cases single

/-- **The form of a normal form can be told from its text.** -/
theorem Normal.formOf_render {e : TypeExpr} (h : e.Normal) (depth : Nat) :
    formOf (e.render depth).toList = e.form := by
  cases single : e.isUnion with
  | false =>
    obtain ⟨c, last, form, -⟩ := h.getLast?_render single depth
    have whole : (parts '|' {} (e.render depth).toList).length = 1 :=
      congrArg List.length ((h.isPart depth).2 single).whole
    simp [formOf, whole, last, form]
  | true =>
    cases h with
    | named | literal | generic | array => cases single
    | @union members wide normal flat =>
      have some_ := ne_nil_of_isWideUnion wide
      have several : members.length ≠ 1 := by
        intro one
        obtain ⟨e, rfl⟩ := List.length_eq_one_iff.1 one
        cases wide
      have each : ∀ s ∈ members.map (TypeExpr.render depth), IsPart '|' s.toList :=
        List.forall_mem_map.2 fun e he => ((normal e he).isPart depth).2 (flat e he)
      have count := separates_bar.length_parts_joinWith (by simpa using some_) each
      rw [List.length_map] at count
      rw [formOf, render_union depth some_, count, if_neg several]
      rfl

theorem Normal.form_eq {e f : TypeExpr} (he : e.Normal) (hf : f.Normal) {depth : Nat}
    (same : e.render depth = f.render depth) : e.form = f.form := by
  rw [← he.formOf_render depth, ← hf.formOf_render depth, same]

/-! ## Taking texts apart -/

theorem eq_of_map_render {depth : Nat} {es fs : List TypeExpr}
    (each : ∀ e ∈ es, ∀ f, f.Normal → e.render depth = f.render depth → e = f)
    (normal : ∀ f ∈ fs, f.Normal)
    (same : es.map (TypeExpr.render depth) = fs.map (TypeExpr.render depth)) : es = fs := by
  induction es generalizing fs with
  | nil => exact (List.map_eq_nil_iff.1 same.symm).symm
  | cons e es ih =>
    cases fs with
    | nil => simp at same
    | cons f fs =>
      obtain ⟨first, others⟩ := List.cons.inj same
      rw [each e List.mem_cons_self f (normal f List.mem_cons_self) first,
        ih (fun e he => each e (List.mem_cons_of_mem _ he))
          (fun f hf => normal f (List.mem_cons_of_mem _ hf)) others]

/-- The name of a generic type ends at the first angle bracket. -/
theorem eq_of_generic {name name' s t : String} (h : isIdentifier name.toList = true)
    (h' : isIdentifier name'.toList = true)
    (same : name ++ "<" ++ s ++ ">" = name' ++ "<" ++ t ++ ">") : name = name' ∧ s = t := by
  have first (name s : String) (h : isIdentifier name.toList = true) :
      (parts '<' {} (name ++ "<" ++ s ++ ">").toList).head? = some name.toList := by
    have text : (name ++ "<" ++ s ++ ">").toList = name.toList ++ '<' :: (s.toList ++ ['>']) := by
      simp
    have named : IsPart '<' name.toList := isPart_of_isIdentifier h rfl
    rw [text, parts_append named.whole, named.closed.run, parts_mark rfl]
    simp
  have names : name = name' := by
    have heads := first name s h
    rw [same, first name' t h'] at heads
    exact String.toList_inj.1 (Option.some.inj heads).symm
  subst names
  simpa using same

/-- An element in brackets is not taken for one without. -/
theorem Normal.render_eq_of_renderElement {e f : TypeExpr} (he : e.Normal) (hf : f.Normal)
    {depth : Nat} (same : e.renderElement depth = f.renderElement depth) :
    e.render depth = f.render depth := by
  have apart {e f : TypeExpr} (hf : f.Normal) (single : f.isUnion = false) :
      "(" ++ e.render depth ++ ")" ≠ f.render depth := by
    intro same
    obtain ⟨c, last, -, other⟩ := hf.getLast?_render single depth
    have text : ("(" ++ e.render depth ++ ")").toList =
        ('(' :: (e.render depth).toList) ++ [')'] := by simp
    rw [← same, text, List.getLast?_concat] at last
    exact other (Option.some.inj last).symm
  unfold renderElement at same
  rw [he.isWideUnion_eq, hf.isWideUnion_eq] at same
  cases left : e.isUnion <;> cases right : f.isUnion
  · simpa [left, right] using same
  · simp only [left, right] at same
    exact absurd same.symm (apart he left)
  · simp only [left, right] at same
    exact absurd same (apart hf right)
  · simpa [left, right] using same

/-- **Normal forms with the same text are equal.** -/
theorem Normal.eq_of_render {e f : TypeExpr} (he : e.Normal) (hf : f.Normal) {depth : Nat}
    (same : e.render depth = f.render depth) : e = f := by
  induction he generalizing f with
  | named h =>
    have forms := (Normal.named h).form_eq hf same
    cases hf with
    | named h' => exact congrArg TypeExpr.named same
    | literal | generic | union | array => cases forms
  | literal value =>
    have forms := (Normal.literal value).form_eq hf same
    cases hf with
    | literal value' => exact congrArg TypeExpr.literal (quotePlain_injective same)
    | named | generic | union | array => cases forms
  | @generic name args h some_ normal ih =>
    have forms := (Normal.generic h some_ normal).form_eq hf same
    cases hf with
    | @generic name' args' h' some' normal' =>
      rw [render_generic depth name some_, render_generic depth name' some'] at same
      obtain ⟨rfl, arguments⟩ := eq_of_generic h h' same
      have texts := separates_comma.joinWith_injective (by simpa using some_) (by simpa using some')
        (List.forall_mem_map.2 fun e he => ((normal e he).isPart depth).1)
        (List.forall_mem_map.2 fun f hf => ((normal' f hf).isPart depth).1) arguments
      rw [eq_of_map_render (fun e he f hf same => ih e he hf same) normal' texts]
    | named | literal | union | array => cases forms
  | @union members wide normal flat ih =>
    have forms := (Normal.union wide normal flat).form_eq hf same
    cases hf with
    | @union members' wide' normal' flat' =>
      have some_ := ne_nil_of_isWideUnion wide
      have some' := ne_nil_of_isWideUnion wide'
      rw [render_union depth some_, render_union depth some'] at same
      have texts := separates_bar.joinWith_injective (by simpa using some_) (by simpa using some')
        (List.forall_mem_map.2 fun e he => ((normal e he).isPart depth).2 (flat e he))
        (List.forall_mem_map.2 fun f hf => ((normal' f hf).isPart depth).2 (flat' f hf)) same
      rw [eq_of_map_render (fun e he f hf same => ih e he hf same) normal' texts]
    | named | literal | generic | array => cases forms
  | @array element h ih =>
    have forms := h.array.form_eq hf same
    cases hf with
    | @array element' h' =>
      rw [render_array, render_array, String.append_left_inj] at same
      have elements : element.render depth = element'.render depth :=
        h.render_eq_of_renderElement h' same
      rw [ih h' elements]
    | named | literal | generic | union => cases forms

end TypeExpr

/-! ## Texts of other expressions -/

/-- A text with some pairs of brackets put into another one: two more characters each. -/
structure Bracketed (pairs : Nat) (s t : String) : Prop where
  sublist : s.toList.Sublist t.toList
  length : t.toList.length = s.toList.length + 2 * pairs

namespace Bracketed

variable {m n : Nat} {s s' t t' : String}

theorem refl (s : String) : Bracketed 0 s s := ⟨.refl _, rfl⟩

theorem append (h : Bracketed m s t) (h' : Bracketed n s' t') :
    Bracketed (m + n) (s ++ s') (t ++ t') := by
  constructor
  · rw [String.toList_append, String.toList_append]
    exact h.sublist.append h'.sublist
  · rw [String.toList_append, String.toList_append, List.length_append, List.length_append,
      h.length, h'.length]
    omega

theorem pair (h : Bracketed n s t) : Bracketed (n + 1) s ("(" ++ t ++ ")") := by
  have text : ("(" ++ t ++ ")").toList = '(' :: (t.toList ++ [')']) := by simp
  constructor
  · rw [text]
    exact (h.sublist.trans (List.sublist_append_left _ _)).cons '('
  · rw [text, List.length_cons, List.length_append, h.length, List.length_singleton]
    omega

theorem join {separator : String} {es : List TypeExpr} {f g : TypeExpr → String}
    (each : ∀ e ∈ es, Bracketed e.ungrouped (f e) (g e)) :
    Bracketed (ungroupedAll es) (Text.joinWith separator (es.map f))
      (Text.joinWith separator (es.map g)) := by
  induction es with
  | nil => exact .refl ""
  | cons e es ih =>
    have first := each e List.mem_cons_self
    have others := ih fun d hd => each d (List.mem_cons_of_mem e hd)
    cases es with
    | nil => exact first
    | cons d es =>
      have both := (first.append (.refl separator)).append others
      simpa [ungroupedAll, Text.joinWith] using both

/-- Only a text without new brackets is the same. -/
theorem eq_iff (h : Bracketed n s t) : s = t ↔ n = 0 := by
  constructor
  · rintro rfl
    have length := h.length
    omega
  · rintro rfl
    exact String.toList_inj.1 (h.sublist.eq_of_length h.length.symm)

end Bracketed

theorem Text.joinWith_append (separator : String) {ss ts : List String} (left : ss ≠ [])
    (right : ts ≠ []) :
    Text.joinWith separator (ss ++ ts) =
      Text.joinWith separator ss ++ separator ++ Text.joinWith separator ts := by
  induction ss with
  | nil => exact absurd rfl left
  | cons s ss ih =>
    cases ss with
    | nil =>
      cases ts with
      | nil => exact absurd rfl right
      | cons t ts => rfl
    | cons s' ss =>
      show s ++ separator ++ Text.joinWith separator (s' :: ss ++ ts) =
        s ++ separator ++ Text.joinWith separator (s' :: ss) ++ separator ++ _
      rw [ih (by simp)]
      simp only [String.append_assoc]

/-- Texts that are joined in groups are joined all at once. -/
theorem joinWith_flatMap {separator : String} {α : Type} {es : List α} {f : α → List String}
    {g : α → String} (some_ : ∀ e ∈ es, f e ≠ [])
    (joined : ∀ e ∈ es, Text.joinWith separator (f e) = g e) :
    Text.joinWith separator (es.flatMap f) = Text.joinWith separator (es.map g) := by
  induction es with
  | nil => rfl
  | cons e es ih =>
    have first := joined e List.mem_cons_self
    have others := ih (fun d hd => some_ d (List.mem_cons_of_mem e hd))
      (fun d hd => joined d (List.mem_cons_of_mem e hd))
    cases es with
    | nil => simpa [Text.joinWith] using first
    | cons d es =>
      have more : (d :: es).flatMap f ≠ [] := by
        simp [some_ d (List.mem_cons_of_mem e List.mem_cons_self)]
      rw [List.flatMap_cons, Text.joinWith_append separator (some_ e List.mem_cons_self) more,
        first, others]
      rfl

namespace TypeExpr

theorem render_unionOf (depth : Nat) {es : List TypeExpr} (h : es ≠ []) :
    (unionOf es).render depth = Text.joinWith " | " (es.map (TypeExpr.render depth)) := by
  cases es with
  | nil => exact absurd rfl h
  | cons e es =>
    cases es with
    | nil => rfl
    | cons f es => exact render_union depth h

theorem Normal.alternatives_ne_nil {e : TypeExpr} (h : e.Normal) : e.alternatives ≠ [] := by
  cases h with
  | union wide _ _ => exact ne_nil_of_isWideUnion wide
  | named | literal | generic | array => simp [alternatives]

theorem Normal.join_alternatives {e : TypeExpr} (h : e.Normal) (depth : Nat) :
    Text.joinWith " | " (e.alternatives.map (TypeExpr.render depth)) = e.render depth := by
  cases h with
  | union wide _ _ => exact (render_union depth (ne_nil_of_isWideUnion wide)).symm
  | named | literal | generic | array => rfl

/-- The text of a union's normal form joins those of its members' normal forms. -/
theorem render_normal_union {members : List TypeExpr} (some_ : members ≠ [])
    (shaped : ∀ e ∈ members, e.Shaped) (depth : Nat) :
    (TypeExpr.union members).normal.render depth =
      Text.joinWith " | " (members.map fun e => e.normal.render depth) := by
  rw [TypeExpr.normal, normalAll_eq_map]
  have flat : (members.map TypeExpr.normal).flatMap alternatives ≠ [] := by
    obtain ⟨e, more, rfl⟩ := List.exists_cons_of_ne_nil some_
    simp [(shaped e List.mem_cons_self).normal.alternatives_ne_nil]
  rw [render_unionOf depth flat, List.map_flatMap, List.flatMap_map]
  refine joinWith_flatMap (fun e he => ?_) fun e he => (shaped e he).normal.join_alternatives depth
  simpa using (shaped e he).normal.alternatives_ne_nil

theorem Shaped.isWideUnion_normal {e : TypeExpr} (h : e.Shaped) (wide : e.isWideUnion = true) :
    e.normal.isWideUnion = true := by
  cases h with
  | @union members shaped =>
    match members, wide, shaped with
    | e :: f :: more, _, shaped =>
      obtain ⟨a, as, left⟩ := List.exists_cons_of_ne_nil
        (shaped e List.mem_cons_self).normal.alternatives_ne_nil
      obtain ⟨b, bs, right⟩ := List.exists_cons_of_ne_nil
        (shaped f (List.mem_cons_of_mem e List.mem_cons_self)).normal.alternatives_ne_nil
      rw [TypeExpr.normal, normalAll, normalAll, List.flatMap_cons, List.flatMap_cons, left, right]
      cases as <;> rfl
  | named | table | literal | generic | array => cases wide

/-- **The text of an expression is that of its normal form but for the brackets of ungrouped
arrays.** -/
theorem Shaped.bracketed {e : TypeExpr} (h : e.Shaped) (depth : Nat) :
    Bracketed e.ungrouped (e.render depth) (e.normal.render depth) := by
  induction h with
  | named | table | literal => exact .refl _
  | @generic name args h shaped ih =>
    rw [TypeExpr.normal, normalAll_eq_map, TypeExpr.ungrouped]
    cases args with
    | nil => exact .refl name
    | cons e args =>
      have inner : Bracketed (ungroupedAll (e :: args)) (renderArguments depth (e :: args))
          (renderArguments depth ((e :: args).map TypeExpr.normal)) := by
        unfold renderArguments
        rw [List.map_map]
        exact .join ih
      have head := (Bracketed.refl name).append (.refl "<")
      have whole := (head.append inner).append (.refl ">")
      rw [render_generic depth name (by simp)]
      show Bracketed _ _ ((TypeExpr.generic name ((e :: args).map TypeExpr.normal)).render depth)
      rw [render_generic depth name (by simp)]
      simpa using whole
  | @union members shaped ih =>
    cases members with
    | nil => exact .refl "never"
    | cons e members =>
      rw [render_union depth (by simp), render_normal_union (by simp) shaped, TypeExpr.ungrouped]
      exact .join ih
  | @array element shaped ih =>
    have grouped : Bracketed
        (element.ungrouped + if element.normal.isWideUnion && !element.isWideUnion then 1 else 0)
        (element.renderElement depth) (element.normal.renderElement depth) := by
      unfold renderElement
      cases wide : element.isWideUnion with
      | true =>
        have both := ((Bracketed.refl "(").append ih).append (.refl ")")
        simpa [shaped.isWideUnion_normal wide] using both
      | false =>
        cases wide' : element.normal.isWideUnion with
        | true => exact ih.pair
        | false => exact ih
    rw [TypeExpr.normal, TypeExpr.ungrouped, render_array, render_array]
    exact grouped.append (.refl "[]")

/-! ## Normal forms stay -/

theorem map_normal {es : List TypeExpr} (h : ∀ e ∈ es, e.normal = e) :
    es.map TypeExpr.normal = es := by
  rw [List.map_congr_left h, List.map_id']

theorem flatMap_alternatives {es : List TypeExpr} (h : ∀ e ∈ es, e.isUnion = false) :
    es.flatMap alternatives = es := by
  induction es with
  | nil => rfl
  | cons e es ih =>
    rw [List.flatMap_cons, alternatives_of_isUnion_eq_false (h e List.mem_cons_self),
      ih fun d hd => h d (List.mem_cons_of_mem e hd)]
    rfl

theorem unionOf_of_isWideUnion {members : List TypeExpr}
    (wide : (TypeExpr.union members).isWideUnion = true) : unionOf members = .union members := by
  match members, wide with
  | _ :: _ :: _, _ => rfl

/-- A normal form has the shape of the expressions in question, no array in it is ungrouped, and it
is its own normal form. -/
theorem Normal.fixed {e : TypeExpr} (h : e.Normal) :
    e.Shaped ∧ e.ungrouped = 0 ∧ e.normal = e := by
  induction h with
  | named h => exact ⟨.named h, rfl, rfl⟩
  | literal value => exact ⟨.literal value, rfl, rfl⟩
  | @generic name args h some_ _ ih =>
    refine ⟨.generic h fun e he => (ih e he).1, ?_, ?_⟩
    · rw [ungrouped, ungroupedAll_eq_zero fun e he => (ih e he).2.1]
    · rw [TypeExpr.normal, normalAll_eq_map, map_normal fun e he => (ih e he).2.2]
      cases args with
      | nil => exact absurd rfl some_
      | cons => rfl
  | @union members wide _ flat ih =>
    refine ⟨.union fun e he => (ih e he).1, ?_, ?_⟩
    · rw [ungrouped, ungroupedAll_eq_zero fun e he => (ih e he).2.1]
    · rw [TypeExpr.normal, normalAll_eq_map, map_normal fun e he => (ih e he).2.2,
        flatMap_alternatives flat, unionOf_of_isWideUnion wide]
  | @array element _ ih =>
    obtain ⟨shaped, grouped, same⟩ := ih
    refine ⟨.array shaped, ?_, ?_⟩
    · rw [ungrouped, grouped, same]
      cases element.isWideUnion <;> rfl
    · rw [TypeExpr.normal, same]

/-! ## Expressions with the same text -/

/-- **Among expressions without ungrouped arrays the text determines the normal form and the normal
form the text.**  An expression with an ungrouped array is apart: its normal form, which is without
one, has another text. -/
theorem render_eq_iff {e : TypeExpr} (he : e.Shaped) (depth : Nat) :
    (∀ f : TypeExpr, f.Shaped → f.ungrouped = 0 →
      (e.render depth = f.render depth ↔ e.normal = f.normal)) ↔ e.ungrouped = 0 := by
  constructor
  · intro unambiguous
    obtain ⟨shaped, grouped, same⟩ := he.normal.fixed
    have texts := (unambiguous e.normal shaped grouped).2 same.symm
    exact (he.bracketed depth).eq_iff.1 texts
  · intro grouped f hf groupedToo
    have text : e.render depth = e.normal.render depth := (he.bracketed depth).eq_iff.2 grouped
    have text' : f.render depth = f.normal.render depth :=
      (hf.bracketed depth).eq_iff.2 groupedToo
    rw [text, text']
    constructor
    · exact he.normal.eq_of_render hf.normal
    · intro same
      rw [same]

theorem render_eq_iff_array_of_union :
    (TypeExpr.array (.union [.literal "a | b", .table "Item"])).Shaped ∧
      ((∀ f : TypeExpr, f.Shaped → f.ungrouped = 0 →
        ((TypeExpr.array (.union [.literal "a | b", .table "Item"])).render 0 = f.render 0 ↔
          (TypeExpr.array (.union [.literal "a | b", .table "Item"])).normal = f.normal)) ↔
        (TypeExpr.array (.union [.literal "a | b", .table "Item"])).ungrouped = 0) := by
  have shaped : (TypeExpr.array (.union [.literal "a | b", .table "Item"])).Shaped := by
    refine .array (.union ?_)
    simp only [List.forall_mem_cons]
    exact ⟨.literal _, .table (by decide), by simp⟩
  exact ⟨shaped, render_eq_iff shaped 0⟩

/-- A union of one member that is a union of two is written without brackets in an array, and reads
as a union of which only the last member is an array. -/
theorem nested_union_in_array_is_ambiguous :
    ¬ ((TypeExpr.array (.union [.union [.named "a", .named "b"]])).render 0 =
          (TypeExpr.union [.named "a", .array (.named "b")]).render 0 ↔
        (TypeExpr.array (.union [.union [.named "a", .named "b"]])).normal =
          (TypeExpr.union [.named "a", .array (.named "b")]).normal) := by
  intro unambiguous
  have same := unambiguous.1 (by decide)
  cases same

end TypeExpr

end CatalogTypes
