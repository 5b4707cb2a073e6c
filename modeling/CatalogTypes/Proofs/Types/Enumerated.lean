import CatalogTypes.Proofs.Types.Unambiguous
import CatalogTypes.Resolve.Column

/-!
# Reading back enumerated columns

The type of a column with enumerated values takes several forms: `never` for no value, a literal for
one, a union for several; an array of these; null as one more member of a union or beside an array;
and a wrapper around all of it.

**Theorem (`Options.Enumerates.text_eq_iff`).** The text of the type determines the values in their
order and the flags.

None of the forms holds an ungrouped array (`Column.grouped_enumerated`), so its text determines its
normal form.  That is the union of the alternatives that the values and the flags give
(`Column.normal_enumerated`), and these can be told apart: `null` from the literals, because it is
no literal, and an array from both.
-/

namespace CatalogTypes

/-- Whether values of the column may be left to the database. -/
def Column.isGenerated (c : Column) : Bool := c.hasDefaultValue || c.isAutoIncrementing

theorem Column.wrap_eq (c : Column) (e : TypeExpr) :
    c.wrap e =
      let inner := if c.isArray then .array e else e
      let whole := if c.isNullable then inner.orNull else inner
      if c.isGenerated then .generic generatedWrapper [whole] else whole := rfl

namespace TypeExpr

/-! ## Expressions without ungrouped arrays -/

/-- An expression in which no array is ungrouped, and which becomes no ungrouped element of an
array. -/
structure Grouped (e : TypeExpr) : Prop where
  shaped : e.Shaped
  ungrouped : e.ungrouped = 0
  wide : e.normal.isWideUnion = true → e.isWideUnion = true

theorem ungroupedAll_append (es fs : List TypeExpr) :
    ungroupedAll (es ++ fs) = ungroupedAll es + ungroupedAll fs := by
  induction es with
  | nil => simp [ungroupedAll]
  | cons e es ih => simp [ungroupedAll, ih, Nat.add_assoc]

theorem shaped_null : (TypeExpr.named "null").Shaped := .named (by decide)

namespace Grouped

variable {e f : TypeExpr}

theorem array (h : e.Grouped) : (TypeExpr.array e).Grouped where
  shaped := .array h.shaped
  ungrouped := by
    have held : (e.normal.isWideUnion && !e.isWideUnion) = false := by
      cases wide : e.normal.isWideUnion with
      | true => rw [h.wide wide]; rfl
      | false => rfl
    simp [TypeExpr.ungrouped, h.ungrouped, held]
  wide := nofun

theorem generated (h : e.Grouped) : (TypeExpr.generic generatedWrapper [e]).Grouped where
  shaped := .generic (by decide) (List.forall_mem_singleton.2 h.shaped)
  ungrouped := by simp [TypeExpr.ungrouped, ungroupedAll, h.ungrouped]
  wide := nofun

theorem orNull (h : e.Grouped) : e.orNull.Grouped := by
  have beside : (TypeExpr.union [e, .named "null"]).Grouped := by
    refine ⟨.union ?_, ?_, fun _ => rfl⟩
    · simpa using ⟨h.shaped, shaped_null⟩
    · simp [TypeExpr.ungrouped, ungroupedAll, h.ungrouped]
  cases e with
  | union members =>
    obtain ⟨shaped, ungrouped, -⟩ := h
    refine ⟨?_, ?_, ?_⟩
    · cases shaped with
      | union each =>
        refine .union fun m hm => ?_
        rcases List.mem_append.1 hm with old | new
        · exact each m old
        · rw [List.mem_singleton.1 new]
          exact shaped_null
    · show ungroupedAll (members ++ [.named "null"]) = 0
      rw [ungroupedAll_append]
      exact congrArg (· + 0) ungrouped
    · -- a union of null alone is null
      cases members with
      | nil =>
        intro wide
        cases wide
      | cons m more => cases more <;> exact fun _ => rfl
  | named | table | literal | raw | generic | array | jsonColumn | object => exact beside

/-- The text of such an expression is that of its normal form. -/
theorem normal_eq_of_render (h : e.Grouped) (h' : f.Grouped) {depth : Nat}
    (same : e.render depth = f.render depth) : e.normal = f.normal := by
  have text : e.render depth = e.normal.render depth :=
    (h.shaped.bracketed depth).eq_iff.2 h.ungrouped
  have text' : f.render depth = f.normal.render depth :=
    (h'.shaped.bracketed depth).eq_iff.2 h'.ungrouped
  rw [text, text'] at same
  exact h.shaped.normal.eq_of_render h'.shaped.normal same

end Grouped

/-! ## Unions of alternatives -/

/-- An expression that is told apart from a union and from `never`, the union of no alternatives. -/
def IsAlternative (e : TypeExpr) : Prop := e.isUnion = false ∧ e ≠ .named "never"

theorem IsAlternative.notMem_never {es : List TypeExpr} (h : ∀ e ∈ es, e.IsAlternative) :
    .named "never" ∉ es := fun there => (h _ there).2 rfl

theorem IsAlternative.notMem_union {es members : List TypeExpr}
    (h : ∀ e ∈ es, e.IsAlternative) : .union members ∉ es := by
  intro there
  cases (h _ there).1

/-- **The union of alternatives determines them.** -/
theorem unionOf_injective {es fs : List TypeExpr} (h : ∀ e ∈ es, e.IsAlternative)
    (h' : ∀ f ∈ fs, f.IsAlternative) (same : unionOf es = unionOf fs) : es = fs := by
  have never := IsAlternative.notMem_never h
  have never' := IsAlternative.notMem_never h'
  match es, fs with
  | [], [] => rfl
  | [], [f] =>
    cases same
    exact absurd List.mem_cons_self never'
  | [e], [] =>
    cases same
    exact absurd List.mem_cons_self never
  | [e], [f] =>
    obtain rfl : e = f := same
    rfl
  | [e], f :: f' :: fs =>
    obtain rfl : e = .union (f :: f' :: fs) := same
    exact absurd List.mem_cons_self (IsAlternative.notMem_union h)
  | e :: e' :: es, [f] =>
    obtain rfl : .union (e :: e' :: es) = f := same
    exact absurd List.mem_cons_self (IsAlternative.notMem_union h')
  | [], f :: f' :: fs => cases same
  | e :: e' :: es, [] => cases same
  | e :: e' :: es, f :: f' :: fs => exact TypeExpr.union.inj same

/-- A union of alternatives in normal form has them as its own. -/
theorem normal_union {es : List TypeExpr} (h : ∀ e ∈ es, e.normal = e ∧ e.isUnion = false) :
    (TypeExpr.union es).normal = unionOf es := by
  rw [TypeExpr.normal, normalAll_eq_map, map_normal fun e he => (h e he).1,
    flatMap_alternatives fun e he => (h e he).2]

end TypeExpr

/-! ## Enumerated columns -/

/-- The alternatives of a list of values. -/
def literals (values : List String) : List TypeExpr := values.map .literal

theorem normal_of_mem_literals {values : List String} {e : TypeExpr} (h : e ∈ literals values) :
    e.normal = e ∧ e.isUnion = false := by
  obtain ⟨value, -, rfl⟩ := List.mem_map.1 h
  exact ⟨rfl, rfl⟩

theorem isAlternative_of_mem_literals {values : List String} {e : TypeExpr}
    (h : e ∈ literals values) : e.IsAlternative := by
  obtain ⟨value, -, rfl⟩ := List.mem_map.1 h
  exact ⟨rfl, nofun⟩

theorem literals_injective : Function.Injective literals :=
  List.map_injective_iff.2 fun _ _ => TypeExpr.literal.inj

theorem normal_literalUnion (values : List String) :
    (literalUnion values).normal = unionOf (literals values) := by
  match values with
  | [] => rfl
  | [value] => rfl
  | value :: value' :: more => exact TypeExpr.normal_union fun e he => normal_of_mem_literals he

theorem grouped_literalUnion (values : List String) : (literalUnion values).Grouped := by
  have shaped : ∀ e ∈ literals values, e.Shaped := by
    intro e he
    obtain ⟨value, -, rfl⟩ := List.mem_map.1 he
    exact .literal value
  have flat : ungroupedAll (literals values) = 0 := by
    refine ungroupedAll_eq_zero fun e he => ?_
    obtain ⟨value, -, rfl⟩ := List.mem_map.1 he
    rfl
  match values with
  | [] => exact ⟨.union shaped, flat, nofun⟩
  | [value] => exact ⟨.literal value, rfl, nofun⟩
  | value :: value' :: more => exact ⟨.union shaped, flat, fun _ => rfl⟩

/-- Null is one more alternative beside the values. -/
theorem orNull_literalUnion (values : List String) :
    (literalUnion values).orNull = .union (literals values ++ [.named "null"]) := by
  match values with
  | [] => rfl
  | [value] => rfl
  | value :: value' :: more => rfl

namespace Column

/-- What the type of a column with enumerated values is apart from null: the values, or the array of
them. -/
def presentAlternatives (c : Column) (values : List String) : List TypeExpr :=
  if c.isArray then [.array (unionOf (literals values))] else literals values

/-- The alternatives of the type of a column with enumerated values. -/
def enumAlternatives (c : Column) (values : List String) : List TypeExpr :=
  c.presentAlternatives values ++ if c.isNullable then [.named "null"] else []

/-- The type of a column with enumerated values is without ungrouped arrays. -/
theorem grouped_enumerated (c : Column) (values : List String) :
    (c.wrap (literalUnion values)).Grouped :=
  Column.wrap_of_closed TypeExpr.Grouped (fun _ => .array) (fun _ => .orNull)
    (fun _ => .generated) c (grouped_literalUnion values)

theorem normal_array_literalUnion (values : List String) :
    (TypeExpr.array (literalUnion values)).normal = .array (unionOf (literals values)) := by
  rw [TypeExpr.normal, normal_literalUnion]

/-- The normal form of a column with enumerated values is the union of its alternatives, in the
wrapper of generated columns if it is one. -/
theorem normal_enumerated (c : Column) (values : List String) :
    (c.wrap (literalUnion values)).normal =
      if c.isGenerated then .generic generatedWrapper [unionOf (c.enumAlternatives values)]
      else unionOf (c.enumAlternatives values) := by
  have array := normal_array_literalUnion values
  have arrayOrNull : (TypeExpr.array (literalUnion values)).orNull.normal =
      unionOf [.array (unionOf (literals values)), .named "null"] := by
    show (TypeExpr.union [.array (literalUnion values), .named "null"]).normal = _
    rw [TypeExpr.normal, normalAll, normalAll, array]
    rfl
  have valuesOrNull : (literalUnion values).orNull.normal =
      unionOf (literals values ++ [.named "null"]) := by
    rw [orNull_literalUnion]
    refine TypeExpr.normal_union fun e he => ?_
    rcases List.mem_append.1 he with value | null
    · exact normal_of_mem_literals value
    · rw [List.mem_singleton.1 null]
      exact ⟨rfl, rfl⟩
  have generated (e : TypeExpr) : (TypeExpr.generic generatedWrapper [e]).normal =
      .generic generatedWrapper [e.normal] := rfl
  rw [Column.wrap_eq]
  unfold enumAlternatives presentAlternatives
  cases c.isArray <;> cases c.isNullable <;> cases c.isGenerated <;>
    simp [generated, array, arrayOrNull, valuesOrNull, normal_literalUnion, unionOf]

theorem isAlternative_present (c : Column) {values : List String} {e : TypeExpr}
    (h : e ∈ c.presentAlternatives values) : e.IsAlternative ∧ e ≠ .named "null" := by
  unfold presentAlternatives at h
  split_ifs at h
  · rw [List.mem_singleton.1 h]
    exact ⟨⟨rfl, nofun⟩, nofun⟩
  · refine ⟨isAlternative_of_mem_literals h, ?_⟩
    obtain ⟨value, -, rfl⟩ := List.mem_map.1 h
    nofun

theorem isAlternative_enum (c : Column) {values : List String} :
    ∀ e ∈ c.enumAlternatives values, e.IsAlternative := by
  intro e he
  rcases List.mem_append.1 he with present | null
  · exact (c.isAlternative_present present).1
  · split_ifs at null with nullable
    · rw [List.mem_singleton.1 null]
      exact ⟨rfl, fun same => absurd (TypeExpr.named.inj same) (by decide)⟩
    · cases null

theorem null_mem_enumAlternatives (c : Column) (values : List String) :
    .named "null" ∈ c.enumAlternatives values ↔ c.isNullable = true := by
  have absent : .named "null" ∉ c.presentAlternatives values := fun there =>
    (c.isAlternative_present there).2 rfl
  cases nullable : c.isNullable <;> simp [enumAlternatives, nullable, absent]

/-- The values and the flag of the array are those of the alternatives apart from null. -/
theorem presentAlternatives_inj {c c' : Column} {values values' : List String}
    (same : c.presentAlternatives values = c'.presentAlternatives values') :
    values = values' ∧ c.isArray = c'.isArray := by
  have apart {values values' : List String} :
      [TypeExpr.array (unionOf (literals values))] ≠ literals values' := by
    cases values' with
    | nil => exact nofun
    | cons value more => exact fun same => nomatch (List.cons.inj same).1
  unfold presentAlternatives at same
  cases array : c.isArray <;> cases array' : c'.isArray <;> simp only [array, array'] at same
  · exact ⟨literals_injective same, rfl⟩
  · exact absurd same.symm apart
  · exact absurd same apart
  · have elements := TypeExpr.array.inj (List.singleton_inj.1 same)
    have lists := TypeExpr.unionOf_injective (fun e he => isAlternative_of_mem_literals he)
      (fun e he => isAlternative_of_mem_literals he) elements
    exact ⟨literals_injective lists, rfl⟩

theorem enumAlternatives_inj {c c' : Column} {values values' : List String}
    (same : c.enumAlternatives values = c'.enumAlternatives values') :
    values = values' ∧ c.isArray = c'.isArray ∧ c.isNullable = c'.isNullable := by
  have nullable : c.isNullable = c'.isNullable := by
    rw [Bool.eq_iff_iff, ← null_mem_enumAlternatives c values, same, null_mem_enumAlternatives]
  have present : c.presentAlternatives values = c'.presentAlternatives values' := by
    unfold enumAlternatives at same
    rw [nullable] at same
    exact List.append_cancel_right same
  obtain ⟨values, array⟩ := presentAlternatives_inj present
  exact ⟨values, array, nullable⟩

/-- The wrapper of generated columns is no union of alternatives. -/
theorem unionOf_enumAlternatives_ne (c : Column) (values : List String) (e : TypeExpr) :
    unionOf (c.enumAlternatives values) ≠ .generic generatedWrapper [e] := by
  have absent : .generic generatedWrapper [e] ∉ c.enumAlternatives values := by
    intro there
    rcases List.mem_append.1 there with present | null
    · unfold presentAlternatives at present
      split_ifs at present
      · cases List.mem_singleton.1 present
      · obtain ⟨value, -, same⟩ := List.mem_map.1 present
        cases same
    · split_ifs at null
      · cases List.mem_singleton.1 null
      · cases null
  intro same
  match alternatives : c.enumAlternatives values with
  | [] =>
    rw [alternatives] at same
    cases same
  | [f] =>
    rw [alternatives] at same absent
    exact absent (List.mem_singleton.2 (Eq.symm same))
  | f :: g :: more =>
    rw [alternatives] at same
    cases same

end Column

/-! ## Columns with the same text -/

/-- A column takes its type from enumerated values: no override is in their way. -/
structure Options.Enumerates (o : Options) (enums : EnumTypes) (t : Table) (c : Column)
    (values : List String) : Prop where
  override : o.overrideFor t c = none
  values : c.enumerated enums = some values

theorem Options.Enumerates.columnTypeOf_eq {o : Options} {enums : EnumTypes} {t : Table}
    {c : Column} {values : List String} (h : o.Enumerates enums t c values) (a : Adapter) :
    columnTypeOf a o enums t c = c.wrap (literalUnion values) := by
  unfold columnTypeOf Column.baseType
  simp only [h.override, h.values]

/-- **Columns with enumerated values have the same text exactly if they have the same values and the
same flags.** -/
theorem Options.Enumerates.text_eq_iff {o o' : Options} {enums enums' : EnumTypes} {t t' : Table}
    {c c' : Column} {values values' : List String} (h : o.Enumerates enums t c values)
    (h' : o'.Enumerates enums' t' c' values') (a a' : Adapter) (depth : Nat) :
    (columnTypeOf a o enums t c).render depth = (columnTypeOf a' o' enums' t' c').render depth ↔
      values = values' ∧ c.isArray = c'.isArray ∧ c.isNullable = c'.isNullable ∧
        c.isGenerated = c'.isGenerated := by
  rw [h.columnTypeOf_eq, h'.columnTypeOf_eq]
  constructor
  · intro same
    have normal := (c.grouped_enumerated values).normal_eq_of_render
      (c'.grouped_enumerated values') same
    rw [Column.normal_enumerated, Column.normal_enumerated] at normal
    have unions : c.isGenerated = c'.isGenerated ∧
        unionOf (c.enumAlternatives values) = unionOf (c'.enumAlternatives values') := by
      cases generated : c.isGenerated <;> cases generated' : c'.isGenerated <;>
        simp only [generated, generated'] at normal
      · exact ⟨rfl, normal⟩
      · exact absurd normal (c.unionOf_enumAlternatives_ne values _)
      · exact absurd normal.symm (c'.unionOf_enumAlternatives_ne values' _)
      · exact ⟨rfl, List.singleton_inj.1 (TypeExpr.generic.inj normal).2⟩
    have alternatives := TypeExpr.unionOf_injective c.isAlternative_enum c'.isAlternative_enum
      unions.2
    obtain ⟨values, array, nullable⟩ := Column.enumAlternatives_inj alternatives
    exact ⟨values, array, nullable, unions.1⟩
  · rintro ⟨rfl, array, nullable, generated⟩
    rw [Column.wrap_eq, Column.wrap_eq, array, nullable, generated]

/-- A value that reads `null` is told from null, and one with a bar from two. -/
theorem text_eq_iff_of_null_value :
    Options.Enumerates {} {} { name := "t" }
        { name := "c", dataType := "text", enumValues := some ["a\" | \"b", "null"] }
        ["a\" | \"b", "null"] ∧
      Options.Enumerates {} {} { name := "t" }
        { name := "c", dataType := "text", isNullable := true, enumValues := some ["a", "b"] }
        ["a", "b"] ∧
      (columnTypeOf .sqlite {} {} { name := "t" }
          { name := "c", dataType := "text", enumValues := some ["a\" | \"b", "null"] }).render 0 ≠
        (columnTypeOf .sqlite {} {} { name := "t" }
          { name := "c", dataType := "text", isNullable := true,
            enumValues := some ["a", "b"] }).render 0 := by
  have quoted : Options.Enumerates {} {} { name := "t" }
      { name := "c", dataType := "text", enumValues := some ["a\" | \"b", "null"] }
      ["a\" | \"b", "null"] := ⟨rfl, rfl⟩
  have plain : Options.Enumerates {} {} { name := "t" }
      { name := "c", dataType := "text", isNullable := true, enumValues := some ["a", "b"] }
      ["a", "b"] := ⟨rfl, rfl⟩
  refine ⟨quoted, plain, fun same => ?_⟩
  have values := ((quoted.text_eq_iff plain .sqlite .sqlite 0).1 same).1
  revert values
  decide

end CatalogTypes
