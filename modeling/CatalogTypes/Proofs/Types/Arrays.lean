import CatalogTypes.Proofs.Types.Unambiguous
import CatalogTypes.Resolve.Column

/-!
# Arrays of mapped types

Square brackets behind a type bind tighter than the bars of a union: they belong to its last
alternative alone, unless parentheses hold the alternatives together.

**Theorem (`Options.MapsText.element_iff`).** The type of an array column that the type mapping
gives a text is the array of that text as a whole exactly if no bar of the text is outside quotes
and brackets.  For the text is an expression of its own kind, which is written without parentheses
whatever it says.  The text of a JSON column is held together by its wrapper
(`not_isBarred_jsonColumn`), and a union that is built as one by its parentheses
(`TypeExpr.Normal.bindsTo_array`).
-/

namespace CatalogTypes

/-! ## What square brackets bind to -/

/-- A bar of a text is outside quotes and brackets: the text is a union of several alternatives. -/
def IsBarred (s : String) : Prop := 1 < (parts '|' {} s.toList).length

instance (s : String) : Decidable (IsBarred s) :=
  inferInstanceAs (Decidable (1 < (parts '|' {} s.toList).length))

/-- The square brackets at the end of a text bind to the given piece: with them it is the last
alternative. -/
def BindsTo (s piece : String) : Prop :=
  (parts '|' {} s.toList).getLast? = some (piece ++ "[]").toList

instance (s piece : String) : Decidable (BindsTo s piece) :=
  inferInstanceAs (Decidable ((parts '|' {} s.toList).getLast? = some (piece ++ "[]").toList))

/-- The square brackets at the end of a text bind to a type as a whole, which may be in
parentheses. -/
def BindsToAll (s type : String) : Prop := BindsTo s type ∨ BindsTo s ("(" ++ type ++ ")")

/-- The parts of a text are no longer than the text without the marks. -/
theorem length_parts (mark : Char) (r : TypeReading) (cs : List Char) :
    (parts mark r cs).flatten.length + (parts mark r cs).length = cs.length + 1 := by
  induction cs generalizing r with
  | nil => rfl
  | cons c cs ih =>
    have others := ih (r.next c)
    rw [parts]
    split
    · simp only [List.flatten_cons, List.nil_append, List.length_cons]
      omega
    · cases rest : parts mark (r.next c) cs with
      | nil => exact absurd rest (parts_ne_nil mark (r.next c) cs)
      | cons part more =>
        rw [rest] at others
        simp only [List.modifyHead_cons, List.flatten_cons, List.length_append,
          List.length_cons] at others ⊢
        omega

/-- A text with one part is the part. -/
theorem whole_of_length {mark : Char} {r : TypeReading} {cs : List Char}
    (single : (parts mark r cs).length = 1) : Whole mark r cs := by
  induction cs generalizing r with
  | nil => rfl
  | cons c cs ih =>
    by_cases ends : (r.isOutside && c = mark) = true
    · rw [parts, if_pos ends] at single
      exact absurd (by simpa using single) (parts_ne_nil mark (r.next c) cs)
    · rw [parts, if_neg ends, List.length_modifyHead] at single
      exact whole_cons_iff.2 ⟨by simpa using ends, ih single⟩

theorem whole_of_notMem {mark : Char} {cs : List Char} (absent : mark ∉ cs) (r : TypeReading) :
    Whole mark r cs := by
  induction cs generalizing r with
  | nil => rfl
  | cons c cs ih =>
    obtain ⟨other, later⟩ := List.ne_and_not_mem_of_not_mem_cons absent
    exact whole_cons_iff.2 ⟨by simp [Ne.symm other], ih later (r.next c)⟩

/-- What follows without a mark belongs to the last part. -/
theorem exists_parts_append (mark : Char) (r : TypeReading) (cs : List Char) :
    ∃ front last, ∀ ds, mark ∉ ds → parts mark r (cs ++ ds) = front ++ [last ++ ds] := by
  induction cs generalizing r with
  | nil => exact ⟨[], [], fun ds absent => whole_of_notMem absent r⟩
  | cons c cs ih =>
    obtain ⟨front, last, rest⟩ := ih (r.next c)
    by_cases ends : (r.isOutside && c = mark) = true
    · refine ⟨[] :: front, last, fun ds absent => ?_⟩
      rw [List.cons_append, parts, if_pos ends, rest ds absent]
      rfl
    · cases front with
      | nil =>
        refine ⟨[], c :: last, fun ds absent => ?_⟩
        rw [List.cons_append, parts, if_neg ends, rest ds absent]
        rfl
      | cons first front =>
        refine ⟨(c :: first) :: front, last, fun ds absent => ?_⟩
        rw [List.cons_append, parts, if_neg ends, rest ds absent]
        rfl

/-- Square brackets behind a text bind to its last alternative. -/
theorem exists_bindsTo (s : String) :
    ∃ front last, parts '|' {} s.toList = front ++ [last] ∧
      ∀ piece, BindsTo (s ++ "[]") piece ↔ last = piece.toList := by
  obtain ⟨front, last, rest⟩ := exists_parts_append '|' {} s.toList
  refine ⟨front, last, by simpa using rest [] (by simp), fun piece => ?_⟩
  have behind : parts '|' {} (s ++ "[]").toList = front ++ [last ++ ['[', ']']] := by
    simpa using rest ['[', ']'] (by decide)
  unfold BindsTo
  rw [behind, List.getLast?_concat]
  simp

theorem bindsTo_of_not_isBarred {s : String} (h : ¬ IsBarred s) : BindsTo (s ++ "[]") s := by
  obtain ⟨front, last, alone, binds⟩ := exists_bindsTo s
  have single : (parts '|' {} s.toList).length = 1 := by
    unfold IsBarred at h
    rw [alone, List.length_append, List.length_singleton] at h ⊢
    omega
  have whole : parts '|' {} s.toList = [s.toList] := whole_of_length single
  have ends := congrArg List.getLast? (alone.symm.trans whole)
  rw [List.getLast?_concat] at ends
  exact (binds s).2 (Option.some.inj ends)

/-- Square brackets behind a text bind to all of it exactly if it has one alternative. -/
theorem bindsToAll_brackets_iff (s : String) : BindsToAll (s ++ "[]") s ↔ ¬ IsBarred s := by
  constructor
  · obtain ⟨front, last, alone, binds⟩ := exists_bindsTo s
    have lengths := length_parts '|' {} s.toList
    unfold BindsToAll IsBarred
    rw [binds, binds, alone]
    simp only [alone, List.flatten_append, List.flatten_cons, List.flatten_nil,
      List.length_append, List.length_cons, List.length_nil] at lengths ⊢
    -- the last alternative is as long as the text only if there is no other
    rintro (same | same)
    · rw [same] at lengths
      omega
    · have longer : last.length = s.toList.length + 2 := by simp [same]
      omega
  · intro single
    exact .inl (bindsTo_of_not_isBarred single)

theorem IsPart.not_isBarred {s : String} (h : IsPart '|' s.toList) : ¬ IsBarred s := by
  unfold IsBarred
  rw [h.whole]
  simp

/-! ## The type mapping -/

/-- The type mapping gives a column a text, without the blanks around it.  Neither an override nor
enumerated values are in its way. -/
structure Options.MapsText (o : Options) (enums : EnumTypes) (t : Table) (c : Column)
    (text : String) : Prop where
  override : o.overrideFor t c = none
  values : c.enumerated enums = none
  entry : ∃ mapped, o.typeMapping.find? (Text.lower c.dataType) = some mapped ∧
    Text.trim mapped = text

/-- Whether a mapped text is that of a JSON column: of an object or tuple type, for a column of
JSON. -/
def isJsonColumn (dataType text : String) : Bool :=
  (text.toList.head?.map fun c => c = '{' || c = '[').getD false &&
    jsonDataTypes.contains dataType

/-- A mapped text as it is written. -/
def mappedText (dataType text : String) : String :=
  if isJsonColumn dataType text then "JSONColumnType<" ++ text ++ ">" else text

theorem render_mappedType (dataType mapped : String) (depth : Nat) :
    (mappedType dataType mapped).render depth = mappedText dataType (Text.trim mapped) := by
  unfold mappedType mappedText isJsonColumn
  dsimp only
  cases (Text.trim mapped).toList.head? with
  | none => rfl
  | some c =>
    by_cases braced : (c = '{' || c = '[') = true
    · cases json : jsonDataTypes.contains dataType <;> simp [braced] <;> rfl
    · simp [braced]
      rfl

/-- A mapped type is no union, whatever its text says. -/
theorem isWideUnion_mappedType (dataType mapped : String) :
    (mappedType dataType mapped).isWideUnion = false := by
  unfold mappedType
  dsimp only
  split
  · split_ifs <;> rfl
  · rfl

/-- A type as the flags of a column write it around the text of an array. -/
def Column.flagged (c : Column) (s : String) : String :=
  let s := if c.isNullable then s ++ " | null" else s
  if c.hasDefaultValue || c.isAutoIncrementing then "Generated<" ++ s ++ ">" else s

theorem Column.render_wrap {c : Column} (array : c.isArray = true) (e : TypeExpr) (depth : Nat) :
    (c.wrap e).render depth = c.flagged ((TypeExpr.array e).render depth) := by
  have joined : (TypeExpr.array e).orNull.render depth =
      (TypeExpr.array e).render depth ++ " | null" := by
    show (TypeExpr.array e).render depth ++ " | " ++ "null" = _
    rw [String.append_assoc]
    rfl
  have generated (f : TypeExpr) : (TypeExpr.generic generatedWrapper [f]).render depth =
      "Generated<" ++ f.render depth ++ ">" := rfl
  unfold Column.wrap Column.flagged
  simp only [array, if_true]
  split_ifs
  · rw [generated, joined]
  · rw [generated]
  · rw [joined]
  · rfl

/-! ## The element of the array -/

/-- **The array of a mapped text is that of the text as a whole exactly if no bar of it is outside
quotes and brackets.** -/
theorem Options.MapsText.element_iff {o : Options} {enums : EnumTypes} {t : Table} {c : Column}
    {text : String} (h : o.MapsText enums t c text) (array : c.isArray = true) (a : Adapter)
    (depth : Nat) :
    ∃ s, (columnTypeOf a o enums t c).render depth = c.flagged s ∧
      (BindsToAll s (mappedText (Text.lower c.dataType) text) ↔
        ¬ IsBarred (mappedText (Text.lower c.dataType) text)) := by
  obtain ⟨mapped, found, rfl⟩ := h.entry
  have type : columnTypeOf a o enums t c = c.wrap (mappedType (Text.lower c.dataType) mapped) := by
    unfold columnTypeOf Column.baseType
    simp only [h.override, h.values, found]
  refine ⟨mappedText (Text.lower c.dataType) (Text.trim mapped) ++ "[]", ?_,
    bindsToAll_brackets_iff _⟩
  rw [type, Column.render_wrap array, TypeExpr.render_array, TypeExpr.renderElement,
    isWideUnion_mappedType, if_neg Bool.false_ne_true, render_mappedType]

theorem element_iff_of_mapped_union :
    Options.MapsText { typeMapping := [("text", " string | number ")] } {}
        { name := "items" } { name := "tags", dataType := "TEXT", isArray := true }
        "string | number" ∧
      ∃ s, (columnTypeOf .postgres { typeMapping := [("text", " string | number ")] } {}
          { name := "items" } { name := "tags", dataType := "TEXT", isArray := true }).render 0 =
            Column.flagged { name := "tags", dataType := "TEXT", isArray := true } s ∧
        (BindsToAll s (mappedText (Text.lower "TEXT") "string | number") ↔
          ¬ IsBarred (mappedText (Text.lower "TEXT") "string | number")) := by
  have maps : Options.MapsText { typeMapping := [("text", " string | number ")] } {}
      { name := "items" } { name := "tags", dataType := "TEXT", isArray := true }
      "string | number" := ⟨by decide, by decide, " string | number ", by decide, by decide⟩
  exact ⟨maps, maps.element_iff rfl .postgres 0⟩

/-- A mapped union is written without parentheses: only its last alternative becomes an array. -/
theorem mapped_union_is_not_grouped :
    (columnTypeOf .postgres { typeMapping := [("text", "string | number")] } {}
        { name := "items" } { name := "tags", dataType := "text", isArray := true }).render 0 =
          "string | number[]" ∧
      IsBarred "string | number" ∧ ¬ BindsToAll "string | number[]" "string | number" := by
  refine ⟨by decide, by decide, ?_⟩
  unfold BindsToAll
  decide

/-! ## Texts that are held together -/

/-- The angle brackets of its wrapper hold the text of a JSON column together. -/
theorem not_isBarred_jsonColumn {text : String} (h : Closed text.toList) :
    ¬ IsBarred ("JSONColumnType<" ++ text ++ ">") := by
  have name : IsPart '|' "JSONColumnType".toList :=
    .of_isOrdinary (List.all_eq_true.1 rfl) (by decide)
  have whole : IsPart '|' ("JSONColumnType".toList ++ '<' :: (text.toList ++ ['>'])) :=
    name.append (h.isPart_bracketed rfl rfl (by decide))
  have written : ("JSONColumnType<" ++ text ++ ">").toList =
      "JSONColumnType".toList ++ '<' :: (text.toList ++ ['>']) := by simp
  rw [← written] at whole
  exact whole.not_isBarred

/-- A union that is built as one is in parentheses in an array. -/
theorem TypeExpr.Normal.bindsTo_array {e : TypeExpr} (h : e.Normal) (depth : Nat) :
    BindsToAll ((TypeExpr.array e).render depth) (e.render depth) := by
  have element : IsPart '|' (e.renderElement depth).toList :=
    isPart_renderElement (h.isPart depth).1.closed (by decide) fun narrow =>
      (h.isPart depth).2 (by rwa [← h.isWideUnion_eq])
  have binds := bindsTo_of_not_isBarred element.not_isBarred
  rw [TypeExpr.render_array]
  unfold TypeExpr.renderElement at binds ⊢
  cases wide : e.isWideUnion with
  | true =>
    rw [wide] at binds
    exact .inr binds
  | false =>
    rw [wide] at binds
    exact .inl binds

end CatalogTypes
