import CatalogTypes.Catalog.Basic
import CatalogTypes.Text.Blank
import Mathlib.Data.List.Basic
import Mathlib.Data.List.Induction

/-!
# Enumerated types under their keys

**Theorem (`EnumTypes.get_ofRows`).** A type that has a row is found with the values of all rows
that have its key, in their order, whatever comes between them.  These are the values of its own
rows exactly if no row of another type has the same key, as is so among types whose names are in
lowercase and whose schemas have no dot in their names.

A key is a text in which schema and name are put together, so two types may share one: names that
differ in case only do, and so do a schema with a dot in its name and one without.

The table of keys is built row by row, and a row changes what stands under its own key only
(`find?_ofRows`).
-/

namespace CatalogTypes.EnumTypes

/-- The key of the type that a row belongs to. -/
def rowKey (row : Option String × String × String) : String := key row.2.1 row.1

/-- The values of the rows that have a key, in order. -/
def valuesUnder (rows : List (Option String × String × String)) (k : String) : List String :=
  (rows.filter (rowKey · = k)).map (·.2.2)

/-- The values of the rows of a type, which is given by its schema and its name, in order. -/
def valuesOf (rows : List (Option String × String × String)) (type : Option String × String) :
    List String :=
  (rows.filter fun row => (row.1, row.2.1) = type).map (·.2.2)

/-- No row of another type has the key of this one. -/
def HasOwnKey (rows : List (Option String × String × String)) (type : Option String × String) :
    Prop :=
  ∀ row ∈ rows, rowKey row = key type.2 type.1 → (row.1, row.2.1) = type

/-- A type in a schema, with names as they are without quotation marks: in lowercase, and with no
dot in the name of the schema. -/
def IsFolded (type : Option String × String) : Prop :=
  ∃ schema : String, type.1 = some schema ∧ schema ≠ "" ∧ '.' ∉ schema.toList ∧
    key type.2 type.1 = schema ++ "." ++ type.2

/-! ## The table of keys -/

variable {rows : List (Option String × String × String)} {type other : Option String × String}

theorem valuesUnder_append (rows : List (Option String × String × String))
    (row : Option String × String × String) (k : String) :
    valuesUnder (rows ++ [row]) k = valuesUnder rows k ++ if rowKey row = k then [row.2.2] else [] := by
  by_cases same : rowKey row = k <;> simp [valuesUnder, same]

theorem ofRows_append (rows : List (Option String × String × String))
    (row : Option String × String × String) :
    (ofRows (rows ++ [row])).entries = addValue (ofRows rows).entries (rowKey row) row.2.2 := by
  simp [ofRows, rowKey]

/-- **What stands under a key are the values of the rows that have it.** -/
theorem find?_ofRows (rows : List (Option String × String × String)) (k : String) :
    (ofRows rows).entries.find? k =
      if valuesUnder rows k = [] then none else some (valuesUnder rows k) := by
  induction rows using List.reverseRecOn with
  | nil => rfl
  | append_singleton rows row ih =>
    rw [ofRows_append, valuesUnder_append, addValue]
    by_cases same : rowKey row = k
    · subst same
      rw [Keyed.find?_set_self, ih]
      by_cases first : valuesUnder rows (rowKey row) = [] <;> simp [first]
    · simp [Keyed.find?_set_of_ne _ _ same, ih, same]

/-! ## The values of a type -/

theorem get_of_mem {value : String} (there : (type.1, type.2, value) ∈ rows) :
    (ofRows rows).get type.2 type.1 = some (valuesUnder rows (key type.2 type.1)) := by
  have inside : value ∈ valuesUnder rows (key type.2 type.1) :=
    List.mem_map.2 ⟨_, List.mem_filter.2 ⟨there, decide_eq_true rfl⟩, rfl⟩
  rw [get, find?_ofRows, if_neg (List.ne_nil_of_mem inside)]

theorem rowKey_of_type {row : Option String × String × String} (h : (row.1, row.2.1) = type) :
    rowKey row = key type.2 type.1 := by
  rw [← h, rowKey]

/-- A type is found with its own values only where its key is its own. -/
theorem valuesUnder_eq_valuesOf_iff :
    valuesUnder rows (key type.2 type.1) = valuesOf rows type ↔ HasOwnKey rows type := by
  constructor
  · intro same row inside shares
    -- the rows of the type are among those that have its key, and as many
    have among : (rows.filter fun row => (row.1, row.2.1) = type).Sublist
        (rows.filter (rowKey · = key type.2 type.1)) :=
      List.monotone_filter_right rows fun row own =>
        decide_eq_true (rowKey_of_type (of_decide_eq_true own))
    have equal := among.eq_of_length (by simpa [valuesUnder, valuesOf] using
      (congrArg List.length same).symm)
    have kept : row ∈ rows.filter (rowKey · = key type.2 type.1) :=
      List.mem_filter.2 ⟨inside, decide_eq_true shares⟩
    rw [← equal] at kept
    exact of_decide_eq_true (List.mem_filter.1 kept).2
  · intro own
    refine congrArg (List.map _) (List.filter_congr fun row inside => ?_)
    exact decide_eq_decide.2 ⟨own row inside, rowKey_of_type⟩

/-! ## Keys that tell types apart -/

theorem IsFolded.eq_of_key (h : IsFolded type) (g : IsFolded other)
    (same : key type.2 type.1 = key other.2 other.1) : type = other := by
  obtain ⟨schema, here, -, plain, lower⟩ := h
  obtain ⟨schema', here', -, plain', lower'⟩ := g
  obtain ⟨s, n⟩ := type
  obtain ⟨s', n'⟩ := other
  obtain rfl : s = some schema := here
  obtain rfl : s' = some schema' := here'
  have texts : schema.toList ++ '.' :: n.toList = schema'.toList ++ '.' :: n'.toList := by
    have joined := congrArg String.toList (lower.symm.trans (same.trans lower'))
    simpa using joined
  obtain ⟨front, back⟩ := Text.cut_at plain n.toList
  obtain ⟨front', back'⟩ := Text.cut_at plain' n'.toList
  have schemas : schema.toList = schema'.toList := by
    rw [← front, texts, front']
  have names : '.' :: n.toList = '.' :: n'.toList := by
    rw [← back, texts, back']
  rw [String.toList_inj.1 schemas, String.toList_inj.1 (List.cons.inj names).2]

/-- **A type is found with the values of the rows that have its key**, and with those of its own
rows exactly if the key is its own. -/
theorem get_ofRows {value : String} (there : (type.1, type.2, value) ∈ rows) :
    (ofRows rows).get type.2 type.1 = some (valuesUnder rows (key type.2 type.1)) ∧
      ((ofRows rows).get type.2 type.1 = some (valuesOf rows type) ↔ HasOwnKey rows type) ∧
      ((∀ row ∈ rows, IsFolded (row.1, row.2.1)) → HasOwnKey rows type) := by
  have found := get_of_mem there
  refine ⟨found, ?_, ?_⟩
  · rw [found, Option.some.injEq, valuesUnder_eq_valuesOf_iff]
  · intro folded row inside shares
    exact (folded row inside).eq_of_key (folded _ there) shares

/-- Rows of two types of one name in two schemas, mixed. -/
def mixedRows : List (Option String × String × String) :=
  [(some "public", "mood", "sad"), (some "app", "mood", "calm"), (some "public", "mood", "happy")]

theorem get_ofRows_mixed :
    (some "public", "mood", "sad") ∈ mixedRows ∧
      (∀ row ∈ mixedRows, IsFolded (row.1, row.2.1)) ∧
      (ofRows mixedRows).get "mood" (some "public") = some ["sad", "happy"] := by
  have there : (some "public", "mood", "sad") ∈ mixedRows := List.mem_cons_self
  have folded : ∀ row ∈ mixedRows, IsFolded (row.1, row.2.1) := by
    intro row inside
    simp only [mixedRows, List.mem_cons, List.not_mem_nil, or_false] at inside
    rcases inside with rfl | rfl | rfl
    · exact ⟨"public", rfl, by decide, by decide, by decide⟩
    · exact ⟨"app", rfl, by decide, by decide, by decide⟩
    · exact ⟨"public", rfl, by decide, by decide, by decide⟩
  obtain ⟨-, own, alone⟩ := @get_ofRows mixedRows (some "public", "mood") "sad" there
  exact ⟨there, folded, (own.2 (alone folded)).trans (by decide)⟩

/-- Two types whose names differ in case only have one key, under which their values are mixed. -/
theorem names_in_two_cases_share_values :
    ¬ ∀ (rows : List (Option String × String × String)) (schema name value : String),
      schema ≠ "" → (some schema, name, value) ∈ rows →
        (ofRows rows).get name (some schema) = some (valuesOf rows (some schema, name)) := by
  intro never_mixed
  have mixed := never_mixed [(some "public", "Mood", "a"), (some "public", "mood", "b")]
    "public" "mood" "b" (by decide) (by decide)
  exact absurd mixed (by decide)

end CatalogTypes.EnumTypes
