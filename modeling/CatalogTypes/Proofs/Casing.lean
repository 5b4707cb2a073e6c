import CatalogTypes.Transform

/-!
# The casing of keys

**Theorem (`transform_camelCase`).** A module with keys in camel case is the module with kept keys
in which every property of every interface has its key put into camel case, and nothing else is
different.

What the columns' types are and what they need does not depend on the casing.  The one key that is
put together from parts is that of a table in a schema, where the parts are converted before they
are joined.  A point is neither an underscore nor a letter or digit, so no underscore is joined
across it and the key may as well be converted as a whole (`camelCase_qualified`).
-/

namespace CatalogTypes

namespace Naming

/-! ## Keys made of parts -/

/-- The scan starts afresh behind a character that is no part of a word. -/
theorem joinedAtUnderscores_append_cons {d : Char} (underscore : d ≠ '_')
    (alphanum : d.isAlphanum = false) (state : Option Nat) (xs ys : List Char) :
    joinedAtUnderscores state (xs ++ d :: ys) =
      joinedAtUnderscores state xs ++ d :: joinedAtUnderscores none ys := by
  induction xs generalizing state with
  | nil =>
    -- underscores before the separator stay, as they do at the end of a name
    cases state <;> simp [joinedAtUnderscores, underscore, alphanum]
  | cons c xs ih =>
    rw [List.cons_append]
    cases state with
    | none => rw [joinedAtUnderscores, joinedAtUnderscores, ih, List.cons_append]
    | some n =>
      rw [joinedAtUnderscores, joinedAtUnderscores]
      by_cases hc : c = '_'
      · rw [if_pos hc, if_pos hc, ih]
      · rw [if_neg hc, if_neg hc]
        by_cases word : c.isAlphanum = true
        · rw [if_pos word, if_pos word, ih, List.cons_append]
        · rw [if_neg word, if_neg word, ih, List.append_assoc, List.cons_append]

theorem camelCase_qualified (s t : String) :
    camelCase (s ++ "." ++ t) = camelCase s ++ "." ++ camelCase t := by
  have point : (s ++ "." ++ t).toList = s.toList ++ '.' :: t.toList := by simp
  have parts : camelChars (s.toList ++ '.' :: t.toList) =
      camelChars s.toList ++ '.' :: camelChars t.toList :=
    joinedAtUnderscores_append_cons (by decide) (by decide) none _ _
  apply String.toList_injective
  rw [camelCase, point, parts]
  simp [camelCase]

end Naming

theorem Adapter.tableKey_camelCase (a : Adapter) (t : Table) :
    a.tableKey true t = Naming.camelCase (a.tableKey false t) := by
  unfold tableKey
  cases t.schemaName with
  | none => rfl
  | some s =>
    by_cases qualified : a.qualifies (some s) = true
    · simp only [if_pos qualified]
      exact (Naming.camelCase_qualified s t.name).symm
    · simp only [if_neg qualified]
      rfl

/-! ## Interfaces -/

/-- An interface with the keys of its own properties in camel case. -/
def Interface.camelKeys (i : Interface) : Interface :=
  { i with properties := i.properties.map fun p => { p with key := Naming.camelCase p.key } }

/-- A statement with the keys of the interface that it declares in camel case. -/
def Statement.camelKeys : Statement → Statement
  | .exporting (.interface i) => .exporting (.interface i.camelKeys)
  | s => s

theorem tableInterface_camelCase (a : Adapter) (o : Options) (enums : EnumTypes) (t : Table) :
    tableInterface a { o with camelCase := true } enums t =
      (tableInterface a { o with camelCase := false } enums t).camelKeys := by
  rw [tableInterface, tableInterface, Interface.camelKeys, List.map_map]
  rfl

theorem databaseInterfaceOf_camelCase (a : Adapter) (o : Options) (tables : List Table) :
    databaseInterfaceOf a { o with camelCase := true } tables =
      (databaseInterfaceOf a { o with camelCase := false } tables).camelKeys := by
  rw [databaseInterfaceOf, databaseInterfaceOf, Interface.camelKeys, List.map_map]
  congr 1
  refine List.map_congr_left fun t _ => ?_
  rw [a.tableKey_camelCase]
  rfl

/-! ## Modules -/

/-- What a module needs does not depend on the casing of its keys. -/
theorem usageOf_columnTypes_camelCase (a : Adapter) (o : Options) (enums : EnumTypes)
    (tables : List Table) (camel : Bool) :
    usageOf a { o with camelCase := camel }
        (columnTypes a { o with camelCase := camel } enums tables) =
      usageOf a o (columnTypes a o enums tables) := rfl

/-- **The casing changes the keys of the interfaces and nothing else.** -/
theorem transform_camelCase (a : Adapter) (o : Options) (db : Database) :
    transform a { o with camelCase := true } db =
      (transform a { o with camelCase := false } db).map Statement.camelKeys := by
  have imports : ∀ s : ImportStatement, (Statement.importing s).camelKeys = .importing s :=
    fun _ => rfl
  have aliases : ∀ u : Usage, ((helperDeclarations a u).map Statement.exporting).map
      Statement.camelKeys = (helperDeclarations a u).map .exporting := by
    intro u
    rw [List.map_map]
    refine List.map_congr_left fun d hd => ?_
    obtain ⟨n, -, found⟩ := List.mem_filterMap.1 hd
    obtain ⟨h, -, rfl⟩ := Option.map_eq_some_iff.1 found
    rfl
  have interfaces : ∀ i, (Statement.exporting (.interface i)).camelKeys =
      .exporting (.interface i.camelKeys) := fun _ => rfl
  simp only [transform, usageOf_columnTypes_camelCase, tableInterface_camelCase,
    databaseInterfaceOf_camelCase, List.map_append, aliases, List.map_map, Function.comp_def,
    imports, interfaces, List.map_cons, List.map_nil]

end CatalogTypes
