import CatalogTypes.Catalog.Enrich
import Mathlib.Data.List.Forall2

/-!
# What enrichment changes

**Theorem (`Table.enrichment_laws`).** Enriching a table with one map of values and the result with
another is enriching it with the first map updated with the second, and doing it twice with one map
is doing it once.  Nothing changes but the values of the columns that the map has an entry for, and
the table stays the very same exactly if there is no such column.

A column is looked up by its name, which enrichment keeps, so what a column becomes depends on the
entry for its own name only (`Column.enrich_eq`).  The pass over the columns enriches each on its
own (`replaceColumns_eq`); all laws of tables follow from those of columns.
-/

namespace CatalogTypes

variable {values more : Keyed (List String)}

/-! ## Columns -/

namespace Column

theorem copy?_eq_none_iff {c : Column} :
    c.copy? values = none ↔ Text.lower c.name ∉ values.keys := by
  rw [← Keyed.has_iff_mem_keys, Keyed.has, copy?, valuesIn]
  cases values.find? (Text.lower c.name) <;> simp

/-- A column becomes what the entry for its name says, if there is one. -/
theorem enrich_eq (values : Keyed (List String)) (c : Column) :
    c.enrich values = { c with enumValues := (c.valuesIn values).or c.enumValues } := by
  rw [enrich, copy?]
  cases c.valuesIn values <;> rfl

theorem enrich_of_copy?_eq_none {c : Column} (h : c.copy? values = none) : c.enrich values = c := by
  rw [enrich, h]
  rfl

theorem valuesIn_enrich (values more : Keyed (List String)) (c : Column) :
    (c.enrich values).valuesIn more = c.valuesIn more := by
  rw [enrich_eq]
  rfl

theorem valuesIn_update (distinct : more.keys.Nodup) (c : Column) :
    c.valuesIn (values.update more) = (c.valuesIn more).or (c.valuesIn values) :=
  Keyed.find?_update distinct

/-- Of two entries for one column the later one counts. -/
theorem enrich_enrich (distinct : more.keys.Nodup) (c : Column) :
    (c.enrich values).enrich more = c.enrich (values.update more) := by
  rw [enrich_eq more, valuesIn_enrich, enrich_eq values, enrich_eq (values.update more),
    valuesIn_update distinct, Option.or_assoc]

theorem enrich_enrich_self (values : Keyed (List String)) (c : Column) :
    (c.enrich values).enrich values = c.enrich values := by
  rw [enrich_eq values (c.enrich values), valuesIn_enrich, enrich_eq values c, ← Option.or_assoc,
    Option.or_self]

/-- A column and what comes of it: only the values may differ, and they are those of the entry for
the column if there is one. -/
structure Enriched (values : Keyed (List String)) (old new : Column) : Prop where
  others : new = { old with enumValues := new.enumValues }
  values_of_key : ∀ permitted, values.find? (Text.lower old.name) = some permitted →
    new.enumValues = some permitted
  same_of_no_key : Text.lower old.name ∉ values.keys → new = old

theorem enriched_enrich (values : Keyed (List String)) (c : Column) :
    Enriched values c (c.enrich values) where
  others := by
    rw [enrich_eq]
  values_of_key permitted found := by
    rw [enrich_eq, valuesIn, found]
    rfl
  same_of_no_key absent := enrich_of_copy?_eq_none (copy?_eq_none_iff.2 absent)

end Column

/-! ## The pass over the columns -/

theorem replaceColumns_eq (values : Keyed (List String)) (columns : List Column) :
    replaceColumns values columns =
      (columns.map (Column.enrich values), columns.any fun c => (c.copy? values).isSome) := by
  induction columns with
  | nil => rfl
  | cons c rest ih =>
    rw [replaceColumns, ih, List.map_cons, List.any_cons, Column.enrich]
    cases c.copy? values <;> rfl

/-! ## Tables -/

namespace Table

theorem copy?_eq (values : Keyed (List String)) (t : Table) :
    t.copy? values =
      if ∀ c ∈ t.columns, c.copy? values = none then none
      else some { t with columns := t.columns.map (Column.enrich values) } := by
  have unmatched : (t.columns.any fun c => (c.copy? values).isSome) = true ↔
      ¬ ∀ c ∈ t.columns, c.copy? values = none := by
    simp [Option.isSome_iff_ne_none]
  rw [copy?, replaceColumns_eq]
  by_cases none_left : values.isEmpty = true
  · -- the empty map has an entry for no column
    have all : ∀ c ∈ t.columns, c.copy? values = none := by
      intro c _
      rw [Column.copy?_eq_none_iff, List.isEmpty_iff.1 none_left]
      exact List.not_mem_nil
    rw [if_pos none_left, if_pos all]
  · rw [if_neg none_left]
    dsimp only
    by_cases all : ∀ c ∈ t.columns, c.copy? values = none
    · rw [if_pos all, if_neg fun some_left => unmatched.1 some_left all]
    · rw [if_neg all, if_pos (unmatched.2 all)]

theorem copy?_eq_none_iff {t : Table} :
    t.copy? values = none ↔ ∀ c ∈ t.columns, Text.lower c.name ∉ values.keys := by
  rw [copy?_eq]
  simp only [Column.copy?_eq_none_iff]
  split <;> simp_all

/-- Enriching a table is enriching each of its columns. -/
theorem enrich_eq (values : Keyed (List String)) (t : Table) :
    t.enrich values = { t with columns := t.columns.map (Column.enrich values) } := by
  rw [enrich, copy?_eq]
  split
  next all =>
    have same : t.columns.map (Column.enrich values) = t.columns := by
      rw [List.map_congr_left fun c hc => Column.enrich_of_copy?_eq_none (all c hc)]
      exact List.map_id' t.columns
    rw [same]
    rfl
  next => rfl

theorem enrich_enrich (distinct : more.keys.Nodup) (t : Table) :
    (t.enrich values).enrich more = t.enrich (values.update more) := by
  simp only [enrich_eq, List.map_map, Function.comp_def, Column.enrich_enrich distinct]

theorem enrich_enrich_self (values : Keyed (List String)) (t : Table) :
    (t.enrich values).enrich values = t.enrich values := by
  simp only [enrich_eq, List.map_map, Function.comp_def, Column.enrich_enrich_self]

theorem forall₂_enriched (values : Keyed (List String)) (t : Table) :
    List.Forall₂ (Column.Enriched values) t.columns (t.enrich values).columns := by
  rw [enrich_eq, List.forall₂_map_right_iff]
  exact List.forall₂_same.2 fun c _ => Column.enriched_enrich values c

/-- **Enrichment with one map after another is enrichment with the maps merged; it sets the values
of the matching columns and nothing else, and it makes a copy exactly if a column matches.** -/
theorem enrichment_laws (t : Table) (values more : Keyed (List String))
    (distinct : more.keys.Nodup) :
    (t.enrich values).enrich more = t.enrich (values.update more) ∧
      (t.enrich values).enrich values = t.enrich values ∧
      t.enrich values = { t with columns := (t.enrich values).columns } ∧
      List.Forall₂ (Column.Enriched values) t.columns (t.enrich values).columns ∧
      (t.copy? values = none ↔ ∀ c ∈ t.columns, Text.lower c.name ∉ values.keys) := by
  refine ⟨enrich_enrich distinct t, enrich_enrich_self values t, ?_, forall₂_enriched values t,
    copy?_eq_none_iff⟩
  rw [enrich_eq]

/-- A column whose name is spelled in another case takes the entry of the later map. -/
theorem enrichment_laws_two_maps :
    (Keyed.keys [("kind", ["c"]), ("status", ["b"])]).Nodup ∧
      (Table.enrich [("status", ["a"])]
          { name := "t", columns := [{ name := "id", dataType := "INTEGER" },
            { name := "Status", dataType := "TEXT", comment := some "the state" }] }).enrich
        [("kind", ["c"]), ("status", ["b"])] =
      { name := "t", columns := [{ name := "id", dataType := "INTEGER" },
        { name := "Status", dataType := "TEXT", comment := some "the state",
          enumValues := some ["b"] }] } := by
  have distinct : (Keyed.keys [("kind", ["c"]), ("status", ["b"])]).Nodup := by decide
  refine ⟨distinct, ?_⟩
  rw [(enrichment_laws _ [("status", ["a"])] _ distinct).1]
  decide

end Table

end CatalogTypes
