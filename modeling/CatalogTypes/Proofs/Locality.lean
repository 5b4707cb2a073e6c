import CatalogTypes.Catalog.Filter
import CatalogTypes.Proofs.Order
import Mathlib.Data.List.Sort

/-!
# The module of some of the tables

**Theorem (`transform_of_sublist`).** The module of some tables of a catalog declares nothing that
the module of the whole catalog does not declare in the same way.  A table keeps its interface and
its property in the interface of the database, and the tables keep their order; every import clause
and every helper is one of the whole module.

The type of a column is a function of the column, and sorting is stable, so the tables are no
matter.  The imports and helpers come from two traversals with different histories.  They are
compared through what they compute: each holds what its tables need, and what is needed can only
grow with what is shown (`Demand.Within.needs`).
-/

namespace CatalogTypes

/-! ## Demands that grow -/

namespace Demand

/-- All that one demand shows is shown by the other, and a name stands for the same in both. -/
structure Within (d e : Demand) : Prop where
  helpers : d.helpers = e.helpers
  importable : d.importable = e.importable
  shown : ∀ n, d.shown n → e.shown n

variable {d e : Demand}

theorem Within.standsFor (h : d.Within e) {n : String} {g : Helper} (stands : d.StandsFor n g) :
    e.StandsFor n g := by
  rw [StandsFor, ← h.helpers, ← h.importable]
  exact stands

theorem Within.needs (h : d.Within e) {n : String} (needed : d.Needs n) : e.Needs n := by
  induction needed with
  | shown hn => exact .shown (h.shown _ hn)
  | behind _ stands depends ih => exact .behind ih (h.standsFor stands) depends

theorem Within.needsImport (h : d.Within e) {n : String} (needed : d.NeedsImport n) :
    e.NeedsImport n := by
  obtain ⟨i, needed | ⟨m, needed, ni, dot, segment⟩⟩ := needed
  · exact ⟨h.importable ▸ i, .inl (h.needs needed)⟩
  · exact ⟨h.importable ▸ i, .inr ⟨m, h.needs needed, h.importable ▸ ni, dot, segment⟩⟩

theorem Within.needsHelper (h : d.Within e) {n : String} (needed : d.NeedsHelper n) :
    e.NeedsHelper n := by
  obtain ⟨needed, g, stands⟩ := needed
  exact ⟨h.needs needed, g, h.standsFor stands⟩

end Demand

theorem demandOf_within (a : Adapter) (o : Options) {out out' : List Statement}
    (h : (tableInterfacesOf out).Sublist (tableInterfacesOf out')) :
    (demandOf a o out).Within (demandOf a o out') where
  helpers := rfl
  importable := rfl
  shown n hn := by
    obtain ⟨i, hi, mentions⟩ := hn
    exact ⟨i, h.subset hi, mentions⟩

/-! ## Some of the tables -/

section

variable (a : Adapter) (o : Options) (enums : EnumTypes) {part whole : List Table}

theorem tableInterfacesOf_sublist (h : part.Sublist whole) :
    (tableInterfacesOf (transform a o ⟨part, enums⟩)).Sublist
      (tableInterfacesOf (transform a o ⟨whole, enums⟩)) := by
  rw [tableInterfacesOf_transform, tableInterfacesOf_transform]
  exact (mergeSort_key_sublist a.typeName h).map _

theorem within_of_sublist (h : part.Sublist whole) :
    (demandOf a o (transform a o ⟨part, enums⟩)).Within
      (demandOf a o (transform a o ⟨whole, enums⟩)) :=
  demandOf_within a o (tableInterfacesOf_sublist a o enums h)

/-- What some tables ask for, all of them ask for, and from the same place. -/
theorem mem_requested_of_sublist (h : part.Sublist whole) {n : String} {source : Specifier}
    (asked : (n, source) ∈ (usageFor a o ⟨part, enums⟩).registry.requested) :
    (n, source) ∈ (usageFor a o ⟨whole, enums⟩).registry.requested := by
  have inv := inv_usageFor a o ⟨part, enums⟩
  have inv' := inv_usageFor a o ⟨whole, enums⟩
  have needed := inv.mem_requested_iff.1 (List.mem_map_of_mem asked)
  have asked' := inv'.mem_requested_iff.2 ((within_of_sublist a o enums h).needsImport needed)
  obtain ⟨⟨n', source'⟩, mem, rfl⟩ := List.mem_map.1 asked'
  -- both registries took the name from the one table of sources
  have found : some source = some source' := (inv.sources _ asked).symm.trans (inv'.sources _ mem)
  rwa [Option.some.inj found]

theorem exists_clause_of_sublist (h : part.Sublist whole) :
    ∀ s ∈ importsOf (transform a o ⟨part, enums⟩), ∀ c ∈ s.clauses,
      ∃ s' ∈ importsOf (transform a o ⟨whole, enums⟩),
        s'.moduleName = s.moduleName ∧ c ∈ s'.clauses := by
  rw [importsOf_transform, importsOf_transform]
  intro s hs c hc
  obtain ⟨source, asked, hmodule, hclause⟩ := Registry.clause_of_mem_statements hs hc
  obtain ⟨s', hs', hmodule', hc'⟩ := Registry.exists_statement_of_mem_requested
    (mem_requested_of_sublist a o enums h asked)
  exact ⟨s', hs', hmodule'.trans hmodule.symm, hclause ▸ hc'⟩

theorem aliasesOf_sublist (h : part.Sublist whole) :
    (aliasesOf (transform a o ⟨part, enums⟩)).Sublist
      (aliasesOf (transform a o ⟨whole, enums⟩)) := by
  rw [aliasesOf_transform, aliasesOf_transform]
  have inv := inv_usageFor a o ⟨part, enums⟩
  have inv' := inv_usageFor a o ⟨whole, enums⟩
  have sorted := pairwise_helperNames inv.helpers_nodup
  have sorted' := pairwise_helperNames inv'.helpers_nodup
  have names : helperNames (usageFor a o ⟨part, enums⟩) ⊆
      helperNames (usageFor a o ⟨whole, enums⟩) := by
    intro n hn
    rw [helperNames, List.mem_mergeSort] at hn ⊢
    exact inv'.mem_helpers_iff.2
      ((within_of_sublist a o enums h).needsHelper (inv.mem_helpers_iff.1 hn))
  have among := List.subperm_of_subset sorted.nodup names
  exact (List.sublist_of_subperm_of_pairwise among sorted sorted').filterMap _

end

/-! ## Modules -/

/-- The properties of the interface of the database. -/
def databasePropertiesOf (out : List Statement) : List Property :=
  (databaseInterfacesOf out).flatMap Interface.properties

/-- The property of a table in the interface of the database. -/
def tableProperty (a : Adapter) (o : Options) (t : Table) : Property where
  key := a.tableKey o.camelCase t
  value := .table (a.typeName t)

theorem databasePropertiesOf_transform (a : Adapter) (o : Options) (db : Database) :
    databasePropertiesOf (transform a o db) =
      (a.sortTables db.tables).map (tableProperty a o) := by
  rw [databasePropertiesOf, databaseInterfacesOf_transform, List.flatMap_singleton]
  rfl

/-- A module of some tables restricts that of all: it is the other one without declarations, and
those that remain are the same. -/
structure Restricts (a : Adapter) (o : Options) (enums : EnumTypes) (part whole : List Table)
    (out out' : List Statement) : Prop where
  /-- The tables come in the same order, with the same interfaces and the same properties in the
  interface of the database. -/
  tables : ∃ order order' : List Table, order.Perm part ∧ order'.Perm whole ∧
    order.Sublist order' ∧
    tableInterfacesOf out = order.map (tableInterface a o enums) ∧
    tableInterfacesOf out' = order'.map (tableInterface a o enums) ∧
    databasePropertiesOf out = order.map (tableProperty a o) ∧
    databasePropertiesOf out' = order'.map (tableProperty a o)
  /-- Every import clause is one of the whole module, from the same place. -/
  clauses : ∀ s ∈ importsOf out, ∀ c ∈ s.clauses, ∃ s' ∈ importsOf out',
    s'.moduleName = s.moduleName ∧ c ∈ s'.clauses
  aliases : (aliasesOf out).Sublist (aliasesOf out')

/-- **Leaving out tables removes declarations and changes none.** -/
theorem transform_of_sublist (a : Adapter) (o : Options) (enums : EnumTypes)
    {part whole : List Table} (h : part.Sublist whole) :
    Restricts a o enums part whole (transform a o ⟨part, enums⟩)
      (transform a o ⟨whole, enums⟩) where
  tables := ⟨a.sortTables part, a.sortTables whole, List.mergeSort_perm _ _,
    List.mergeSort_perm _ _, mergeSort_key_sublist a.typeName h,
    tableInterfacesOf_transform a o ⟨part, enums⟩, tableInterfacesOf_transform a o ⟨whole, enums⟩,
    databasePropertiesOf_transform a o ⟨part, enums⟩,
    databasePropertiesOf_transform a o ⟨whole, enums⟩⟩
  clauses := exists_clause_of_sublist a o enums h
  aliases := aliasesOf_sublist a o enums h

/-- A table whose columns need helpers, and through them an import. -/
def visitsTable : Table where
  name := "visits"
  columns := [
    { name := "id", dataType := "int8", hasDefaultValue := true },
    { name := "seen", dataType := "timestamptz", isNullable := true }]

/-- A view whose columns need other helpers and a type of one's own. -/
def summaryView : Table where
  name := "summary"
  isView := true
  columns := [
    { name := "payload", dataType := "jsonb" },
    { name := "period", dataType := "tstzrange" }]

/-- Options by which a column type stands for a type that is imported. -/
def rangeOptions : Options where
  typeMapping := [("tstzrange", "Range")]
  customImports := [("Range", "./ranges")]

theorem transform_of_sublist_without_views :
    ({ includeViews := false } : Selection).select [summaryView, visitsTable] = [visitsTable] ∧
      [summaryView, visitsTable].map (fun t =>
          t.columns.map fun c => (columnTypeOf .postgres rangeOptions {} t c).references) =
        [[["Json"], ["Range"]], [["Generated", "Int8"], ["Timestamp", "null"]]] ∧
      Restricts .postgres rangeOptions {} [visitsTable] [summaryView, visitsTable]
        (transform .postgres rangeOptions ⟨[visitsTable], {}⟩)
        (transform .postgres rangeOptions ⟨[summaryView, visitsTable], {}⟩) := by
  have selected : ({ includeViews := false } : Selection).select [summaryView, visitsTable] =
      [visitsTable] := by decide
  have kept : [visitsTable].Sublist [summaryView, visitsTable] := selected ▸ List.filter_sublist
  exact ⟨selected, by decide, transform_of_sublist .postgres rangeOptions {} kept⟩

end CatalogTypes
