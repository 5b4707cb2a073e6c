import CatalogTypes.Proofs.Firsts
import CatalogTypes.Proofs.Rows
import Mathlib.Algebra.BigOperators.Group.List.Lemmas
import Mathlib.Algebra.GroupWithZero.Nat

/-!
# Rows are gathered into tables

**Theorem (`tables_gathered`).** Whatever the order of the rows of a column listing, and however
the rows of different tables are mixed: there is one table for each schema and name, in the order
in which these first come; it has the columns of its rows in their order and the kind of its first
row.  So no column is lost or doubled, and two neighbouring rows of different tables can be
exchanged without a change to any table.

Rows are added to the tables one at a time, and this puts them into groups (`tablesOf_eq`).

The kind of a table is looked up in its first row alone, so a row is read in two ways, as the first
of its table or as a later one.  Either way it has the same owner and column, and the first row of
an owner is read in full (`Agrees`): that is all that gathering looks at.
-/

namespace CatalogTypes

/-- A list has as many elements as those that it has of each. -/
theorem Firsts.sum_map_countP {α : Type} [DecidableEq α] {firsts all : List α}
    (h : Firsts firsts all) : (firsts.map fun a => all.countP (· = a)).sum = all.length := by
  have distinct : firsts.Perm all.dedup :=
    (List.perm_ext_iff_of_nodup h.nodup all.nodup_dedup).2 fun a => by
      rw [h.mem_iff, List.mem_dedup]
  rw [(distinct.map _).sum_eq, ← all.sum_map_count_dedup_eq_length]
  simp [List.count, beq_eq_decide]

/-! ## What a row says -/

/-- How the rows of a table name it. -/
def TableKey.ofOwner (owner : Option String × String) : TableKey :=
  ⟨owner.1.elim .null .str, .str owner.2⟩

theorem TableKey.ofOwner_injective : Function.Injective ofOwner := by
  rintro ⟨s, n⟩ ⟨s', n'⟩ same
  obtain ⟨schemas, names⟩ := TableKey.mk.inj same
  cases s <;> cases s' <;> simp_all

namespace ColumnRow

/-- A row of the listing, read on its own. -/
structure Describes (row : Json) (r : ColumnRow) : Prop where
  schemaName : row.field? "table_schema" = some (r.schemaName.elim .null .str)
  tableName : row.field? "table_name" = some (.str r.tableName)
  kind : readKind row = .ok (r.isView, r.isPartition)
  column : readColumn row = .ok r.column

theorem IsWellFormed.describes {row : Json} (h : IsWellFormed row) : ∃ r, Describes row r := by
  obtain ⟨schema, schemaThere, schemaFits⟩ := h.schemaName
  obtain ⟨_, nameThere, tableName, rfl⟩ := h.tableName
  obtain ⟨⟨isView, isPartition⟩, kind⟩ := h.readKind
  obtain ⟨column, read⟩ := h.readColumn
  obtain rfl | ⟨schemaName, rfl⟩ := schemaFits
  · exact ⟨⟨none, tableName, isView, isPartition, column⟩, schemaThere, nameThere, kind, read⟩
  · exact ⟨⟨some schemaName, tableName, isView, isPartition, column⟩, schemaThere, nameThere, kind,
      read⟩

variable {row : Json} {r : ColumnRow}

theorem Describes.readKey (h : Describes row r) :
    ColumnRow.readKey row = .ok (.ofOwner r.owner) := by
  have schema : keyCell (r.schemaName.elim .null .str) = .ok () := by cases r.schemaName <;> rfl
  simp only [ColumnRow.readKey, cell, h.schemaName, h.tableName, schema, bind, Except.bind, pure,
    Except.pure]
  rfl

theorem ofRead_ofOwner (owner : Option String × String) (isView isPartition : Bool)
    (column : Column) : ofRead (.ofOwner owner, isView, isPartition, column) =
      .ok ⟨owner.1, owner.2, isView, isPartition, column⟩ := by
  obtain ⟨schema, name⟩ := owner
  cases schema <;> rfl

end ColumnRow

/-! ## Rows read one after another -/

/-- Rows that have the owners and the columns of others, and the same first row of every owner that
is not among the seen ones. -/
structure Agrees (seen : List TableKey) (gathered rows : List ColumnRow) : Prop where
  pairs : gathered.map (fun r => (r.owner, r.column)) = rows.map fun r => (r.owner, r.column)
  firsts : ∀ owner, .ofOwner owner ∉ seen →
    gathered.find? (·.owner = owner) = rows.find? (·.owner = owner)

namespace Agrees

variable {seen : List TableKey} {gathered rows : List ColumnRow} {r s : ColumnRow}

/-- A row of a table that has been seen may have any kind. -/
theorem cons_of_mem (h : Agrees seen gathered rows) (old : .ofOwner r.owner ∈ seen)
    (owner : s.owner = r.owner) (column : s.column = r.column) :
    Agrees seen (s :: gathered) (r :: rows) where
  pairs := by simp [owner, column, h.pairs]
  firsts o unseen := by
    have other : r.owner ≠ o := fun same => unseen (same ▸ old)
    simpa [List.find?_cons, owner, other] using h.firsts o unseen

/-- A row of a new table is read in full, and the table has then been seen. -/
theorem cons_first (h : Agrees (.ofOwner r.owner :: seen) gathered rows) :
    Agrees seen (r :: gathered) (r :: rows) where
  pairs := by simp [h.pairs]
  firsts o unseen := by
    by_cases same : r.owner = o
    · simp [same]
    · have later : TableKey.ofOwner o ∉ TableKey.ofOwner r.owner :: seen := by
        intro there
        rcases List.mem_cons.1 there with here | there
        · exact same (TableKey.ofOwner_injective here).symm
        · exact unseen there
      simpa [List.find?_cons, same] using h.firsts o later

end Agrees

/-- **Rows are read with the owners, the columns and the first rows that they describe.** -/
theorem ColumnRow.readRows_describes {describe : Json → ColumnRow} {listed : List Json}
    (h : ∀ row ∈ listed, Describes row (describe row)) (seen : List TableKey) :
    ∃ read gathered, readRows seen listed = .ok read ∧ read.mapM ofRead = .ok gathered ∧
      Agrees seen gathered (listed.map describe) := by
  induction listed generalizing seen with
  | nil => exact ⟨[], [], rfl, rfl, rfl, fun _ _ => rfl⟩
  | cons row rest ih =>
    obtain ⟨first, others⟩ := List.forall_mem_cons.1 h
    rw [List.map_cons]
    generalize describe row = r at first ⊢
    by_cases old : TableKey.ofOwner r.owner ∈ seen
    · obtain ⟨read, gathered, rowsRead, named, agrees⟩ := ih others seen
      refine ⟨(.ofOwner r.owner, false, false, r.column) :: read,
        ⟨r.owner.1, r.owner.2, false, false, r.column⟩ :: gathered, ?_, ?_,
        agrees.cons_of_mem old rfl rfl⟩
      · simp [readRows, first.readKey, first.column, old, rowsRead, bind, Except.bind, pure,
          Except.pure]
      · rw [List.mapM_cons, ofRead_ofOwner, named]
        rfl
    · obtain ⟨read, gathered, rowsRead, named, agrees⟩ := ih others (.ofOwner r.owner :: seen)
      refine ⟨(.ofOwner r.owner, r.isView, r.isPartition, r.column) :: read, r :: gathered, ?_, ?_,
        agrees.cons_first⟩
      · simp [readRows, first.readKey, first.column, first.kind, old, rowsRead, bind, Except.bind,
          pure, Except.pure]
      · rw [List.mapM_cons, ofRead_ofOwner, named]
        rfl

/-! ## Gathering -/

/-- Tables gather rows: one table for each owner, in the order in which the owners first come, with
the columns of its rows in their order and the kind of its first row. -/
structure Gathers (rows : List ColumnRow) (tables : List Table) : Prop where
  owners : Firsts (tables.map Table.owner) (rows.map ColumnRow.owner)
  columns : ∀ t ∈ tables, t.columns = (rows.filter (·.owner = t.owner)).map (·.column)
  kind : ∀ t ∈ tables, ∃ first, rows.find? (·.owner = t.owner) = some first ∧
    t.isView = first.isView ∧ t.isPartition = first.isPartition

theorem exists_find?_owner {rows : List ColumnRow} {owner : Option String × String}
    (h : owner ∈ rows.map ColumnRow.owner) :
    ∃ first, rows.find? (·.owner = owner) = some first := by
  obtain ⟨r, inside, same⟩ := List.mem_map.1 h
  exact Option.isSome_iff_exists.1 (List.find?_isSome.2 ⟨r, inside, by simpa using same⟩)

/-- The table that the rows of one owner describe. -/
def groupOf (rows : List ColumnRow) (owner : Option String × String) : Table where
  name := owner.2
  schemaName := owner.1
  isView := ((rows.find? (·.owner = owner)).map (·.isView)).getD false
  isPartition := ((rows.find? (·.owner = owner)).map (·.isPartition)).getD false
  columns := (rows.filter (·.owner = owner)).map (·.column)

section

variable {rows : List ColumnRow} {r : ColumnRow} {owner : Option String × String}

theorem owner_groupOf : (groupOf rows owner).owner = owner := rfl

theorem groupOf_append_of_ne (apart : r.owner ≠ owner) :
    groupOf (rows ++ [r]) owner = groupOf rows owner := by
  simp [groupOf, apart]

theorem groupOf_append_of_mem (old : r.owner ∈ rows.map ColumnRow.owner) :
    groupOf (rows ++ [r]) r.owner =
      { groupOf rows r.owner with columns := (groupOf rows r.owner).columns ++ [r.column] } := by
  obtain ⟨first, found⟩ := exists_find?_owner old
  simp [groupOf, found]

theorem groupOf_append_of_notMem (new : r.owner ∉ rows.map ColumnRow.owner) :
    groupOf (rows ++ [r]) r.owner = r.table := by
  have apart : ∀ s ∈ rows, ¬s.owner = r.owner := fun s there same =>
    new (List.mem_map.2 ⟨s, there, same⟩)
  have unfound : rows.find? (·.owner = r.owner) = none :=
    List.find?_eq_none.2 fun s there => by simpa using apart s there
  have others : rows.filter (·.owner = r.owner) = [] :=
    List.filter_eq_nil_iff.2 fun s there => by simpa using apart s there
  simp only [groupOf, List.find?_append, unfound, List.filter_append, others]
  simp [ColumnRow.table, ColumnRow.owner]

/-- The tables of distinct owners, with a row more. -/
theorem addRow_map_groupOf {owners : List (Option String × String)} (distinct : owners.Nodup)
    (there : owners ⊆ rows.map ColumnRow.owner) (r : ColumnRow) :
    addRow (owners.map (groupOf rows)) r = owners.map (groupOf (rows ++ [r])) ++
      if r.owner ∈ owners then [] else [r.table] := by
  induction owners with
  | nil => rfl
  | cons owner rest ih =>
    obtain ⟨here, there⟩ := List.cons_subset.1 there
    obtain ⟨apart, distinct⟩ := List.nodup_cons.1 distinct
    rw [List.map_cons, List.map_cons, addRow, owner_groupOf]
    by_cases same : owner = r.owner
    · subst same
      have others : rest.map (groupOf (rows ++ [r])) = rest.map (groupOf rows) :=
        List.map_congr_left fun o inside => groupOf_append_of_ne fun same => apart (same ▸ inside)
      rw [if_pos rfl, if_pos List.mem_cons_self, List.append_nil, others,
        groupOf_append_of_mem here]
    · have later : r.owner ∈ owner :: rest ↔ r.owner ∈ rest := by simp [Ne.symm same]
      rw [if_neg same, ih distinct there, groupOf_append_of_ne (Ne.symm same), List.cons_append]
      simp only [later]

/-- **Row by row, the rows are put into groups.** -/
theorem tablesOf_eq (rows : List ColumnRow) :
    tablesOf rows = (rows.map ColumnRow.owner).eraseDups.map (groupOf rows) := by
  induction rows using List.reverseRecOn with
  | nil => rfl
  | append_singleton rows r ih =>
    have firsts := firsts_eraseDups (rows.map ColumnRow.owner)
    rw [tablesOf, List.foldl_append, List.foldl_cons, List.foldl_nil, ← tablesOf, ih,
      addRow_map_groupOf firsts.nodup (fun o there => (firsts.mem_iff o).1 there),
      List.map_append, List.map_singleton, eraseDups_append_singleton, List.map_append]
    by_cases old : r.owner ∈ rows.map ColumnRow.owner
    · rw [if_pos ((firsts.mem_iff _).2 old), if_pos old, List.map_nil]
    · rw [if_neg fun there => old ((firsts.mem_iff _).1 there), if_neg old, List.map_singleton,
        groupOf_append_of_notMem old]

end

theorem gathers_tablesOf (rows : List ColumnRow) : Gathers rows (tablesOf rows) where
  owners := by
    have owners : (tablesOf rows).map Table.owner = (rows.map ColumnRow.owner).eraseDups := by
      rw [tablesOf_eq, List.map_map]
      exact List.map_id _
    rw [owners]
    exact firsts_eraseDups _
  columns t inside := by
    rw [tablesOf_eq] at inside
    obtain ⟨owner, -, rfl⟩ := List.mem_map.1 inside
    rfl
  kind t inside := by
    rw [tablesOf_eq] at inside
    obtain ⟨owner, there, rfl⟩ := List.mem_map.1 inside
    obtain ⟨first, found⟩ := exists_find?_owner (List.mem_eraseDups.1 there)
    exact ⟨first, found, by rw [groupOf, found]; rfl, by rw [groupOf, found]; rfl⟩

namespace Gathers

variable {rows others : List ColumnRow} {tables more : List Table}

/-- Gathering looks at owners, columns and first rows only. -/
theorem congr {gathered : List ColumnRow} (h : Gathers gathered tables)
    (agrees : Agrees [] gathered rows) : Gathers rows tables where
  owners := by
    have owners := congrArg (List.map Prod.fst) agrees.pairs
    rw [List.map_map, List.map_map] at owners
    have same : gathered.map ColumnRow.owner = rows.map ColumnRow.owner := owners
    rw [← same]
    exact h.owners
  columns t inside := by
    have columns := congrArg (fun pairs => (pairs.filter (·.1 = t.owner)).map Prod.snd) agrees.pairs
    simp only [List.filter_map, List.map_map] at columns
    exact (h.columns t inside).trans columns
  kind t inside := by
    rw [← agrees.firsts t.owner List.not_mem_nil]
    exact h.kind t inside

/-- **Every row becomes one column.** -/
theorem sum_length_columns (h : Gathers rows tables) :
    (tables.map (·.columns.length)).sum = rows.length := by
  have lengths : tables.map (·.columns.length) = (tables.map Table.owner).map fun owner =>
      (rows.map ColumnRow.owner).countP (· = owner) := by
    rw [List.map_map]
    refine List.map_congr_left fun t inside => ?_
    rw [h.columns t inside, List.length_map, ← List.countP_eq_length_filter]
    simp [List.countP_map, Function.comp_def]
  rw [lengths, h.owners.sum_map_countP, List.length_map]

theorem subset (h : Gathers rows tables) (g : Gathers others more)
    (same : ∀ owner, rows.filter (·.owner = owner) = others.filter (·.owner = owner)) :
    tables ⊆ more := by
  intro t inside
  obtain ⟨first, found, isView, isPartition⟩ := h.kind t inside
  rw [← List.head?_filter, same, List.head?_filter] at found
  have owner : t.owner ∈ others.map ColumnRow.owner :=
    List.mem_map.2 ⟨first, List.mem_of_find?_eq_some found,
      by simpa using List.find?_some found⟩
  obtain ⟨u, there, named⟩ := List.mem_map.1 ((g.owners.mem_iff _).2 owner)
  obtain ⟨first', found', isView', isPartition'⟩ := g.kind u there
  have columns : u.columns = t.columns := by
    rw [g.columns u there, h.columns t inside, named, same]
  rw [named, found] at found'
  obtain rfl := Option.some.inj found'
  obtain ⟨schemaName, name⟩ := Prod.mk.inj named
  have whole : t = u := by
    cases t
    cases u
    simp_all
  rwa [whole]

/-- **Tables depend on the order of the rows of each owner only**, but for their own order. -/
theorem perm (h : Gathers rows tables) (g : Gathers others more)
    (same : ∀ owner, rows.filter (·.owner = owner) = others.filter (·.owner = owner)) :
    tables.Perm more :=
  (List.perm_ext_iff_of_nodup h.owners.nodup.of_map g.owners.nodup.of_map).2 fun _ =>
    ⟨fun inside => h.subset g same inside, fun inside => g.subset h (fun o => (same o).symm) inside⟩

end Gathers

theorem filter_owner_exchange {x y : ColumnRow} (apart : x.owner ≠ y.owner)
    (before after : List ColumnRow) (owner : Option String × String) :
    (before ++ y :: x :: after).filter (·.owner = owner) =
      (before ++ x :: y :: after).filter (·.owner = owner) := by
  rw [List.filter_append, List.filter_append]
  refine congrArg _ ?_
  by_cases first : x.owner = owner
  · have second : y.owner ≠ owner := fun same => apart (first.trans same.symm)
    simp [first, second]
  · simp [List.filter_cons, first]

/-! ## The tables of a catalog -/

/-- Two rows of the listing name the same table. -/
def SameTable (x y : Json) : Prop :=
  x.field? "table_schema" = y.field? "table_schema" ∧ x.field? "table_name" = y.field? "table_name"

theorem ColumnRow.Describes.sameTable {x y : Json} {r s : ColumnRow} (h : Describes x r)
    (g : Describes y s) (same : r.owner = s.owner) : SameTable x y := by
  obtain ⟨schemas, names⟩ := Prod.mk.inj same
  refine ⟨?_, ?_⟩
  · rw [h.schemaName, g.schemaName, schemas]
  · rw [h.tableName, g.tableName, names]

/-- A catalog whose rows can be read is gathered into tables. -/
theorem PostgresCatalog.tables_of_describes {c : PostgresCatalog} {describe : Json → ColumnRow}
    (h : ∀ row ∈ c.columns, ColumnRow.Describes row (describe row)) :
    ∃ ts, c.tables = .ok ts ∧ Gathers (c.columns.map describe) ts := by
  obtain ⟨read, gathered, rowsRead, named, agrees⟩ := ColumnRow.readRows_describes h []
  refine ⟨tablesOf gathered, ?_, (gathers_tablesOf gathered).congr agrees⟩
  simp only [PostgresCatalog.tables, rowsRead, named, bind, Except.bind, pure, Except.pure]

/-- **The rows of a listing are gathered into tables**, in whatever order they come. -/
theorem PostgresCatalog.tables_gathered {c : PostgresCatalog}
    (h : ∀ row ∈ c.columns, ColumnRow.IsWellFormed row) :
    ∃ describe : Json → ColumnRow, (∀ row ∈ c.columns, ColumnRow.Describes row (describe row)) ∧
      ∃ ts, c.tables = .ok ts ∧ Gathers (c.columns.map describe) ts ∧
        (ts.map (·.columns.length)).sum = c.columns.length ∧
        ∀ before x y after, c.columns = before ++ x :: y :: after → ¬SameTable x y →
          ∃ exchanged, tables { c with columns := before ++ y :: x :: after } = .ok exchanged ∧
            exchanged.Perm ts := by
  have read : ∀ row, ∃ r, row ∈ c.columns → ColumnRow.Describes row r := fun row => by
    by_cases inside : row ∈ c.columns
    · exact (h row inside).describes.imp fun _ described _ => described
    · exact ⟨default, fun there => absurd there inside⟩
  choose describe described using read
  obtain ⟨ts, tables, gathers⟩ := tables_of_describes described
  refine ⟨describe, described, ts, tables, gathers, ?_, ?_⟩
  · rw [gathers.sum_length_columns, List.length_map]
  intro before x y after shape apart
  have members : ∀ row, row ∈ before ++ y :: x :: after ↔ row ∈ c.columns := fun row => by
    rw [shape]
    simp only [List.mem_append, List.mem_cons, or_left_comm]
  obtain ⟨exchanged, exchangedTables, gathers'⟩ := tables_of_describes
    (c := { c with columns := before ++ y :: x :: after })
    fun row inside => described row ((members row).1 inside)
  refine ⟨exchanged, exchangedTables, gathers'.perm gathers fun owner => ?_⟩
  rw [shape]
  simp only [List.map_append, List.map_cons]
  refine filter_owner_exchange (fun same => apart ?_) _ _ owner
  have there : x ∈ c.columns ∧ y ∈ c.columns := by simp [shape]
  exact (described x there.1).sameTable (described y there.2) same

/-- A row of the listing, for a text column. -/
def listingRow (table kind column : String) : Json := .obj [
  ("table_schema", .str "public"), ("table_name", .str table), ("table_type", .str kind),
  ("column_name", .str column), ("data_type", .str "text"), ("udt_schema", .str "pg_catalog"),
  ("udt_name", .str "text"), ("is_nullable", .str "NO"), ("column_default", .null),
  ("column_comment", .null)]

theorem isWellFormed_listingRow (table kind column : String) :
    ColumnRow.IsWellFormed (listingRow table kind column) where
  schemaName := ⟨_, rfl, .inr ⟨_, rfl⟩⟩
  tableName := ⟨_, rfl, _, rfl⟩
  tableKind := ⟨_, rfl, trivial⟩
  name := ⟨_, rfl, _, rfl⟩
  kind := ⟨_, rfl, trivial⟩
  typeName := ⟨_, rfl, _, rfl⟩
  typeSchema := ⟨_, rfl, .inr ⟨_, rfl⟩⟩
  nullable := ⟨_, rfl, trivial⟩
  default := ⟨_, rfl, trivial⟩
  comment := ⟨_, rfl, .inl rfl⟩

/-- A catalog in which a row of a view stands between those of a table. -/
def mixedCatalog : PostgresCatalog where
  columns := [listingRow "t" "BASE TABLE" "a", listingRow "v" "VIEW" "b",
    listingRow "t" "BASE TABLE" "c"]

theorem tables_gathered_mixed :
    (∀ row ∈ mixedCatalog.columns, ColumnRow.IsWellFormed row) ∧
      ∃ ts, mixedCatalog.tables = .ok ts ∧
        ts.map (fun t => (t.name, t.isView, t.columns.map (·.name))) =
          [("t", false, ["a", "c"]), ("v", true, ["b"])] ∧
        (ts.map (·.columns.length)).sum = 3 := by
  have rows : ∀ row ∈ mixedCatalog.columns, ColumnRow.IsWellFormed row := by
    intro row inside
    simp only [mixedCatalog, List.mem_cons, List.not_mem_nil, or_false] at inside
    rcases inside with rfl | rfl | rfl <;> exact isWellFormed_listingRow _ _ _
  obtain ⟨describe, -, ts, tables, -, total, -⟩ := mixedCatalog.tables_gathered rows
  refine ⟨rows, ts, tables, ?_, total⟩
  have read : mixedCatalog.tables.map
      (List.map fun t => (t.name, t.isView, t.columns.map (·.name))) =
        .ok [("t", false, ["a", "c"]), ("v", true, ["b"])] := by decide
  rw [tables] at read
  exact Except.ok.inj read

end CatalogTypes
