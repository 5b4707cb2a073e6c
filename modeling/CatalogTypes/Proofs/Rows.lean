import CatalogTypes.Catalog.Postgres
import CatalogTypes.Catalog.Sqlite
import Mathlib.Tactic.Common

/-!
# Rows that can be read

A row of a catalog is well-formed if it has the fields that the listing asks for, and in them texts
where names are expected.  A catalog of well-formed rows is read without a fault: its tables
(`SqliteCatalog.IsWellFormed.tables`, `PostgresCatalog.IsWellFormed.tables`) and its enumerated
types (`PostgresCatalog.IsWellFormed.enumTypes`).
-/

namespace CatalogTypes

theorem Except.exists_mapM {α β ε : Type} {f : α → Except ε β} {P : β → Prop} {as : List α}
    (h : ∀ a ∈ as, ∃ b, f a = .ok b ∧ P b) : ∃ bs, as.mapM f = .ok bs ∧ ∀ b ∈ bs, P b := by
  induction as with
  | nil => exact ⟨[], by rw [List.mapM_nil]; rfl, by simp⟩
  | cons a as ih =>
    obtain ⟨b, first, fits⟩ := h a List.mem_cons_self
    obtain ⟨bs, rest, fit⟩ := ih fun a inside => h a (List.mem_cons_of_mem _ inside)
    exact ⟨b :: bs, by rw [List.mapM_cons, first, rest]; rfl, List.forall_mem_cons.2 ⟨fits, fit⟩⟩

/-! ## SQLite -/

/-- Every column has a name. -/
def SqliteCatalog.IsWellFormed (c : SqliteCatalog) : Prop :=
  ∀ listed ∈ c.columns, ∀ column ∈ listed.2, ∃ name, column.name = some name

namespace SqliteCatalog.IsWellFormed

variable {c : SqliteCatalog}

theorem readTable (h : c.IsWellFormed) (o : SqliteObject) : ∃ t, c.readTable o = .ok t := by
  have named (column : SqliteColumn) (listed : column ∈ c.columnsOf o) :
      ∃ read, o.readColumn column = .ok read ∧ True := by
    unfold columnsOf at listed
    cases found : c.columns.find? o.name with
    | none => simp [found] at listed
    | some columns =>
      rw [found] at listed
      obtain ⟨name, named⟩ := h _ (Keyed.mem_of_find? found) column listed
      exact ⟨_, by unfold SqliteObject.readColumn; rw [named], trivial⟩
  obtain ⟨columns, read, -⟩ := Except.exists_mapM named
  exact ⟨o.table columns, by rw [SqliteCatalog.readTable, read]; rfl⟩

theorem tables (h : c.IsWellFormed) : ∃ ts, c.tables = .ok ts := by
  obtain ⟨ts, read, -⟩ := Except.exists_mapM (P := fun _ => True) fun o _ => by
    simpa using h.readTable o
  exact ⟨ts, read⟩

end SqliteCatalog.IsWellFormed

/-! ## PostgreSQL -/

/-- A value is a text. -/
def Json.IsText (value : Json) : Prop := ∃ s, value = .str s

/-- A value is a text or null. -/
def Json.IsOptionalText (value : Json) : Prop := value = .null ∨ value.IsText

/-- A row has a field, and a value of a kind in it. -/
def Json.Holds (row : Json) (name : String) (kind : Json → Prop) : Prop :=
  ∃ value, row.field? name = some value ∧ kind value

/-- A row of the column listing has the fields of a column and of its table. -/
structure ColumnRow.IsWellFormed (row : Json) : Prop where
  schemaName : row.Holds "table_schema" Json.IsOptionalText
  tableName : row.Holds "table_name" Json.IsText
  tableKind : row.Holds "table_type" fun _ => True
  name : row.Holds "column_name" Json.IsText
  kind : row.Holds "data_type" fun _ => True
  typeName : row.Holds "udt_name" Json.IsText
  typeSchema : row.Holds "udt_schema" Json.IsOptionalText
  nullable : row.Holds "is_nullable" fun _ => True
  default : row.Holds "column_default" fun _ => True
  comment : row.Holds "column_comment" Json.IsOptionalText

/-- A row of the enumerated types has the names of a type and the text of a value. -/
structure EnumTypes.IsWellFormed (row : Json) : Prop where
  schemaName : row.Holds "schema_name" fun _ => True
  name : row.Holds "enum_name" fun _ => True
  value : row.Holds "enum_value" Json.IsText

/-- Every row is well-formed. -/
structure PostgresCatalog.IsWellFormed (c : PostgresCatalog) : Prop where
  columns : ∀ row ∈ c.columns, ColumnRow.IsWellFormed row
  enums : ∀ row ∈ c.enums, EnumTypes.IsWellFormed row

section Cells

variable {row : Json} {name : String} {kind : Json → Prop}

theorem Json.Holds.cell (h : row.Holds name kind) :
    ∃ value, cell row name = .ok value ∧ kind value := by
  obtain ⟨value, there, fits⟩ := h
  exact ⟨value, by rw [CatalogTypes.cell, there], fits⟩

theorem optionalTextCell_ok {value : Json} (h : value.IsOptionalText) :
    ∃ text, optionalTextCell value = .ok text := by
  obtain rfl | ⟨s, rfl⟩ := h
  · exact ⟨none, rfl⟩
  · exact ⟨some s, rfl⟩

end Cells

namespace ColumnRow

variable {row : Json}

theorem keyCell_ok {value : Json} (h : value.IsOptionalText) : keyCell value = .ok () := by
  obtain rfl | ⟨s, rfl⟩ := h <;> rfl

theorem elementType_ok (s : String) : ∃ t, elementType (.str s) = .ok (.str t) := by
  cases spelled : s.toList with
  | nil => exact ⟨s, by simp only [elementType, spelled]⟩
  | cons c rest =>
    by_cases mark : c = '_'
    · subst mark
      exact ⟨String.ofList rest, by simp only [elementType, spelled]⟩
    · exact ⟨s, by simp [elementType, spelled, mark]⟩

theorem IsWellFormed.readColumn (h : IsWellFormed row) :
    ∃ column, ColumnRow.readColumn row = .ok column := by
  obtain ⟨kind, kindThere, -⟩ := h.kind.cell
  obtain ⟨_, typeThere, typeName, rfl⟩ := h.typeName.cell
  obtain ⟨default, defaultThere, -⟩ := h.default.cell
  obtain ⟨_, nameThere, name, rfl⟩ := h.name.cell
  obtain ⟨typeSchema, typeSchemaThere, schemaFits⟩ := h.typeSchema.cell
  obtain ⟨nullable, nullableThere, -⟩ := h.nullable.cell
  obtain ⟨comment, commentThere, commentFits⟩ := h.comment.cell
  obtain ⟨schemaText, schemaRead⟩ := optionalTextCell_ok schemaFits
  obtain ⟨commentText, commentRead⟩ := optionalTextCell_ok commentFits
  obtain ⟨element, elementRead⟩ := elementType_ok typeName
  simp only [ColumnRow.readColumn, kindThere, typeThere, defaultThere, nameThere, typeSchemaThere,
    nullableThere, commentThere, schemaRead, commentRead, elementRead, textCell, bind, Except.bind,
    pure, Except.pure]
  split <;> exact ⟨_, rfl⟩

theorem IsWellFormed.readKey (h : IsWellFormed row) :
    ∃ key, ColumnRow.readKey row = .ok key ∧ key.schemaName.IsOptionalText ∧ key.name.IsText := by
  obtain ⟨schemaName, schemaThere, schemaFits⟩ := h.schemaName.cell
  obtain ⟨name, nameThere, nameFits⟩ := h.tableName.cell
  refine ⟨{ schemaName, name }, ?_, schemaFits, nameFits⟩
  simp only [ColumnRow.readKey, schemaThere, nameThere, keyCell_ok schemaFits,
    keyCell_ok (.inr nameFits), bind, Except.bind, pure, Except.pure]

theorem IsWellFormed.readKind (h : IsWellFormed row) :
    ∃ kind, ColumnRow.readKind row = .ok kind := by
  obtain ⟨kind, there, -⟩ := h.tableKind.cell
  exact ⟨_, by rw [ColumnRow.readKind, there]; rfl⟩

theorem ofRead_ok {read : TableKey × Bool × Bool × Column}
    (schemaName : read.1.schemaName.IsOptionalText) (name : read.1.name.IsText) :
    ∃ r, ofRead read = .ok r ∧ True := by
  obtain ⟨⟨schema, table⟩, isView, isPartition, column⟩ := read
  obtain ⟨tableName, rfl⟩ := name
  obtain ⟨schemaText, schemaRead⟩ := optionalTextCell_ok schemaName
  exact ⟨_, by rw [ofRead, textCell, schemaRead]; rfl, trivial⟩

/-- Rows are read one by one, and every table they name has names. -/
theorem readRows_ok {rows : List Json} (h : ∀ row ∈ rows, IsWellFormed row) (seen : List TableKey) :
    ∃ read, readRows seen rows = .ok read ∧
      ∀ r ∈ read, r.1.schemaName.IsOptionalText ∧ r.1.name.IsText := by
  induction rows generalizing seen with
  | nil => exact ⟨[], rfl, by simp⟩
  | cons row rest ih =>
    have first := h row List.mem_cons_self
    obtain ⟨key, keyRead, fits⟩ := first.readKey
    obtain ⟨column, columnRead⟩ := first.readColumn
    obtain ⟨kind, kindRead⟩ := first.readKind
    have rest := ih fun row inside => h row (List.mem_cons_of_mem _ inside)
    simp only [readRows, keyRead, columnRead, kindRead, bind, Except.bind, pure, Except.pure]
    split
    · obtain ⟨more, read, fit⟩ := rest (key :: seen)
      exact ⟨_, by rw [read], List.forall_mem_cons.2 ⟨fits, fit⟩⟩
    · obtain ⟨more, read, fit⟩ := rest seen
      exact ⟨_, by rw [read], List.forall_mem_cons.2 ⟨fits, fit⟩⟩

end ColumnRow

theorem EnumTypes.IsWellFormed.enumCells {row : Json} (h : EnumTypes.IsWellFormed row) :
    ∃ cells, CatalogTypes.enumCells row = .ok cells ∧ cells.2.2.IsText := by
  obtain ⟨schemaName, schemaThere, -⟩ := h.schemaName.cell
  obtain ⟨name, nameThere, -⟩ := h.name.cell
  obtain ⟨value, valueThere, fits⟩ := h.value.cell
  refine ⟨(schemaName, name, value), ?_, fits⟩
  simp only [CatalogTypes.enumCells, schemaThere, nameThere, valueThere, bind, Except.bind, pure,
    Except.pure]

theorem enumRow_ok {cells : Json × Json × Json} (h : cells.2.2.IsText) :
    ∃ row, enumRow cells = .ok row ∧ True := by
  obtain ⟨schemaName, name, value⟩ := cells
  obtain ⟨text, rfl⟩ := h
  exact ⟨_, rfl, trivial⟩

namespace PostgresCatalog.IsWellFormed

variable {c : PostgresCatalog}

theorem tables (h : c.IsWellFormed) : ∃ ts, c.tables = .ok ts := by
  obtain ⟨read, rowsRead, fits⟩ := ColumnRow.readRows_ok h.columns []
  obtain ⟨rows, named, -⟩ := Except.exists_mapM fun r inside =>
    ColumnRow.ofRead_ok (fits r inside).1 (fits r inside).2
  refine ⟨tablesOf rows, ?_⟩
  simp only [PostgresCatalog.tables, rowsRead, named, bind, Except.bind, pure, Except.pure]

theorem enumTypes (h : c.IsWellFormed) : ∃ types, c.enumTypes = .ok types := by
  obtain ⟨cells, cellsRead, fit⟩ :=
    Except.exists_mapM fun row inside => (h.enums row inside).enumCells
  obtain ⟨rows, read, -⟩ := Except.exists_mapM fun cell inside => enumRow_ok (fit cell inside)
  refine ⟨EnumTypes.ofRows rows, ?_⟩
  simp only [PostgresCatalog.enumTypes, EnumTypes.readRows, cellsRead, read, bind, Except.bind,
    Except.map]

end PostgresCatalog.IsWellFormed

end CatalogTypes
