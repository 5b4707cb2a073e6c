import CatalogTypes.Proofs.Closure
import Mathlib.Data.List.Lex

/-!
# The order of a module

A catalog lists its tables in some order; a module declares them in the order of the names of their
types, which is the order of code points.  Types of one name come in the order of the catalog.

**Theorem (`transform_eq_of_perm`).** Two catalogs that list the same tables, and those of one type
name in the same order, have the same module, statement by statement.  In that module every table
has one interface with one property for each column, in the table's own order, and the interface of
the database lists the types of the interfaces as they come.
-/

namespace CatalogTypes

/-! ## The interface of the database -/

/-- The interface of the database that a statement declares. -/
def Statement.databaseInterface? : Statement → Option Interface
  | .exporting (.interface ⟨.fixed name, properties⟩) => some ⟨.fixed name, properties⟩
  | _ => none

def databaseInterfacesOf (out : List Statement) : List Interface :=
  out.filterMap Statement.databaseInterface?

theorem databaseInterfacesOf_transform (a : Adapter) (o : Options) (db : Database) :
    databaseInterfacesOf (transform a o db) =
      [databaseInterfaceOf a o (a.sortTables db.tables)] := by
  simp [databaseInterfacesOf, filterMap_transform, Statement.databaseInterface?, tableInterface,
    databaseInterfaceOf]

/-! ## Tables in order -/

/-- The code points of a text, by which it is compared. -/
def codePoints (s : String) : List Nat := s.toList.map Char.toNat

theorem codePoints_le {s t : String} (h : s ≤ t) : codePoints s ≤ codePoints t := by
  have mapped : ¬codePoints t < codePoints s := List.map_le (fun _ _ lt => lt) h
  exact not_lt.1 mapped

/-- An interface is that of a table: it has the table's type for a name, and for each column, in
the order of the columns, a property with its key, type and comment. -/
structure Interface.Describes (a : Adapter) (o : Options) (enums : EnumTypes) (t : Table)
    (i : Interface) : Prop where
  name : i.name = .table (a.typeName t)
  properties : List.Forall₂ (fun (c : Column) (p : Property) =>
    p.key = Naming.propertyKey o.camelCase c.name ∧ p.value = columnTypeOf a o enums t c ∧
      p.comment = c.comment) t.columns i.properties

/-- A module declares the tables in the order of a list, and the names of their types ascend. -/
structure DeclaresInOrder (a : Adapter) (o : Options) (enums : EnumTypes) (order : List Table)
    (out : List Statement) : Prop where
  ascending : order.Pairwise fun s t => codePoints (a.typeName s) ≤ codePoints (a.typeName t)
  interfaces : List.Forall₂ (Interface.Describes a o enums) order (tableInterfacesOf out)
  database : ∃ i, databaseInterfacesOf out = [i] ∧ i.name = .fixed databaseInterface ∧
    List.Forall₂ (fun (t : Table) (p : Property) =>
      p.key = a.tableKey o.camelCase t ∧ p.value = .table (a.typeName t)) order i.properties

theorem describes_tableInterface (a : Adapter) (o : Options) (enums : EnumTypes) (t : Table) :
    (tableInterface a o enums t).Describes a o enums t where
  name := rfl
  properties := by
    rw [tableInterface, List.forall₂_map_right_iff, List.forall₂_same]
    exact fun c _ => ⟨rfl, rfl, rfl⟩

theorem declaresInOrder_transform (a : Adapter) (o : Options) (db : Database) :
    DeclaresInOrder a o db.enums (a.sortTables db.tables) (transform a o db) where
  ascending := (pairwise_mergeSort_key a.typeName db.tables).imp codePoints_le
  interfaces := by
    rw [tableInterfacesOf_transform, List.forall₂_map_right_iff, List.forall₂_same]
    exact fun t _ => describes_tableInterface a o db.enums t
  database := by
    refine ⟨_, databaseInterfacesOf_transform a o db, rfl, ?_⟩
    rw [databaseInterfaceOf, List.forall₂_map_right_iff, List.forall₂_same]
    exact fun t _ => ⟨rfl, rfl⟩

/-- Two lists of the same tables agree on every type name if they agree on those of their tables. -/
theorem filter_typeName_eq {a : Adapter} {ts us : List Table} (perm : ts.Perm us)
    (ties : ∀ t ∈ ts, ts.filter (a.typeName · = a.typeName t) =
      us.filter (a.typeName · = a.typeName t)) (name : String) :
    ts.filter (a.typeName · = name) = us.filter (a.typeName · = name) := by
  by_cases named : ∃ t ∈ ts, a.typeName t = name
  · obtain ⟨t, ht, rfl⟩ := named
    exact ties t ht
  · have none : ∀ t ∈ ts, ¬decide (a.typeName t = name) = true := fun t ht h =>
      named ⟨t, ht, of_decide_eq_true h⟩
    rw [List.filter_eq_nil_iff.2 none,
      List.filter_eq_nil_iff.2 fun t ht => none t (perm.mem_iff.2 ht)]

/-- **A module does not depend on the order of the catalog.** -/
theorem transform_eq_of_perm (a : Adapter) (o : Options) (enums : EnumTypes) {ts us : List Table}
    (perm : ts.Perm us)
    (ties : ∀ t ∈ ts, ts.filter (a.typeName · = a.typeName t) =
      us.filter (a.typeName · = a.typeName t)) :
    transform a o ⟨ts, enums⟩ = transform a o ⟨us, enums⟩ ∧
      ∃ order : List Table, order.Perm ts ∧
        (∀ name, order.filter (a.typeName · = name) = ts.filter (a.typeName · = name)) ∧
        DeclaresInOrder a o enums order (transform a o ⟨ts, enums⟩) := by
  have same : a.sortTables ts = a.sortTables us :=
    mergeSort_key_congr a.typeName (filter_typeName_eq perm ties)
  refine ⟨?_, a.sortTables ts, List.mergeSort_perm _ _, filter_mergeSort_key a.typeName ts,
    declaresInOrder_transform a o ⟨ts, enums⟩⟩
  simp only [transform, same]

theorem transform_eq_of_perm_one_name :
    transform .sqlite {} ⟨[{ name := "foo_bar", columns := [{ name := "id", dataType := "int" }] },
        { name := "b" }, { name := "foo__bar" }], {}⟩ =
      transform .sqlite {} ⟨[{ name := "b" },
        { name := "foo_bar", columns := [{ name := "id", dataType := "int" }] },
        { name := "foo__bar" }], {}⟩ :=
  (transform_eq_of_perm .sqlite {} {} (by decide) (by decide +kernel)).1

end CatalogTypes
