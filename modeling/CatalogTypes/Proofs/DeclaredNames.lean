import CatalogTypes.Dialect
import CatalogTypes.Proofs.Closure

/-!
# The names that a module declares

A module declares names from four sources in one scope: what it imports, the helpers, the types of
the tables and the interface of the database.

**Theorem (`nodup_declaredNames_iff`).** The names of a module are pairwise distinct exactly if no
two tables have types of one name, no table's type has the name of the database's interface or of
something that the module needs, and nothing that it needs to import has the name of the
database's interface.

Imports and helpers never meet, since what can be imported is not declared.  The names of the
tables' types are made of the tables' names alone and nothing keeps them apart from the rest, so a
table `DB` or, where columns are generated, a table `generated` takes a name that is in use.
-/

namespace CatalogTypes

/-! ## What is declared -/

/-- The names that a statement declares. -/
def Statement.declaredNames : Statement → List String
  | .importing s => s.clauses.map ImportClause.declared
  | .exporting (.typeAlias a) => [a.name]
  | .exporting (.interface i) => [i.name.text]

/-- The names that a module declares, statement by statement. -/
def declaredNames (out : List Statement) : List String := out.flatMap Statement.declaredNames

/-- Nothing that a module declares has the name of something else in it. -/
structure NoClash (a : Adapter) (o : Options) (tables : List Table) (out : List Statement) :
    Prop where
  types : (tables.map a.typeName).Nodup
  database : ∀ t ∈ tables, a.typeName t ≠ databaseInterface
  imports : ∀ t ∈ tables, ¬ (demandOf a o out).NeedsImport (a.typeName t)
  helpers : ∀ t ∈ tables, ¬ (demandOf a o out).NeedsHelper (a.typeName t)
  aggregate : ¬ (demandOf a o out).NeedsImport databaseInterface

/-! ## The four sources -/

theorem declaredNames_helperDeclarations (a : Adapter) (u : Usage) :
    (helperDeclarations a u).flatMap (fun d => (Statement.exporting d).declaredNames) =
      ((helperNames u).filterMap fun n => (a.helpers.find? n).map Helper.declared).map
        Alias.name := by
  rw [helperDeclarations, helperNames]
  induction u.helpers.mergeSort fun s t => s ≤ t with
  | nil => rfl
  | cons n names ih => cases found : a.helpers.find? n <;> simp_all [Statement.declaredNames]

theorem declaredNames_transform (a : Adapter) (o : Options) (db : Database) :
    declaredNames (transform a o db) =
      importedNames (usageFor a o db).registry.statements ++
        (aliasesOf (transform a o db)).map Alias.name ++
        (a.sortTables db.tables).map a.typeName ++ [databaseInterface] := by
  rw [aliasesOf_transform, ← declaredNames_helperDeclarations, List.map_eq_flatMap]
  simp only [declaredNames, transform, usageFor, importedNames, List.flatMap_append,
    List.flatMap_map, List.flatMap_singleton]
  rfl

theorem map_name_aliasesOf {a : Adapter} (own : ∀ e ∈ a.helpers, e.2.name = e.1) (o : Options)
    (db : Database) :
    (aliasesOf (transform a o db)).map Alias.name = helperNames (usageFor a o db) := by
  rw [aliasesOf_transform]
  refine map_name_of_forall₂ own (forall₂_filterMap_declared fun n hn => ?_)
  rw [helperNames, List.mem_mergeSort] at hn
  obtain ⟨-, h, stands⟩ := (inv_usageFor a o db).helpers n hn
  exact ⟨h, stands.2.2⟩

/-- The names imported and those of the helpers declared. -/
def suppliedNames (u : Usage) : List String := importedNames u.registry.statements ++ helperNames u

/-- What is imported is not declared: a helper stands only for a name that cannot be imported. -/
theorem nodup_suppliedNames (a : Adapter) (o : Options) (db : Database) :
    (suppliedNames (usageFor a o db)).Nodup := by
  have inv := inv_usageFor a o db
  refine List.nodup_append.2 ⟨Registry.nodup_importedNames inv.requests_nodup,
    (pairwise_helperNames inv.helpers_nodup).nodup, ?_⟩
  intro m hm n hn same
  rw [Registry.mem_importedNames] at hm
  rw [helperNames, List.mem_mergeSort, ← same] at hn
  obtain ⟨-, h, stands⟩ := inv.helpers m hn
  exact stands.1 (inv.requests m hm).1

theorem mem_suppliedNames {a : Adapter} {o : Options} {db : Database} {n : String} :
    n ∈ suppliedNames (usageFor a o db) ↔
      (demandOf a o (transform a o db)).NeedsImport n ∨
        (demandOf a o (transform a o db)).NeedsHelper n := by
  have inv := inv_usageFor a o db
  rw [suppliedNames, List.mem_append, Registry.mem_importedNames, inv.mem_requested_iff,
    helperNames, List.mem_mergeSort, inv.mem_helpers_iff]

/-! ## All names together -/

theorem nodup_declaredNames {a : Adapter} (own : ∀ e ∈ a.helpers, e.2.name = e.1)
    (free : a.helpers.find? databaseInterface = none) (o : Options) (db : Database) :
    (declaredNames (transform a o db)).Nodup ↔ NoClash a o db.tables (transform a o db) := by
  have sorted : ((a.sortTables db.tables).map a.typeName).Perm (db.tables.map a.typeName) :=
    (List.mergeSort_perm db.tables _).map a.typeName
  have undeclared : ¬ (demandOf a o (transform a o db)).NeedsHelper databaseInterface := by
    rintro ⟨-, h, stands⟩
    have found : a.helpers.find? databaseInterface = some h := stands.2.2
    rw [free] at found
    cases found
  rw [declaredNames_transform, map_name_aliasesOf own]
  show (suppliedNames (usageFor a o db) ++ (a.sortTables db.tables).map a.typeName ++
    [databaseInterface]).Nodup ↔ _
  constructor
  · intro distinct
    obtain ⟨front, -, last⟩ := List.nodup_append.1 distinct
    obtain ⟨-, types, apart⟩ := List.nodup_append.1 front
    have typeName_mem : ∀ t ∈ db.tables, a.typeName t ∈ (a.sortTables db.tables).map a.typeName :=
      fun t ht => sorted.mem_iff.2 (List.mem_map_of_mem ht)
    have unsupplied : ∀ t ∈ db.tables, a.typeName t ∉ suppliedNames (usageFor a o db) :=
      fun t ht supplied => apart _ supplied _ (typeName_mem t ht) rfl
    exact {
      types := sorted.nodup_iff.1 types
      database := fun t ht => last _ (List.mem_append_right _ (typeName_mem t ht)) _
        (List.mem_singleton_self _)
      imports := fun t ht needed => unsupplied t ht (mem_suppliedNames.2 (.inl needed))
      helpers := fun t ht needed => unsupplied t ht (mem_suppliedNames.2 (.inr needed))
      aggregate := fun needed => last _ (List.mem_append_left _ (mem_suppliedNames.2 (.inl needed)))
        _ (List.mem_singleton_self _) rfl }
  · intro clear
    refine List.nodup_append.2 ⟨List.nodup_append.2 ⟨nodup_suppliedNames a o db,
      sorted.nodup_iff.2 clear.types, ?_⟩, List.nodup_singleton _, ?_⟩
    · intro n supplied m hm same
      obtain ⟨t, ht, rfl⟩ := List.mem_map.1 (sorted.mem_iff.1 hm)
      rw [same, mem_suppliedNames] at supplied
      exact supplied.elim (clear.imports t ht) (clear.helpers t ht)
    · intro n hn m hm same
      rw [List.mem_singleton.1 hm] at same
      rcases List.mem_append.1 hn with supplied | named
      · rw [same, mem_suppliedNames] at supplied
        exact supplied.elim clear.aggregate undeclared
      · obtain ⟨t, ht, rfl⟩ := List.mem_map.1 (sorted.mem_iff.1 named)
        exact clear.database t ht same

/-- **Which names clash.** -/
theorem nodup_declaredNames_iff (d : Dialect) (o : Options) (db : Database) :
    (declaredNames (transform d.adapter o db)).Nodup ↔
      NoClash d.adapter o db.tables (transform d.adapter o db) := by
  cases d with
  | sqlite => exact nodup_declaredNames (by decide) (by decide) o db
  | postgres => exact nodup_declaredNames (by decide) (by decide) o db

/-- A table named like the database's interface has a type of that name. -/
theorem table_named_as_database_clashes :
    ([{ name := "DB" }].map Adapter.sqlite.typeName).Nodup ∧
      ¬ (declaredNames (transform .sqlite {} ⟨[{ name := "DB" }], {}⟩)).Nodup := by
  decide +kernel

end CatalogTypes
