import CatalogTypes.Proofs.Mentions
import CatalogTypes.Proofs.Sorting
import CatalogTypes.Proofs.Traversal

/-!
# A module declares what its tables need

What the interfaces of a module's tables mention may be a helper, the helper may depend on other
names, and so on.  `Needs` is the least set of names that holds the first and is closed under the
second.

**Theorem (`transform_closure`).** A module imports exactly the names needed that can be imported,
with the first segments of dotted ones, each by one clause; and it declares exactly the helpers
whose names are needed and neither dotted nor importable, each once and in order.

The proof follows the traversal with the invariant `Inv`: what is marked or requested is needed,
and what is needed because of something already met is settled or still on the stack.  Where the
stack is empty the second half says that the usage is closed, so it holds all that is needed; the
first half says that it holds nothing else.
-/

namespace CatalogTypes

open Relation

/-! ## Parts of a module -/

/-- The import that a statement is. -/
def Statement.import? : Statement → Option ImportStatement
  | .importing s => some s
  | .exporting _ => none

/-- The alias that a statement declares. -/
def Statement.alias? : Statement → Option Alias
  | .exporting (.typeAlias a) => some a
  | _ => none

/-- The interface of a table that a statement declares. -/
def Statement.tableInterface? : Statement → Option Interface
  | .exporting (.interface ⟨.table name, properties⟩) => some ⟨.table name, properties⟩
  | _ => none

def importsOf (out : List Statement) : List ImportStatement := out.filterMap Statement.import?

def aliasesOf (out : List Statement) : List Alias := out.filterMap Statement.alias?

def tableInterfacesOf (out : List Statement) : List Interface :=
  out.filterMap Statement.tableInterface?

/-! ## Needs -/

/-- What decides which names are needed: the helpers there are, the names that can be imported and
the names that the module's tables show. -/
structure Demand where
  helpers : Keyed Helper
  importable : String → Prop
  shown : String → Prop

namespace Demand

/-- The helper that a name stands for: one that is neither imported nor dotted. -/
def StandsFor (d : Demand) (n : String) (h : Helper) : Prop :=
  ¬ d.importable n ∧ '.' ∉ n.toList ∧ d.helpers.find? n = some h

/-- The names shown, and those that the helpers needed depend on. -/
inductive Needs (d : Demand) : String → Prop
  | shown {n : String} : d.shown n → Needs d n
  | behind {m n : String} {h : Helper} : Needs d m → d.StandsFor m h → h.DependsOn n → Needs d n

/-- The names to import: needed as they are, or as the first segment of a dotted name. -/
def NeedsImport (d : Demand) (n : String) : Prop :=
  d.importable n ∧ (d.Needs n ∨
    ∃ m, d.Needs m ∧ ¬ d.importable m ∧ '.' ∈ m.toList ∧ Usage.firstSegment m = n)

/-- The names to declare. -/
def NeedsHelper (d : Demand) (n : String) : Prop := d.Needs n ∧ ∃ h, d.StandsFor n h

/-! ## The invariant -/

/-- A name has been dealt with, whichever way it goes. -/
structure Settled (d : Demand) (u : Usage) (n : String) : Prop where
  imported : d.importable n → n ∈ u.registry.requested.keys
  segment : ¬ d.importable n → '.' ∈ n.toList → d.importable (Usage.firstSegment n) →
    Usage.firstSegment n ∈ u.registry.requested.keys
  helper : ∀ h, d.StandsFor n h → n ∈ u.helpers

/-- What holds at every state of the traversal. -/
structure Inv (d : Demand) (source : Keyed Specifier) (s : Usage × List String) : Prop where
  available : s.1.registry.available = source
  offers : ∀ n, s.1.registry.offers n = true ↔ d.importable n
  pending : ∀ n ∈ s.2, d.Needs n
  helpers : ∀ n ∈ s.1.helpers, d.NeedsHelper n
  requests : ∀ n ∈ s.1.registry.requested.keys, d.NeedsImport n
  sources : ∀ e ∈ s.1.registry.requested, source.find? e.1 = some e.2
  shown : ∀ n, d.shown n → n ∈ s.2 ∨ d.Settled s.1 n
  closed : ∀ m ∈ s.1.helpers, ∀ h, d.helpers.find? m = some h → ∀ n, h.DependsOn n →
    n ∈ s.2 ∨ d.Settled s.1 n
  helpers_nodup : s.1.helpers.Nodup
  requests_nodup : s.1.registry.requested.keys.Nodup

theorem Settled.mono {d : Demand} {u v : Usage} {n : String} (h : d.Settled u n)
    (helpers : ∀ m ∈ u.helpers, m ∈ v.helpers)
    (requests : ∀ m ∈ u.registry.requested.keys, m ∈ v.registry.requested.keys) :
    d.Settled v n where
  imported i := requests n (h.imported i)
  segment i dot si := requests _ (h.segment i dot si)
  helper g hg := helpers n (h.helper g hg)

/-- Settling the first name on the stack: whatever waited for it is settled. -/
theorem settled_of_cons {d : Demand} {u v : Usage} {m n : String} {rest : List String}
    (added : List String) (h : n ∈ m :: rest ∨ d.Settled u n) (first : d.Settled v m)
    (grows : d.Settled u n → d.Settled v n) : n ∈ added ++ rest ∨ d.Settled v n := by
  rcases h with h | h
  · rcases List.mem_cons.1 h with rfl | h
    · exact .inr first
    · exact .inl (List.mem_append_right _ h)
  · exact .inr (grows h)

theorem Inv.not_importable {d : Demand} {source : Keyed Specifier} {s : Usage × List String}
    (inv : d.Inv source s) {n : String} (h : s.1.registry.offers n = false) :
    ¬ d.importable n := fun i => by
  rw [(inv.offers n).2 i] at h
  cases h

/-- A name that needs nothing done leaves the stack. -/
theorem Inv.skip {d : Demand} {source : Keyed Specifier} {u : Usage} {n : String}
    {rest : List String} (inv : d.Inv source (u, n :: rest)) (first : d.Settled u n) :
    d.Inv source (u, rest) :=
  { inv with
    pending := fun m hm => inv.pending m (List.mem_cons_of_mem n hm)
    shown := fun m hm => settled_of_cons [] (inv.shown m hm) first id
    closed := fun m hm h hf k hk =>
      settled_of_cons [] (inv.closed m hm h hf k hk) first id }

/-- A request on behalf of the first name. -/
theorem Inv.request {d : Demand} {source : Keyed Specifier} {u : Usage} {n k : String}
    {rest : List String} (inv : d.Inv source (u, n :: rest))
    (needed : d.importable k → d.NeedsImport k) (first : d.Settled (u.request k) n) :
    d.Inv source (u.request k, rest) := by
  have grows : ∀ {m}, d.Settled u m → d.Settled (u.request k) m := fun h =>
    h.mono (fun _ hm => hm) fun _ hm => Registry.mem_keys_request.2 (.inl hm)
  exact {
    available := by rw [← inv.available]; exact Registry.available_request u.registry k
    offers := fun m => by
      rw [← inv.offers m]
      exact iff_of_eq (congrArg (· = true) (Registry.offers_request u.registry k m))
    pending := fun m hm => inv.pending m (List.mem_cons_of_mem n hm)
    helpers := inv.helpers
    requests := fun m hm => by
      rcases Registry.mem_keys_request.1 hm with hm | ⟨rfl, offered⟩
      · exact inv.requests m hm
      · exact needed ((inv.offers m).1 offered)
    sources := fun e he => by
      rcases Registry.request_cases u.registry k with ⟨same, -⟩ | ⟨s, found, -, added⟩
      · exact inv.sources e (by rwa [Usage.request, same] at he)
      · rw [Usage.request, added, List.mem_append, List.mem_singleton] at he
        rcases he with he | rfl
        · exact inv.sources e he
        · rwa [← inv.available]
    shown := fun m hm => settled_of_cons [] (inv.shown m hm) first grows
    closed := fun m hm h hf j hj =>
      settled_of_cons [] (inv.closed m hm h hf j hj) first grows
    helpers_nodup := inv.helpers_nodup
    requests_nodup := Registry.nodup_keys_request k inv.requests_nodup }

/-- A helper met for the first time: its dependencies wait on the stack. -/
theorem Inv.mark {d : Demand} {source : Keyed Specifier} {u : Usage} {n : String} {h : Helper}
    {rest : List String} (inv : d.Inv source (u, n :: rest)) (stands : d.StandsFor n h)
    (fresh : n ∉ u.helpers) : d.Inv source (u.mark n, h.dependencies ++ rest) := by
  have needed : d.Needs n := inv.pending n List.mem_cons_self
  have first : d.Settled (u.mark n) n :=
    ⟨fun i => absurd i stands.1, fun _ dot => absurd dot stands.2.1,
      fun _ _ => List.mem_append_right _ (List.mem_singleton_self n)⟩
  have grows : ∀ {m}, d.Settled u m → d.Settled (u.mark n) m := fun hm =>
    hm.mono (fun _ => List.mem_append_left _) fun _ hr => hr
  exact {
    available := inv.available
    offers := inv.offers
    pending := fun m hm => by
      rcases List.mem_append.1 hm with hm | hm
      · exact .behind needed stands (mem_dependencies_iff.1 hm)
      · exact inv.pending m (List.mem_cons_of_mem n hm)
    helpers := fun m hm => by
      rcases List.mem_append.1 hm with hm | hm
      · exact inv.helpers m hm
      · rw [List.mem_singleton.1 hm]
        exact ⟨needed, h, stands⟩
    requests := inv.requests
    sources := inv.sources
    shown := fun m hm => settled_of_cons h.dependencies (inv.shown m hm) first grows
    closed := fun m hm g hg k hk => by
      rcases List.mem_append.1 hm with hm | hm
      · exact settled_of_cons h.dependencies (inv.closed m hm g hg k hk) first grows
      · -- the new helper's own dependencies are the names just added
        rw [List.mem_singleton.1 hm, stands.2.2] at hg
        rw [← Option.some.inj hg, ← mem_dependencies_iff] at hk
        exact .inl (List.mem_append_left _ hk)
    helpers_nodup := by
      refine List.nodup_append.2 ⟨inv.helpers_nodup, List.nodup_singleton n, ?_⟩
      rintro a ha b hb rfl
      exact fresh (List.mem_singleton.1 hb ▸ ha)
    requests_nodup := inv.requests_nodup }

/-- **A step keeps the invariant.** -/
theorem Inv.step {d : Demand} {source : Keyed Specifier} {s t : Usage × List String}
    (inv : d.Inv source s) (h : Usage.Step d.helpers s t) : d.Inv source t := by
  cases h with
  | @imported u n rest offered =>
    have i : d.importable n := (inv.offers n).1 offered
    refine inv.request (fun _ => ⟨i, .inl (inv.pending n List.mem_cons_self)⟩) ?_
    exact ⟨fun _ => Registry.mem_keys_request.2 (.inr ⟨rfl, offered⟩), fun ni => absurd i ni,
      fun _ stands => absurd i stands.1⟩
  | @dotted u n rest offered dot =>
    have ni : ¬ d.importable n := inv.not_importable offered
    refine inv.request
      (fun i => ⟨i, .inr ⟨n, inv.pending n List.mem_cons_self, ni, dot, rfl⟩⟩) ?_
    exact ⟨fun i => absurd i ni,
      fun _ _ i => Registry.mem_keys_request.2 (.inr ⟨rfl, (inv.offers _).2 i⟩),
      fun _ stands => absurd dot stands.2.1⟩
  | @unknown u n rest plain unknown =>
    have ni : ¬ d.importable n := inv.not_importable plain.1
    refine inv.skip ⟨fun i => absurd i ni, fun _ dot => absurd dot plain.2, fun h stands => ?_⟩
    rw [stands.2.2] at unknown
    cases unknown
  | @marked u n rest plain marked =>
    have ni : ¬ d.importable n := inv.not_importable plain.1
    exact inv.skip ⟨fun i => absurd i ni, fun _ dot => absurd dot plain.2, fun _ _ => marked⟩
  | @fresh u n rest h plain found fresh =>
    have ni : ¬ d.importable n := inv.not_importable plain.1
    exact inv.mark ⟨ni, plain.2, found⟩ fresh

/-- **A run keeps the invariant.** -/
theorem Inv.run {d : Demand} {source : Keyed Specifier} {s t : Usage × List String}
    (h : ReflTransGen (Usage.Step d.helpers) s t) (inv : d.Inv source s) : d.Inv source t := by
  induction h with
  | refl => exact inv
  | tail _ step ih => exact ih.step step

/-- Where the stack is empty, all that is needed is settled. -/
theorem Inv.settled {d : Demand} {source : Keyed Specifier} {u : Usage} (inv : d.Inv source (u, []))
    {n : String} (h : d.Needs n) : d.Settled u n := by
  induction h with
  | shown h => exact (inv.shown _ h).resolve_left List.not_mem_nil
  | behind _ stands depends ih =>
    exact (inv.closed _ (ih.helper _ stands) _ stands.2.2 _ depends).resolve_left List.not_mem_nil

theorem Inv.mem_requested_iff {d : Demand} {source : Keyed Specifier} {u : Usage}
    (inv : d.Inv source (u, [])) {n : String} :
    n ∈ u.registry.requested.keys ↔ d.NeedsImport n := by
  refine ⟨inv.requests n, ?_⟩
  rintro ⟨i, needed | ⟨m, needed, ni, dot, rfl⟩⟩
  · exact (inv.settled needed).imported i
  · exact (inv.settled needed).segment ni dot i

theorem Inv.mem_helpers_iff {d : Demand} {source : Keyed Specifier} {u : Usage}
    (inv : d.Inv source (u, [])) {n : String} : n ∈ u.helpers ↔ d.NeedsHelper n :=
  ⟨inv.helpers n, fun ⟨needed, h, stands⟩ => (inv.settled needed).helper h stands⟩

end Demand

/-! ## Modules -/

/-- What the interfaces of a module's tables demand. -/
def demandOf (a : Adapter) (o : Options) (out : List Statement) : Demand where
  helpers := a.helpers
  importable n := a.imports.has n = true ∨ o.customImports.has n = true
  shown n := ∃ i ∈ tableInterfacesOf out, i.Mentions n

/-- The names that can be imported, with where they come from: the user's entries win. -/
def sourcesOf (a : Adapter) (o : Options) : Keyed Specifier :=
  a.imports.update (Specifier.parseAll o.customImports)

/-- The module imports and declares exactly what the interfaces of its tables demand. -/
structure DeclaresDemand (a : Adapter) (o : Options) (out : List Statement) : Prop where
  /-- Every name is declared by at most one import clause. -/
  imports_nodup : (importedNames (importsOf out)).Nodup
  /-- The names imported are those needed. -/
  imported_iff : ∀ n, n ∈ importedNames (importsOf out) ↔ (demandOf a o out).NeedsImport n
  /-- Every clause takes its name from where the name comes from. -/
  clause_source : ∀ s ∈ importsOf out, ∀ c ∈ s.clauses, ∃ source,
    (sourcesOf a o).find? c.declared = some source ∧ s.moduleName = source.moduleName ∧
      c = source.clause c.declared
  /-- The aliases are those of the helpers needed, each once, in the order of the names that
  stand for them. -/
  aliases : ∃ names : List String, names.Pairwise (· < ·) ∧
    (∀ n, n ∈ names ↔ (demandOf a o out).NeedsHelper n) ∧
    List.Forall₂ (fun n declared => ∃ h, a.helpers.find? n = some h ∧ declared = h.declared)
      names (aliasesOf out)
  /-- So they are sorted by their own names where helpers are kept under those. -/
  aliases_sorted : (∀ e ∈ a.helpers, e.2.name = e.1) →
    ((aliasesOf out).map Alias.name).Pairwise (· < ·)

/-! ## The parts of a transformed module -/

/-- What the module of a database needs. -/
def usageFor (a : Adapter) (o : Options) (db : Database) : Usage :=
  usageOf a o (columnTypes a o db.enums (a.sortTables db.tables))

/-- The names of the helpers in use, in order. -/
def helperNames (u : Usage) : List String := u.helpers.mergeSort fun s t => s ≤ t

/-- What a function picks from a module it picks from its parts. -/
theorem filterMap_transform {β : Type} (f : Statement → Option β) (a : Adapter) (o : Options)
    (db : Database) :
    (transform a o db).filterMap f =
      (usageFor a o db).registry.statements.filterMap (fun s => f (.importing s)) ++
        (helperNames (usageFor a o db)).filterMap (fun n =>
          (a.helpers.find? n).bind fun h => f (.exporting (.typeAlias h.declared))) ++
        (a.sortTables db.tables).filterMap (fun t =>
          f (.exporting (.interface (tableInterface a o db.enums t)))) ++
        (f (.exporting (.interface (databaseInterfaceOf a o
          (a.sortTables db.tables))))).toList := by
  have single : ∀ s, [s].filterMap f = (f s).toList := fun s => by
    cases found : f s <;> simp [found]
  simp only [transform, usageFor, helperNames, helperDeclarations, List.filterMap_append,
    List.filterMap_map, List.filterMap_filterMap, single, Function.comp_def, Option.bind_map]

theorem importsOf_transform (a : Adapter) (o : Options) (db : Database) :
    importsOf (transform a o db) = (usageFor a o db).registry.statements := by
  simp [importsOf, filterMap_transform, Statement.import?]

theorem aliasesOf_transform (a : Adapter) (o : Options) (db : Database) :
    aliasesOf (transform a o db) = (helperNames (usageFor a o db)).filterMap fun n =>
      (a.helpers.find? n).map Helper.declared := by
  have declared : ∀ n, ((a.helpers.find? n).bind fun h => some h.declared) =
      (a.helpers.find? n).map Helper.declared := fun _ => Option.map_eq_bind.symm
  simp [aliasesOf, filterMap_transform, Statement.alias?, declared]

theorem tableInterfacesOf_transform (a : Adapter) (o : Options) (db : Database) :
    tableInterfacesOf (transform a o db) =
      (a.sortTables db.tables).map (tableInterface a o db.enums) := by
  simp [tableInterfacesOf, filterMap_transform, Statement.tableInterface?, tableInterface,
    databaseInterfaceOf]

theorem references_tableInterface (a : Adapter) (o : Options) (enums : EnumTypes) (t : Table) :
    (tableInterface a o enums t).references =
      (t.columns.map (columnTypeOf a o enums t)).flatMap TypeExpr.references := by
  rw [Interface.references, tableInterface]
  induction t.columns with
  | nil => rfl
  | cons c cs ih =>
    rw [List.map_cons, List.map_cons, List.flatMap_cons, columnProperty, referencesOfProperties, ih]

theorem references_columnTypes (a : Adapter) (o : Options) (db : Database) :
    (columnTypes a o db.enums (a.sortTables db.tables)).flatMap TypeExpr.references =
      (tableInterfacesOf (transform a o db)).flatMap Interface.references := by
  rw [tableInterfacesOf_transform, columnTypes, List.flatMap_assoc, List.flatMap_map]
  exact List.flatMap_congr fun t _ => (references_tableInterface a o db.enums t).symm

/-! ## The closure -/

theorem inv_start (a : Adapter) (o : Options) (out : List Statement) :
    (demandOf a o out).Inv (sourcesOf a o)
      (Usage.start a o, (tableInterfacesOf out).flatMap Interface.references) where
  available := rfl
  offers _ := Registry.offers_ofTables
  pending n hn := by
    obtain ⟨i, hi, hn⟩ := List.mem_flatMap.1 hn
    exact .shown ⟨i, hi, mem_interface_references_iff.1 hn⟩
  helpers n hn := absurd hn List.not_mem_nil
  requests n hn := absurd hn List.not_mem_nil
  sources e he := absurd he List.not_mem_nil
  shown n hn := by
    obtain ⟨i, hi, hn⟩ := hn
    exact .inl (List.mem_flatMap.2 ⟨i, hi, mem_interface_references_iff.2 hn⟩)
  closed m hm := absurd hm List.not_mem_nil
  helpers_nodup := List.nodup_nil
  requests_nodup := List.nodup_nil

theorem run_usageFor (a : Adapter) (o : Options) (db : Database) :
    ReflTransGen (Usage.Step a.helpers)
      (Usage.start a o, (tableInterfacesOf (transform a o db)).flatMap Interface.references)
      (usageFor a o db, []) := by
  rw [← references_columnTypes]
  exact Usage.run_usageOf a o _

theorem inv_usageFor (a : Adapter) (o : Options) (db : Database) :
    (demandOf a o (transform a o db)).Inv (sourcesOf a o) (usageFor a o db, []) :=
  (inv_start a o (transform a o db)).run (run_usageFor a o db)

theorem pairwise_helperNames {u : Usage} (h : u.helpers.Nodup) :
    (helperNames u).Pairwise (· < ·) := by
  have sorted : (helperNames u).Pairwise (· ≤ ·) := pairwise_mergeSort_key id u.helpers
  have distinct : (helperNames u).Nodup := (List.mergeSort_perm u.helpers _).nodup_iff.2 h
  refine (sorted.and distinct).imp fun {s t} hst => ?_
  by_contra hlt
  exact hst.2 (String.le_antisymm hst.1 hlt)

theorem forall₂_filterMap_declared {table : Keyed Helper} {names : List String}
    (h : ∀ n ∈ names, ∃ g, table.find? n = some g) :
    List.Forall₂ (fun n declared => ∃ g, table.find? n = some g ∧ declared = Helper.declared g)
      names (names.filterMap fun n => (table.find? n).map Helper.declared) := by
  induction names with
  | nil => exact .nil
  | cons n names ih =>
    obtain ⟨g, hg⟩ := h n List.mem_cons_self
    rw [List.filterMap_cons_some (by rw [hg]; rfl)]
    exact .cons ⟨g, hg, rfl⟩ (ih fun m hm => h m (List.mem_cons_of_mem n hm))

theorem map_name_of_forall₂ {table : Keyed Helper} (own : ∀ e ∈ table, e.2.name = e.1)
    {names : List String} {aliases : List Alias}
    (h : List.Forall₂ (fun n declared => ∃ g, table.find? n = some g ∧ declared = Helper.declared g)
      names aliases) : aliases.map Alias.name = names := by
  induction h with
  | nil => rfl
  | cons first _ ih =>
    obtain ⟨g, hg, rfl⟩ := first
    rw [List.map_cons, ih]
    exact congrArg (· :: _) (own _ (Keyed.mem_of_find? hg))

/-- **A module declares what its tables need.**  The traversal of the names that its tables'
interfaces show terminates whatever the helpers refer to, the module is read off the end of it,
and what the module imports and declares is the dependency closure of those names. -/
theorem transform_closure (a : Adapter) (o : Options) (db : Database) :
    WellFounded (fun t s => Usage.Step a.helpers s t) ∧
    (∃ u, ReflTransGen (Usage.Step a.helpers)
        (Usage.start a o, (tableInterfacesOf (transform a o db)).flatMap Interface.references)
        (u, []) ∧
      importsOf (transform a o db) = u.registry.statements ∧
      aliasesOf (transform a o db) = (helperNames u).filterMap fun n =>
        (a.helpers.find? n).map Helper.declared) ∧
    DeclaresDemand a o (transform a o db) := by
  have inv := inv_usageFor a o db
  have declared : List.Forall₂
      (fun n declared => ∃ h, a.helpers.find? n = some h ∧ declared = Helper.declared h)
      (helperNames (usageFor a o db)) (aliasesOf (transform a o db)) := by
    rw [aliasesOf_transform]
    refine forall₂_filterMap_declared fun n hn => ?_
    rw [helperNames, List.mem_mergeSort] at hn
    obtain ⟨-, h, stands⟩ := inv.helpers n hn
    exact ⟨h, stands.2.2⟩
  have sorted := pairwise_helperNames inv.helpers_nodup
  refine ⟨Usage.step_wellFounded a.helpers, ⟨usageFor a o db, run_usageFor a o db,
    importsOf_transform a o db, aliasesOf_transform a o db⟩, ?_⟩
  refine {
    imports_nodup := ?_
    imported_iff := fun n => ?_
    clause_source := fun s hs c hc => ?_
    aliases := ⟨helperNames (usageFor a o db), sorted, fun n => ?_, declared⟩
    aliases_sorted := fun own => by rwa [map_name_of_forall₂ own declared] }
  · rw [importsOf_transform]
    exact Registry.nodup_importedNames inv.requests_nodup
  · rw [importsOf_transform, Registry.mem_importedNames]
    exact inv.mem_requested_iff
  · rw [importsOf_transform] at hs
    obtain ⟨source, he, hmodule, hclause⟩ := Registry.clause_of_mem_statements hs hc
    exact ⟨source, inv.sources _ he, hmodule, hclause⟩
  · rw [helperNames, List.mem_mergeSort]
    exact inv.mem_helpers_iff

end CatalogTypes
