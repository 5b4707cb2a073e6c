import CatalogTypes.Imports
import CatalogTypes.Proofs.Firsts

/-!
# What the import statements of a registry declare

A registry keeps its requests in a list; the statements are read off it module by module.  Every
request becomes one clause of one statement, so the names that the statements declare are the
names requested: the same ones (`mem_importedNames`), and each once (`nodup_importedNames`).
-/

namespace CatalogTypes

/-- The local names that import statements declare, clause by clause. -/
def importedNames (statements : List ImportStatement) : List String :=
  statements.flatMap fun s => s.clauses.map ImportClause.declared

@[simp] theorem Specifier.declared_clause (s : Specifier) (n : String) :
    (s.clause n).declared = n := by
  unfold clause ImportClause.declared
  split_ifs with h
  · exact h.symm
  · rfl

/-! ## Parsed tables -/

theorem keys_parseAll (custom : Keyed String) :
    (Specifier.parseAll custom).keys = custom.keys := by
  simp [Keyed.keys, Specifier.parseAll]

theorem find?_parseAll (custom : Keyed String) (n : String) :
    (Specifier.parseAll custom).find? n = (custom.find? n).map (Specifier.parse n) := by
  induction custom with
  | nil => rfl
  | cons entry rest ih =>
    obtain ⟨k, v⟩ := entry
    show Keyed.find? ((k, Specifier.parse k v) :: Specifier.parseAll rest) n = _
    by_cases same : k = n
    · subst same
      simp [Keyed.find?]
    · simp [Keyed.find?, same, ih]

namespace Registry

/-! ## Requests -/

theorem has_parseAll {custom : Keyed String} {n : String} :
    (Specifier.parseAll custom).has n = true ↔ custom.has n = true := by
  rw [Keyed.has_iff_mem_keys, Keyed.has_iff_mem_keys, keys_parseAll]

theorem offers_ofTables {base : Keyed Specifier} {custom : Keyed String} {n : String} :
    (ofTables base (Specifier.parseAll custom)).offers n = true ↔
      base.has n = true ∨ custom.has n = true := by
  rw [offers, ofTables, Keyed.has_update, has_parseAll]

@[simp] theorem offers_request (r : Registry) (m n : String) :
    (r.request m).offers n = r.offers n := by
  rw [offers, available_request, offers]

/-- A request adds at most the entry of its name. -/
theorem request_cases (r : Registry) (n : String) :
    (r.request n = r ∧ (r.offers n = true → n ∈ r.requested.keys)) ∨
      ∃ s, r.available.find? n = some s ∧ n ∉ r.requested.keys ∧
        r.request n = { r with requested := r.requested ++ [(n, s)] } := by
  unfold request
  cases hf : r.available.find? n with
  | none => exact .inl ⟨rfl, fun h => by simp [offers, Keyed.has, hf] at h⟩
  | some s =>
    by_cases hn : n ∈ r.requested.keys
    · have old := Keyed.has_iff_mem_keys.2 hn
      exact .inl ⟨by simp [old], fun _ => hn⟩
    · have fresh : ¬ r.requested.has n = true := fun h => hn (Keyed.has_iff_mem_keys.1 h)
      exact .inr ⟨s, rfl, hn, by simp [fresh]⟩

theorem mem_keys_request {r : Registry} {m n : String} :
    m ∈ (r.request n).requested.keys ↔
      m ∈ r.requested.keys ∨ m = n ∧ r.offers n = true := by
  rcases request_cases r n with ⟨h, hn⟩ | ⟨s, hs, -, h⟩
  · rw [h]
    refine ⟨Or.inl, ?_⟩
    rintro (hm | ⟨rfl, offered⟩)
    · exact hm
    · exact hn offered
  · have offered : r.offers n = true := Keyed.has_iff.2 ⟨s, hs⟩
    rw [h]
    simp [Keyed.keys, offered]

theorem nodup_keys_request {r : Registry} (n : String) (h : r.requested.keys.Nodup) :
    (r.request n).requested.keys.Nodup := by
  rcases request_cases r n with ⟨hr, -⟩ | ⟨s, -, fresh, hr⟩
  · rwa [hr]
  · rw [hr]
    have keys : (r.requested ++ [(n, s)] : Keyed Specifier).keys = r.requested.keys ++ [n] := by
      simp [Keyed.keys]
    rw [keys, List.nodup_append]
    refine ⟨h, List.nodup_singleton n, ?_⟩
    rintro a ha b hb rfl
    exact fresh (List.mem_singleton.1 hb ▸ ha)

/-! ## Modules in order -/

theorem firsts_moduleNames (r : Registry) :
    Firsts r.moduleNames (r.requested.map (·.2.moduleName)) :=
  firsts_foldl _

theorem mem_moduleNames {r : Registry} {m : String} :
    m ∈ r.moduleNames ↔ ∃ e ∈ r.requested, e.2.moduleName = m := by
  rw [r.firsts_moduleNames.mem_iff, List.mem_map]

theorem nodup_moduleNames (r : Registry) : r.moduleNames.Nodup := r.firsts_moduleNames.nodup

/-! ## Statements -/

theorem importedNames_statements (r : Registry) :
    importedNames r.statements =
      r.moduleNames.flatMap fun m => (r.requested.filter (·.2.moduleName = m)).map Prod.fst := by
  simp [importedNames, statements, List.flatMap_map, Function.comp_def]

theorem mem_importedNames {r : Registry} {n : String} :
    n ∈ importedNames r.statements ↔ n ∈ r.requested.keys := by
  simp only [importedNames_statements, List.mem_flatMap, mem_moduleNames, List.mem_map,
    List.mem_filter, decide_eq_true_eq, Keyed.keys]
  constructor
  · rintro ⟨-, -, e, ⟨he, -⟩, rfl⟩
    exact ⟨e, he, rfl⟩
  · rintro ⟨e, he, rfl⟩
    exact ⟨_, ⟨e, he, rfl⟩, e, ⟨he, rfl⟩, rfl⟩

/-- **One clause for each request.** -/
theorem nodup_importedNames {r : Registry} (h : r.requested.keys.Nodup) :
    (importedNames r.statements).Nodup := by
  rw [importedNames_statements, List.nodup_flatMap]
  refine ⟨fun m _ => h.sublist (List.filter_sublist.map Prod.fst), ?_⟩
  refine (nodup_moduleNames r).imp fun {m m'} hne => ?_
  intro n hm hm'
  simp only [List.mem_map, List.mem_filter, decide_eq_true_eq] at hm hm'
  obtain ⟨e, ⟨he, rfl⟩, rfl⟩ := hm
  obtain ⟨e', ⟨he', rfl⟩, hee⟩ := hm'
  exact hne (by rw [List.inj_on_of_nodup_map h he' he hee])

/-- A clause names what the specifier of its local name says. -/
theorem clause_of_mem_statements {r : Registry} {s : ImportStatement} {c : ImportClause}
    (hs : s ∈ r.statements) (hc : c ∈ s.clauses) :
    ∃ source, (c.declared, source) ∈ r.requested ∧ s.moduleName = source.moduleName ∧
      c = source.clause c.declared := by
  simp only [statements, List.mem_map] at hs
  obtain ⟨m, -, rfl⟩ := hs
  simp only [List.mem_map, List.mem_filter, decide_eq_true_eq] at hc
  obtain ⟨⟨n, source⟩, ⟨he, rfl⟩, rfl⟩ := hc
  exact ⟨source, by rwa [Specifier.declared_clause], rfl, by rw [Specifier.declared_clause]⟩

/-- A request is served by a clause of the statement of its module. -/
theorem exists_statement_of_mem_requested {r : Registry} {n : String} {source : Specifier}
    (h : (n, source) ∈ r.requested) :
    ∃ s ∈ r.statements, s.moduleName = source.moduleName ∧ source.clause n ∈ s.clauses := by
  refine ⟨_, List.mem_map_of_mem (mem_moduleNames.2 ⟨_, h, rfl⟩), rfl, ?_⟩
  exact List.mem_map.2 ⟨(n, source), List.mem_filter.2 ⟨h, by simp⟩, rfl⟩

end Registry

end CatalogTypes
