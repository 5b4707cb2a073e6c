import CatalogTypes.Adapter
import CatalogTypes.Proofs.Requests
import Mathlib.Data.List.TakeWhile

/-!
# Registries serve what is requested

**Theorem (`requests_served`).** Whatever names are requested of a registry, one after another and
with repeats: it offers exactly the names of its two tables; its statements are those of the modules
that the requested names come from, in the order in which the modules first came, each with one
clause for each name of its module, in the order in which the names first came; and the custom table
decides where a name comes from that both tables have.

The registry is followed request by request.  A name that is new joins its requests at the end, and
its module joins the modules if it is new too; any other request leaves it as it is
(`Records.request`).  What the statements list is read off these two orders (`Records.serves`).

A custom entry names a module and a name in it, cut at the last `#` of its text
(`Specifier.splitAtHash_append`).
-/

namespace CatalogTypes

/-! ## Specifiers -/

namespace Specifier

theorem splitAtHash_append {after : List Char} (last : '#' ∉ after) (before : List Char) :
    splitAtHash (before ++ '#' :: after) =
      if before.isEmpty || after.isEmpty then none else some (before, after) := by
  have name : ∀ c ∈ after.reverse, decide (c ≠ '#') = true := by
    intro c inside
    simpa using fun same : c = '#' => last (same ▸ List.mem_reverse.1 inside)
  have back : (before ++ '#' :: after).reverse = after.reverse ++ '#' :: before.reverse := by simp
  rw [splitAtHash, back, List.takeWhile_append_of_pos name, List.dropWhile_append_of_pos name]
  simp

theorem splitAtHash_of_notMem {cs : List Char} (absent : '#' ∉ cs) : splitAtHash cs = none := by
  have name : ∀ c ∈ cs.reverse, decide (c ≠ '#') = true := by
    intro c inside
    simpa using fun same : c = '#' => absent (same ▸ List.mem_reverse.1 inside)
  have none_left : cs.reverse.dropWhile (· ≠ '#') = [] := List.dropWhile_eq_nil_iff.2 name
  rw [splitAtHash, none_left]

/-- A text has no `#`, or the last one is its first character or its last one. -/
def IsWhole (text : String) : Prop :=
  ∀ before after, text.toList = before ++ '#' :: after → '#' ∉ after → before = [] ∨ after = []

/-- What the texts of custom entries stand for. -/
structure DecodesTexts : Prop where
  /-- A module and a name without `#` are read from the text that joins them with one. -/
  joined : ∀ localName module name : String, module ≠ "" → name ≠ "" → '#' ∉ name.toList →
    parse localName (module ++ "#" ++ name) = ⟨module, name⟩
  /-- A text that is not cut is the module, which exports the local name. -/
  whole : ∀ localName text : String, IsWhole text → parse localName text = ⟨text, localName⟩

theorem decodesTexts : DecodesTexts where
  joined localName module name hasModule hasName absent := by
    have text : (module ++ "#" ++ name).toList = module.toList ++ '#' :: name.toList := by simp
    rw [parse, text, splitAtHash_append absent]
    simp [hasModule, hasName]
  whole localName text isWhole := by
    have uncut : splitAtHash text.toList = none := by
      by_cases there : '#' ∈ text.toList
      · obtain ⟨after, before, shape, last⟩ := List.eq_append_cons_of_mem (List.mem_reverse.2 there)
        have cut : text.toList = before.reverse ++ '#' :: after.reverse := by
          simpa using congrArg List.reverse shape
        have last : '#' ∉ after.reverse := fun inside => last (List.mem_reverse.1 inside)
        rw [cut, splitAtHash_append last, if_pos]
        simpa using isWhole _ _ cut last
      · exact splitAtHash_of_notMem there
    rw [parse, uncut]

end Specifier

/-! ## What requests ask for -/

/-- Where names come from: the custom table decides, then the base table. -/
def sourceOf (base : Keyed Specifier) (custom : Keyed String) (n : String) : Option Specifier :=
  ((custom.find? n).map (Specifier.parse n)).or (base.find? n)

/-- The module that a name comes from. -/
def moduleOf (source : String → Option Specifier) (n : String) : Option String :=
  (source n).map (·.moduleName)

/-- Statements serve requests for names: each module and each name once, in the order in which they
were first asked for, and each name from its source. -/
structure Serves (source : String → Option Specifier) (names : List String)
    (statements : List ImportStatement) : Prop where
  modules : Firsts (statements.map (·.moduleName)) (names.filterMap (moduleOf source))
  declared : ∀ s ∈ statements, Firsts (s.clauses.map ImportClause.declared)
    (names.filter (moduleOf source · = some s.moduleName))
  clauses : ∀ s ∈ statements, ∀ c ∈ s.clauses, ∃ specifier, source c.declared = some specifier ∧
    c.name = specifier.exportName ∧ (c.localName = none ↔ c.declared = specifier.exportName)

namespace Registry

/-- The registry after requests made one after another. -/
def requestAll (r : Registry) (names : List String) : Registry := names.foldl request r

/-- What a registry has recorded of the requests for names. -/
structure Records (source : String → Option Specifier) (names : List String) (r : Registry) :
    Prop where
  available : ∀ n, r.available.find? n = source n
  sources : ∀ e ∈ r.requested, source e.1 = some e.2
  keys : Firsts r.requested.keys (names.filter fun n => (source n).isSome)
  modules : Firsts r.moduleNames (names.filterMap (moduleOf source))

variable {source : String → Option Specifier} {names : List String} {r : Registry}

theorem moduleNames_append (r : Registry) (n : String) (s : Specifier) :
    moduleNames { r with requested := r.requested ++ [(n, s)] } =
      if r.moduleNames.contains s.moduleName then r.moduleNames
      else r.moduleNames ++ [s.moduleName] := by
  simp [moduleNames]

/-- **A request is recorded.** -/
theorem Records.request (h : Records source names r) (n : String) :
    Records source (names ++ [n]) (r.request n) := by
  rcases r.request_cases n with ⟨same, asked⟩ | ⟨s, found, new, joined⟩
  · rw [same]
    cases here : source n with
    | none =>
      refine ⟨h.available, h.sources, ?_, ?_⟩
      · simpa [here] using h.keys
      · simpa [moduleOf, here] using h.modules
    | some s =>
      have offered : r.offers n = true := Keyed.has_iff.2 ⟨s, (h.available n).trans here⟩
      have old := (h.keys.mem_iff n).1 (asked offered)
      have oldModule : s.moduleName ∈ names.filterMap (moduleOf source) :=
        List.mem_filterMap.2 ⟨n, (List.mem_filter.1 old).1, by rw [moduleOf, here]; rfl⟩
      refine ⟨h.available, h.sources, ?_, ?_⟩
      · simpa [here] using h.keys.append_of_mem old
      · simpa [moduleOf, here] using h.modules.append_of_mem oldModule
  · rw [joined]
    have here : source n = some s := (h.available n).symm.trans found
    refine ⟨h.available, ?_, ?_, ?_⟩
    · exact List.forall_mem_append.2 ⟨h.sources, List.forall_mem_singleton.2 here⟩
    · have keys : (r.requested ++ [(n, s)] : Keyed Specifier).keys = r.requested.keys ++ [n] := by
        simp [Keyed.keys]
      rw [keys]
      simpa [here] using h.keys.append_of_notMem fun there => new ((h.keys.mem_iff n).2 there)
    · rw [moduleNames_append]
      simp only [List.filterMap_append, List.filterMap_cons, moduleOf, here, Option.map_some,
        List.filterMap_nil]
      split_ifs with old
      · exact h.modules.append_of_mem ((h.modules.mem_iff _).1 (List.contains_iff_mem.1 old))
      · exact h.modules.append_of_notMem fun there =>
          old (List.contains_iff_mem.2 ((h.modules.mem_iff _).2 there))

/-- A registry records all that is requested of it. -/
theorem records_requestAll (fresh : r.requested = []) (names : List String) :
    Records r.available.find? names (r.requestAll names) := by
  induction names using List.reverseRecOn with
  | nil =>
    have keys : r.requested.keys = [] := by rw [fresh]; rfl
    have modules : r.moduleNames = [] := by rw [moduleNames, fresh]; rfl
    refine ⟨fun _ => rfl, ?_, ?_, ?_⟩
    · show ∀ e ∈ r.requested, _
      rw [fresh]
      exact nofun
    · show Firsts r.requested.keys []
      rw [keys]
      exact .nil
    · show Firsts r.moduleNames []
      rw [modules]
      exact .nil
  | append_singleton names n ih =>
    rw [requestAll, List.foldl_append]
    exact ih.request n

/-- The names of a module among the requests are those that come from it. -/
theorem Records.keys_of_module (h : Records source names r) (m : String) :
    (r.requested.filter (·.2.moduleName = m)).map Prod.fst =
      r.requested.keys.filter (moduleOf source · = some m) := by
  rw [Keyed.keys, List.filter_map]
  refine congrArg (List.map Prod.fst) (List.filter_congr fun e asked => ?_)
  simp [moduleOf, h.sources e asked]

/-- **The statements serve what has been recorded.** -/
theorem Records.serves (h : Records source names r) : Serves source names r.statements where
  modules := by
    have modules : r.statements.map (·.moduleName) = r.moduleNames := by
      simp [statements, Function.comp_def]
    rw [modules]
    exact h.modules
  declared s inside := by
    obtain ⟨m, -, rfl⟩ := List.mem_map.1 inside
    have first := h.keys.filter (moduleOf source · = some m)
    rw [List.filter_filter] at first
    have asked : names.filter (fun n => decide (moduleOf source n = some m) && (source n).isSome) =
        names.filter (moduleOf source · = some m) := by
      refine List.filter_congr fun n _ => ?_
      cases found : source n <;> simp [moduleOf, found]
    rw [asked] at first
    simpa [Function.comp_def, h.keys_of_module m] using first
  clauses s inside c clause := by
    obtain ⟨specifier, asked, -, written⟩ := clause_of_mem_statements inside clause
    refine ⟨specifier, h.sources _ asked, ?_, ?_⟩
    · rw [written]
      rfl
    · rw [written, Specifier.declared_clause, Specifier.clause]
      simp

/-- The entries of two tables are found as a registry of both has them. -/
theorem find?_ofTables (base : Keyed Specifier) {custom : Keyed String}
    (distinct : custom.keys.Nodup) :
    (ofTables base (Specifier.parseAll custom)).available.find? = sourceOf base custom := by
  funext n
  rw [ofTables, Keyed.find?_update (by rwa [keys_parseAll]), find?_parseAll]
  rfl

@[simp] theorem offers_requestAll (r : Registry) (names : List String) (n : String) :
    (r.requestAll names).offers n = r.offers n := by
  induction names using List.reverseRecOn with
  | nil => rfl
  | append_singleton names m ih =>
    rw [requestAll, List.foldl_append]
    exact (offers_request _ m n).trans ih

/-- **A registry serves what is requested of it.** -/
theorem requests_served (base : Keyed Specifier) {custom : Keyed String}
    (distinct : custom.keys.Nodup) (names : List String) :
    let r := (ofTables base (Specifier.parseAll custom)).requestAll names
    (∀ n, r.offers n = true ↔ base.has n = true ∨ custom.has n = true) ∧
      Serves (sourceOf base custom) names r.statements ∧
      r.size = r.statements.length ∧
      Specifier.DecodesTexts := by
  intro r
  have records := records_requestAll (r := ofTables base (Specifier.parseAll custom)) rfl names
  rw [find?_ofTables base distinct] at records
  refine ⟨fun n => ?_, records.serves, r.length_statements.symm, Specifier.decodesTexts⟩
  rw [offers_requestAll]
  exact offers_ofTables

/-- A custom table that takes over a base name. -/
def takeoverTable : Keyed String := [("ColumnType", "./types#Column"), ("Money", "#money")]

/-- A name taken over, a name of each table, one that neither has, and a repeat. -/
theorem requests_served_takeover :
    takeoverTable.keys.Nodup ∧
      Serves (sourceOf baseImports takeoverTable)
        ["Money", "ColumnType", "JSONColumnType", "Date", "Money"] [
          ⟨"#money", [⟨"Money", none⟩]⟩,
          ⟨"./types", [⟨"Column", some "ColumnType"⟩]⟩,
          ⟨"kysely", [⟨"JSONColumnType", none⟩]⟩] := by
  have distinct : takeoverTable.keys.Nodup := by decide
  have served := (requests_served baseImports distinct
    ["Money", "ColumnType", "JSONColumnType", "Date", "Money"]).2.1
  have written : ((ofTables baseImports (Specifier.parseAll takeoverTable)).requestAll
      ["Money", "ColumnType", "JSONColumnType", "Date", "Money"]).statements = [
        ⟨"#money", [⟨"Money", none⟩]⟩,
        ⟨"./types", [⟨"Column", some "ColumnType"⟩]⟩,
        ⟨"kysely", [⟨"JSONColumnType", none⟩]⟩] := by decide
  rw [written] at served
  exact ⟨distinct, served⟩

end Registry

end CatalogTypes
