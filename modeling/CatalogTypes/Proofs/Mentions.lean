import CatalogTypes.Helper

/-!
# Which names an expression mentions

`references` computes a list; `Mentions` says what the list is for.  An expression mentions the
name of a named type, of a generic type and of the JSON column wrapper, and whatever its parts
mention.  Tables, literals and raw text mention nothing.

Main result: `mem_references_iff`, and with it what a helper depends on
(`mem_dependencies_iff`) and what an interface mentions (`mem_interface_references_iff`).
-/

namespace CatalogTypes

/-- A name occurs in an expression, at the head of a part of it. -/
inductive TypeExpr.Mentions : TypeExpr → String → Prop
  | named (n : String) : Mentions (.named n) n
  | generic (n : String) (args : List TypeExpr) : Mentions (.generic n args) n
  | jsonColumn (text : String) : Mentions (.jsonColumn text) "JSONColumnType"
  | argument {m n : String} {args : List TypeExpr} {e : TypeExpr} :
      e ∈ args → Mentions e n → Mentions (.generic m args) n
  | member {n : String} {members : List TypeExpr} {e : TypeExpr} :
      e ∈ members → Mentions e n → Mentions (.union members) n
  | element {n : String} {e : TypeExpr} : Mentions e n → Mentions (.array e) n
  | property {n : String} {properties : List (Member TypeExpr)} {p : Member TypeExpr} :
      p ∈ properties → Mentions p.value n → Mentions (.object properties) n

/-! ## The list is exact -/

theorem mem_referencesAll {n : String} {es : List TypeExpr} :
    n ∈ referencesAll es ↔ ∃ e ∈ es, n ∈ e.references := by
  induction es with
  | nil => simp [referencesAll]
  | cons e es ih => simp [referencesAll, ih]

theorem mem_referencesOfProperties {n : String} {ps : List (Member TypeExpr)} :
    n ∈ referencesOfProperties ps ↔ ∃ p ∈ ps, n ∈ p.value.references := by
  induction ps with
  | nil => simp [referencesOfProperties]
  | cons p ps ih =>
    obtain ⟨key, value, comment⟩ := p
    simp [referencesOfProperties, ih]

theorem mem_references_of_mentions {e : TypeExpr} {n : String} (h : e.Mentions n) :
    n ∈ e.references := by
  induction h with
  | named | jsonColumn => simp [TypeExpr.references]
  | generic => simp [TypeExpr.references]
  | argument he _ ih =>
    rw [TypeExpr.references]
    exact List.mem_cons_of_mem _ (mem_referencesAll.2 ⟨_, he, ih⟩)
  | member he _ ih =>
    rw [TypeExpr.references]
    exact mem_referencesAll.2 ⟨_, he, ih⟩
  | element _ ih => rwa [TypeExpr.references]
  | property hp _ ih =>
    rw [TypeExpr.references]
    exact mem_referencesOfProperties.2 ⟨_, hp, ih⟩

mutual

theorem mentions_of_mem_references {n : String} :
    ∀ e : TypeExpr, n ∈ e.references → e.Mentions n
  | .named m, h => by
    rw [TypeExpr.references, List.mem_singleton] at h
    exact h ▸ .named m
  | .table _, h | .literal _, h | .raw _, h => by simp [TypeExpr.references] at h
  | .generic m args, h => by
    rw [TypeExpr.references, List.mem_cons] at h
    rcases h with rfl | h
    · exact .generic n args
    · obtain ⟨e, he, hn⟩ := exists_mentions_of_mem_referencesAll args h
      exact .argument he hn
  | .union members, h => by
    rw [TypeExpr.references] at h
    obtain ⟨e, he, hn⟩ := exists_mentions_of_mem_referencesAll members h
    exact .member he hn
  | .array e, h => by
    rw [TypeExpr.references] at h
    exact .element (mentions_of_mem_references e h)
  | .jsonColumn text, h => by
    rw [TypeExpr.references, List.mem_singleton] at h
    exact h ▸ .jsonColumn text
  | .object properties, h => by
    rw [TypeExpr.references] at h
    obtain ⟨p, hp, hn⟩ := exists_mentions_of_mem_referencesOfProperties properties h
    exact .property hp hn

theorem exists_mentions_of_mem_referencesAll {n : String} :
    ∀ es : List TypeExpr, n ∈ referencesAll es → ∃ e ∈ es, e.Mentions n
  | [], h => by simp [referencesAll] at h
  | e :: es, h => by
    rw [referencesAll, List.mem_append] at h
    rcases h with h | h
    · exact ⟨e, List.mem_cons_self, mentions_of_mem_references e h⟩
    · obtain ⟨e', he', hn⟩ := exists_mentions_of_mem_referencesAll es h
      exact ⟨e', List.mem_cons_of_mem _ he', hn⟩

theorem exists_mentions_of_mem_referencesOfProperties {n : String} :
    ∀ ps : List (Member TypeExpr), n ∈ referencesOfProperties ps →
      ∃ p ∈ ps, p.value.Mentions n
  | [], h => by simp [referencesOfProperties] at h
  | ⟨key, value, comment⟩ :: ps, h => by
    rw [referencesOfProperties, List.mem_append] at h
    rcases h with h | h
    · exact ⟨_, List.mem_cons_self, mentions_of_mem_references value h⟩
    · obtain ⟨p, hp, hn⟩ := exists_mentions_of_mem_referencesOfProperties ps h
      exact ⟨p, List.mem_cons_of_mem _ hp, hn⟩

end

/-- **References are the names mentioned.** -/
theorem mem_references_iff {e : TypeExpr} {n : String} : n ∈ e.references ↔ e.Mentions n :=
  ⟨mentions_of_mem_references e, mem_references_of_mentions⟩

/-! ## Interfaces and helpers -/

/-- An interface mentions what the types of its properties mention. -/
def Interface.Mentions (i : Interface) (n : String) : Prop := ∃ p ∈ i.properties, p.value.Mentions n

theorem mem_interface_references_iff {i : Interface} {n : String} :
    n ∈ i.references ↔ i.Mentions n := by
  simp only [Interface.references, Interface.Mentions, mem_referencesOfProperties,
    mem_references_iff]

/-- A helper depends on the names it lists and on those its body mentions, its parameters aside. -/
def Helper.DependsOn (h : Helper) (n : String) : Prop :=
  n ∈ h.requires ∨ h.declared.body.Mentions n ∧ n ∉ h.declared.params

theorem mem_dependencies_iff {h : Helper} {n : String} :
    n ∈ h.dependencies ↔ h.DependsOn n := by
  simp [Helper.dependencies, Alias.references, Helper.DependsOn, mem_references_iff]

end CatalogTypes
