import CatalogTypes.Catalog.Filter
import CatalogTypes.Proofs.Patterns
import Mathlib.Data.List.Basic

/-!
# Selections of tables

**Theorem (`Selection.select_laws`).** The selected tables are the wanted ones, in their order, and
a second selection with the same options leaves them all.  What is selected with a pattern to
include and what is selected with the same pattern to exclude divide what is selected without
patterns.  Two patterns select together what they select one after the other, in either order.

A table is tested under two names, and matches a pattern if either does.  All laws rest on this test
being one predicate of the table for both sides (`accepts_including`, `accepts_excluding`).
-/

namespace CatalogTypes

/-- A table matches a pattern: it stands for the table's bare or its qualified name. -/
def Table.Matches (t : Table) (pattern : String) : Prop :=
  Glob.StandsFor pattern.toList t.name.toList ∨
    Glob.StandsFor pattern.toList t.qualifiedName.toList

theorem Table.matchesPattern_iff {t : Table} {pattern : String} :
    t.matchesPattern pattern = true ↔ t.Matches pattern := by
  rw [matchesPattern, Bool.or_eq_true, Glob.isMatch_iff, Glob.isMatch_iff, Matches]

/-- Two lists divide a third one: they are parts of it in its order, together they have all of its
elements, and nothing is in both. -/
structure Divide {α : Type} (part rest whole : List α) : Prop where
  left : part.Sublist whole
  right : rest.Sublist whole
  perm : (part ++ rest).Perm whole
  disjoint : part.Disjoint rest

theorem divide_filter {α : Type} (p : α → Bool) (whole : List α) :
    Divide (whole.filter p) (whole.filter (!p ·)) whole where
  left := List.filter_sublist
  right := List.filter_sublist
  perm := List.filter_append_perm p whole
  disjoint a inside outside := by
    have keeps := (List.mem_filter.1 inside).2
    have leaves := (List.mem_filter.1 outside).2
    simp [keeps] at leaves

namespace Selection

variable {s : Selection} {t : Table} {pattern : String}

/-- A table is wanted: it is of a wanted kind, and it matches the pattern to include, if there is
one, and not the pattern to exclude. -/
structure Wants (s : Selection) (t : Table) : Prop where
  views : t.isView = true → s.includeViews = true
  partitions : t.isPartition = true → s.partitions = true
  included : ∀ pattern, s.includePattern = some pattern → pattern ≠ "" → t.Matches pattern
  excluded : ∀ pattern, s.excludePattern = some pattern → pattern ≠ "" → ¬t.Matches pattern

theorem given_eq_some_iff {given? : Option String} :
    given given? = some pattern ↔ given? = some pattern ∧ pattern ≠ "" := by
  simp [given, Option.filter_eq_some_iff]

theorem acceptsKind_iff : s.acceptsKind t = true ↔
    (t.isView = true → s.includeViews = true) ∧ (t.isPartition = true → s.partitions = true) := by
  cases views : t.isView <;> cases parts : t.isPartition <;> simp [acceptsKind, views, parts]

/-- **The accepted tables are the wanted ones.** -/
theorem accepts_iff : s.accepts t = true ↔ s.Wants t := by
  have wants : s.Wants t ↔ s.acceptsKind t = true ∧
      (∀ pattern, given s.includePattern = some pattern → t.Matches pattern) ∧
      ∀ pattern, given s.excludePattern = some pattern → ¬t.Matches pattern := by
    simp only [acceptsKind_iff, given_eq_some_iff, and_imp]
    exact ⟨fun ⟨views, parts, included, excluded⟩ => ⟨⟨views, parts⟩, included, excluded⟩,
      fun ⟨⟨views, parts⟩, included, excluded⟩ => ⟨views, parts, included, excluded⟩⟩
  rw [wants, accepts]
  cases given s.includePattern <;> cases given s.excludePattern <;>
    simp [← Table.matchesPattern_iff, and_assoc]

instance : DecidablePred s.Wants := fun _ => decidable_of_iff _ accepts_iff

theorem select_eq_filter (s : Selection) (tables : List Table) :
    s.select tables = tables.filter fun t => s.Wants t :=
  List.filter_congr fun _ _ => (decide_eq_true_iff.trans accepts_iff.symm |> Bool.eq_iff_iff.2).symm

/-! ## One pattern at a time -/

/-- The selection without its patterns. -/
def unpatterned (s : Selection) : Selection :=
  { s with includePattern := none, excludePattern := none }

/-- The selection with no pattern but one to include. -/
def including (s : Selection) (pattern : Option String) : Selection :=
  { s with includePattern := pattern, excludePattern := none }

/-- The selection with no pattern but one to exclude. -/
def excluding (s : Selection) (pattern : Option String) : Selection :=
  { s with includePattern := none, excludePattern := pattern }

theorem wants_including_iff (given : pattern ≠ "") :
    (s.including (some pattern)).Wants t ↔ s.unpatterned.Wants t ∧ t.Matches pattern := by
  constructor
  · intro h
    exact ⟨⟨h.views, h.partitions, nofun, nofun⟩, h.included pattern rfl given⟩
  · rintro ⟨h, fits⟩
    refine ⟨h.views, h.partitions, fun p same _ => ?_, nofun⟩
    exact Option.some.inj same ▸ fits

theorem wants_excluding_iff (given : pattern ≠ "") :
    (s.excluding (some pattern)).Wants t ↔ s.unpatterned.Wants t ∧ ¬t.Matches pattern := by
  constructor
  · intro h
    exact ⟨⟨h.views, h.partitions, nofun, nofun⟩, h.excluded pattern rfl given⟩
  · rintro ⟨h, fits⟩
    refine ⟨h.views, h.partitions, nofun, fun p same _ => ?_⟩
    exact Option.some.inj same ▸ fits

/-- A table is wanted if it is wanted with either pattern on its own. -/
theorem wants_iff_each : s.Wants t ↔
    (s.including s.includePattern).Wants t ∧ (s.excluding s.excludePattern).Wants t := by
  constructor
  · intro h
    exact ⟨⟨h.views, h.partitions, h.included, nofun⟩, ⟨h.views, h.partitions, nofun, h.excluded⟩⟩
  · rintro ⟨including, excluding⟩
    exact ⟨including.views, including.partitions, including.included, excluding.excluded⟩

/-! ## Selecting -/

variable {tables : List Table}

theorem divide_select (given : pattern ≠ "") :
    Divide ((s.including (some pattern)).select tables)
      ((s.excluding (some pattern)).select tables) (s.unpatterned.select tables) := by
  have inside : (s.including (some pattern)).select tables =
      (s.unpatterned.select tables).filter (·.matchesPattern pattern) := by
    simp only [select_eq_filter, List.filter_filter, wants_including_iff given,
      ← Table.matchesPattern_iff]
    refine List.filter_congr fun t _ => ?_
    simp [Bool.and_comm]
  have outside : (s.excluding (some pattern)).select tables =
      (s.unpatterned.select tables).filter (!·.matchesPattern pattern) := by
    simp only [select_eq_filter, List.filter_filter, wants_excluding_iff given,
      ← Table.matchesPattern_iff]
    refine List.filter_congr fun t _ => ?_
    simp [Bool.and_comm]
  rw [inside, outside]
  exact divide_filter _ _

/-- **The laws of selection.** -/
theorem select_laws (s : Selection) (tables : List Table) :
    s.select tables = tables.filter (fun t => s.Wants t) ∧
      (s.select tables).Sublist tables ∧
      s.select (s.select tables) = s.select tables ∧
      (∀ pattern, pattern ≠ "" → Divide ((s.including (some pattern)).select tables)
        ((s.excluding (some pattern)).select tables) (s.unpatterned.select tables)) ∧
      (s.excluding s.excludePattern).select ((s.including s.includePattern).select tables) =
        s.select tables ∧
      (s.including s.includePattern).select ((s.excluding s.excludePattern).select tables) =
        s.select tables := by
  refine ⟨select_eq_filter s tables, List.filter_sublist, ?_, fun pattern => divide_select, ?_, ?_⟩
  · simp [select]
  · simp only [select_eq_filter, List.filter_filter]
    refine List.filter_congr fun t _ => ?_
    simp [wants_iff_each (s := s), and_comm]
  · simp only [select_eq_filter, List.filter_filter]
    refine List.filter_congr fun t _ => ?_
    simp [wants_iff_each (s := s)]

/-- Two tables, of which one is in a schema. -/
def twoTables : List Table := [{ name := "users", schemaName := some "app" }, { name := "log" }]

theorem select_laws_qualified_name :
    "app.*" ≠ "" ∧
      (({} : Selection).including (some "app.*")).select twoTables =
        [{ name := "users", schemaName := some "app" }] ∧
      Divide [{ name := "users", schemaName := some "app" }] [{ name := "log" }] twoTables := by
  have given : "app.*" ≠ "" := by decide
  have inside : (({} : Selection).including (some "app.*")).select twoTables =
      [{ name := "users", schemaName := some "app" }] := by decide +kernel
  have outside : (({} : Selection).excluding (some "app.*")).select twoTables =
      [{ name := "log" }] := by decide +kernel
  have whole : ({} : Selection).unpatterned.select twoTables = twoTables := by decide +kernel
  obtain ⟨-, -, -, divided, -⟩ := select_laws {} twoTables
  have parts := divided "app.*" given
  rw [inside, outside, whole] at parts
  exact ⟨given, inside, parts⟩

end Selection

end CatalogTypes
