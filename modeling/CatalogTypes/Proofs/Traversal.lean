import CatalogTypes.Proofs.Requests
import CatalogTypes.Transform
import Mathlib.Logic.Relation

/-!
# The traversal of names, step by step

`settle` is a function; here it is the run of a transition system.  A state is what has been
settled and the stack of names that remain.  A step takes the first name off the stack: a name
that can be imported is requested, a dotted one has its first segment requested, and a helper that
is met for the first time is marked and puts its dependencies on the stack.

Helpers may refer to one another in any way, themselves included.  Every step nevertheless
descends: it marks a helper, of which there are finitely many, or it marks none and shortens the
stack (`step_wellFounded`).  `settle` is where the run ends (`run_settle`), also when the names
come in portions (`run_usageOf`).
-/

namespace CatalogTypes.Usage

open Relation

/-- A name that is neither imported nor dotted, so that only a helper can stand for it. -/
def Plain (u : Usage) (n : String) : Prop := u.registry.offers n = false ∧ '.' ∉ n.toList

/-- A name that stands for nothing but itself. -/
def Idle (table : Keyed Helper) (u : Usage) (n : String) : Prop :=
  Plain u n ∧ table.find? n = none

instance (table : Keyed Helper) (u : Usage) (n : String) : Decidable (Idle table u n) :=
  inferInstanceAs (Decidable ((_ ∧ _) ∧ _))

/-- One step of the traversal. -/
inductive Step (table : Keyed Helper) : Usage × List String → Usage × List String → Prop
  | imported {u : Usage} {n : String} {rest : List String} :
      u.registry.offers n = true → Step table (u, n :: rest) (u.request n, rest)
  | dotted {u : Usage} {n : String} {rest : List String} :
      u.registry.offers n = false → '.' ∈ n.toList →
      Step table (u, n :: rest) (u.request (firstSegment n), rest)
  | unknown {u : Usage} {n : String} {rest : List String} :
      Plain u n → table.find? n = none → Step table (u, n :: rest) (u, rest)
  | marked {u : Usage} {n : String} {rest : List String} :
      Plain u n → n ∈ u.helpers → Step table (u, n :: rest) (u, rest)
  | fresh {u : Usage} {n : String} {rest : List String} {h : Helper} :
      Plain u n → table.find? n = some h → n ∉ u.helpers →
      Step table (u, n :: rest) (u.mark n, h.dependencies ++ rest)

/-! ## Termination -/

/-- Helpers not yet marked, then names on the stack. -/
def progress (table : Keyed Helper) (s : Usage × List String) : ℕ × ℕ :=
  (unmarked table s.1.helpers, s.2.length)

theorem progress_lt {table : Keyed Helper} {s t : Usage × List String} (h : Step table s t) :
    Prod.Lex (· < ·) (· < ·) (progress table t) (progress table s) := by
  cases h with
  | imported | dotted | unknown | marked => exact Prod.Lex.right _ (Nat.lt_succ_self _)
  | fresh _ found fresh => exact Prod.Lex.left _ _ (unmarked_append_lt found (by simpa using fresh))

/-- **The traversal terminates**, whatever refers to what. -/
theorem step_wellFounded (table : Keyed Helper) : WellFounded fun t s => Step table s t :=
  Subrelation.wf progress_lt
    (InvImage.wf (progress table) (Prod.lex Nat.lt_wfRel Nat.lt_wfRel).wf)

/-! ## Runs -/

/-- `settle` is the end of a run. -/
theorem run_settle (table : Keyed Helper) (u : Usage) (pending : List String) :
    ReflTransGen (Step table) (u, pending) (settle table u pending, []) := by
  fun_induction settle table u pending with
  | case1 u => exact .refl
  | case2 u n rest offered ih => exact .head (.imported offered) ih
  | case3 u n rest offered dot ih =>
    exact .head (.dotted (by simpa using offered) (by simpa using dot)) ih
  | case4 u n rest offered dot unknown ih =>
    exact .head (.unknown ⟨by simpa using offered, by simpa using dot⟩ unknown) ih
  | case5 u n rest offered dot h found marked ih =>
    exact .head (.marked ⟨by simpa using offered, by simpa using dot⟩ (by simpa using marked)) ih
  | case6 u n rest offered dot h found fresh ih =>
    exact .head (.fresh ⟨by simpa using offered, by simpa using dot⟩ found
      (by simpa using fresh)) ih

/-- A step does not look below the names it takes and adds. -/
theorem Step.append {table : Keyed Helper} {s t : Usage × List String} (h : Step table s t)
    (below : List String) : Step table (s.1, s.2 ++ below) (t.1, t.2 ++ below) := by
  cases h with
  | imported offered => exact .imported offered
  | dotted offered dot => exact .dotted offered dot
  | unknown plain unknown => exact .unknown plain unknown
  | marked plain marked => exact .marked plain marked
  | fresh plain found fresh =>
    rw [List.append_assoc]
    exact .fresh plain found fresh

theorem run_append {table : Keyed Helper} {s t : Usage × List String}
    (h : ReflTransGen (Step table) s t) (below : List String) :
    ReflTransGen (Step table) (s.1, s.2 ++ below) (t.1, t.2 ++ below) :=
  h.lift (fun s => (s.1, s.2 ++ below)) fun _ _ step => step.append below

/-- Collecting type by type is one run over all references. -/
theorem run_foldl_collect (a : Adapter) (u : Usage) (types : List TypeExpr) :
    ReflTransGen (Step a.helpers) (u, types.flatMap TypeExpr.references)
      (types.foldl (fun u e => u.collect a e.references) u, []) := by
  induction types generalizing u with
  | nil => exact .refl
  | cons e types ih =>
    have first := run_append (run_settle a.helpers u e.references)
      (types.flatMap TypeExpr.references)
    exact first.trans (ih (u.collect a e.references))

theorem run_usageOf (a : Adapter) (o : Options) (types : List TypeExpr) :
    ReflTransGen (Step a.helpers) (start a o, types.flatMap TypeExpr.references)
      (usageOf a o types, []) :=
  run_foldl_collect a (start a o) types

/-! ## Types for which nothing is needed -/

theorem settle_of_idle {table : Keyed Helper} {u : Usage} {names : List String}
    (idle : ∀ n ∈ names, Idle table u n) : settle table u names = u := by
  induction names with
  | nil => rw [settle]
  | cons n rest ih =>
    obtain ⟨⟨offered, dot⟩, unknown⟩ := idle n List.mem_cons_self
    have rest := ih fun m hm => idle m (List.mem_cons_of_mem n hm)
    rw [settle, if_neg (by simp [offered]), if_neg (by simpa using dot)]
    split
    next => exact rest
    next found => cases unknown.symm.trans found

theorem usageOf_of_idle {a : Adapter} {o : Options} {types : List TypeExpr}
    (idle : ∀ e ∈ types, ∀ n ∈ e.references, Idle a.helpers (start a o) n) :
    usageOf a o types = start a o := by
  unfold usageOf
  induction types with
  | nil => rfl
  | cons e types ih =>
    rw [List.foldl_cons, collect, settle_of_idle (idle e List.mem_cons_self)]
    exact ih fun d hd => idle d (List.mem_cons_of_mem e hd)

end CatalogTypes.Usage

namespace CatalogTypes

/-- A module whose types need nothing holds the interfaces alone. -/
theorem transform_of_idle {a : Adapter} {o : Options} {db : Database}
    (idle : ∀ t ∈ db.tables, ∀ c ∈ t.columns, ∀ n ∈ (columnTypeOf a o db.enums t c).references,
      Usage.Idle a.helpers (Usage.start a o) n) :
    transform a o db =
      (a.sortTables db.tables).map (fun t =>
        .exporting (.interface (tableInterface a o db.enums t))) ++
      [.exporting (.interface (databaseInterfaceOf a o (a.sortTables db.tables)))] := by
  have types : ∀ e ∈ columnTypes a o db.enums (a.sortTables db.tables), ∀ n ∈ e.references,
      Usage.Idle a.helpers (Usage.start a o) n := by
    intro e he
    obtain ⟨t, ht, he⟩ := List.mem_flatMap.1 he
    obtain ⟨c, hc, rfl⟩ := List.mem_map.1 he
    exact idle t (List.mem_mergeSort.1 ht) c hc
  unfold transform
  dsimp only
  rw [Usage.usageOf_of_idle types]
  have unused : (helperDeclarations a (Usage.start a o)).map Statement.exporting = [] := by
    simp [helperDeclarations, Usage.start]
  rw [unused]
  rfl

end CatalogTypes
