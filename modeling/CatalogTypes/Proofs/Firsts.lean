import Mathlib.Data.List.Induction
import Mathlib.Data.List.Nodup

/-!
# In the order of first coming

Modules, names and tables are listed once each, where they first come.  `Firsts firsts all` says
that a list is such a list of what comes in another one.

A list that grows at its end is followed one element at a time: what has come before changes
nothing (`Firsts.append_of_mem`), and what is new joins at the end (`Firsts.append_of_notMem`).  A
fold that collects what is new keeps this order (`firsts_foldl`), and so does the library's own list
of distinct elements (`firsts_eraseDups`).
-/

namespace CatalogTypes

variable {α : Type} {firsts all : List α} {a b : α}

/-- Some beginning of the list has the one element and not yet the other. -/
def ComesBefore (all : List α) (a b : α) : Prop :=
  ∃ before, before <+: all ∧ a ∈ before ∧ b ∉ before

theorem ComesBefore.append (h : ComesBefore all a b) (more : List α) :
    ComesBefore (all ++ more) a b := by
  obtain ⟨before, start, there, apart⟩ := h
  exact ⟨before, start.trans (List.prefix_append all more), there, apart⟩

theorem ComesBefore.filter {p : α → Bool} (h : ComesBefore all a b) (keeps : p a = true) :
    ComesBefore (all.filter p) a b := by
  obtain ⟨before, start, there, apart⟩ := h
  refine ⟨before.filter p, start.filter p, List.mem_filter.2 ⟨there, keeps⟩, ?_⟩
  exact fun late => apart (List.mem_filter.1 late).1

/-- The elements of a list, each once and in the order in which they first come. -/
structure Firsts (firsts all : List α) : Prop where
  nodup : firsts.Nodup
  mem_iff : ∀ a, a ∈ firsts ↔ a ∈ all
  order : firsts.Pairwise (ComesBefore all)

namespace Firsts

theorem nil : Firsts ([] : List α) [] := ⟨List.nodup_nil, fun _ => Iff.rfl, .nil⟩

/-- What comes again changes nothing. -/
theorem append_of_mem (h : Firsts firsts all) (old : a ∈ all) : Firsts firsts (all ++ [a]) where
  nodup := h.nodup
  mem_iff b := by
    rw [h.mem_iff, List.mem_append, List.mem_singleton]
    refine ⟨.inl, ?_⟩
    rintro (there | rfl)
    · exact there
    · exact old
  order := h.order.imp fun before => before.append [a]

/-- What is new comes last. -/
theorem append_of_notMem (h : Firsts firsts all) (new : a ∉ all) :
    Firsts (firsts ++ [a]) (all ++ [a]) where
  nodup := by
    rw [List.nodup_append]
    refine ⟨h.nodup, List.nodup_singleton a, ?_⟩
    rintro b there c last rfl
    exact new (List.mem_singleton.1 last ▸ (h.mem_iff b).1 there)
  mem_iff b := by rw [List.mem_append, List.mem_append, h.mem_iff]
  order := by
    refine List.pairwise_append.2 ⟨h.order.imp fun before => before.append [a], ?_, ?_⟩
    · exact List.pairwise_singleton _ a
    · intro b there c last
      rw [List.mem_singleton.1 last]
      exact ⟨all, List.prefix_append all [a], (h.mem_iff b).1 there, new⟩

theorem filter (h : Firsts firsts all) (p : α → Bool) :
    Firsts (firsts.filter p) (all.filter p) where
  nodup := h.nodup.filter p
  mem_iff a := by rw [List.mem_filter, List.mem_filter, h.mem_iff]
  order := by
    refine List.Pairwise.imp_of_mem ?_ (h.order.filter p)
    intro a b kept _ before
    exact before.filter (List.mem_filter.1 kept).2

end Firsts

/-- The fold that collects what is new. -/
theorem firsts_foldl [BEq α] [LawfulBEq α] (all : List α) :
    Firsts (all.foldl (fun seen a => if seen.contains a then seen else seen ++ [a]) []) all := by
  induction all using List.reverseRecOn with
  | nil => exact .nil
  | append_singleton all a ih =>
    rw [List.foldl_append, List.foldl_cons, List.foldl_nil]
    split_ifs with old
    · exact ih.append_of_mem ((ih.mem_iff a).1 (List.contains_iff_mem.1 old))
    · exact ih.append_of_notMem fun there => old (List.contains_iff_mem.2 ((ih.mem_iff a).2 there))

theorem eraseDups_append_singleton [BEq α] [LawfulBEq α] (all : List α) (a : α) :
    (all ++ [a]).eraseDups = all.eraseDups ++ if a ∈ all then [] else [a] := by
  rw [List.eraseDups_append]
  split_ifs with old
  · have none_left : [a].removeAll all = [] := by simp [List.removeAll, old]
    rw [none_left, List.eraseDups_nil]
  · have left : [a].removeAll all = [a] := by simp [List.removeAll, old]
    rw [left]
    rfl

theorem firsts_eraseDups [BEq α] [LawfulBEq α] (all : List α) : Firsts all.eraseDups all := by
  induction all using List.reverseRecOn with
  | nil => exact .nil
  | append_singleton all a ih =>
    rw [eraseDups_append_singleton]
    split_ifs with old
    · rw [List.append_nil]
      exact ih.append_of_mem old
    · exact ih.append_of_notMem old

end CatalogTypes
