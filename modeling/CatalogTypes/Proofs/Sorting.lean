import Mathlib.Data.List.Basic

/-!
# Sorting by a key

A list sorted by the texts of its elements keeps the order of those whose texts are equal: the
elements with a given text are the same before and after, in the same order
(`filter_mergeSort_key`).  Among sorted lists these classes say everything
(`sublist_of_filter_sublist`).  So what sorting gives depends on the classes only
(`mergeSort_key_congr`), and the sorted form of a part of a list is a part of its sorted form
(`mergeSort_key_sublist`).
-/

namespace CatalogTypes

variable {α : Type} (key : α → String)

theorem le_key_trans (x y z : α) (hxy : decide (key x ≤ key y) = true)
    (hyz : decide (key y ≤ key z) = true) : decide (key x ≤ key z) = true := by
  rw [decide_eq_true_eq] at hxy hyz ⊢
  exact String.le_trans hxy hyz

theorem le_key_total (x y : α) : (decide (key x ≤ key y) || decide (key y ≤ key x)) = true := by
  simpa using String.le_total (key x) (key y)

theorem pairwise_mergeSort_key (l : List α) :
    (l.mergeSort fun x y => key x ≤ key y).Pairwise fun x y => key x ≤ key y :=
  (List.pairwise_mergeSort (le_key_trans key) (le_key_total key) l).imp of_decide_eq_true

/-- **Sorting is stable.** -/
theorem filter_mergeSort_key (l : List α) (k : String) :
    (l.mergeSort fun x y => key x ≤ key y).filter (key · = k) = l.filter (key · = k) := by
  have tied : (l.filter (key · = k)).Pairwise fun x y => decide (key x ≤ key y) = true := by
    refine List.pairwise_of_forall_mem_list fun x hx y hy => ?_
    have hxk : key x = k := by simpa using (List.mem_filter.1 hx).2
    have hyk : key y = k := by simpa using (List.mem_filter.1 hy).2
    rw [hxk, hyk]
    exact decide_eq_true (String.le_refl k)
  have kept := List.sublist_mergeSort (le_key_trans key) (le_key_total key) tied
    List.filter_sublist
  have inside := kept.filter (key · = k)
  rw [List.filter_filter] at inside
  simp only [Bool.and_self] at inside
  refine (inside.eq_of_length ?_).symm
  exact ((List.mergeSort_perm l _).symm.filter (key · = k)).length_eq

variable {key}

theorem mem_of_filter_sublist {l m : List α}
    (h : ∀ k, (l.filter (key · = k)).Sublist (m.filter (key · = k))) {x : α} (hx : x ∈ l) :
    x ∈ m := by
  have tied : x ∈ l.filter (key · = key x) := List.mem_filter.2 ⟨hx, by simp⟩
  exact (List.mem_filter.1 ((h (key x)).subset tied)).1

/-- An element that its own class does not need is needed by no class. -/
theorem filter_sublist_of_cons {l m : List α} {y : α}
    (h : ∀ k, (l.filter (key · = k)).Sublist ((y :: m).filter (key · = k)))
    (own : (l.filter (key · = key y)).Sublist (m.filter (key · = key y))) (k : String) :
    (l.filter (key · = k)).Sublist (m.filter (key · = k)) := by
  by_cases hk : key y = k
  · rwa [← hk]
  · have other := h k
    rwa [List.filter_cons_of_neg (by simpa using hk)] at other

/-- A sorted list whose classes are parts of the classes of another one is a part of it. -/
theorem sublist_of_filter_sublist {l m : List α} (hl : l.Pairwise fun x y => key x ≤ key y)
    (hm : m.Pairwise fun x y => key x ≤ key y)
    (h : ∀ k, (l.filter (key · = k)).Sublist (m.filter (key · = k))) : l.Sublist m := by
  induction m generalizing l with
  | nil =>
    have none : l = [] := List.eq_nil_iff_forall_not_mem.2 fun x hx =>
      List.not_mem_nil (mem_of_filter_sublist h hx)
    rw [none]
  | cons y m ih =>
    rw [List.pairwise_cons] at hm
    cases l with
    | nil => exact List.nil_sublist _
    | cons x l =>
      by_cases same : key x = key y
      · have own := h (key y)
        rw [List.filter_cons_of_pos (by simpa using same), List.filter_cons_of_pos (by simp)] at own
        cases own with
        | cons _ inside =>
          refine (ih hl hm.2 (filter_sublist_of_cons h ?_)).cons y
          rwa [List.filter_cons_of_pos (by simpa using same)]
        | cons_cons _ inside =>
          have tail : ∀ k, (l.filter (key · = k)).Sublist ((y :: m).filter (key · = k)) :=
            fun k => ((List.sublist_cons_self y l).filter _).trans (h k)
          exact (ih hl.of_cons hm.2 (filter_sublist_of_cons tail inside)).cons_cons y
      · -- the texts only grow behind `x`, so the class of `y` is empty
        have first : key y ≤ key x := by
          rcases List.mem_cons.1 (mem_of_filter_sublist h List.mem_cons_self) with rfl | hx
          · exact String.le_refl _
          · exact hm.1 x hx
        have empty : (x :: l).filter (key · = key y) = [] := by
          refine List.filter_eq_nil_iff.2 fun z hz => ?_
          rw [decide_eq_true_eq]
          intro hzy
          rcases List.mem_cons.1 hz with rfl | hz
          · exact same hzy
          · have back : key x ≤ key y := hzy ▸ (List.pairwise_cons.1 hl).1 z hz
            exact same (String.le_antisymm back first)
        refine (ih hl hm.2 (filter_sublist_of_cons h ?_)).cons y
        rw [empty]
        exact List.nil_sublist _

variable (key)

theorem mergeSort_key_sublist {l m : List α} (h : l.Sublist m) :
    (l.mergeSort fun x y => key x ≤ key y).Sublist (m.mergeSort fun x y => key x ≤ key y) := by
  refine sublist_of_filter_sublist (pairwise_mergeSort_key key l) (pairwise_mergeSort_key key m) ?_
  intro k
  rw [filter_mergeSort_key, filter_mergeSort_key]
  exact h.filter _

theorem mergeSort_key_congr {l m : List α} (h : ∀ k, l.filter (key · = k) = m.filter (key · = k)) :
    (l.mergeSort fun x y => key x ≤ key y) = m.mergeSort fun x y => key x ≤ key y := by
  have sorted := pairwise_mergeSort_key key
  refine List.Sublist.antisymm (sublist_of_filter_sublist (sorted l) (sorted m) fun k => ?_)
    (sublist_of_filter_sublist (sorted m) (sorted l) fun k => ?_)
  · rw [filter_mergeSort_key, filter_mergeSort_key, h k]
  · rw [filter_mergeSort_key, filter_mergeSort_key, h k]

end CatalogTypes
