import CatalogTypes.Catalog.Autoincrement
import CatalogTypes.Proofs.Lowercase
import Mathlib.Data.List.Infix

/-!
# The letters of the mark

A text has the mark if its letters stand in it in a row, each in either case.  The search puts the
whole text into lowercase, in every script, and looks for the letters there.  It finds the same
(`holdsAutoincrement_iff`): a letter beyond ASCII has a lowercase form without letters of the mark,
except for the dotted capital I, and there an i is followed by a combining dot, which breaks the
mark off.
-/

namespace CatalogTypes

/-- A text has the letters of the mark in a row, each in either case. -/
def HasMark (cs : List Char) : Prop := autoincrementWord <:+: cs.map Char.toLower

instance (cs : List Char) : Decidable (HasMark cs) :=
  inferInstanceAs (Decidable (autoincrementWord <:+: cs.map Char.toLower))

/-! ## Texts within texts -/

theorem holds_iff {part cs : List Char} : holds part cs = true ↔ part <:+: cs := by
  induction cs with
  | nil => rw [holds, List.isEmpty_iff, List.infix_nil]
  | cons c cs ih =>
    rw [holds, Bool.or_eq_true, List.isPrefixOf_iff_prefix, ih, List.infix_cons_iff]

theorem prefix_of_prefix_append_cons {part after : List Char} {mark : Char} (before : List Char)
    (absent : mark ∉ part) (h : part <+: before ++ mark :: after) : part <+: before := by
  obtain ⟨more, shape⟩ := h
  obtain ⟨rest, rfl, -⟩ := Text.exists_of_append_eq part absent shape.symm
  exact List.prefix_append part rest

/-- A text without a character stands before the character or behind it. -/
theorem infix_append_cons_iff {part before after : List Char} {mark : Char}
    (absent : mark ∉ part) :
    part <:+: before ++ mark :: after ↔ part <:+: before ∨ part <:+: after := by
  induction before with
  | nil =>
    rw [List.nil_append, List.infix_cons_iff, List.infix_nil]
    refine or_congr_left ⟨fun h => ?_, fun h => h ▸ List.nil_prefix⟩
    exact List.prefix_nil.1 (prefix_of_prefix_append_cons [] absent h)
  | cons c before ih =>
    rw [List.cons_append, List.infix_cons_iff, List.infix_cons_iff, ih, or_assoc]
    refine or_congr_left ⟨fun h => ?_, fun h => ?_⟩
    · exact prefix_of_prefix_append_cons (c :: before) absent h
    · exact h.trans (List.prefix_append (c :: before) _)

/-! ## Letters beyond ASCII -/

theorem asciiMarks_autoincrementWord : Text.AsciiMarks autoincrementWord := by decide

theorem runsAvoid_autoincrementWord : Text.runsAvoid autoincrementWord Text.lowerRuns = true := by
  decide +kernel

theorem toLower_notMem {c : Char} (h : ¬ c.toNat < 128) : c.toLower ∉ autoincrementWord := by
  rw [Text.toLower_eq_self (by omega)]
  exact Text.notMem_of_not_ascii asciiMarks_autoincrementWord h

/-! ## The mark in a text -/

/-- Letters of the mark that do not end in an i begin the lowercase form of a text if they begin the
text. -/
theorem prefix_lowerAfter {part : List Char} (letters : part ⊆ autoincrementWord)
    (ending : part.getLast? ≠ some 'i') (before : Bool) (cs : List Char) :
    part <+: Text.lowerAfter before cs ↔ part <+: cs.map Char.toLower := by
  induction cs generalizing part before with
  | nil => rfl
  | cons c cs ih =>
    cases part with
    | nil => exact iff_of_true List.nil_prefix List.nil_prefix
    | cons l part =>
      obtain ⟨letter, others⟩ := List.cons_subset.1 letters
      rw [List.map_cons, List.cons_prefix_cons]
      by_cases ascii : c.toNat < 128
      · rw [Text.lowerAfter_cons_of_ascii ascii, List.cons_prefix_cons]
        refine and_congr_right fun _ => ih others ?_ _
        cases part with
        | nil => simp
        | cons => exact ending
      · refine iff_of_false (fun h => ?_) fun h => toLower_notMem ascii (h.1 ▸ letter)
        obtain ⟨front, last, shape, apart, rfl | rfl⟩ := Text.lowerAfter_cons_of_not_ascii
          asciiMarks_autoincrementWord runsAvoid_autoincrementWord ascii before cs
        · rw [shape, List.nil_append, List.cons_prefix_cons] at h
          exact apart (h.1 ▸ letter)
        · -- the dotted capital I gives an i, and no part of the mark goes on behind it
          rw [shape, List.singleton_append, List.cons_prefix_cons] at h
          obtain ⟨rfl, goes⟩ := h
          cases part with
          | nil => exact ending rfl
          | cons m part =>
            rw [List.cons_prefix_cons] at goes
            exact apart (goes.1 ▸ others List.mem_cons_self)

theorem infix_lowerAfter (before : Bool) (cs : List Char) :
    autoincrementWord <:+: Text.lowerAfter before cs ↔ HasMark cs := by
  unfold HasMark
  induction cs generalizing before with
  | nil => rfl
  | cons c cs ih =>
    rw [List.map_cons]
    by_cases ascii : c.toNat < 128
    · rw [List.infix_cons_iff, ← List.map_cons,
        ← prefix_lowerAfter (List.Subset.refl _) (by decide) before, ← ih,
        Text.lowerAfter_cons_of_ascii ascii, List.infix_cons_iff]
    · obtain ⟨front, last, shape, apart, single⟩ := Text.lowerAfter_cons_of_not_ascii
        asciiMarks_autoincrementWord runsAvoid_autoincrementWord ascii before cs
      have short : ¬ autoincrementWord <:+: front := by
        rcases single with rfl | rfl <;> decide
      rw [shape, infix_append_cons_iff apart, or_iff_right short, ih,
        ← List.nil_append (c.toLower :: _), infix_append_cons_iff (toLower_notMem ascii),
        or_iff_right (by decide)]

/-- **The search for the mark in lowercase finds its letters in either case.** -/
theorem holdsAutoincrement_iff {cs : List Char} : holdsAutoincrement cs = true ↔ HasMark cs :=
  holds_iff.trans (infix_lowerAfter false cs)

/-- The mark does not reach over a character that is none of its letters. -/
theorem hasMark_append_cons {cut : Char} (apart : cut.toLower ∉ autoincrementWord)
    (before after : List Char) :
    HasMark (before ++ cut :: after) ↔ HasMark before ∨ HasMark after := by
  unfold HasMark
  rw [List.map_append, List.map_cons, infix_append_cons_iff apart]

/-- What has the mark is not all blank. -/
theorem HasMark.exists_not_isBlank {cs : List Char} (h : HasMark cs) :
    ∃ c ∈ cs, Text.isBlank c = false := by
  obtain ⟨c, there, lower⟩ := List.mem_map.1 (h.subset (by decide : 'a' ∈ autoincrementWord))
  refine ⟨c, there, Bool.eq_false_iff.2 fun blank => ?_⟩
  have low : c.toNat < 65 ∨ 90 < c.toNat := by
    simp only [Text.isBlank, Bool.or_eq_true, Bool.and_eq_true, decide_eq_true_eq] at blank
    omega
  rw [Text.toLower_eq_self low] at lower
  subst lower
  exact absurd blank (by decide)

theorem HasMark.mono {cs ds : List Char} (h : HasMark cs) (within : cs <:+: ds) : HasMark ds :=
  h.trans (within.map Char.toLower)

end CatalogTypes
