import CatalogTypes.Text.Blank
import CatalogTypes.Text.Case
import Mathlib.Data.List.Basic

/-!
# Texts in lowercase

Lowercasing goes letter by letter but for one thing: a capital sigma looks at its neighbours.  So a
text may be cut at a *caseless* character, one that is its own lowercase form and that no letter
looks past: what stands on either side is put into lowercase on its own
(`lowerAfter_append_caseless`).  Blanks and parentheses are caseless.

A letter beyond ASCII has no ASCII letter in its lowercase form, but for the dotted capital I, whose
form begins with an i, and for what the table of runs says (`lowerAfter_cons_of_not_ascii`).  So a
line feed stands in a text exactly if it stands in the text in lowercase
(`lineFeed_mem_lowerAfter`).
-/

namespace CatalogTypes.Text

/-! ## Letters within and beyond ASCII -/

theorem toLower_eq_self {c : Char} (h : c.toNat < 65 ∨ 90 < c.toNat) : c.toLower = c := by
  unfold Char.toLower
  rw [dif_neg]
  rintro ⟨lower, upper⟩
  have from_A : 65 ≤ c.toNat := lower
  have to_Z : c.toNat ≤ 90 := upper
  omega

theorem lowerAfter_cons_of_ascii {c : Char} (h : c.toNat < 128) (before : Bool)
    (cs : List Char) :
    lowerAfter before (c :: cs) = c.toLower :: lowerAfter (casedBehind before c) cs := by
  rw [lowerAfter, if_neg (by omega), lowerLetter, if_pos h]
  rfl

section

/-- The marks are ASCII characters, and the null character is none of them. -/
def AsciiMarks (marks : List Char) : Prop := ∀ l ∈ marks, 0 < l.toNat ∧ l.toNat < 128

instance (marks : List Char) : Decidable (AsciiMarks marks) :=
  List.decidableBAll (fun l : Char => 0 < l.toNat ∧ l.toNat < 128) marks

/-- Whether each run of a table lies in ASCII, has its images beyond ASCII, or is a single letter
whose image is not among the marks. -/
def runsAvoid (marks : List Char) : List Nat → Bool
  | first :: last :: _ :: image :: rest =>
    (last < 128 || 128 ≤ image || (first = last && Char.ofNat image ∉ marks)) &&
      runsAvoid marks rest
  | _ => true

variable {marks : List Char} (ascii : AsciiMarks marks)
include ascii

theorem notMem_of_not_ascii {c : Char} (h : ¬ c.toNat < 128) : c ∉ marks :=
  fun there => h (ascii c there).2

theorem ofNat_notMem {n : Nat} (h : 128 ≤ n) : Char.ofNat n ∉ marks := by
  intro there
  have bound := ascii _ there
  by_cases valid : n.isValidChar
  · have same : (Char.ofNat n).toNat = n := by
      rw [Char.ofNat, dif_pos valid]
      rfl
    omega
  · have null : (Char.ofNat n).toNat = 0 := by
      rw [Char.ofNat, dif_neg valid]
      rfl
    omega

theorem shiftByRuns_notMem {runs : List Nat} (avoid : runsAvoid marks runs = true) {n : Nat}
    (h : 128 ≤ n) : Char.ofNat (shiftByRuns runs n) ∉ marks := by
  fun_induction shiftByRuns runs n with
  | case1 first last step image rest n within =>
    rw [runsAvoid, Bool.and_eq_true] at avoid
    simp only [Bool.and_eq_true, decide_eq_true_eq, Bool.or_eq_true] at avoid within
    obtain ⟨(low | beyond) | ⟨single, apart⟩, -⟩ := avoid
    · omega
    · exact ofNat_notMem ascii (by omega)
    · have same : n - first = 0 := by omega
      rwa [same]
  | case2 first last step image rest n outside ih =>
    rw [runsAvoid, Bool.and_eq_true] at avoid
    exact ih avoid.2 h
  | case3 => exact ofNat_notMem ascii h

/-- The lowercase form of a letter beyond ASCII ends in a character that is none of the marks, and
nothing but an i stands before that. -/
theorem lowerAfter_cons_of_not_ascii (avoid : runsAvoid marks lowerRuns = true) {c : Char}
    (h : ¬ c.toNat < 128) (before : Bool) (cs : List Char) :
    ∃ front last, lowerAfter before (c :: cs) =
        front ++ last :: lowerAfter (casedBehind before c) cs ∧
      last ∉ marks ∧ (front = [] ∨ front = ['i']) := by
  rw [lowerAfter]
  split_ifs with sigma final
  · exact ⟨[], _, rfl, notMem_of_not_ascii ascii (by decide), .inl rfl⟩
  · exact ⟨[], _, rfl, notMem_of_not_ascii ascii (by decide), .inl rfl⟩
  · rw [lowerLetter, if_neg h]
    split_ifs
    · exact ⟨['i'], _, rfl, notMem_of_not_ascii ascii (by decide), .inr rfl⟩
    · exact ⟨[], _, rfl, shiftByRuns_notMem ascii avoid (by omega), .inl rfl⟩

end

/-! ## Line feeds -/

theorem toLower_eq_lineFeed {c : Char} (ascii : c.toNat < 128) : c.toLower = '\n' ↔ c = '\n' := by
  have all : ∀ n < 128, ((Char.ofNat n).toLower = '\n' ↔ Char.ofNat n = '\n') := by decide
  have here := all c.toNat ascii
  rwa [Char.ofNat_toNat] at here

theorem runsAvoid_lineFeed : runsAvoid ['\n'] lowerRuns = true := by decide +kernel

/-- **A text in lowercase has a line feed exactly if the text has one.** -/
theorem lineFeed_mem_lowerAfter (before : Bool) (cs : List Char) :
    '\n' ∈ lowerAfter before cs ↔ '\n' ∈ cs := by
  induction cs generalizing before with
  | nil => rfl
  | cons c cs ih =>
    rw [List.mem_cons]
    by_cases ascii : c.toNat < 128
    · rw [lowerAfter_cons_of_ascii ascii, List.mem_cons, ih, eq_comm, toLower_eq_lineFeed ascii,
        eq_comm]
    · have other : '\n' ≠ c := by
        rintro rfl
        exact ascii (by decide)
      obtain ⟨front, last, shape, apart, single⟩ :=
        lowerAfter_cons_of_not_ascii (by decide) runsAvoid_lineFeed ascii before cs
      have absent : '\n' ∉ front := by rcases single with rfl | rfl <;> decide
      have differs : '\n' ≠ last := fun h => apart (h ▸ List.mem_singleton_self _)
      rw [shape, List.mem_append, List.mem_cons, ih, or_iff_right absent, or_iff_right differs,
        or_iff_right other]

/-! ## Cutting at a caseless character -/

/-- A character is its own lowercase form, and no letter looks past it. -/
structure Caseless (c : Char) : Prop where
  not_sigma : c.toNat ≠ 0x3A3
  lowerLetter_eq : lowerLetter c = [c]
  not_cased : isCased c = false
  not_transparent : isTransparent c = false

instance (c : Char) : Decidable (Caseless c) :=
  decidable_of_iff
    (c.toNat ≠ 0x3A3 ∧ lowerLetter c = [c] ∧ isCased c = false ∧ isTransparent c = false)
    ⟨fun ⟨h₁, h₂, h₃, h₄⟩ => ⟨h₁, h₂, h₃, h₄⟩, fun ⟨h₁, h₂, h₃, h₄⟩ => ⟨h₁, h₂, h₃, h₄⟩⟩

/-- The code points of the blanks. -/
def blankCodes : List Nat :=
  List.range' 9 5 ++ List.range' 28 5 ++ List.range' 0x2000 11 ++
    [0x85, 0xA0, 0x1680, 0x2028, 0x2029, 0x202F, 0x205F, 0x3000]

theorem mem_blankCodes {c : Char} (h : isBlank c = true) : c.toNat ∈ blankCodes := by
  simp only [isBlank, Bool.or_eq_true, Bool.and_eq_true, decide_eq_true_eq] at h
  simp only [blankCodes, List.mem_append, List.mem_range'_1, List.mem_cons, List.not_mem_nil,
    or_false]
  omega

theorem caseless_of_isBlank {c : Char} (h : isBlank c = true) : Caseless c := by
  have all : ∀ n ∈ blankCodes, Caseless (Char.ofNat n) := by decide +kernel
  have here := all c.toNat (mem_blankCodes h)
  rwa [Char.ofNat_toNat] at here

variable {c : Char}

theorem Caseless.lowerAfter_cons (h : Caseless c) (before : Bool) (cs : List Char) :
    lowerAfter before (c :: cs) = c :: lowerAfter false cs := by
  rw [lowerAfter, if_neg h.not_sigma, h.lowerLetter_eq, casedBehind, h.not_transparent,
    h.not_cased]
  rfl

theorem Caseless.casedAhead_append (h : Caseless c) (cs ds : List Char) :
    casedAhead (cs ++ c :: ds) = casedAhead cs := by
  induction cs with
  | nil => simp [casedAhead, h.not_transparent, h.not_cased]
  | cons d cs ih =>
    unfold casedAhead at ih ⊢
    rw [List.cons_append, List.dropWhile_cons, List.dropWhile_cons]
    split_ifs
    · exact ih
    · rfl

/-- What stands on either side of a caseless character is put into lowercase on its own. -/
theorem Caseless.lowerAfter_append_cons (h : Caseless c) (before : Bool) (cs ds : List Char) :
    lowerAfter before (cs ++ c :: ds) = lowerAfter before cs ++ c :: lowerAfter false ds := by
  induction cs generalizing before with
  | nil => exact h.lowerAfter_cons before ds
  | cons d cs ih =>
    rw [List.cons_append, lowerAfter, lowerAfter, h.casedAhead_append, ih, List.append_assoc]

/-- A text and the caseless characters behind it are put into lowercase apart. -/
theorem lowerAfter_append_caseless {run : List Char} (caseless : ∀ c ∈ run, Caseless c)
    (before : Bool) (cs : List Char) :
    lowerAfter before (cs ++ run) = lowerAfter before cs ++ run := by
  induction run generalizing before cs with
  | nil => simp
  | cons c run ih =>
    obtain ⟨here, others⟩ := List.forall_mem_cons.1 caseless
    have kept : lowerAfter false run = run := ih others false []
    rw [here.lowerAfter_append_cons, kept]

end CatalogTypes.Text
