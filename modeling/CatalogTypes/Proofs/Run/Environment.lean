import CatalogTypes.EnvFile.Loader
import CatalogTypes.Proofs.Run.Writing

/-!
# Loading an environment file

What is known of every loader is that it adds variables and changes none (`Loader.Loads.find?`), and
that a file that has been loaded, like one that is empty, is loaded again without effect
(`Loader.Loads.again`, `Loader.loads_empty_iff`).  A run needs no more.

Which files can be loaded is known of the loader that reads them as `EnvFile.load` does
(`EnvFile.loads_iff`, `EnvFile.loads_text_iff`).
-/

namespace CatalogTypes

namespace Loader

variable {l : Loader} {content : Content} {e f g : Environment}

/-- Loading the content leads from an environment to another one without a fault. -/
def Loads (l : Loader) (content : Content) (e f : Environment) : Prop :=
  l.load e content = (f, none)

theorem exists_loads_iff : (∃ f, l.Loads content e f) ↔ (l.load e content).2 = none := by
  constructor
  · rintro ⟨f, loaded⟩
    rw [loaded]
  · intro faultless
    exact ⟨(l.load e content).1, Prod.ext rfl faultless⟩

theorem Loads.find? (h : l.Loads content e f) {key value : String}
    (set : e.find? key = some value) : f.find? key = some value := by
  have kept := l.keeps content set
  rwa [h] at kept

/-- **A file that has been loaded loads again without effect.** -/
theorem Loads.again (h : l.Loads content e f) : l.Loads content f g ↔ g = f := by
  have faultless : (l.load e content).2 = none := by rw [h]
  have again := l.again faultless
  rw [h] at again
  rw [Loads, again, Prod.mk.injEq, and_iff_left rfl, eq_comm]

theorem loads_empty_iff : l.Loads .empty e f ↔ f = e := by
  rw [Loads, l.empty, Prod.mk.injEq, and_iff_left rfl, eq_comm]

/-- The content is loaded if the condition holds, and nothing is loaded otherwise. -/
def LoadsIf (l : Loader) (p : Prop) (content : Content) (e f : Environment) : Prop :=
  p ∧ l.Loads content e f ∨ ¬ p ∧ f = e

section

variable {p : Prop}

theorem loadsIf_of (h : p) : l.LoadsIf p content e f ↔ l.Loads content e f := by
  simp [LoadsIf, h]

theorem loadsIf_of_not (h : ¬ p) : l.LoadsIf p content e f ↔ f = e := by
  simp [LoadsIf, h]

theorem LoadsIf.find? (h : l.LoadsIf p content e f) {key value : String}
    (set : e.find? key = some value) : f.find? key = some value := by
  rcases h with ⟨-, loads⟩ | ⟨-, rfl⟩
  · exact loads.find? set
  · exact set

theorem exists_loadsIf_iff :
    (∃ f, l.LoadsIf p content e f) ↔ (p → (l.load e content).2 = none) := by
  by_cases h : p
  · simp only [loadsIf_of h, exists_loads_iff, forall_prop_of_true h]
  · simp only [loadsIf_of_not h, exists_eq, forall_prop_of_false h]

end

end Loader

namespace EnvFile

theorem loads_iff {content : Content} {e f : Environment} :
    loader.Loads content e f ↔ if isDisabled e then f = e else
      ∃ text, content.read = .ok text ∧ load e text = (f, none) := by
  show loadContent e content = (f, none) ↔ _
  unfold loadContent
  split
  · rw [Prod.mk.injEq, and_iff_left rfl, eq_comm]
  · cases content.read with
    | error error => simp
    | ok text => simp [Prod.ext_iff]

/-- A text without carriage returns is loaded if loading is switched off, or if none of its
variables is at fault. -/
theorem loads_text_iff {text : String} (plain : '\r' ∉ text.toList) (e : Environment) :
    (∃ f, loader.Loads (.text text) e f) ↔ (isDisabled e = false → (load e text).2 = none) := by
  have read : (Content.text text).read = .ok text := Content.read_text_eq_iff.2 plain
  simp only [loads_iff, read, Except.ok.injEq, exists_eq_left']
  by_cases disabled : isDisabled e = true
  · simp [disabled]
  · simp only [disabled, Bool.false_eq_true, if_false, forall_const]
    constructor
    · rintro ⟨f, loaded⟩
      rw [loaded]
    · intro faultless
      exact ⟨(load e text).1, Prod.ext rfl faultless⟩

end EnvFile

end CatalogTypes
