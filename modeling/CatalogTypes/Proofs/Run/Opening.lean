import CatalogTypes.Proofs.Run.Writing
import CatalogTypes.Session.World

/-!
# Opening a connection

A connection to a database of SQLite makes the file of the database if it is not there
(`World.touch_of_opening`).  All else is as it was, and what has been written since then does not
matter when the connection is opened once more (`World.opening_again`): the file is there, and it is
left alone.
-/

namespace CatalogTypes

namespace World

variable {w : World} {d : Dialect} {target : String} {t : FileTree}

/-- How the file of a database is opened. -/
theorem openDatabase_cases (h : w.openDatabase target = .ok t) :
    t = w.files ∨ w.disk.holdsDatabases = true ∧ w.files.touch (.ofString target) = .ok t := by
  unfold openDatabase at h
  split at h
  next =>
    cases h
    exact .inl rfl
  next nameless =>
    simp only [Bool.or_eq_true, Bool.not_eq_true', not_or, Bool.not_eq_false] at nameless
    split at h
    next => cases h
    next =>
      split at h
      next touched =>
        cases h
        exact .inr ⟨nameless.1.1, touched⟩
      next => cases h

theorem openDatabase_again (h : w.openDatabase target = .ok t) {u : FileTree} (leads : t.Leads u)
    (e : Environment) :
    World.openDatabase { w with files := u, environment := e } target = .ok u := by
  unfold openDatabase at h ⊢
  split_ifs at h ⊢
  · rfl
  · cases fault : Text.nameFault? target with
    | some fault =>
      rw [fault] at h
      cases h
    | none =>
      rw [fault] at h
      cases touched : w.files.touch (.ofString target) with
      | error fault =>
        rw [touched] at h
        cases h
      | ok files =>
        rw [touched] at h
        cases h
        rw [(leads.hasFile _ (FileTree.hasFile_of_touch touched)).touch]

theorem opening_eq_ok_iff : w.opening d target = .ok t ↔ w.connectFault d target = none ∧
    (d = .sqlite ∧ w.openDatabase target = .ok t ∨ d = .postgres ∧ t = w.files) := by
  unfold opening
  cases w.connectFault d target with
  | some fault => simp
  | none => cases d <;> simp [eq_comm]

/-- Opening a connection adds the file of a database of SQLite at most. -/
theorem touch_of_opening (h : w.opening d target = .ok t) :
    t = w.files ∨ d = .sqlite ∧ w.disk.holdsDatabases = true ∧
      w.files.touch (.ofString target) = .ok t := by
  rcases (opening_eq_ok_iff.1 h).2 with ⟨sqlite, opened⟩ | ⟨-, same⟩
  · exact (openDatabase_cases opened).imp_right fun touched => ⟨sqlite, touched⟩
  · exact .inl same

theorem opened_of_opening (h : w.opening d target = .ok t) : w.files.Opened t := by
  rcases touch_of_opening h with rfl | ⟨-, -, touched⟩
  · exact .refl _
  · exact FileTree.opened_of_touch touched

/-- **A connection is opened again without effect**, also where other files have been written. -/
theorem opening_again (h : w.opening d target = .ok t) {u : FileTree} (leads : t.Leads u)
    (e : Environment) :
    World.opening { w with files := u, environment := e } d target = .ok u := by
  obtain ⟨accepted, opened⟩ := opening_eq_ok_iff.1 h
  refine opening_eq_ok_iff.2 ⟨?_, ?_⟩
  · cases d <;> exact accepted
  · rcases opened with ⟨sqlite, opened⟩ | ⟨postgres, -⟩
    · exact .inl ⟨sqlite, openDatabase_again opened leads e⟩
    · exact .inr ⟨postgres, rfl⟩

end World

end CatalogTypes
