import CatalogTypes.Files.Disk
import Mathlib.Tactic.Common

/-!
# Writing a file

Making directories, opening a file and writing it leaves every other file as it is, and every path
that led to a place before still leads there (`FileTree.Wrote`).  A file that has been opened holds
a beginning of the text if it could not be written to its end (`FileTree.wrote_or_eq_of_writeFile`),
and the whole text otherwise (`FileTree.wrote_of_writeFile`).  There are bytes for a text exactly if
it holds no half of a pair (`Text.exists_encodeUtf8_iff`).  The text is read back with its line breaks
as line feeds: what is read is what was written exactly if it holds no carriage return
(`Content.read_text_eq_iff`).
-/

namespace CatalogTypes

/-! ## Reading back -/

theorem Text.unifyNewlines_eq_self_iff {cs : List Char} :
    Text.unifyNewlines cs = cs ↔ '\r' ∉ cs := by
  fun_induction Text.unifyNewlines cs with
  | case1 => simp
  | case2 rest ih => simp
  | case3 rest _ ih => simp
  | case4 c rest _ other ih =>
    have first : c ≠ '\r' := fun same => other same
    simp [ih, first.symm]

/-- **What is read is what was written exactly if it holds no carriage return.** -/
theorem Content.read_text_eq_iff {text : String} :
    (Content.text text).read = .ok text ↔ '\r' ∉ text.toList := by
  rw [← Text.unifyNewlines_eq_self_iff]
  show Except.ok (String.ofList (Text.unifyNewlines text.toList)) = .ok text ↔ _
  rw [Except.ok.injEq, ← String.toList_inj, String.toList_ofList]

/-! ## Bytes -/

namespace FileTree

/-! ## Growing trees -/

/-- A tree with the same files and at least the same directories, none of which is in the place of
a file. -/
structure Grows (t u : FileTree) : Prop where
  files : u.files = t.files
  directories : ∀ place ∈ t.directories, place ∈ u.directories
  vacant : ∀ place ∈ u.directories, place ∈ t.directories ∨ t.file? place = none

theorem Grows.refl (t : FileTree) : t.Grows t := ⟨rfl, fun _ h => h, fun _ h => .inl h⟩

theorem Grows.trans {t u v : FileTree} (h : t.Grows u) (g : u.Grows v) : t.Grows v := by
  refine ⟨g.files.trans h.files, fun place hp => g.directories place (h.directories place hp), ?_⟩
  intro place hp
  rcases g.vacant place hp with before | free
  · exact h.vacant place before
  · right
    rwa [file?, h.files] at free

theorem grows_ensureDirectoryAt {t u : FileTree} {place : Place}
    (h : t.ensureDirectoryAt place = .ok u) : t.Grows u := by
  unfold ensureDirectoryAt at h
  split_ifs at h with _ free <;> cases h
  · exact .refl t
  · refine ⟨rfl, fun _ hp => List.mem_append_left _ hp, fun q hq => ?_⟩
    rcases List.mem_append.1 hq with before | made
    · exact .inl before
    · obtain rfl := List.mem_singleton.1 made
      exact .inr (by simpa using free)

theorem grows_ensureBelow (t : FileTree) (place : Place) (behind names : List String) :
    t.Grows (t.ensureBelow place behind names).1 := by
  fun_induction ensureBelow t place behind names with
  | case1 => exact .refl _
  | case2 => exact .refl _
  | case3 => exact .refl _
  | case4 t place behind name ahead names place' _ u made ih =>
    exact (grows_ensureDirectoryAt made).trans ih

theorem grows_ensureDirectories (t : FileTree) (p : Path) :
    t.Grows (t.ensureDirectories p).1 := by
  unfold ensureDirectories
  split
  · split
    next made => exact grows_ensureDirectoryAt made
    next => exact .refl t
  · split
    · exact .refl t
    · exact grows_ensureBelow t [] [] p.names
  · exact .refl t

/-! ## Following paths -/

theorem isDirectoryAt_iff {t : FileTree} {place : Place} :
    t.isDirectoryAt place = true ↔ place.isAround = true ∨ place ∈ t.directories := by
  rw [isDirectoryAt, Bool.or_eq_true, List.contains_iff_mem]

section

variable {t u : FileTree} (more : ∀ place ∈ t.directories, place ∈ u.directories)
include more

theorem follow_of_subset {place q : Place} {name : String} (found : t.follow place name = .ok q) :
    u.follow place name = .ok q := by
  have still : t.isDirectoryAt place = true → u.isDirectoryAt place = true := by
    rw [isDirectoryAt_iff, isDirectoryAt_iff]
    exact Or.imp_right (more place)
  unfold follow at found ⊢
  split at found
  next directory => rwa [if_pos (still directory)]
  next => cases found

/-- A path that leads somewhere still leads there where there are more directories. -/
theorem locate_of_subset {p : Path} {q : Place} (found : t.locate p = .ok q) :
    u.locate p = .ok q := by
  have names : ∀ (names : List String) (place : Place), names.foldlM t.follow place = .ok q →
      names.foldlM u.follow place = .ok q := by
    intro names
    induction names with
    | nil => exact fun _ h => h
    | cons name rest ih =>
      intro place h
      rw [List.foldlM_cons] at h ⊢
      cases first : t.follow place name with
      | error fault =>
        rw [first] at h
        cases h
      | ok next =>
        rw [first] at h
        rw [follow_of_subset more first]
        exact ih next h
  unfold locate at found ⊢
  split_ifs at found ⊢
  exact names p.names [] found

end

/-! ## Paths that lead to files -/

theorem filePlace_eq_ok_iff {t : FileTree} {p : Path} {q : Place} :
    t.filePlace p = .ok q ↔ t.locate p = .ok q ∧ t.isDirectoryAt q = false := by
  unfold filePlace
  cases t.locate p with
  | error fault => exact iff_of_false nofun (by simp)
  | ok place =>
    show (if t.isDirectoryAt place then Except.error FileFault.isDirectory else .ok place) = _ ↔ _
    split <;> grind

/-- The path leads to a file that is there. -/
def HasFile (t : FileTree) (p : Path) : Prop :=
  ∃ q, t.filePlace p = .ok q ∧ (t.file? q).isSome = true

/-- Whatever a path leads to in a tree, it leads to in the other one, and files are files there. -/
structure Leads (t u : FileTree) : Prop where
  located : ∀ p q, t.locate p = .ok q → u.locate p = .ok q
  hasFile : ∀ p, t.HasFile p → u.HasFile p

theorem Leads.refl (t : FileTree) : t.Leads t := ⟨fun _ _ h => h, fun _ h => h⟩

theorem Leads.trans {t u v : FileTree} (h : t.Leads u) (g : u.Leads v) : t.Leads v :=
  ⟨fun p q found => g.located p q (h.located p q found), fun p there => g.hasFile p (h.hasFile p there)⟩

theorem Grows.leads {t u : FileTree} (h : t.Grows u) : t.Leads u where
  located _ _ := locate_of_subset h.directories
  hasFile := by
    rintro p ⟨q, placed, there⟩
    obtain ⟨found, file⟩ := filePlace_eq_ok_iff.1 placed
    refine ⟨q, filePlace_eq_ok_iff.2 ⟨locate_of_subset h.directories found, ?_⟩, ?_⟩
    · rw [Bool.eq_false_iff, Ne, isDirectoryAt_iff] at file ⊢
      rintro (around | inside)
      · exact file (.inl around)
      · rcases h.vacant q inside with before | free
        · exact file (.inr before)
        · rw [free] at there
          cases there
    · rwa [file?, h.files]

/-! ## Contents put in place -/

theorem lookup_cons_eq (entry : Place × Content) (rest : List (Place × Content)) (q : Place) :
    (entry :: rest).lookup q = if q = entry.1 then some entry.2 else rest.lookup q := by
  rw [List.lookup_cons]
  by_cases h : q = entry.1
  · rw [if_pos h, beq_iff_eq.2 h]
  · rw [if_neg h, beq_eq_false_iff_ne.2 h]

theorem lookup_setFile (files : List (Place × Content)) (place q : Place) (content : Content) :
    (setFile files place content).lookup q =
      if q = place then some content else files.lookup q := by
  induction files with
  | nil => rw [setFile, lookup_cons_eq]
  | cons entry rest ih =>
    obtain ⟨p, c⟩ := entry
    rw [setFile]
    by_cases hp : p = place
    · subst hp
      simp only [if_pos, lookup_cons_eq]
      split_ifs <;> rfl
    · rw [if_neg hp, lookup_cons_eq, lookup_cons_eq, ih]
      by_cases hq : q = p
      · simp [hq, hp]
      · simp [hq]

theorem setFile_setFile (files : List (Place × Content)) (place : Place) (first content : Content) :
    setFile (setFile files place first) place content = setFile files place content := by
  induction files with
  | nil => simp [setFile]
  | cons entry rest ih =>
    obtain ⟨p, c⟩ := entry
    by_cases same : p = place <;> simp [setFile, same, ih]

/-- What was put in a place before is not there any more. -/
theorem put_put (t : FileTree) (place : Place) (first content : Content) :
    (t.put place first).put place content = t.put place content :=
  congrArg (FileTree.mk · t.directories) (setFile_setFile t.files place first content)

theorem file?_put (t : FileTree) (place q : Place) (content : Content) :
    (t.put place content).file? q = if q = place then some content else t.file? q :=
  lookup_setFile t.files place q content

theorem leads_put (t : FileTree) (place : Place) (content : Content) :
    t.Leads (t.put place content) := by
  have located (p : Path) (q : Place) (found : t.locate p = .ok q) :
      (t.put place content).locate p = .ok q := by
    refine locate_of_subset ?_ found
    exact fun _ inside => inside
  refine ⟨located, ?_⟩
  rintro p ⟨q, placed, there⟩
  obtain ⟨found, file⟩ := filePlace_eq_ok_iff.1 placed
  refine ⟨q, filePlace_eq_ok_iff.2 ⟨located p q found, file⟩, ?_⟩
  rw [file?_put]
  split
  · rfl
  · exact there

/-! ## Opening a file -/

theorem touch_eq_ok_iff {t u : FileTree} {p : Path} :
    t.touch p = .ok u ↔ ∃ q, t.filePlace p = .ok q ∧
      u = if (t.file? q).isSome then t else t.put q .empty := by
  unfold touch
  cases t.filePlace p with
  | error fault => exact iff_of_false nofun (by simp)
  | ok q =>
    show Except.ok (if (t.file? q).isSome then t else t.put q .empty) = .ok u ↔ _
    constructor
    · intro same
      exact ⟨q, rfl, (Except.ok.inj same).symm⟩
    · rintro ⟨r, placed, rfl⟩
      cases placed
      rfl

/-- A file that is there is opened as it is. -/
theorem HasFile.touch {t : FileTree} {p : Path} (h : t.HasFile p) : t.touch p = .ok t := by
  obtain ⟨q, placed, there⟩ := h
  exact touch_eq_ok_iff.2 ⟨q, placed, (if_pos there).symm⟩

/-- At most, empty files have been added. -/
structure Opened (t u : FileTree) : Prop where
  leads : t.Leads u
  file : ∀ q, u.file? q = t.file? q ∨ t.file? q = none ∧ u.file? q = some .empty

theorem Opened.refl (t : FileTree) : t.Opened t := ⟨.refl t, fun _ => .inl rfl⟩

theorem opened_of_touch {t u : FileTree} {p : Path} (h : t.touch p = .ok u) : t.Opened u := by
  obtain ⟨place, -, rfl⟩ := touch_eq_ok_iff.1 h
  split
  next => exact .refl t
  next free =>
    refine ⟨leads_put t place .empty, fun q => ?_⟩
    rw [file?_put]
    split
    next same =>
      rw [same]
      exact .inr ⟨by simpa using free, rfl⟩
    next => exact .inl rfl

theorem hasFile_of_touch {t u : FileTree} {p : Path} (h : t.touch p = .ok u) : u.HasFile p := by
  obtain ⟨q, placed, rfl⟩ := touch_eq_ok_iff.1 h
  split
  next there => exact ⟨q, placed, there⟩
  next =>
    obtain ⟨found, file⟩ := filePlace_eq_ok_iff.1 placed
    refine ⟨q, filePlace_eq_ok_iff.2 ⟨(leads_put t q .empty).located p q found, file⟩, ?_⟩
    rw [file?_put, if_pos rfl]
    rfl

/-! ## Writing -/

/-- The path leads to a place where the content stands; all else is as it was, but for further
directories. -/
structure Wrote (t u : FileTree) (p : Path) (content : Content) : Prop where
  plain : p.fault? = none
  file : ∃ q, u.locate p = .ok q ∧ ∀ r, u.file? r = if r = q then some content else t.file? r
  leads : t.Leads u

theorem Wrote.fileAt {t u : FileTree} {p : Path} {content : Content} (h : Wrote t u p content) :
    u.fileAt p = .ok (some content) := by
  obtain ⟨q, found, files⟩ := h.file
  simp [FileTree.fileAt, h.plain, found, files]

/-- What stands at a path that led to a place before. -/
theorem Wrote.fileAt_eq {t u : FileTree} {p r : Path} {q : Place} {content : Content}
    (h : Wrote t u p content) (plain : r.fault? = none) (before : t.locate r = .ok q) :
    u.fileAt r = if u.locate r = u.locate p then .ok (some content) else t.fileAt r := by
  have located := h.leads.located r q before
  obtain ⟨target, found, files⟩ := h.file
  by_cases same : q = target <;>
    simp [FileTree.fileAt, plain, before, located, found, files, same]

theorem Grows.wrote {t u v : FileTree} {p : Path} {content : Content} (h : t.Grows u)
    (wrote : u.Wrote v p content) : t.Wrote v p content := by
  obtain ⟨plain, ⟨q, found, files⟩, leads⟩ := wrote
  refine ⟨plain, ⟨q, found, fun r => ?_⟩, h.leads.trans leads⟩
  rw [files, file?, file?, h.files]

theorem wrote_put {t : FileTree} {p : Path} {q : Place} (plain : p.fault? = none)
    (placed : t.filePlace p = .ok q) (content : Content) : t.Wrote (t.put q content) p content where
  plain := plain
  file := by
    have found := (filePlace_eq_ok_iff.1 placed).1
    exact ⟨q, (leads_put t q content).located p q found, fun r => file?_put t q r content⟩
  leads := leads_put t q content

theorem grows_makeDirectories (d : Disk) (t : FileTree) (p : Path) :
    t.Grows (d.makeDirectories t p).1 := by
  unfold Disk.makeDirectories
  split
  · exact .refl t
  · split
    · exact .refl t
    · exact t.grows_ensureDirectories p

end FileTree

/-- The content is nothing or the first bytes of a text. -/
def Content.Begins (content : Content) (text : String) : Prop :=
  content = .empty ∨ ∃ bytes count, Text.encodeUtf8 text = .ok bytes ∧
    content = .bytes (bytes.take count)

namespace FileTree

/-- How a file is opened and written. -/
theorem writeFile_cases {d : Disk} {t u : FileTree} {p : Path} {text : String}
    {fault? : Option WriteFault} (h : d.writeFile t p text = (u, fault?)) :
    (u = t ∧ fault? ≠ none) ∨ ∃ content, t.Wrote u p content ∧
      (fault? = none ∧ content = .text text ∨ fault? ≠ none ∧ content.Begins text) := by
  unfold Disk.writeFile at h
  cases plain : p.fault? with
  | some fault =>
    rw [plain] at h
    cases h
    exact .inl ⟨rfl, nofun⟩
  | none =>
    rw [plain] at h
    dsimp only at h
    split at h
    next =>
      cases h
      exact .inl ⟨rfl, nofun⟩
    next =>
      split at h
      next =>
        cases h
        exact .inl ⟨rfl, nofun⟩
      next q placed =>
        right
        unfold Disk.fill at h
        cases encoded : Text.encodeUtf8 text with
        | error e =>
          rw [encoded] at h
          cases h
          exact ⟨.empty, wrote_put plain placed .empty, .inr ⟨nofun, .inl rfl⟩⟩
        | ok bytes =>
          simp only [encoded, put_put] at h
          split at h
          next count refusal _ =>
            cases h
            exact ⟨_, wrote_put plain placed _, .inr ⟨nofun, .inr ⟨bytes, count, encoded, rfl⟩⟩⟩
          next =>
            cases h
            exact ⟨_, wrote_put plain placed _, .inl ⟨rfl, rfl⟩⟩

/-- A file that is written without a fault holds the text. -/
theorem wrote_of_writeFile {d : Disk} {t u : FileTree} {p : Path} {text : String}
    (h : d.writeFile t p text = (u, none)) : t.Wrote u p (.text text) := by
  rcases writeFile_cases h with ⟨-, failed⟩ | ⟨content, wrote, ⟨-, rfl⟩ | ⟨failed, -⟩⟩
  · exact absurd rfl failed
  · exact wrote
  · exact absurd rfl failed

/-- **A file that cannot be written is as it was, or holds a beginning of the text.** -/
theorem wrote_or_eq_of_writeFile {d : Disk} {t u : FileTree} {p : Path} {text : String}
    {fault : WriteFault} (h : d.writeFile t p text = (u, some fault)) :
    u = t ∨ ∃ content, content.Begins text ∧ t.Wrote u p content := by
  rcases writeFile_cases h with ⟨same, -⟩ | ⟨content, wrote, ⟨⟨⟩, -⟩ | ⟨-, begins⟩⟩
  · exact .inl same
  · exact .inr ⟨content, begins, wrote⟩

end FileTree

end CatalogTypes
