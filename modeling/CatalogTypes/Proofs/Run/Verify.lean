import CatalogTypes.Proofs.Run.Generate

/-!
# Verifying what has been written

A run that writes its output is followed by one that verifies it, with the same settings and the
same databases.

**Theorem (`verify_after_write_iff`).** The second run succeeds, with the same output and without a
change to the files, exactly if the output holds no carriage return, and can be loaded without a
fault where it has been written over the environment file that the address is looked for in.

The first run leaves the world as it was but for the variables it loads, the file it writes, and the
file of a database that was not there.  The environment file has nothing to add when it is loaded
again (`Loader.Loads.again`), unless it is the output file, and nor has the empty file of a database;
the variable that the address asks for keeps its value in any case.  So the second run finds out the
same address, opens the same database, and generates the same text (`Generates.again`).  That text is
compared with the file as it is read, where a carriage return has become a line feed.
-/

namespace CatalogTypes

/-! ## Finding out the address again -/

section

variable {envFile : Option String} {w v u : World} {content : Content}

theorem prepares_iff_of_some (there : w.files.fileAt (envPath envFile) = .ok (some content)) :
    Prepares envFile w u ↔
      ∃ e, w.loader.Loads content w.environment e ∧ u = { w with environment := e } := by
  constructor
  · rintro (⟨found, loads⟩ | ⟨found, -⟩)
    · rw [there] at found
      cases found
      exact ⟨_, loads, rfl⟩
    · rw [there] at found
      cases found
  · rintro ⟨e, loads, rfl⟩
    exact .loaded there loads

theorem prepares_iff_of_none (there : w.files.fileAt (envPath envFile) = .ok none) :
    Prepares envFile w u ↔ envFile = none ∧ u = w := by
  constructor
  · rintro (⟨found, -⟩ | ⟨-, unasked⟩)
    · rw [there] at found
      cases found
    · exact ⟨unasked, rfl⟩
  · rintro ⟨unasked, rfl⟩
    exact .absent there unasked

theorem FileTree.fileAt_eq_some {t : FileTree} {p : Path}
    (h : t.fileAt p = .ok (some content)) : p.fault? = none ∧ ∃ q, t.locate p = .ok q := by
  unfold FileTree.fileAt at h
  split at h
  next => cases h
  next plain =>
    cases found : t.locate p with
    | ok q => exact ⟨by simpa using plain, q, rfl⟩
    | error fault =>
      rw [found] at h
      cases fault <;> cases h

theorem locate_defaultEnvFile (t : FileTree) : t.locate (envPath none) = .ok [".env"] := by
  have path : envPath none = { names := [".env"] } := by decide
  rw [path]
  rfl

/-- The path of an environment file that was looked for leads somewhere. -/
theorem Prepares.located (h : Prepares envFile w v) :
    v.files = w.files ∧ (envPath envFile).fault? = none ∧
      ∃ q, w.files.locate (envPath envFile) = .ok q := by
  cases h with
  | loaded there => exact ⟨rfl, FileTree.fileAt_eq_some there⟩
  | absent _ unasked =>
    subst unasked
    exact ⟨rfl, by decide, _, locate_defaultEnvFile w.files⟩

/-- A file that stands as it did, or that was made when the database was opened, has nothing to
add. -/
theorem Prepares.again_of_opened (h : Prepares envFile w v) {t₀ t : FileTree}
    (opened : v.files.Opened t₀) (still : t.fileAt (envPath envFile) = t₀.fileAt (envPath envFile)) :
    Prepares envFile { v with files := t } u ↔ u = { v with files := t } := by
  obtain ⟨kept, plain, q, before⟩ := h.located
  rw [kept] at opened
  have earlier : w.files.fileAt (envPath envFile) = .ok (w.files.file? q) := by
    simp [FileTree.fileAt, plain, before]
  have there : ({ v with files := t } : World).files.fileAt (envPath envFile) =
      .ok (t₀.file? q) := by
    rw [still]
    simp [FileTree.fileAt, plain, opened.leads.located _ q before]
  rcases opened.file q with old | ⟨free, new⟩
  · rw [old, ← earlier] at there
    cases h with
    | loaded loaded loads =>
      rw [loaded] at there
      refine (prepares_iff_of_some there).trans ?_
      simp [loads.again]
    | absent absent unasked =>
      rw [absent] at there
      refine (prepares_iff_of_none there).trans ?_
      simp [unasked]
  · rw [new] at there
    rw [free] at earlier
    cases h with
    | loaded loaded _ => cases earlier.symm.trans loaded
    | absent _ unasked =>
      refine (prepares_iff_of_some there).trans ?_
      simp [Loader.loads_empty_iff]

/-- The environment is as it was after the first time, unless another file is loaded by now. -/
theorem Prepares.again (h : Prepares envFile w v) {t₀ t : FileTree} {p : Path}
    (opened : v.files.Opened t₀) (wrote : t₀.Wrote t p content) :
    Prepares envFile { v with files := t } u ↔
      ∃ e, v.loader.LoadsIf (t.locate (envPath envFile) = t.locate p) content v.environment e ∧
        u = { v with files := t, environment := e } := by
  obtain ⟨kept, plain, q, before⟩ := h.located
  rw [← kept] at before
  have there := wrote.fileAt_eq plain (opened.leads.located _ q before)
  by_cases same : t.locate (envPath envFile) = t.locate p
  · rw [if_pos same] at there
    simp only [Loader.loadsIf_of same]
    exact prepares_iff_of_some (w := { v with files := t }) there
  · rw [if_neg same] at there
    simp only [Loader.loadsIf_of_not same, exists_eq_left]
    exact h.again_of_opened opened there

/-- The environment file that the address is looked for in is the one that a path leads to. -/
def IsEnvFile (url : String) (envFile : Option String) (t : FileTree) (p : Path) : Prop :=
  (∃ key, environmentKey url = .ok (some key)) ∧ t.locate (envPath envFile) = t.locate p

/-- The address is found out again. -/
theorem Resolves.again {url address b : String} (h : Resolves url envFile w address v)
    {t₀ t : FileTree} {p : Path} (opened : v.files.Opened t₀) (wrote : t₀.Wrote t p content) :
    Resolves url envFile { v with files := t } b u ↔ b = address ∧
      ∃ e, v.loader.LoadsIf (IsEnvFile url envFile t p) content v.environment e ∧
        u = { v with files := t, environment := e } := by
  cases h with
  | given asks =>
    have unasked : ¬ IsEnvFile url envFile t p := by
      rintro ⟨⟨key, asked⟩, -⟩
      cases asks.symm.trans asked
    simp only [Loader.loadsIf_of_not unasked, exists_eq_left]
    constructor
    · rintro (_ | ⟨asked, -, -⟩)
      · exact ⟨rfl, rfl⟩
      · cases asks.symm.trans asked
    · rintro ⟨rfl, rfl⟩
      exact .given asks
  | @asked key _ _ asks prepared set =>
    have env : IsEnvFile url envFile t p ↔ t.locate (envPath envFile) = t.locate p :=
      and_iff_right ⟨key, asks⟩
    rw [env]
    constructor
    · rintro (asked | ⟨asked, again, found⟩)
      · cases asks.symm.trans asked
      · cases asks.symm.trans asked
        obtain ⟨e, loads, rfl⟩ := (prepared.again opened wrote).1 again
        have still : setVariable e key = .ok address := setVariable_eq (fun _ => loads.find?) set
        exact ⟨Except.ok.inj (found.symm.trans still), e, loads, rfl⟩
    · rintro ⟨rfl, e, loads, rfl⟩
      exact .asked asks ((prepared.again opened wrote).2 ⟨e, loads, rfl⟩)
        (setVariable_eq (fun _ => loads.find?) set)

end

/-! ## Running again -/

/-- The output has been written over the environment file, and is loaded from there. -/
def LoadsOutput (s : Settings) (w : World) : Prop :=
  IsEnvFile s.url s.envFile w.files (Path.ofString (s.outFile.getD ""))

theorem Generates.exists_writes {s : Settings} {w v : World} {db : Database} {g : Generated}
    (h : Generates { s with verify := false } w db g v) (written : g.written = true) :
    ∃ file u, s.outFile.filter (!·.isEmpty) = some file ∧
      Renders { s with verify := false } w g.dialect db g.output u ∧ Writes g.output file u v := by
  obtain ⟨u, rendered, delivers⟩ := h.rendered
  unfold Delivers at delivers
  rw [if_neg Bool.false_ne_true, written] at delivers
  cases named : s.outFile.filter (!·.isEmpty) with
  | none =>
    rw [named] at delivers
    cases delivers.1
  | some file =>
    rw [named] at delivers
    exact ⟨file, u, rfl, rendered, delivers.2⟩

/-- **What a run has written, the next run generates and verifies.** -/
theorem Generates.again {s : Settings} {w v : World} {db : Database} {g : Generated}
    (h : Generates { s with verify := false } w db g v) (written : g.written = true) :
    (∃ x, (∃ db', Generates { s with verify := true } v db' { g with written := false } x) ∧
        x.files = v.files) ↔
      '\r' ∉ g.output.toList ∧
        (LoadsOutput s v → (v.loader.load v.environment (.text g.output)).2 = none) := by
  obtain ⟨file, x, named, rendered, writes⟩ := h.exists_writes written
  have wrote := writes.wrote
  have path : Path.ofString (s.outFile.getD "") = Path.ofString file := by
    rw [(Option.filter_eq_some_iff.1 named).1]
    rfl
  obtain ⟨address, label, u, located, labelled, introspects⟩ := rendered.database
  obtain ⟨files, opened, -, same⟩ := id introspects
  obtain ⟨-, t, -, -, rfl⟩ := writes
  have opens : u.files.Opened x.files := by
    rw [same]
    exact World.opened_of_opening opened
  have found (a : String) (y : World) : Resolves s.url s.envFile { x with files := t } a y ↔
      a = address ∧ ∃ e, x.loader.LoadsIf (IsEnvFile s.url s.envFile t (.ofString file))
        (.text g.output) x.environment e ∧ y = { x with files := t, environment := e } := by
    have again := located.resolves.again (u := y) (b := a) opens wrote
    rw [same] at again ⊢
    exact again
  have read (e : Environment) (y : World) (db' : Database) :
      Introspects g.dialect address s.selection { x with files := t, environment := e } db' y ↔
        db' = db ∧ y = { x with files := t, environment := e } :=
    introspects.again wrote.leads e
  constructor
  · rintro ⟨y, ⟨db', second⟩, -⟩
    obtain ⟨z, ⟨⟨a, l, u', located', -, introspects'⟩, -⟩, delivers⟩ := second.rendered
    obtain ⟨rfl, e, loads, rfl⟩ := (found _ _).1 located'.resolves
    obtain ⟨-, rfl⟩ := (read e z db').1 introspects'
    have plain : '\r' ∉ g.output.toList := by
      obtain ⟨-, -, file', named', content, there, readBack⟩ := delivers
      have same : some file = some file' := named.symm.trans named'
      cases same
      have stands : Except.ok (some (Content.text g.output)) = .ok (some content) :=
        wrote.fileAt.symm.trans there
      cases stands
      exact Content.read_text_eq_iff.1 readBack
    refine ⟨plain, fun place => ?_⟩
    rw [LoadsOutput, path] at place
    exact Loader.exists_loadsIf_iff.1 ⟨e, loads⟩ place
  · rintro ⟨plain, fine⟩
    have loadable : IsEnvFile s.url s.envFile t (.ofString file) →
        (x.loader.load x.environment (.text g.output)).2 = none := by
      rwa [LoadsOutput, path] at fine
    obtain ⟨e, loads⟩ := Loader.exists_loadsIf_iff.2 loadable
    let y : World := { x with files := t, environment := e }
    have located' : Locates { s with verify := true } { x with files := t } address g.dialect y :=
      ⟨(found _ _).2 ⟨rfl, e, loads, rfl⟩, located.dialect⟩
    have rendered' : Renders { s with verify := true } { x with files := t } g.dialect db g.output y :=
      ⟨⟨address, label, y, located', labelled, (read e y db).2 ⟨rfl, rfl⟩⟩, rendered.output⟩
    refine ⟨y, ⟨db, ⟨y, rendered', rfl, rfl, file, named, .text g.output, wrote.fileAt,
      Content.read_text_eq_iff.2 plain⟩, h.tableCount, h.outFile⟩, rfl⟩

section

variable {s : Settings} {file text : String}

end

end CatalogTypes
