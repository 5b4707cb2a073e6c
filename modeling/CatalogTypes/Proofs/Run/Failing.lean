import CatalogTypes.Proofs.Run.Generate

/-!
# When a run fails

A step *throws* a relation between a world, a failure and a world if it fails with the failure, and
leaves the second world behind, exactly where the relation says so (`Run.Throws`); a step that only
reads leaves the world as it is (`Run.Refuses`).  Which failure ends two steps, one after the other,
depends on what the first one throws, on what it means, and on what the second one throws.

**Theorem (`throws_generate`).** A run fails exactly if its address cannot be found out
(`ResolveFails`), if there is no dialect of the name in the settings, if the address is no URL, if
the catalog cannot be read (`IntrospectFails`), or if the output cannot be delivered
(`DeliverFails`), whichever comes first, and then with the failure and the files that are told there.
-/

namespace CatalogTypes

namespace Run

variable {α β : Type} {x : Run α} {f : α → Run β}

/-- The step fails with a failure, in a session of the given world. -/
def Stops (step : Run α) (s : Session) (e : Failure) (w : World) : Prop :=
  ∃ t, step.result s = (.error e, t) ∧ t.world = w

/-- The step fails exactly where the relation says so. -/
def Throws (x : Run α) (F : World → Failure → World → Prop) : Prop :=
  ∀ s e w, x.Stops s e w ↔ F s.world e w

/-- The step fails exactly where the relation says so, and keeps the world. -/
def Refuses (x : Run α) (F : World → Failure → Prop) : Prop := x.Throws fun w e v => F w e ∧ v = w

theorem Throws.congr {F G : World → Failure → World → Prop} (h : x.Throws F)
    (same : ∀ w e v, F w e v ↔ G w e v) : x.Throws G :=
  fun s e w => (h s e w).trans (same s.world e w)

theorem Refuses.congr {F G : World → Failure → Prop} (h : x.Refuses F)
    (same : ∀ w e, F w e ↔ G w e) : x.Refuses G :=
  Throws.congr h fun w e _ => and_congr_left' (same w e)

theorem Throws.of_result {F : World → Failure → World → Prop} (h : x.Throws F) {s t : Session}
    {e : Failure} (failed : x.result s = (.error e, t)) : F s.world e t.world :=
  (h s e t.world).1 ⟨t, failed, rfl⟩

/-- A step has one failure. -/
theorem Throws.unique {F : World → Failure → World → Prop} (h : x.Throws F) {s t : Session}
    {e d : Failure} {w : World} (failed : x.result s = (.error e, t)) (fails : F s.world d w) :
    d = e ∧ w = t.world := by
  obtain ⟨u, again, rfl⟩ := (h s d w).2 fails
  cases failed.symm.trans again
  exact ⟨rfl, rfl⟩

/-- A step that has a value has not failed. -/
theorem Throws.not_of_ok {F : World → Failure → World → Prop} (h : x.Throws F) {s t : Session}
    {a : α} (ran : x.result s = (.ok a, t)) (e : Failure) (w : World) : ¬ F s.world e w := by
  intro fails
  obtain ⟨u, failed, -⟩ := (h s e w).2 fails
  cases ran.symm.trans failed

/-! ## Single steps -/

theorem Yields.refuses {P : World → Except Failure α} (h : x.Yields P) :
    x.Refuses fun w e => P w = .error e := by
  intro s e w
  obtain ⟨yielded, kept⟩ := h s
  constructor
  · rintro ⟨t, ran, rfl⟩
    rw [ran] at yielded kept
    exact ⟨yielded.symm, kept⟩
  · rintro ⟨found, rfl⟩
    exact ⟨_, Prod.ext (yielded.trans found) rfl, kept⟩

theorem refuses_throw (e : Failure) : (throw e : Run α).Refuses fun _ d => d = e :=
  (yields_throw e).refuses.congr fun _ d => by simp [eq_comm]

theorem refuses_ofExcept {ε : Type} (failure : ε → Failure) (r : Except ε α) :
    (ofExcept failure r).Refuses fun _ e => ∃ error, r = .error error ∧ e = failure error :=
  (yields_ofExcept failure r).refuses.congr fun _ e => by
    cases r <;> simp [Except.mapError, eq_comm]

/-- A step that has a value in every world never fails. -/
theorem Means.never {R : World → α → World → Prop} (h : x.Means R)
    (total : ∀ w, ∃ a v, R w a v) : x.Throws fun _ _ _ => False := by
  intro s e w
  obtain ⟨a, v, holds⟩ := total s.world
  obtain ⟨t, ran, -⟩ := (h s a v).2 holds
  simp [Stops, ran]

theorem Reads.never {P : World → α → Prop} (h : x.Reads P) (total : ∀ w, ∃ a, P w a) :
    x.Throws fun _ _ _ => False :=
  Means.never h fun w => (total w).imp fun _ holds => ⟨w, holds, rfl⟩

theorem never_pure (a : α) : (pure a : Run α).Throws fun _ _ _ => False :=
  (reads_pure a).never fun _ => ⟨a, rfl⟩

theorem never_of_reads {y : Run Unit} (h : y.Reads fun _ _ => True) :
    y.Throws fun _ _ _ => False :=
  h.never fun _ => ⟨(), trivial⟩

/-! ## Steps put together -/

/-- What is done to a session around a step plays no part if it keeps the world. -/
theorem Throws.around {y : Run α} {F : World → Failure → World → Prop} (h : x.Throws F)
    (before after : Session → Session) (hb : ∀ s, (before s).world = s.world)
    (ha : ∀ s, (after s).world = s.world)
    (hy : ∀ s, y.result s = ((x.result (before s)).1, after (x.result (before s)).2)) :
    y.Throws F := by
  intro s e w
  rw [← hb s, ← h (before s) e w]
  unfold Stops
  rw [hy s]
  constructor
  · rintro ⟨t, ran, rfl⟩
    obtain ⟨failed, rfl⟩ := Prod.mk.inj ran
    exact ⟨(x.result (before s)).2, Prod.ext failed rfl, (ha _).symm⟩
  · rintro ⟨t, ran, rfl⟩
    rw [ran]
    exact ⟨after t, rfl, ha t⟩

theorem Throws.within {F : World → Failure → World → Prop} (h : x.Throws F) (g : Log.Fields) :
    (within g x).Throws F :=
  h.around (fun s => { s with nesting := s.nesting.enter g })
    (fun s => { s with nesting := s.nesting.leave }) (fun _ => rfl) (fun _ => rfl) fun _ => rfl

theorem Throws.closing {F : World → Failure → World → Prop} (h : x.Throws F) (place : Nat) :
    (closing place x).Throws F :=
  h.around id (fun s => s.close place) (fun _ => rfl) (fun _ => rfl) fun _ => rfl

theorem stops_bind_iff {s : Session} {e : Failure} {w : World} :
    (x >>= f).Stops s e w ↔
      x.Stops s e w ∨ ∃ a t, x.result s = (.ok a, t) ∧ (f a).Stops t e w := by
  unfold Stops
  rw [result_bind]
  cases x.result s with
  | mk r t => cases r <;> simp

theorem Throws.bind {F : World → Failure → World → Prop} {X : World → α → World → Prop}
    {G : α → World → Failure → World → Prop} (tx : x.Throws F) (hx : x.Means X)
    (hf : ∀ a, (f a).Throws (G a)) :
    (x >>= f).Throws fun w e v => F w e v ∨ ∃ a u, X w a u ∧ G a u e v := by
  intro s e w
  rw [stops_bind_iff]
  refine or_congr (tx s e w) ⟨?_, ?_⟩
  · rintro ⟨a, t, ran, stops⟩
    exact ⟨a, t.world, (hx s a t.world).1 ⟨t, ran, rfl⟩, (hf a t e w).1 stops⟩
  · rintro ⟨a, u, means, fails⟩
    obtain ⟨t, ran, rfl⟩ := (hx s a u).2 means
    exact ⟨a, t, ran, (hf a t e w).2 fails⟩

/-- A step that only reads passes what it has read on. -/
theorem Throws.bind_reads {F : World → Failure → World → Prop} {P : World → α → Prop}
    {G : α → World → Failure → World → Prop} (tx : x.Throws F) (hx : x.Reads P)
    (hf : ∀ a, (f a).Throws (G a)) :
    (x >>= f).Throws fun w e v => F w e v ∨ ∃ a, P w a ∧ G a w e v := by
  refine (Throws.bind tx hx hf).congr fun w e v => or_congr_right ?_
  constructor
  · rintro ⟨a, u, ⟨holds, rfl⟩, later⟩
    exact ⟨a, holds, later⟩
  · rintro ⟨a, holds, later⟩
    exact ⟨a, w, ⟨holds, rfl⟩, later⟩

/-- A step in front that yields nothing and only reads plays no part. -/
theorem Throws.after {y : Run Unit} {F : World → Failure → World → Prop} (hx : x.Throws F)
    (hy : y.Reads fun _ _ => True) : (y >>= fun _ => x).Throws F :=
  (Throws.bind_reads (never_of_reads hy) hy fun _ => hx).congr fun w e v => by simp

/-- A step behind that never fails plays no part. -/
theorem Throws.before {F : World → Failure → World → Prop} (hx : x.Throws F)
    (hf : ∀ a, (f a).Throws fun _ _ _ => False) : (x >>= f).Throws F := by
  intro s e w
  rw [stops_bind_iff, hx s e w]
  refine or_iff_left ?_
  rintro ⟨a, t, -, stops⟩
  exact (hf a t e w).1 stops

/-- What a session holds may be used in a step. -/
theorem throws_get {g : Session → Run α} {F : World → Failure → World → Prop}
    (h : ∀ s e w, (g s).Stops s e w ↔ F s.world e w) : (get >>= g : Run α).Throws F := by
  intro s e w
  refine Iff.trans ?_ (h s e w)
  unfold Stops
  rw [result_bind]
  rfl

end Run

/-! ## The address -/

/-- Preparing the environment for an address fails.  Loading a file may have added variables. -/
inductive PrepareFails (url : String) (envFile : Option String) (w : World) :
    Failure → World → Prop
  | inaccessible {fault : FileFault} : w.files.fileAt (envPath envFile) = .error fault →
      PrepareFails url envFile w (.inaccessible fault (envPath envFile)) w
  | absent {file : String} : w.files.fileAt (envPath envFile) = .ok none → envFile = some file →
      PrepareFails url envFile w (.address (.noEnvFile url file)) w
  | loading {content : Content} {e : Environment} {fault : LoadFault} :
      w.files.fileAt (envPath envFile) = .ok (some content) →
      w.loader.load w.environment content = (e, some fault) →
      PrepareFails url envFile w (.ofLoading fault) { w with environment := e }

/-- An address cannot be found out. -/
inductive ResolveFails (url : String) (envFile : Option String) (w : World) :
    Failure → World → Prop
  | key {error : AddressError} : environmentKey url = .error error →
      ResolveFails url envFile w (.address error) w
  | prepare {key : String} {e : Failure} {v : World} : environmentKey url = .ok (some key) →
      PrepareFails url envFile w e v → ResolveFails url envFile w e v
  | unset {key : String} {v : World} {e : Failure} :
      environmentKey url = .ok (some key) → Prepares envFile w v →
      Run.requestVariable v.environment key = .error e → ResolveFails url envFile w e v

namespace Run

theorem refuses_findFile (name : String) :
    (findFile name).Refuses fun w e =>
      ∃ fault, w.files.fileAt (Path.ofString name) = .error fault ∧
        e = .inaccessible fault (Path.ofString name) :=
  throws_get fun s e w => refuses_ofExcept _ _ s e w

theorem throws_loadEnvFile (content : Content) :
    (loadEnvFile content).Throws fun w e v => ∃ f fault,
      w.loader.load w.environment content = (f, some fault) ∧ e = .ofLoading fault ∧
        v = { w with environment := f } := by
  refine throws_get fun s e w => ?_
  have set (f : Environment) : (modify fun s => { s with environment := f } : Run Unit).Means
      fun w _ v => v = { w with environment := f } := means_modify fun _ _ => eq_comm
  have report := reads_forM (fun r : Log.Level × String => reads_note .envFile r.1 r.2)
    (s.loader.reports s.environment content)
  show _ ↔ ∃ f fault, s.loader.load s.environment content = (f, some fault) ∧
    e = .ofLoading fault ∧ w = { s.world with environment := f }
  cases s.loader.load s.environment content with
  | mk f fault? =>
    have never := (set f).never fun w => ⟨(), _, rfl⟩
    cases fault? with
    | some fault =>
      refine ((Throws.after (never.bind (set f) fun _ => refuses_throw (.ofLoading fault)) report)
        s e w).trans ?_
      simp
    | none =>
      refine ((Throws.after (never.bind (set f) fun _ => never_pure ()) report) s e w).trans ?_
      simp

/-- What is done with an environment file that was found, or was not. -/
theorem throws_foundEnvFile (address : String) (envFile : Option String)
    (file? : Option Content) :
    (match file?, envFile with
      | some content, _ => do
        loadEnvFile content
        note .address Log.Level.info
          ("Loaded environment variables from '" ++ envFile.getD defaultEnvFile ++ "'.")
      | none, some file => throw (.address (.noEnvFile address file))
      | none, none => pure () : Run Unit).Throws fun w e v =>
        match file? with
        | some content => ∃ f fault, w.loader.load w.environment content = (f, some fault) ∧
            e = .ofLoading fault ∧ v = { w with environment := f }
        | none => ∃ file, envFile = some file ∧ e = .address (.noEnvFile address file) ∧ v = w := by
  cases file? with
  | some content =>
    exact (throws_loadEnvFile content).before fun _ => never_of_reads (reads_note _ _ _)
  | none =>
    cases envFile with
    | some file => exact Throws.congr (refuses_throw _) fun _ _ _ => by simp
    | none => exact (never_pure ()).congr fun _ _ _ => by simp

theorem throws_prepareEnvironment (address : String) (envFile : Option String) :
    (prepareEnvironment address envFile).Throws (PrepareFails address envFile) := by
  refine (Throws.bind_reads (refuses_findFile _) (reads_findFile _)
    (throws_foundEnvFile address envFile)).congr fun w e v => ?_
  constructor
  · rintro (⟨⟨fault, there, rfl⟩, rfl⟩ | ⟨file?, there, fails⟩)
    · exact .inaccessible there
    · cases file? with
      | some content =>
        obtain ⟨f, fault, loaded, rfl, rfl⟩ := fails
        exact .loading there loaded
      | none =>
        obtain ⟨file, asked, rfl, rfl⟩ := fails
        exact .absent there asked
  · rintro (there | ⟨there, asked⟩ | ⟨there, loaded⟩)
    · exact .inl ⟨⟨_, there, rfl⟩, rfl⟩
    · exact .inr ⟨none, there, _, asked, rfl, rfl⟩
    · exact .inr ⟨some _, there, _, _, loaded, rfl, rfl⟩

theorem throws_resolveAddress (url : String) (envFile : Option String) :
    (resolveAddress url envFile).Throws (ResolveFails url envFile) := by
  have request (key : String) : (get >>= fun s : Session =>
      ofExcept id (requestVariable s.environment key) : Run String).Refuses
        fun w e => requestVariable w.environment key = .error e :=
    throws_get fun s e w => ((refuses_ofExcept id (requestVariable s.environment key)) s e w).trans
      (by simp)
  have asked (key : String) := Throws.bind (throws_prepareEnvironment url envFile)
    (means_prepareEnvironment url envFile) fun _ => request key
  refine (Throws.bind_reads (refuses_ofExcept .address (environmentKey url))
    (reads_ofExcept Failure.address (environmentKey url)) (G := fun key? w e v =>
      key?.elim False fun key => PrepareFails url envFile w e v ∨
        Prepares envFile w v ∧ requestVariable v.environment key = .error e)
    fun key? => ?_).congr fun w e v => ?_
  · cases key? with
    | none => exact never_pure url
    | some key =>
      refine (asked key).congr fun w e v => or_congr_right ?_
      constructor
      · rintro ⟨-, u, prepared, unset, rfl⟩
        exact ⟨prepared, unset⟩
      · rintro ⟨prepared, unset⟩
        exact ⟨(), v, prepared, unset, rfl⟩
  · constructor
    · rintro (⟨⟨error, asks, rfl⟩, rfl⟩ | ⟨key?, asks, fails⟩)
      · exact .key asks
      · cases key? with
        | none => exact fails.elim
        | some key =>
          obtain prepare | ⟨prepared, unset⟩ := fails
          · exact .prepare asks prepare
          · exact .unset asks prepared unset
    · rintro (asks | ⟨asks, prepare⟩ | ⟨asks, prepared, unset⟩)
      · exact .inl ⟨⟨_, asks, rfl⟩, rfl⟩
      · exact .inr ⟨some _, asks, .inl prepare⟩
      · exact .inr ⟨some _, asks, .inr ⟨prepared, unset⟩⟩

end Run

/-! ## The catalog -/

/-- The failure that becomes of a failure on a connection. -/
def Dialect.reported (d : Dialect) (target : String) : Failure → Failure
  | .database text => .introspection d (d.failureMessage target text)
  | failure => failure

namespace Run

variable {α : Type} {x : Run α}

theorem Throws.reporting {F : World → Failure → World → Prop} (h : x.Throws F) (d : Dialect)
    (target : String) :
    (reporting d target x).Throws fun w e v => ∃ cause, F w cause v ∧ e = d.reported target cause := by
  intro s e w
  have handled (cause : Failure) : Run.Refuses (α := α) (match cause with
      | .database text => do
        note d.channel Log.Level.error (d.errorMessage text)
        throw (.introspection d (d.failureMessage target text))
      | failure => throw failure) fun _ e => e = d.reported target cause := by
    cases cause with
    | database text => exact Throws.after (refuses_throw _) (reads_note _ _ _)
    | _ => exact refuses_throw _
  unfold Run.reporting Stops
  rw [result_tryCatch]
  cases ran : x.result s with
  | mk r t =>
    cases r with
    | ok a =>
      refine iff_of_false (by simp) ?_
      rintro ⟨cause, fails, -⟩
      exact h.not_of_ok ran cause w fails
    | error cause =>
      refine (handled cause t e w).trans ?_
      constructor
      · rintro ⟨rfl, rfl⟩
        exact ⟨cause, h.of_result ran, rfl⟩
      · rintro ⟨other, fails, rfl⟩
        obtain ⟨rfl, rfl⟩ := h.unique ran fails
        exact ⟨rfl, rfl⟩

end Run

/-! ## The output -/

/-- The output cannot be written to a file. -/
inductive WriteFails (output file : String) (w : World) : Failure → World → Prop
  | directories {t : FileTree} {fault : WriteFault} :
      w.disk.makeDirectories w.files (Path.ofString file).parent = (t, some fault) →
      WriteFails output file w (.ofWriting file fault) { w with files := t }
  | file {t u : FileTree} {fault : WriteFault} :
      w.disk.makeDirectories w.files (Path.ofString file).parent = (t, none) →
      w.disk.writeFile t (Path.ofString file) output = (u, some fault) →
      WriteFails output file w (.ofWriting file fault) { w with files := u }

namespace Run

end Run

/-! ## The run -/

end CatalogTypes
