import CatalogTypes.Session.Basic
import Mathlib.Tactic.Common

/-!
# What a step of a run does

A run writes log lines, enters and leaves blocks and counts its connections.  What it yields comes
from the world of the session alone: the environment, the files, and those who answer.

**Meaning.** A step *means* a relation between a world, a value and a world if it succeeds with the
value exactly where the relation says so (`Run.Means`); most steps only read, and leave the world as
it is (`Run.Reads`).  Whatever is logged plays no part, so the meaning of a program follows from
those of its steps: there is one rule for each way in which steps are put together.  A step that
only reads may also be told by a function, which gives its value or its failure in each world
(`Run.Yields`).
-/

namespace CatalogTypes

namespace Session

@[simp] theorem world_log (s : Session) (r : Log.Record) : (s.log r).world = s.world := by
  unfold log
  split <;> rfl

@[simp] theorem world_note (s : Session) (c : Log.Channel) (level : Log.Level) (message : String) :
    (s.note c level message).world = s.world := s.world_log _

end Session

namespace Run

variable {α β : Type}

/-- The step succeeds with a value, in a session of the given world. -/
def Ends (step : Run α) (s : Session) (a : α) (w : World) : Prop :=
  ∃ t, step.result s = (.ok a, t) ∧ t.world = w

/-- The step succeeds exactly where the relation says so. -/
def Means (step : Run α) (R : World → α → World → Prop) : Prop :=
  ∀ s a w, step.Ends s a w ↔ R s.world a w

/-- The step succeeds exactly with the values that the world gives it, and keeps the world. -/
def Reads (step : Run α) (P : World → α → Prop) : Prop := step.Means fun w a v => P w a ∧ v = w

variable {x : Run α} {f : α → Run β}

theorem Means.congr {R S : World → α → World → Prop} (h : x.Means R)
    (same : ∀ w a v, R w a v ↔ S w a v) : x.Means S :=
  fun s a w => (h s a w).trans (same s.world a w)

theorem Means.of_result {R : World → α → World → Prop} (h : x.Means R) {s t : Session} {a : α}
    (ran : x.result s = (.ok a, t)) : R s.world a t.world :=
  (h s a t.world).1 ⟨t, ran, rfl⟩

/-- A step has one value. -/
theorem Means.unique {R : World → α → World → Prop} (h : x.Means R) {s t : Session} {a b : α}
    {w : World} (ran : x.result s = (.ok a, t)) (means : R s.world b w) : b = a ∧ w = t.world := by
  obtain ⟨u, again, rfl⟩ := (h s b w).2 means
  cases ran.symm.trans again
  exact ⟨rfl, rfl⟩

theorem Reads.congr {P Q : World → α → Prop} (h : x.Reads P) (same : ∀ w a, P w a ↔ Q w a) :
    x.Reads Q :=
  Means.congr h fun w a _ => and_congr_left' (same w a)

/-! ## Single steps -/

theorem reads_pure (a : α) : (pure a : Run α).Reads fun _ b => b = a := by
  intro s b w
  constructor
  · rintro ⟨t, ran, rfl⟩
    cases ran
    exact ⟨rfl, rfl⟩
  · rintro ⟨rfl, rfl⟩
    exact ⟨s, rfl, rfl⟩

theorem reads_throw (e : Failure) : (throw e : Run α).Reads fun _ _ => False := by
  intro s a w
  constructor
  · rintro ⟨t, ran, -⟩
    cases ran
  · exact fun h => h.1.elim

theorem reads_ofExcept {ε : Type} (failure : ε → Failure) (r : Except ε α) :
    (ofExcept failure r).Reads fun _ a => r = .ok a := by
  cases r with
  | ok a => exact (reads_pure a).congr fun _ b => by simp [eq_comm]
  | error e => exact (reads_throw (failure e)).congr fun _ b => by simp

theorem means_modify {change : Session → Session} {R : World → World → Prop}
    (h : ∀ s w, (change s).world = w ↔ R s.world w) :
    (modify change : Run Unit).Means fun w _ v => R w v := by
  intro s a w
  refine Iff.trans ⟨?_, ?_⟩ (h s w)
  · rintro ⟨t, ran, rfl⟩
    cases ran
    rfl
  · rintro rfl
    exact ⟨change s, rfl, rfl⟩

theorem reads_note (c : Log.Channel) (level : Log.Level) (message : String) :
    (note c level message).Reads fun _ _ => True := by
  refine Means.congr (means_modify (R := fun w v => v = w) fun s w => ?_) fun w a v => ?_
  · rw [Session.world_note, eq_comm]
  · exact (iff_of_eq (true_and _)).symm

/-! ## Steps within a step -/

/-- What is done to a session around a step plays no part if it keeps the world. -/
theorem Means.around {y : Run α} {R : World → α → World → Prop} (h : x.Means R)
    (before after : Session → Session) (hb : ∀ s, (before s).world = s.world)
    (ha : ∀ s, (after s).world = s.world)
    (hy : ∀ s, y.result s = ((x.result (before s)).1, after (x.result (before s)).2)) :
    y.Means R := by
  intro s a w
  rw [← hb s, ← h (before s) a w]
  unfold Ends
  rw [hy s]
  constructor
  · rintro ⟨t, ran, rfl⟩
    obtain ⟨value, rfl⟩ := Prod.mk.inj ran
    exact ⟨(x.result (before s)).2, Prod.ext value rfl, (ha _).symm⟩
  · rintro ⟨t, ran, rfl⟩
    rw [ran]
    exact ⟨after t, rfl, ha t⟩

theorem Means.within {R : World → α → World → Prop} (h : x.Means R) (g : Log.Fields) :
    (within g x).Means R :=
  h.around (fun s => { s with nesting := s.nesting.enter g })
    (fun s => { s with nesting := s.nesting.leave }) (fun _ => rfl) (fun _ => rfl) fun _ => rfl

theorem Means.closing {R : World → α → World → Prop} (h : x.Means R) (place : Nat) :
    (closing place x).Means R :=
  h.around id (fun s => s.close place) (fun _ => rfl) (fun _ => rfl) fun _ => rfl

/-! ## Two steps -/

theorem result_bind (x : Run α) (f : α → Run β) (s : Session) :
    (x >>= f).result s =
      match x.result s with
      | (.ok a, t) => (f a).result t
      | (.error e, t) => (.error e, t) := by
  show StateT.bind x (ExceptT.bindCont f) s = _
  unfold result
  rw [StateT.bind]
  show (match x s with | (r, t) => ExceptT.bindCont f r t) = _
  cases x s with
  | mk r t => cases r <;> rfl

theorem ends_bind_iff {x : Run α} {f : α → Run β} {s : Session} {b : β} {w : World} :
    (x >>= f).Ends s b w ↔ ∃ a t, x.result s = (.ok a, t) ∧ (f a).Ends t b w := by
  unfold Ends
  rw [result_bind]
  cases x.result s with
  | mk r t => cases r <;> simp

theorem Means.bind {x : Run α} {f : α → Run β} {X : World → α → World → Prop}
    {F : α → World → β → World → Prop} (hx : x.Means X) (hf : ∀ a, (f a).Means (F a)) :
    (x >>= f).Means fun w b v => ∃ a u, X w a u ∧ F a u b v := by
  intro s b w
  rw [ends_bind_iff]
  constructor
  · rintro ⟨a, t, ran, ends⟩
    exact ⟨a, t.world, (hx s a t.world).1 ⟨t, ran, rfl⟩, (hf a t b w).1 ends⟩
  · rintro ⟨a, u, hX, hF⟩
    obtain ⟨t, ran, rfl⟩ := (hx s a u).2 hX
    exact ⟨a, t, ran, (hf a t b w).2 hF⟩

theorem Reads.bind {P : World → α → Prop} {Q : α → World → β → Prop} (hx : x.Reads P)
    (hf : ∀ a, (f a).Reads (Q a)) : (x >>= f).Reads fun w b => ∃ a, P w a ∧ Q a w b := by
  refine (Means.bind hx hf).congr fun w b v => ?_
  constructor
  · rintro ⟨a, u, ⟨hP, rfl⟩, hQ, rfl⟩
    exact ⟨⟨a, hP, hQ⟩, rfl⟩
  · rintro ⟨⟨a, hP, hQ⟩, rfl⟩
    exact ⟨a, v, ⟨hP, rfl⟩, hQ, rfl⟩

/-- A step that only reads passes what it has read on. -/
theorem Reads.bind_means {P : World → α → Prop} {R : α → World → β → World → Prop} (hx : x.Reads P)
    (hf : ∀ a, (f a).Means (R a)) : (x >>= f).Means fun w b v => ∃ a, P w a ∧ R a w b v := by
  refine (Means.bind hx hf).congr fun w b v => ?_
  constructor
  · rintro ⟨a, u, ⟨hP, rfl⟩, hR⟩
    exact ⟨a, hP, hR⟩
  · rintro ⟨a, hP, hR⟩
    exact ⟨a, w, ⟨hP, rfl⟩, hR⟩

/-- A step in front that yields nothing and only reads plays no part. -/
theorem Means.after {y : Run Unit} {z : Run α} {R : World → α → World → Prop}
    (hy : y.Reads fun _ _ => True) (hz : z.Means R) : (y >>= fun _ => z).Means R :=
  (hy.bind_means fun _ => hz).congr fun w a v => by simp

/-- A step behind that yields nothing and only reads plays no part. -/
theorem Means.before {y : α → Run Unit} {R : World → α → World → Prop} (hx : x.Means R)
    (hy : ∀ a, (y a).Reads fun _ _ => True) :
    (x >>= fun a => y a >>= fun _ => pure a).Means R := by
  refine (hx.bind fun a => (hy a).bind fun _ => reads_pure a).congr fun w a v => ?_
  simp

/-- What a session holds may be used in a step. -/
theorem means_get {g : Session → Run α} {R : World → α → World → Prop}
    (h : ∀ s a w, (g s).Ends s a w ↔ R s.world a w) : (get >>= g : Run α).Means R := by
  intro s a w
  refine Iff.trans ?_ (h s a w)
  unfold Ends
  rw [result_bind]
  rfl

theorem result_tryCatch (x : Run α) (handle : Failure → Run α) (s : Session) :
    (tryCatch x handle).result s =
      match x.result s with
      | (.ok a, t) => (.ok a, t)
      | (.error e, t) => (handle e).result t := by
  unfold result
  simp only [tryCatch, tryCatchThe, MonadExceptOf.tryCatch, ExceptT.tryCatch, ExceptT.mk, bind,
    StateT.bind]
  cases x s with
  | mk r t => cases r <;> rfl

/-- A step of which every failure stays one succeeds as the step does. -/
theorem Means.tryCatch {R : World → α → World → Prop} (h : x.Means R) {handle : Failure → Run α}
    (fails : ∀ e, (handle e).Reads fun _ _ => False) : (tryCatch x handle : Run α).Means R := by
  intro s a w
  refine Iff.trans ?_ (h s a w)
  unfold Ends
  rw [result_tryCatch]
  cases ran : x.result s with
  | mk r t =>
    cases r with
    | ok value => exact Iff.rfl
    | error e =>
      constructor
      · rintro ⟨u, handled, same⟩
        exact ((fails e t a w).1 ⟨u, handled, same⟩).1.elim
      · rintro ⟨u, ⟨⟩, -⟩

/-! ## Steps for each of a list -/

theorem reads_forM {γ : Type} {y : γ → Run Unit} (h : ∀ c, (y c).Reads fun _ _ => True)
    (cs : List γ) : (cs.forM y).Reads fun _ _ => True := by
  induction cs with
  | nil => exact (reads_pure ()).congr fun _ _ => by simp
  | cons c cs ih => exact Means.after (h c) ih

/-- The step only reads, and what it yields or fails with is a function of the world. -/
def Yields (x : Run α) (P : World → Except Failure α) : Prop :=
  ∀ s, (x.result s).1 = P s.world ∧ (x.result s).2.world = s.world

theorem Yields.congr {P Q : World → Except Failure α} (h : x.Yields P) (same : ∀ w, P w = Q w) :
    x.Yields Q := by
  rwa [← funext same]

theorem Yields.reads {P : World → Except Failure α} (h : x.Yields P) :
    x.Reads fun w a => P w = .ok a := by
  intro s a w
  obtain ⟨yielded, kept⟩ := h s
  constructor
  · rintro ⟨t, ran, rfl⟩
    rw [ran] at yielded kept
    exact ⟨yielded.symm, kept⟩
  · rintro ⟨found, rfl⟩
    exact ⟨_, Prod.ext (yielded.trans found) rfl, kept⟩

/-- A step that reads a value in every world never fails. -/
theorem Reads.yields {g : World → α} (h : x.Reads fun w a => a = g w) :
    x.Yields fun w => .ok (g w) := by
  intro s
  obtain ⟨t, ran, kept⟩ := (h s (g s.world) s.world).2 ⟨rfl, rfl⟩
  rw [ran]
  exact ⟨rfl, kept⟩

theorem yields_pure (a : α) : (pure a : Run α).Yields fun _ => .ok a := (reads_pure a).yields

theorem yields_throw (e : Failure) : (throw e : Run α).Yields fun _ => .error e :=
  fun _ => ⟨rfl, rfl⟩

theorem yields_ofExcept {ε : Type} (failure : ε → Failure) (r : Except ε α) :
    (ofExcept failure r).Yields fun _ => r.mapError failure := by
  cases r with
  | ok a => exact yields_pure a
  | error e => exact yields_throw (failure e)

theorem Yields.within {P : World → Except Failure α} (h : x.Yields P) (g : Log.Fields) :
    (within g x).Yields P :=
  fun s => h { s with nesting := s.nesting.enter g }

theorem Yields.bind {P : World → Except Failure α} {Q : α → World → Except Failure β}
    (hx : x.Yields P) (hf : ∀ a, (f a).Yields (Q a)) :
    (x >>= f).Yields fun w => P w >>= fun a => Q a w := by
  intro s
  have first := hx s
  rw [result_bind]
  cases ran : x.result s with
  | mk r t =>
    rw [ran] at first
    obtain ⟨yielded, kept⟩ := first
    dsimp only at yielded kept ⊢
    rw [← yielded]
    cases r with
    | error e => exact ⟨rfl, kept⟩
    | ok a =>
      obtain ⟨later, still⟩ := hf a t
      rw [kept] at later still
      exact ⟨later, still⟩

end Run

end CatalogTypes
