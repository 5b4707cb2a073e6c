import CatalogTypes.Proofs.Run.Means

/-!
# Contexts of nested blocks

A script is put together of points, at which something is done with the context, of blocks, of
failures, of steps one after the other, and of steps whose failure is handled.

**Theorem (`perform_lexical`).** The context at each point of a script is the one that is read off
the blocks written around it: a part is what the innermost block says that states it, be it null,
and so is an extra entry under its key; what no block states is as it was around the script.
However the script ends, the session is back in the block in which it began.

`Script.lexical` reads a script without a nesting: what a block states goes down to the points
within it and no further.  Such a reading neither looks at the nesting of the session nor changes it
(`Run.Blind`).  So it does not matter that a block is performed in a nesting of its own, and the
induction over the script needs no more of the nesting than the context on top
(`perform_of_inside`).
-/

namespace CatalogTypes

/-! ## The context inside blocks -/

namespace Log

/-- The extra entries that a block states. -/
def statedExtra (stated : Keyed Json) : Keyed Json :=
  match stated.find? "extra" with
  | some (.obj extra) => Keyed.ofPairs extra
  | _ => []

theorem nodup_keys_statedExtra (stated : Keyed Json) : (statedExtra stated).keys.Nodup := by
  unfold statedExtra
  split
  · exact Keyed.nodup_keys_ofPairs _
  · exact Keyed.nodup_keys_empty

/-- What the first of the blocks says that states a part, or else what holds around them. -/
def innermost (name : String) (around : List (Keyed Json)) (outer : Json) : Json :=
  (around.findSome? (·.find? name)).getD outer

theorem innermost_cons (name : String) (stated : Keyed Json) (around : List (Keyed Json))
    (outer : Json) :
    innermost name (stated :: around) outer =
      (stated.find? name).getD (innermost name around outer) := by
  unfold innermost
  rw [List.findSome?_cons]
  cases stated.find? name <;> rfl

namespace Context

/-- The context inside blocks, read off what they state, the innermost first. -/
def inside (outer : Context) (around : List (Keyed Json)) : Context where
  dialect := innermost "dialect" around outer.dialect
  database := innermost "database" around outer.database
  table := innermost "table" around outer.table
  column := innermost "column" around outer.column
  operation := innermost "operation" around outer.operation
  extra := around.foldr (fun stated below => below.update (statedExtra stated)) outer.extra

/-- What a block adds to the context is what it states. -/
theorem within_ofEntries {stated : Keyed Json} {f : Fields} (h : Fields.ofEntries stated = .ok f)
    (c : Context) :
    c.within f =
      { dialect := (stated.find? "dialect").getD c.dialect
        database := (stated.find? "database").getD c.database
        table := (stated.find? "table").getD c.table
        column := (stated.find? "column").getD c.column
        operation := (stated.find? "operation").getD c.operation
        extra := c.extra.update (statedExtra stated) } := by
  have made (extra : Keyed Json) : c.extra.update (Keyed.ofPairs extra) = c.extra.update extra :=
    Keyed.update_update Keyed.nodup_keys_empty extra
  unfold Fields.ofEntries at h
  unfold statedExtra
  cases given : stated.find? "extra" with
  | none =>
    rw [given] at h
    cases h
    rfl
  | some value =>
    cases value with
    | obj extra =>
      rw [given] at h
      cases h
      simp only [within, made]
    | _ =>
      rw [given] at h
      cases h

/-- One block further in. -/
theorem inside_cons {stated : Keyed Json} {f : Fields} (h : Fields.ofEntries stated = .ok f)
    (outer : Context) (around : List (Keyed Json)) :
    outer.inside (stated :: around) = (outer.inside around).within f := by
  rw [within_ofEntries h]
  simp only [inside, innermost_cons, List.foldr_cons]

/-- A part that is stated as null is unknown further in. -/
example : ({} : Context).inside
    [[("table", .null)], [("table", .str "users"), ("dialect", .str "sqlite")]] =
      { dialect := .str "sqlite" } := rfl

/-- Of the extra entries under a key the innermost one holds. -/
theorem find?_extra_inside (outer : Context) (around : List (Keyed Json)) (key : String) :
    (outer.inside around).extra.find? key =
      (around.findSome? fun stated => (statedExtra stated).find? key).or
        (outer.extra.find? key) := by
  induction around with
  | nil => rfl
  | cons stated around ih =>
    show (Keyed.update (outer.inside around).extra (statedExtra stated)).find? key = _
    rw [Keyed.find?_update (nodup_keys_statedExtra stated), ih, List.findSome?_cons]
    cases (statedExtra stated).find? key <;> rfl

end Context

end Log

/-! ## Steps that pay no regard to blocks -/

namespace Run

variable {α β : Type} {x : Run α} {f : α → Run β}

/-- The step does the same in every nesting, and leaves the nesting as it is. -/
def Blind (x : Run α) : Prop :=
  ∀ (s : Session) (n : Log.Nesting),
    x.result { s with nesting := n } =
      ((x.result s).1, { (x.result s).2 with nesting := n })

theorem Blind.nesting (h : x.Blind) (s : Session) : (x.result s).2.nesting = s.nesting :=
  congrArg (fun r : Except Failure α × Session => r.2.nesting) (h s s.nesting)

theorem blind_pure (a : α) : (pure a : Run α).Blind := fun _ _ => rfl

theorem blind_throw (e : Failure) : (throw e : Run α).Blind := fun _ _ => rfl

theorem Blind.bind (hx : x.Blind) (hf : ∀ a, (f a).Blind) : (x >>= f).Blind := by
  intro s n
  rw [result_bind, result_bind, hx s n]
  rcases x.result s with ⟨a | a, t⟩
  · rfl
  · exact hf a t n

theorem Blind.tryCatch {handle : Failure → Run α} (hx : x.Blind) (hh : ∀ e, (handle e).Blind) :
    (tryCatch x handle : Run α).Blind := by
  intro s n
  rw [result_tryCatch, result_tryCatch, hx s n]
  rcases x.result s with ⟨e | a, t⟩
  · exact hh e t n
  · rfl

theorem result_within (g : Log.Fields) (x : Run α) (s : Session) :
    (within g x).result s =
      let (a, t) := x.result { s with nesting := s.nesting.enter g }
      (a, { t with nesting := t.nesting.leave }) := rfl

/-- It does not matter whether a blind step stands within a block. -/
theorem Blind.result_within (h : x.Blind) (g : Log.Fields) (s : Session) :
    (within g x).result s = x.result s := by
  rw [Run.result_within, h s (s.nesting.enter g)]
  show ((x.result s).1, { (x.result s).2 with nesting := s.nesting }) = x.result s
  rw [← h.nesting s]

end Run

/-! ## Scripts -/

/-- What is done with the context at a point, in every block in the same way. -/
structure Observer where
  act : Log.Context → Run Unit
  blind : ∀ c, (act c).Blind

/-- What is done within blocks.  A block is written with what it states by name. -/
inductive Script where
  | point (observer : Observer)
  | block (stated : Keyed Json) (body : Script)
  | fail (e : Failure)
  | andThen (first second : Script)
  | attempt (body : Script) (handle : Failure → Script)

namespace Script

variable (refuse : Log.ExtraFault → Failure)

/-- The script as a step of a run.  A block whose extra entries are no entries is refused. -/
def perform : Script → Run Unit
  | point o => do o.act (← get).nesting.current
  | block stated body => do
    let f ← Run.ofExcept refuse (Log.Fields.ofEntries stated)
    Run.within f body.perform
  | fail e => throw e
  | andThen first second => do
    first.perform
    second.perform
  | attempt body handle => tryCatch body.perform fun e => (handle e).perform

/-- The script inside blocks as it is written, the innermost first: no nesting is kept. -/
def lexical (outer : Log.Context) : List (Keyed Json) → Script → Run Unit
  | around, point o => o.act (outer.inside around)
  | around, block stated body => do
    let _ ← Run.ofExcept refuse (Log.Fields.ofEntries stated)
    lexical outer (stated :: around) body
  | _, fail e => throw e
  | around, andThen first second => do
    lexical outer around first
    lexical outer around second
  | around, attempt body handle =>
    tryCatch (lexical outer around body) fun e => lexical outer around (handle e)

theorem blind_lexical (outer : Log.Context) (around : List (Keyed Json)) (p : Script) :
    (p.lexical refuse outer around).Blind := by
  induction p generalizing around with
  | point o => exact o.blind _
  | block stated body ih =>
    unfold lexical
    cases Log.Fields.ofEntries stated with
    | ok f => exact (Run.blind_pure f).bind fun _ => ih _
    | error fault => exact (Run.blind_throw _).bind fun _ => ih _
  | fail e => exact Run.blind_throw e
  | andThen first second ih₁ ih₂ => exact (ih₁ around).bind fun _ => ih₂ around
  | attempt body handle ih₁ ih₂ => exact (ih₁ around).tryCatch fun e => ih₂ e around

/-- A script is performed as it is written wherever the context is the one of the blocks around. -/
theorem perform_of_inside {outer : Log.Context} {around : List (Keyed Json)} (p : Script)
    {s : Session} (h : s.nesting.current = outer.inside around) :
    (p.perform refuse).result s = (p.lexical refuse outer around).result s := by
  induction p generalizing around s with
  | point o =>
    show (o.act s.nesting.current).result s = (o.act (outer.inside around)).result s
    rw [h]
  | block stated body ih =>
    unfold perform lexical
    cases entered : Log.Fields.ofEntries stated with
    | error fault => rfl
    | ok f =>
      have top : (s.nesting.enter f).current = outer.inside (stated :: around) := by
        rw [Log.Nesting.current_enter, h, Log.Context.inside_cons entered]
      have blind := blind_lexical refuse outer (stated :: around) body
      calc (Run.within f (body.perform refuse)).result s
          = (Run.within f (body.lexical refuse outer (stated :: around))).result s := by
            rw [Run.result_within, Run.result_within, ih top]
        _ = (body.lexical refuse outer (stated :: around)).result s := blind.result_within f s
  | fail e => rfl
  | andThen first second ih₁ ih₂ =>
    unfold perform lexical
    rw [Run.result_bind, Run.result_bind, ih₁ h]
    have kept := (blind_lexical refuse outer around first).nesting s
    rcases ran : (first.lexical refuse outer around).result s with ⟨e | a, t⟩
    · rfl
    · rw [ran] at kept
      apply ih₂
      rw [← h]
      exact congrArg _ kept
  | attempt body handle ih₁ ih₂ =>
    unfold perform lexical
    rw [Run.result_tryCatch, Run.result_tryCatch, ih₁ h]
    have kept := (blind_lexical refuse outer around body).nesting s
    rcases ran : (body.lexical refuse outer around).result s with ⟨e | a, t⟩
    · rw [ran] at kept
      apply ih₂
      rw [← h]
      exact congrArg _ kept
    · rfl

/-- **The context at each point of a script** is the one read off the blocks written around it, in
which of the extra entries under a key the innermost holds.  The session ends in the block in which
it began. -/
theorem perform_lexical (p : Script) (s : Session) :
    (p.perform refuse).result s = (p.lexical refuse s.nesting.current []).result s ∧
      ((p.perform refuse).result s).2.nesting = s.nesting ∧
      ∀ (outer : Log.Context) (around : List (Keyed Json)) (key : String),
        (outer.inside around).extra.find? key =
          (around.findSome? fun stated => (Log.statedExtra stated).find? key).or
            (outer.extra.find? key) := by
  have top : s.nesting.current = s.nesting.current.inside [] := rfl
  have same := perform_of_inside refuse p top
  refine ⟨same, ?_, Log.Context.find?_extra_inside⟩
  rw [same]
  exact (blind_lexical refuse _ _ p).nesting s

end Script

end CatalogTypes
