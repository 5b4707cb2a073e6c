import CatalogTypes.EnvFile.Load
import CatalogTypes.Files.Tree
import CatalogTypes.Log.Level

/-!
# Loaders

What a run relies on when it loads an environment file: variables are added and none is changed, a
file that has been loaded loads again without effect, and so does an empty file.  How a file is read
is the loader's own affair.

`EnvFile.loader` reads files as `EnvFile.load` does.  What a reference in a file stands for depends
on the environment, but which variables the file gives a value does not (`valued_variableValues`).
So a file that was loaded without a fault has nothing to add when it is loaded again
(`load_again`).
-/

namespace CatalogTypes

/-- Why a file cannot be loaded. -/
inductive LoadFault where
  | undecodable (error : Text.Utf8Error)
  | variable (fault : EnvFile.VariableFault)
deriving DecidableEq, Repr

/-- A way to load environment files. -/
structure Loader where
  /-- What is reported while a content is loaded into an environment. -/
  reports : Environment → Content → List (Log.Level × String)
  /-- The environment after a content has been loaded, and why loading failed if it did. -/
  load : Environment → Content → Environment × Option LoadFault
  /-- A variable that is set is never changed. -/
  keeps : ∀ {e key value} content, e.find? key = some value →
    (load e content).1.find? key = some value
  /-- A content that has been loaded loads again without effect. -/
  again : ∀ {e content}, (load e content).2 = none →
    load (load e content).1 content = ((load e content).1, none)
  /-- There is nothing to load in an empty file. -/
  empty : ∀ e, load e .empty = (e, none)

namespace Keyed

variable {α β : Type}

theorem map_set (f : α → β) (table : Keyed α) (key : String) (value : α) :
    (table.set key value).map (fun e => (e.1, f e.2)) =
      Keyed.set (table.map fun e => (e.1, f e.2)) key (f value) := by
  induction table with
  | nil => rfl
  | cons entry rest ih =>
    obtain ⟨k, v⟩ := entry
    by_cases h : k = key
    · simp [set, h]
    · simp [set, h, ih]

end Keyed

namespace EnvFile

/-! ## Setting variables -/

/-- A variable that is set is never changed. -/
theorem find?_setAll {e : Environment} {key value : String} (h : e.find? key = some value)
    (values : List (String × Option String)) : (setAll e values).1.find? key = some value := by
  fun_induction setAll e values with
  | case1 => exact h
  | case2 e _ rest ih => exact ih h
  | case3 e k v rest _ ih => exact ih h
  | case4 => exact h
  | case5 e k v rest fresh _ ih =>
    refine ih ?_
    rw [Keyed.find?_set_of_ne]
    · exact h
    · rintro rfl
      exact fresh (Keyed.has_iff.2 ⟨value, h⟩)

theorem has_setAll {e : Environment} {key : String} (h : e.has key = true)
    (values : List (String × Option String)) : (setAll e values).1.has key = true := by
  obtain ⟨value, found⟩ := Keyed.has_iff.1 h
  exact Keyed.has_iff.2 ⟨value, find?_setAll found values⟩

/-- Where no variable is at fault, all that have a value are set. -/
theorem has_of_setAll {e : Environment} {values : List (String × Option String)}
    (h : (setAll e values).2 = none) {key value : String} (given : (key, some value) ∈ values) :
    (setAll e values).1.has key = true := by
  fun_induction setAll e values with
  | case1 => cases given
  | case2 e k rest ih =>
    rcases List.mem_cons.1 given with first | given
    · cases first
    · exact ih h given
  | case3 e k v rest set ih =>
    rcases List.mem_cons.1 given with first | given
    · cases first
      exact has_setAll set rest
    · exact ih h given
  | case4 => cases h
  | case5 e k v rest _ _ ih =>
    rcases List.mem_cons.1 given with first | given
    · cases first
      exact has_setAll (Keyed.has_set.2 (.inl rfl)) rest
    · exact ih h given

/-- Variables that are all set already change nothing, and none of them is at fault. -/
theorem setAll_eq_self {e : Environment} {values : List (String × Option String)}
    (h : ∀ key value, (key, some value) ∈ values → e.has key = true) :
    setAll e values = (e, none) := by
  induction values with
  | nil => rfl
  | cons entry rest ih =>
    obtain ⟨key, value⟩ := entry
    have others := ih fun k v hv => h k v (List.mem_cons_of_mem _ hv)
    cases value with
    | none => exact others
    | some value =>
      have set : e.has key = true := h key value List.mem_cons_self
      rw [setAll, if_pos set]
      exact others

/-! ## The variables of a file -/

/-- Which variables of a table have a value. -/
def valued (table : Keyed (Option String)) : Keyed Bool := table.map fun e => (e.1, e.2.isSome)

theorem mem_valued {table : Keyed (Option String)} {key : String} :
    (key, true) ∈ valued table ↔ ∃ value, (key, some value) ∈ table := by
  constructor
  · intro h
    obtain ⟨⟨k, v⟩, entry, same⟩ := List.mem_map.1 h
    obtain ⟨rfl, given⟩ := Prod.mk.inj same
    obtain ⟨value, rfl⟩ := Option.isSome_iff_exists.1 given
    exact ⟨value, entry⟩
  · rintro ⟨value, entry⟩
    exact List.mem_map.2 ⟨(key, some value), entry, rfl⟩

/-- Which variables have a value depends on the file alone. -/
theorem valued_variableValues (e : Environment) (assigned : List (String × Option String)) :
    valued (variableValues e assigned) =
      assigned.foldl (fun known (key, value) => Keyed.set known key value.isSome) [] := by
  have step : ∀ known : Keyed (Option String),
      valued (assigned.foldl (fun known (key, value) =>
        known.set key (value.map (expand (lookup e known)))) known) =
      assigned.foldl (fun known (key, value) => Keyed.set known key value.isSome)
        (valued known) := by
    induction assigned with
    | nil => exact fun _ => rfl
    | cons entry rest ih =>
      intro known
      rw [List.foldl_cons, List.foldl_cons, ih, valued, Keyed.map_set, Option.isSome_map]
      rfl
  exact step []

/-- **A file that was loaded without a fault has nothing to add.** -/
theorem load_again {e : Environment} {text : String} (h : (load e text).2 = none) :
    load (load e text).1 text = ((load e text).1, none) := by
  refine setAll_eq_self fun key value given => ?_
  have valuedNow : (key, true) ∈ valued (variableValues (load e text).1 (assignments text)) :=
    mem_valued.2 ⟨value, given⟩
  rw [valued_variableValues, ← valued_variableValues e] at valuedNow
  obtain ⟨earlier, givenBefore⟩ := mem_valued.1 valuedNow
  exact has_of_setAll h givenBefore

/-! ## The loader -/

/-- What is reported while a content is loaded. -/
def reports (e : Environment) (content : Content) : List (Log.Level × String) :=
  if isDisabled e then
    [(Log.Level.debug,
      "python-dotenv: .env loading disabled by PYTHON_DOTENV_DISABLED environment variable")]
  else
    match content.read with
    | .error _ => []
    | .ok text => (unreadableLines text).map fun line =>
      (Log.Level.warning,
        "python-dotenv could not parse statement starting at line " ++ toString line)

/-- The environment after a content has been loaded, unless loading is switched off. -/
def loadContent (e : Environment) (content : Content) : Environment × Option LoadFault :=
  if isDisabled e then (e, none)
  else
    match content.read with
    | .error error => (e, some (.undecodable error))
    | .ok text => ((load e text).1, (load e text).2.map .variable)

theorem find?_loadContent {e : Environment} {key value : String} (content : Content)
    (h : e.find? key = some value) : (loadContent e content).1.find? key = some value := by
  unfold loadContent
  split
  · exact h
  · split
    · exact h
    · exact find?_setAll h _

theorem loadContent_again {e : Environment} {content : Content}
    (h : (loadContent e content).2 = none) :
    loadContent (loadContent e content).1 content = ((loadContent e content).1, none) := by
  by_cases disabled : isDisabled e = true
  · have same : loadContent e content = (e, none) := if_pos disabled
    rw [same, same]
  · have loaded : loadContent e content = match content.read with
        | .error error => (e, some (.undecodable error))
        | .ok text => ((load e text).1, (load e text).2.map .variable) := if_neg disabled
    rw [loaded] at h ⊢
    cases read : content.read with
    | error error =>
      rw [read] at h
      cases h
    | ok text =>
      rw [read] at h
      have faultless : (load e text).2 = none := Option.map_eq_none_iff.1 h
      have again := load_again faultless
      dsimp only
      rw [loadContent, read]
      split
      · rfl
      · dsimp only
        rw [again]
        rfl

/-- The loader that reads files as `load` does. -/
def loader : Loader where
  reports := reports
  load := loadContent
  keeps := find?_loadContent
  again := loadContent_again
  empty e := by
    unfold loadContent
    split
    · rfl
    · rfl

end EnvFile

instance : Inhabited Loader := ⟨EnvFile.loader⟩

end CatalogTypes
