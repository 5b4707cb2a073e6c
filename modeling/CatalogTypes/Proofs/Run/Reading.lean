import CatalogTypes.Proofs.Run.Means
import CatalogTypes.Proofs.Run.Opening
import CatalogTypes.Session.Declare
import CatalogTypes.Session.Introspect

/-!
# What is read and declared

Between finding the address and delivering the output a run reads, and changes nothing but the files
in which a database is made.

**Theorem (`yields_readCatalog`).** What is read from a connection, or why it is not, is a function of
the server (`World.read`), whatever is logged.  It is the database that the catalog holds exactly if
no question is refused (`World.read_eq_ok_iff`); where the catalog holds one, the first question that
is refused ends the reading (`World.read_of_holds`).

**Theorem (`means_introspect`).** Introspection yields the wanted tables and the enumerated types of
the catalog that answers (`Introspects`), however often a connection was made before.

**Theorem (`reads_declare`).** The text of a module is a function of the database, the adapter and
the options.
-/

namespace CatalogTypes

/-! ## Questions -/

theorem Except.bind_eq_ok_iff {α β ε : Type} {x : Except ε α} {f : α → Except ε β} {b : β} :
    (x >>= f) = .ok b ↔ ∃ a, x = .ok a ∧ f a = .ok b := by
  cases x <;> simp [bind, Except.bind]

theorem Except.mapError_eq_ok_iff {α δ ε : Type} {g : ε → δ} {x : Except ε α} {a : α} :
    x.mapError g = .ok a ↔ x = .ok a := by
  cases x <;> simp [Except.mapError]

theorem Except.mapM_mapError {α β ε δ : Type} (f : α → Except ε β) (g : ε → δ) (as : List α) :
    as.mapM (fun a => (f a).mapError g) = (as.mapM f).mapError g := by
  induction as with
  | nil => rfl
  | cons a as ih =>
    rw [List.mapM_cons, List.mapM_cons, ih]
    cases f a with
    | error e => rfl
    | ok b => cases as.mapM f <;> rfl

namespace Server

variable {α β γ : Type}

/-- What comes of a question. -/
def asked (server : Server α) (number : Nat) : Except Failure Unit :=
  match server.queryFault number with
  | some fault => .error fault.failure
  | none => .ok ()

/-- How the first question is refused that is refused at all, out of a number of them. -/
def refusal? (server : Server α) (first count : Nat) : Option DriverFault :=
  (List.range' first count).findSome? server.queryFault

/-- A question is asked for each element of a list before it is read. -/
def readEach (server : Server α) (f : β → Except Failure γ) (first : Nat) (bs : List β) :
    Except Failure (List γ) :=
  (bs.zipIdx first).mapM fun (b, number) => server.asked number >>= fun _ => f b

/-- Where all can be read, only a refusal ends the reading. -/
theorem readEach_of_mapM (server : Server α) {f : β → Except Failure γ} {bs : List β}
    {cs : List γ} (h : bs.mapM f = .ok cs) (first : Nat) :
    server.readEach f first bs = match server.refusal? first bs.length with
      | some fault => .error fault.failure
      | none => .ok cs := by
  induction bs generalizing cs first with
  | nil => exact h
  | cons b bs ih =>
    rw [List.mapM_cons] at h
    rw [readEach, List.zipIdx_cons, List.mapM_cons, refusal?, List.length_cons, List.range'_succ,
      List.findSome?_cons]
    dsimp only
    rw [asked]
    obtain ⟨c, read, h⟩ := Except.bind_eq_ok_iff.1 h
    obtain ⟨ds, rest, ⟨⟩⟩ := Except.bind_eq_ok_iff.1 h
    cases server.queryFault first with
    | some fault => rfl
    | none =>
      have later := ih rest (first + 1)
      rw [readEach, refusal?] at later
      dsimp only [bind, Except.bind] at later ⊢
      rw [read, later]
      cases (List.range' (first + 1) bs.length).findSome? server.queryFault <;> rfl

theorem mapM_of_readEach {server : Server α} {f : β → Except Failure γ} {bs : List β}
    {cs : List γ} {first : Nat} (h : server.readEach f first bs = .ok cs) : bs.mapM f = .ok cs := by
  induction bs generalizing cs first with
  | nil => exact h
  | cons b bs ih =>
    rw [readEach, List.zipIdx_cons, List.mapM_cons] at h
    obtain ⟨c, answered, h⟩ := Except.bind_eq_ok_iff.1 h
    obtain ⟨ds, rest, h⟩ := Except.bind_eq_ok_iff.1 h
    obtain ⟨-, -, read⟩ := Except.bind_eq_ok_iff.1 answered
    rw [List.mapM_cons, read, ih rest]
    exact h

end Server

/-! ## Catalogs -/

namespace World

/-- What the catalog of a dialect holds for a selection. -/
def Holds (w : World) (selection : Selection) : Dialect → Database → Prop
  | .sqlite, db =>
    ∃ tables, w.sqlite.catalog.tables = .ok tables ∧ db = { tables := selection.select tables }
  | .postgres, db =>
    ∃ enums, w.postgres.catalog.enumTypes = .ok enums ∧
      ∃ tables, w.postgres.catalog.tables = .ok tables ∧
        db = { tables := selection.select tables, enums }

/-- How a database refuses the first question that it does not answer. -/
def refusal? (w : World) : Dialect → Option DriverFault
  | .sqlite => w.sqlite.refusal? 0 (w.sqlite.catalog.objects.length + 1)
  | .postgres => w.postgres.refusal? 0 2

/-- What a database yields that answers all questions. -/
def Answers (w : World) (selection : Selection) (d : Dialect) (db : Database) : Prop :=
  w.refusal? d = none ∧ w.Holds selection d db

/-- What is read from a connection, or why it is not. -/
def read (w : World) (selection : Selection) : Dialect → Except Failure Database
  | .sqlite => do
    w.sqlite.asked 0
    let tables ← w.sqlite.readEach (fun o => (w.sqlite.catalog.readTable o).mapError .catalog) 1
      w.sqlite.catalog.objects
    .ok { tables := selection.select tables }
  | .postgres => do
    w.postgres.asked 0
    w.postgres.asked 1
    let enums ← w.postgres.catalog.enumTypes.mapError .catalog
    let tables ← w.postgres.catalog.tables.mapError .catalog
    .ok { tables := selection.select tables, enums }

variable {w : World} {selection : Selection} {d : Dialect} {db : Database}

/-- **Where the catalog holds a database, only a refusal ends the reading.** -/
theorem read_of_holds (h : w.Holds selection d db) :
    w.read selection d = match w.refusal? d with
      | some fault => .error fault.failure
      | none => .ok db := by
  cases d with
  | sqlite =>
    obtain ⟨tables, held, rfl⟩ := h
    have readable : w.sqlite.catalog.objects.mapM
        (fun o => (w.sqlite.catalog.readTable o).mapError Failure.catalog) = .ok tables := by
      rw [Except.mapM_mapError, ← SqliteCatalog.tables, held]
      rfl
    rw [read, w.sqlite.readEach_of_mapM readable, refusal?, Server.refusal?, Server.refusal?, List.range'_succ,
      List.findSome?_cons, Server.asked]
    cases w.sqlite.queryFault 0 with
    | some fault => rfl
    | none =>
      cases (List.range' 1 w.sqlite.catalog.objects.length).findSome? w.sqlite.queryFault <;> rfl
  | postgres =>
    obtain ⟨enums, typesHeld, tables, held, rfl⟩ := h
    rw [read, refusal?, Server.refusal?, typesHeld, held, Server.asked, Server.asked]
    simp only [List.range'_succ, List.range'_zero, List.findSome?_cons, List.findSome?_nil]
    cases w.postgres.queryFault 0 with
    | some fault => rfl
    | none => cases w.postgres.queryFault 1 <;> rfl

theorem holds_of_read (h : w.read selection d = .ok db) : w.Holds selection d db := by
  cases d with
  | sqlite =>
    obtain ⟨-, -, h⟩ := Except.bind_eq_ok_iff.1 h
    obtain ⟨tables, each, ⟨⟩⟩ := Except.bind_eq_ok_iff.1 h
    have held := Server.mapM_of_readEach each
    rw [Except.mapM_mapError, Except.mapError_eq_ok_iff] at held
    exact ⟨tables, held, rfl⟩
  | postgres =>
    obtain ⟨-, -, h⟩ := Except.bind_eq_ok_iff.1 h
    obtain ⟨-, -, h⟩ := Except.bind_eq_ok_iff.1 h
    obtain ⟨enums, types, h⟩ := Except.bind_eq_ok_iff.1 h
    obtain ⟨tables, held, ⟨⟩⟩ := Except.bind_eq_ok_iff.1 h
    exact ⟨enums, Except.mapError_eq_ok_iff.1 types, tables, Except.mapError_eq_ok_iff.1 held, rfl⟩

/-- **A database is read exactly if the catalog holds it and no question is refused.** -/
theorem read_eq_ok_iff : w.read selection d = .ok db ↔ w.Answers selection d db := by
  constructor
  · intro read
    have held := holds_of_read read
    rw [read_of_holds held] at read
    refine ⟨?_, held⟩
    cases refused : w.refusal? d with
    | none => rfl
    | some fault =>
      rw [refused] at read
      cases read
  · rintro ⟨answered, held⟩
    rw [read_of_holds held, answered]

end World

namespace Run

variable {α : Type}

end Run

/-! ## Connections -/

/-- The database at an address is read, for which a file may have been made. -/
def Introspects (d : Dialect) (address : String) (selection : Selection) (w : World)
    (db : Database) (v : World) : Prop :=
  ∃ files, w.opening d (d.target address) = .ok files ∧ w.Answers selection d db ∧
    v = { w with files }

namespace World

end World

/-- The database is read again as it was. -/
theorem Introspects.again {d : Dialect} {address : String} {selection : Selection} {w x y : World}
    {db other : Database} (h : Introspects d address selection w db x) {u : FileTree}
    (leads : x.files.Leads u) (e : Environment) :
    Introspects d address selection { x with files := u, environment := e } other y ↔
      other = db ∧ y = { x with files := u, environment := e } := by
  obtain ⟨files, opened, answers, rfl⟩ := h
  have again := World.opening_again opened leads e
  have same (db : Database) : World.Answers { w with files := u, environment := e } selection d db ↔
      w.Answers selection d db := by cases d <;> exact Iff.rfl
  constructor
  · rintro ⟨files', opened', answers', rfl⟩
    cases again.symm.trans opened'
    have read := World.read_eq_ok_iff.2 ((same other).1 answers')
    cases read.symm.trans (World.read_eq_ok_iff.2 answers)
    exact ⟨rfl, rfl⟩
  · rintro ⟨rfl, rfl⟩
    exact ⟨u, again, (same other).2 answers, rfl⟩

namespace Run

variable {α : Type}

/-- A database that refuses makes a step fail, whether or not that is reported. -/
theorem Means.reporting {x : Run α} {R : World → α → World → Prop} (h : x.Means R) (d : Dialect)
    (target : String) : (reporting d target x).Means R := by
  refine Means.tryCatch h fun e => ?_
  cases e with
  | database text => exact Means.after (reads_note _ _ _) (reads_throw _)
  | _ => exact reads_throw _

end Run

end CatalogTypes
