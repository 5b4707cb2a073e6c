import CatalogTypes.Json.Basic

/-!
# Contexts of log lines

What a run is about when it writes a line: the dialect, the database, the table, the column and the
operation, and whatever else was added.  A block of the run states some of it for all that happens
within.  What a block does not state holds on from the block around it, and so do the extra entries
under other keys.
-/

namespace CatalogTypes.Log

/-- What a run is about; null stands for what is not known. -/
structure Context where
  dialect : Json := .null
  database : Json := .null
  table : Json := .null
  column : Json := .null
  operation : Json := .null
  extra : Keyed Json := []
deriving Inhabited, BEq

/-- What a block states.  A part that is stated as null is unknown within the block. -/
structure Fields where
  dialect : Option Json := none
  database : Option Json := none
  table : Option Json := none
  column : Option Json := none
  operation : Option Json := none
  extra : Keyed Json := []
deriving Inhabited

/-- Why what a block states cannot be read: the extra entries are a value of another kind. -/
structure ExtraFault where
  kind : String
deriving Repr, DecidableEq

/-- The wording of the fault. -/
def ExtraFault.message (fault : ExtraFault) : String :=
  "'" ++ fault.kind ++ "' object is not a mapping"

/-- What a block states by name; names of no part are passed over. -/
def Fields.ofEntries (stated : Keyed Json) : Except ExtraFault Fields :=
  let fields (extra : Keyed Json) : Fields :=
    { dialect := stated.find? "dialect"
      database := stated.find? "database"
      table := stated.find? "table"
      column := stated.find? "column"
      operation := stated.find? "operation"
      extra }
  match stated.find? "extra" with
  | none => .ok (fields [])
  | some (.obj extra) => .ok (fields extra)
  | some other => .error ⟨other.kindName⟩

namespace Context

/-- The context within a block. -/
def within (c : Context) (f : Fields) : Context where
  dialect := f.dialect.getD c.dialect
  database := f.database.getD c.database
  table := f.table.getD c.table
  column := f.column.getD c.column
  operation := f.operation.getD c.operation
  extra := Keyed.update c.extra f.extra

/-- The parts under their names. -/
def parts (c : Context) : Keyed Json :=
  [("dialect", c.dialect), ("database", c.database), ("table", c.table), ("column", c.column),
    ("operation", c.operation)]

/-- Whether a value is null. -/
def isNull : Json → Bool
  | .null => true
  | _ => false

/-- The context as entries: the parts that are known, then the extra entries, which win. -/
def entries (c : Context) : Keyed Json :=
  Keyed.update (c.parts.filter fun entry => !isNull entry.2) c.extra

end Context

/-! ## Nested blocks -/

/-- The contexts of the blocks around a place, the innermost first. -/
abbrev Nesting := List Context

namespace Nesting

/-- The context at a place. -/
def current : Nesting → Context
  | [] => {}
  | c :: _ => c

/-- The nesting within a further block. -/
def enter (n : Nesting) (f : Fields) : Nesting := n.current.within f :: n

/-- The nesting after the innermost block. -/
def leave (n : Nesting) : Nesting := n.tail

@[simp] theorem leave_enter (n : Nesting) (f : Fields) : (n.enter f).leave = n := rfl

@[simp] theorem current_enter (n : Nesting) (f : Fields) :
    (n.enter f).current = n.current.within f := rfl

end Nesting

end CatalogTypes.Log
