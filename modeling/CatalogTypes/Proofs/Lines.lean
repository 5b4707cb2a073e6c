import CatalogTypes.Log.Line
import CatalogTypes.Proofs.Printing

/-!
# Log lines for programs

**Theorem (`parse_jsonLine`).** A record of plain values becomes a line of printable ASCII, which
is one line therefore, and the line is read back as an object that says of the record what is to be
said (`Says`): the message and the source always, the time, the level and the logger where they are
asked for, the context where it is asked for and holds something, the data unless they are void,
and the exception if there is one, each under its own name, and nothing else.  This is so for a
reader without a limit for the digits of whole numbers, and for one with a limit that the numbers of
the record keep to.

The fields of the line are put together of parts that are there or not.  Their names are a
selection of eight distinct ones (`keys_lineFields_sublist`), so that none is lost in reading, and
each is found in the part that is made for it.
-/

namespace CatalogTypes.Log

/-! ## Plain records -/

/-- The values of a context are plain. -/
def Context.IsPlain (limit : Option Nat) (c : Context) : Prop :=
  ∀ entry ∈ c.parts ++ c.extra, entry.2.IsPlain limit

/-- All that goes into a line is plain. -/
structure Record.IsPlain (limit : Option Nat) (c : Circumstances) (r : Record) : Prop where
  context : c.context.IsPlain limit
  data : r.data.IsPlain limit
  line : Json.Fits limit c.site.line

/-! ## What a line says -/

/-- The names that the fields of a line may have, in their order. -/
def lineNames : List String :=
  ["timestamp", "level", "logger", "message", "context", "data", "exception", "source"]

/-- What the fields of a line say of a record. -/
structure Says (i : Inclusion) (c : Circumstances) (r : Record) (fields : Keyed Json) : Prop where
  timestamp : fields.find? "timestamp" = if i.timestamp then some (.str c.now.isoText) else none
  level : fields.find? "level" = if i.level then some (.str r.level.name) else none
  logger : fields.find? "logger" = if i.logger then some (.str r.logger) else none
  message : fields.find? "message" = some (.str r.message)
  context : fields.find? "context" =
    if i.context ∧ c.context.entries ≠ [] then some (.obj c.context.entries) else none
  /-- An entry of the context is an extra one, or else a part that is known. -/
  known (key : String) : c.context.entries.find? key =
    ((Keyed.ofPairs c.context.extra).find? key).or
      ((c.context.parts.find? key).filter fun value => !Context.isNull value)
  data : fields.find? "data" = if r.data.isVoid then none else some r.data
  exception : fields.find? "exception" = r.exception.map .str
  source : fields.find? "source" =
    some (.obj [("file", .str c.site.file), ("line", .int c.site.line),
      ("function", .str c.site.function)])
  nothing_else : fields.keys.Sublist lineNames

theorem keys_fieldIf_sublist (present : Bool) (name : String) (value : Json) :
    (Keyed.keys (fieldIf present name value)).Sublist [name] := by
  cases present
  · exact List.nil_sublist _
  · exact List.Sublist.refl _

theorem find?_fieldIf (present : Bool) (name key : String) (value : Json) :
    Keyed.find? (fieldIf present name value) key =
      if present = true ∧ name = key then some value else none := by
  cases present <;> simp [fieldIf, Keyed.find?]

theorem find?_exception (r : Record) (key : String) :
    Keyed.find? (r.exception.map fun e => ("exception", Json.str e)).toList key =
      if "exception" = key then r.exception.map .str else none := by
  cases r.exception <;> simp [Keyed.find?]

variable {limit : Option Nat} (i : Inclusion) (c : Circumstances) (r : Record)

theorem keys_lineFields_sublist : (Keyed.keys (lineFields i c r)).Sublist lineNames := by
  have exception : (Keyed.keys (r.exception.map fun e => ("exception", Json.str e)).toList).Sublist
      ["exception"] := by
    cases r.exception <;> simp [Keyed.keys]
  have field := keys_fieldIf_sublist
  unfold lineFields Keyed.keys
  simp only [List.map_append, List.append_assoc]
  exact (field _ _ _).append ((field _ _ _).append ((field _ _ _).append
    ((List.Sublist.refl _).append ((field _ _ _).append ((field _ _ _).append
      (exception.append (List.Sublist.refl _)))))))

/-! ## The context of a line -/

theorem nodup_keys_parts (context : Context) : context.parts.keys.Nodup := by
  show ["dialect", "database", "table", "column", "operation"].Nodup
  decide

theorem nodup_keys_entries (context : Context) : context.entries.keys.Nodup :=
  Keyed.nodup_keys_update ((nodup_keys_parts context).sublist (List.filter_sublist.map _)) _

theorem find?_entries (context : Context) (key : String) :
    context.entries.find? key = ((Keyed.ofPairs context.extra).find? key).or
      ((context.parts.find? key).filter fun value => !Context.isNull value) := by
  unfold Context.entries
  rw [← Keyed.find?_filter (nodup_keys_parts context) _ key,
    ← Keyed.find?_update (Keyed.nodup_keys_ofPairs context.extra)]
  exact congrArg (Keyed.find? · key) (Keyed.update_update Keyed.nodup_keys_empty _).symm

theorem isPlain_entries {context : Context} (plain : context.IsPlain limit) :
    Json.IsPlain limit (.obj context.entries) := by
  obtain ⟨parts, extra⟩ := List.forall_mem_append.1 plain
  refine .obj (nodup_keys_entries context) (Keyed.forall_mem_update (fun entry there => ?_) extra)
  exact parts entry (List.mem_filter.1 there).1

/-- A record with the context as its data is plain if its data and the context were. -/
theorem isPlain_withContext {data : Keyed Json} (distinct : data.keys.Nodup)
    (plain : ∀ entry ∈ data, entry.2.IsPlain limit) (context : c.context.IsPlain limit)
    (line : Json.Fits limit c.site.line) : (r.withContext c.context data).IsPlain limit c := by
  refine ⟨context, .obj (Keyed.nodup_keys_update distinct _) ?_, line⟩
  cases isPlain_entries context with
  | obj _ entries => exact Keyed.forall_mem_update plain entries

/-- The fields of a line say what is to be said. -/
theorem says_lineFields : Says i c r (lineFields i c r) := by
  constructor
  case known => exact find?_entries c.context
  case nothing_else => exact keys_lineFields_sublist i c r
  all_goals
    simp only [lineFields, Keyed.find?_append, find?_fieldIf, find?_exception]
    simp [Keyed.find?]
  case data => cases r.data.isVoid <;> rfl

/-! ## Lines that are read back -/

theorem isPlain_fieldIf {present : Bool} {name : String} {value : Json}
    (plain : value.IsPlain limit) :
    ∀ field ∈ fieldIf present name value, field.2.IsPlain limit := by
  intro field there
  cases present with
  | false => cases there
  | true =>
    rw [List.mem_singleton.1 there]
    exact plain

theorem isPlain_lineFields {c : Circumstances} {r : Record} (plain : r.IsPlain limit c) :
    Json.IsPlain limit (.obj (lineFields i c r)) := by
  have distinct : (Keyed.keys (lineFields i c r)).Nodup :=
    List.Nodup.sublist (keys_lineFields_sublist i c r) (by decide)
  have exception : ∀ field ∈ (r.exception.map fun e => ("exception", Json.str e)).toList,
      field.2.IsPlain limit := by
    intro field there
    obtain ⟨text, -, rfl⟩ := Option.map_eq_some_iff.1 (Option.mem_toList.1 there)
    exact .str text
  have source : Json.IsPlain limit (.obj [("file", .str c.site.file), ("line", .int c.site.line),
      ("function", .str c.site.function)]) := by
    have names : ["file", "line", "function"].Nodup := by decide
    refine .obj names ?_
    simp only [List.forall_mem_cons]
    exact ⟨.str _, .int plain.line, .str _, nofun⟩
  refine .obj distinct ?_
  unfold lineFields
  simp only [List.forall_mem_append, List.forall_mem_singleton, and_assoc]
  exact ⟨isPlain_fieldIf (.str _), isPlain_fieldIf (.str _), isPlain_fieldIf (.str _), .str _,
    isPlain_fieldIf (isPlain_entries plain.context), isPlain_fieldIf plain.data, exception, source⟩

/-- **A line for programs is one line, and it is read back** as what it says of its record. -/
theorem parse_jsonLine {c : Circumstances} {r : Record} (plain : r.IsPlain limit c) :
    (∀ ch ∈ (jsonLine i c r).toList, 0x20 ≤ ch.toNat ∧ ch.toNat < 0x7F) ∧
      ∃ fields, Json.parse (jsonLine i c r) limit = .ok (.obj fields) ∧ Says i c r fields := by
  have whole := isPlain_lineFields i plain
  constructor
  · intro ch there
    have printable := List.all_eq_true.1 (Json.all_isPrintable_print whole) ch there
    simpa [Json.isPrintable] using printable
  · exact ⟨lineFields i c r, Json.parse_print whole, says_lineFields i c r⟩

/-- A block that states an extra entry under the name of a part. -/
def forgingCircumstances : Circumstances where
  now := { year := 2026, month := 1, day := 2, hour := 3, minute := 4, second := 5 }
  site := ⟨"app.py", 7, "run"⟩
  context :=
    { table := .str "users\u2028"
      extra := [("table", .str "\\"), ("rows", .arr [.int (-12), .obj [("", .bool true)]])] }

/-- A message that holds what looks like the end of its line and another line, with the context and
one more entry as its data. -/
def forgingRecord : Record :=
  { level := Level.info, logger := "codegen.generator"
    message := "done\"\x7d\n\x7b\"level\": \"ERROR\", \"message\": \"𝔻" : Record }.withContext
      forgingCircumstances.context [("message", .null)]

/-- A message does not become a line of its own. -/
theorem parse_jsonLine_forging :
    forgingRecord.IsPlain Json.digitLimit forgingCircumstances ∧
      (∀ ch ∈ (jsonLine {} forgingCircumstances forgingRecord).toList,
        0x20 ≤ ch.toNat ∧ ch.toNat < 0x7F) ∧
      ∃ fields, Json.parse (jsonLine {} forgingCircumstances forgingRecord) = .ok (.obj fields) ∧
        Says {} forgingCircumstances forgingRecord fields := by
  have line : Json.Fits Json.digitLimit 7 := by
    rintro most ⟨⟩
    decide
  have count : Json.Fits Json.digitLimit (-12) := by
    rintro most ⟨⟩
    decide
  have row : Json.IsPlain Json.digitLimit (.obj [("", .bool true)]) :=
    .obj (by decide) (List.forall_mem_singleton.2 (.bool true))
  have rows : Json.IsPlain Json.digitLimit (.arr [.int (-12), .obj [("", .bool true)]]) :=
    .arr (List.forall_mem_cons.2 ⟨.int count, List.forall_mem_singleton.2 row⟩)
  have context : forgingCircumstances.context.IsPlain Json.digitLimit := by
    unfold Context.IsPlain Context.parts forgingCircumstances
    simp only [List.cons_append, List.nil_append, List.forall_mem_cons]
    exact ⟨.null, .null, .str _, .null, .null, .str _, rows, nofun⟩
  have plain : forgingRecord.IsPlain Json.digitLimit forgingCircumstances :=
    isPlain_withContext _ _ (by decide) (List.forall_mem_singleton.2 .null) context line
  exact ⟨plain, parse_jsonLine {} plain⟩

end CatalogTypes.Log
