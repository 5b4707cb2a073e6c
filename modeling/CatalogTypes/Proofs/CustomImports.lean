import CatalogTypes.Proofs.Closure
import CatalogTypes.Settings.Basic

/-!
# Names that the user brings along

The user says for a column type which name stands for it, and for a name from which module it
comes.

**Theorem (`import_of_mapsTo`).** If the type mapping gives a column a name, alone or under the
column's flags, and the name is one of the custom imports, then the module imports the name from
where that entry says, by one clause and no other.

The type of the column mentions the name whatever the flags put around it, so the module needs it
(`Demand.Needs.shown`).  A text that begins with a brace or a bracket is the text of a type and
mentions nothing, even if a custom import goes by that text.
-/

namespace CatalogTypes

/-! ## The name that the mapping gives -/

/-- The type mapping gives a column a name.  Neither an override nor enumerated values are in its
way, and the text of the entry is the name with blanks around it. -/
structure Options.MapsTo (o : Options) (enums : EnumTypes) (t : Table) (c : Column) (n : String) :
    Prop where
  override : o.overrideFor t c = none
  values : c.enumerated enums = none
  entry : ∃ text, o.typeMapping.find? (Text.lower c.dataType) = some text ∧ Text.trim text = n
  name : n.toList.head? ≠ some '{' ∧ n.toList.head? ≠ some '['

theorem mappedType_trim {dataType text : String}
    (name : (Text.trim text).toList.head? ≠ some '{' ∧ (Text.trim text).toList.head? ≠ some '[') :
    mappedType dataType text = .named (Text.trim text) := by
  unfold mappedType
  cases first : (Text.trim text).toList.head? with
  | none => simp [first]
  | some d =>
    rw [first] at name
    simp only [ne_eq, Option.some.injEq] at name
    simp [first, name.1, name.2]

theorem Options.MapsTo.columnTypeOf {o : Options} {enums : EnumTypes} {t : Table} {c : Column}
    {n : String} (h : o.MapsTo enums t c n) (a : Adapter) :
    columnTypeOf a o enums t c = c.wrap (.named n) := by
  obtain ⟨text, found, rfl⟩ := h.entry
  unfold CatalogTypes.columnTypeOf Column.baseType
  simp only [h.override, h.values, found, mappedType_trim h.name]

/-! ## Flags keep what a type mentions -/

theorem TypeExpr.Mentions.orNull {e : TypeExpr} {n : String} (h : e.Mentions n) :
    e.orNull.Mentions n := by
  cases h with
  | member he hn => exact .member (List.mem_append_left _ he) hn
  | named | generic | jsonColumn => exact .member List.mem_cons_self (by constructor)
  | argument he hn => exact .member List.mem_cons_self (.argument he hn)
  | element hn => exact .member List.mem_cons_self (.element hn)
  | property hp hn => exact .member List.mem_cons_self (.property hp hn)

theorem mentions_wrap (c : Column) {e : TypeExpr} {n : String} (h : e.Mentions n) :
    (c.wrap e).Mentions n :=
  c.wrap_of_closed (·.Mentions n) (fun _ => .element) (fun _ => TypeExpr.Mentions.orNull)
    (fun _ => .argument List.mem_cons_self) h

/-! ## Where a custom import comes from -/

theorem find?_sourcesOf {o : Options} {n text : String} (distinct : o.customImports.keys.Nodup)
    (custom : o.customImports.find? n = some text) (a : Adapter) :
    (sourcesOf a o).find? n = some (Specifier.parse n text) := by
  rw [sourcesOf, Keyed.find?_update (by rwa [keys_parseAll]), find?_parseAll, custom]
  rfl

/-! ## The import -/

/-- A module imports a name from a place by one clause, and by no other. -/
structure ImportsOnce (out : List Statement) (n : String) (source : Specifier) : Prop where
  once : (importedNames (importsOf out)).count n = 1
  clause : ∃ s ∈ importsOf out, s.moduleName = source.moduleName ∧ source.clause n ∈ s.clauses

/-- Whatever a module needs and can import, it imports once. -/
theorem importsOnce_of_needs {a : Adapter} {o : Options} {db : Database} {n : String}
    {source : Specifier} (found : (sourcesOf a o).find? n = some source)
    (needed : (demandOf a o (transform a o db)).Needs n) :
    ImportsOnce (transform a o db) n source := by
  have inv := inv_usageFor a o db
  have importable : (demandOf a o (transform a o db)).importable n := by
    rw [← inv.offers n]
    show (usageFor a o db).registry.available.has n = true
    rw [inv.available]
    exact Keyed.has_iff.2 ⟨source, found⟩
  have asked : n ∈ (usageFor a o db).registry.requested.keys :=
    inv.mem_requested_iff.2 ⟨importable, .inl needed⟩
  obtain ⟨⟨n', source'⟩, entry, rfl⟩ := List.mem_map.1 asked
  have same : some source' = some source := (inv.sources _ entry).symm.trans found
  obtain rfl := Option.some.inj same
  refine ⟨?_, ?_⟩
  · rw [importsOf_transform]
    exact List.count_eq_one_of_mem (Registry.nodup_importedNames inv.requests_nodup)
      (Registry.mem_importedNames.2 asked)
  · rw [importsOf_transform]
    exact Registry.exists_statement_of_mem_requested entry

theorem needs_of_mentions {a : Adapter} {o : Options} {db : Database} {t : Table} {c : Column}
    {n : String} (ht : t ∈ db.tables) (hc : c ∈ t.columns)
    (h : (columnTypeOf a o db.enums t c).Mentions n) :
    (demandOf a o (transform a o db)).Needs n := by
  refine .shown ⟨tableInterface a o db.enums t, ?_, columnProperty a o db.enums t c,
    List.mem_map_of_mem hc, h⟩
  rw [tableInterfacesOf_transform]
  exact List.mem_map_of_mem (List.mem_mergeSort.2 ht)

/-- **A mapped name is imported from where the user says.** -/
theorem import_of_mapsTo (a : Adapter) (s : Settings) (db : Database) {t : Table} {c : Column}
    {n text : String} (ht : t ∈ db.tables) (hc : c ∈ t.columns)
    (mapped : s.options.MapsTo db.enums t c n) (distinct : s.customImports.keys.Nodup)
    (custom : s.customImports.find? n = some text) :
    ImportsOnce (transform a s.options db) n (Specifier.parse n text) := by
  refine importsOnce_of_needs (find?_sourcesOf distinct custom a) (needs_of_mentions ht hc ?_)
  rw [mapped.columnTypeOf a]
  exact mentions_wrap c (.named n)

theorem import_of_mapsTo_money :
    Specifier.parse "Money" "./types#Amount" = ⟨"./types", "Amount"⟩ ∧
      ImportsOnce
        (transform .postgres
          (Settings.options {
            typeMapping := [("MONEY", " Money ")]
            customImports := [("Id", "./ids"), ("Money", "./types#Amount")] })
          ⟨[{ name := "orders", columns := [{ name := "id", dataType := "int8" },
              { name := "total", dataType := "Money", isNullable := true }] }], {}⟩)
        "Money" (Specifier.parse "Money" "./types#Amount") := by
  refine ⟨by decide, import_of_mapsTo .postgres _ _ List.mem_cons_self
    (List.mem_cons_of_mem _ List.mem_cons_self) ⟨?_, ?_, ⟨" Money ", ?_, ?_⟩, ?_⟩ ?_ ?_⟩
  all_goals decide

/-! ## Text is not looked into -/

/-- Where no column's type refers to a name, nothing is imported. -/
theorem importsOf_eq_nil {a : Adapter} {o : Options} {db : Database}
    (silent : ∀ t ∈ db.tables, ∀ c ∈ t.columns, (columnTypeOf a o db.enums t c).references = []) :
    importsOf (transform a o db) = [] := by
  rw [transform_of_idle fun t ht c hc => by simp [silent t ht c hc]]
  simp [importsOf, Statement.import?]

/-- A custom import is not found in the text of an override, nor in a mapped text that begins with
a bracket. -/
theorem text_of_custom_import_not_imported :
    (columnTypeOf .sqlite
        (Settings.options {
          overrides := [("events.period", "InstantRange")]
          customImports := [("InstantRange", "./custom-types")] }) {}
        { name := "events" } { name := "period", dataType := "text" } = .raw "InstantRange" ∧
      importsOf (transform .sqlite
        (Settings.options {
          overrides := [("events.period", "InstantRange")]
          customImports := [("InstantRange", "./custom-types")] })
        ⟨[{ name := "events", columns := [{ name := "period", dataType := "text" }] }], {}⟩) = []) ∧
    (columnTypeOf .sqlite
        (Settings.options {
          typeMapping := [("text", "[Range]")]
          customImports := [("[Range]", "./custom-types")] }) {}
        { name := "events" } { name := "period", dataType := "text" } = .raw "[Range]" ∧
      importsOf (transform .sqlite
        (Settings.options {
          typeMapping := [("text", "[Range]")]
          customImports := [("[Range]", "./custom-types")] })
        ⟨[{ name := "events", columns := [{ name := "period", dataType := "text" }] }], {}⟩) =
          []) := by
  refine ⟨⟨rfl, importsOf_eq_nil ?_⟩, rfl, importsOf_eq_nil ?_⟩
  all_goals
    intro t ht c hc
    obtain rfl := List.mem_singleton.1 ht
    obtain rfl := List.mem_singleton.1 hc
    rfl

end CatalogTypes
