import CatalogTypes.Dialect
import CatalogTypes.Proofs.Closure
import CatalogTypes.Proofs.Contained.Texts

/-!
# A module keeps its texts in place

**Theorem (`contained_transform`).** Where the user gives no types, the module of any catalog is
contained: the scan of it ends in code with every bracket closed, whatever the names, comments and
values of the catalog are.

An expression is *tame* if the texts that are written in it as they are, its names and raw texts,
are contained.  The text of a tame expression is contained at any depth, by induction on it
(`TypeExpr.Tame.contained`).  What a column's type is made of is a literal or comes from the
adapter, and what an adapter writes as it is are fixed texts (`Adapter.Tame`), which are checked by
the scan itself.
-/

namespace CatalogTypes

/-! ## Expressions -/

/-- The texts that are written in an expression as they are, are contained. -/
inductive TypeExpr.Tame : TypeExpr → Prop
  | named {name : String} : Contained name → Tame (.named name)
  | table {name : String} : Contained name → Tame (.table name)
  | literal (value : String) : Tame (.literal value)
  | raw {text : String} : Contained text → Tame (.raw text)
  | generic {name : String} {args : List TypeExpr} :
      Contained name → (∀ e ∈ args, Tame e) → Tame (.generic name args)
  | union {members : List TypeExpr} : (∀ e ∈ members, Tame e) → Tame (.union members)
  | array {element : TypeExpr} : Tame element → Tame (.array element)
  | jsonColumn {text : String} : Contained text → Tame (.jsonColumn text)
  | object {properties : List Property} :
      (∀ p ∈ properties, Tame p.value) → Tame (.object properties)

theorem contained_indentation (depth : Nat) : Contained (indentation depth) :=
  .of_isPlain (isPlain_indentation depth)

theorem Contained.renderMember {value : String} (h : Contained value) (depth : Nat) (key : String)
    (comment : Option String) : Contained (renderMember depth key comment value) := by
  have line : Contained (indentation depth ++ CatalogTypes.renderKey key ++ ": " ++ value ++ ";") :=
    ((((contained_indentation depth).append (.renderKey key)).append (by decide)).append h).append
      (by decide)
  unfold CatalogTypes.renderMember
  cases comment with
  | none => exact line
  | some text =>
    dsimp only
    split
    · exact line
    · exact ((Contained.renderComment depth text).append (by decide)).append line

theorem Contained.renderBraces {lines : List String} (h : ∀ line ∈ lines, Contained line)
    (depth : Nat) : Contained (renderBraces depth lines) := by
  unfold CatalogTypes.renderBraces
  split
  next => decide
  next =>
    have inner : Contained (Text.joinWith "\n" lines ++ "\n" ++ indentation depth) :=
      ((Contained.join (by decide) h).append (by decide)).append (contained_indentation depth)
    have braced : Contained ("\x7b\n" ++ (Text.joinWith "\n" lines ++ "\n" ++ indentation depth) ++
      "\x7d") := inner.bracketed '}' rfl rfl
    simpa only [String.append_assoc] using braced

theorem contained_renderAll {es : List TypeExpr} {depth : Nat}
    (h : ∀ e ∈ es, Contained (e.render depth)) : ∀ s ∈ renderAll depth es, Contained s := by
  rw [renderAll_eq_map]
  exact List.forall_mem_map.2 h

/-- **The text of a tame expression is contained.** -/
theorem TypeExpr.Tame.contained {e : TypeExpr} (h : e.Tame) (depth : Nat) :
    Contained (e.render depth) := by
  induction h generalizing depth with
  | named h => exact h
  | table h => exact h
  | literal value => exact .quotePlain value
  | raw h => exact h
  | @generic name args h _ ih =>
    have each := contained_renderAll fun e he => ih e he depth
    cases args with
    | nil => exact h
    | cons first more =>
      exact ((h.append (by decide)).append (.join (by decide) each)).append (by decide)
  | @union members _ ih =>
    have each := contained_renderAll fun e he => ih e he depth
    cases members with
    | nil => exact (by decide : Contained "never")
    | cons first more => exact .join (by decide) each
  | @array element _ ih =>
    show Contained ((if element.isWideUnion then "(" ++ element.render depth ++ ")"
      else element.render depth) ++ "[]")
    refine Contained.append ?_ (by decide)
    split
    · exact (ih depth).bracketed ')' rfl rfl
    · exact ih depth
  | jsonColumn h =>
    exact (Contained.append (by decide) h).append (by decide)
  | @object properties _ ih =>
    show Contained (CatalogTypes.renderBraces depth (renderProperties (depth + 1) properties))
    rw [renderProperties_eq_map]
    refine .renderBraces (fun line hl => ?_) depth
    obtain ⟨p, hp, rfl⟩ := List.mem_map.1 hl
    exact (ih p hp (depth + 1)).renderMember (depth + 1) p.key p.comment

/-! ## Helpers -/

/-- The texts that a helper writes as they are, are contained. -/
structure Helper.Tame (h : Helper) : Prop where
  name : Contained h.declared.name
  params : ∀ p ∈ h.declared.params, Contained p
  body : h.declared.body.Tame

namespace Helper

theorem Tame.contained {h : Helper} (tame : h.Tame) (depth : Nat) :
    Contained (renderExport depth (.typeAlias h.declared)) := by
  have params : Contained (if h.declared.params.isEmpty then ""
      else "<" ++ Text.joinWith ", " h.declared.params ++ ">") := by
    split
    · exact .empty
    · exact (Contained.append (by decide) (.join (by decide) tame.params)).append (by decide)
  have body := tame.body.contained depth
  have head := (Contained.append (by decide : Contained "type ") tame.name).append params
  unfold renderExport Declaration.render Alias.render
  dsimp only
  exact Contained.append (by decide) (((head.append (by decide)).append body).append (by decide))

theorem tame_namedUnion {names : List String} (h : ∀ n ∈ names, Contained n) :
    (namedUnion names).Tame := by
  refine .union fun e he => ?_
  obtain ⟨n, hn, rfl⟩ := List.mem_map.1 he
  exact .named (h n hn)

theorem tame_columnType {read : String} {written : List String} (hr : Contained read)
    (hw : ∀ n ∈ written, Contained n) : (columnType read written).Tame := by
  refine .generic (by decide) fun e he => ?_
  simp only [List.mem_cons, List.not_mem_nil, or_false] at he
  rcases he with rfl | rfl | rfl
  · exact .named hr
  · exact tame_namedUnion hw
  · exact tame_namedUnion hw

theorem tame_simple {name : String} {body : TypeExpr} (hn : Contained name) (hb : body.Tame) :
    (simple name body).Tame :=
  ⟨hn, fun _ hp => absurd hp List.not_mem_nil, hb⟩

theorem tame_generated : generated.Tame where
  name := by decide
  params := by decide
  body := .raw ((Contained.append (by decide) (by decide)).append (by decide))

theorem forall_mem_table {p : Helper → Prop} {helpers : List Helper} (h : ∀ g ∈ helpers, p g) :
    ∀ e ∈ table helpers, p e.2 := by
  intro e he
  obtain ⟨g, hg, rfl⟩ := List.mem_map.1 he
  exact h g hg

theorem tame_common : ∀ e ∈ common, e.2.Tame :=
  forall_mem_table (List.forall_mem_singleton.2 tame_generated)

theorem tame_postgres : ∀ e ∈ postgres, e.2.Tame := by
  have value : TypeExpr.Tame (.named "JsonValue") := .named (by decide)
  have json : TypeExpr.Tame (.generic "ColumnType" [.named "JsonValue", .named "string",
      .named "string"]) := by
    refine .generic (by decide) ?_
    simp only [List.forall_mem_cons]
    exact ⟨value, .named (by decide), .named (by decide), fun _ he => absurd he List.not_mem_nil⟩
  apply forall_mem_table
  simp only [List.forall_mem_cons]
  refine ⟨tame_generated, ?_, ?_, ?_, ?_, ?_, ?_, ?_, ?_, fun _ hg => absurd hg List.not_mem_nil⟩
  · exact tame_simple (by decide) (tame_columnType (by decide) (by decide))
  · exact tame_simple (by decide) (tame_columnType (by decide) (by decide))
  · exact tame_simple (by decide) (tame_columnType (by decide) (by decide))
  · exact tame_simple (by decide) json
  · exact tame_simple (by decide) (.array value)
  · exact ⟨by decide, by decide, .raw (by decide)⟩
  · exact tame_simple (by decide) (tame_namedUnion (by decide))
  · exact tame_simple (by decide) (tame_namedUnion (by decide))

end Helper

/-! ## Columns -/

/-- What an adapter writes as it is, is contained. -/
structure Adapter.Tame (a : Adapter) : Prop where
  scalars : ∀ e ∈ a.scalars, Contained e.2
  defaultScalar : Contained a.defaultScalar
  helpers : ∀ e ∈ a.helpers, e.2.Tame
  imports : ∀ e ∈ a.imports, Contained (e.2.clause e.1).render

theorem Dialect.tame_adapter (d : Dialect) : d.adapter.Tame := by
  cases d with
  | sqlite => exact ⟨by decide, by decide, Helper.tame_common, by decide⟩
  | postgres => exact ⟨by decide, by decide, Helper.tame_postgres, by decide⟩

theorem Adapter.Tame.scalarFor {a : Adapter} (tame : a.Tame) (dataType : String) :
    Contained ((a.scalarFor dataType).getD a.defaultScalar) := by
  have known : ∀ {key scalar}, a.scalars.find? key = some scalar → Contained scalar :=
    fun found => tame.scalars _ (Keyed.mem_of_find? found)
  cases found : a.scalarFor dataType with
  | none => exact tame.defaultScalar
  | some scalar =>
    unfold Adapter.scalarFor at found
    dsimp only at found
    split at found
    · cases found
      exact known ‹_›
    · exact known found

theorem tame_literalUnion (values : List String) : (literalUnion values).Tame := by
  unfold literalUnion
  split
  · exact .literal _
  · refine .union fun e he => ?_
    obtain ⟨value, -, rfl⟩ := List.mem_map.1 he
    exact .literal value

theorem TypeExpr.Tame.orNull {e : TypeExpr} (h : e.Tame) : e.orNull.Tame := by
  have null : TypeExpr.Tame (.named "null") := .named (by decide)
  unfold TypeExpr.orNull
  split
  next members =>
    cases h with
    | union each => exact .union (List.forall_mem_append.2 ⟨each, List.forall_mem_singleton.2 null⟩)
  next => exact .union (List.forall_mem_cons.2 ⟨h, List.forall_mem_singleton.2 null⟩)

theorem TypeExpr.Tame.wrap {e : TypeExpr} (h : e.Tame) (c : Column) : (c.wrap e).Tame :=
  c.wrap_of_closed TypeExpr.Tame (fun _ => .array) (fun _ => TypeExpr.Tame.orNull)
    (fun _ he => .generic (by decide) (List.forall_mem_singleton.2 he)) h

/-- **What a column's type writes as it is, is contained.** -/
theorem tame_columnTypeOf {a : Adapter} (tame : a.Tame) (camel : Bool) (enums : EnumTypes)
    (t : Table) (c : Column) : (columnTypeOf a { camelCase := camel } enums t c).Tame := by
  have plain : Options.overrideFor { camelCase := camel } t c = none := by
    unfold Options.overrideFor
    cases t.schemaName with
    | none => rfl
    | some s => exact ite_self none
  unfold columnTypeOf
  rw [plain]
  refine TypeExpr.Tame.wrap ?_ c
  unfold Column.baseType
  split
  · exact tame_literalUnion _
  · exact .named (tame.scalarFor c.dataType)

/-! ## Statements -/

theorem contained_interface {i : Interface} (name : Contained i.name.text)
    (values : ∀ p ∈ i.properties, p.value.Tame) :
    Contained (renderExport 0 (.interface i)) := by
  have body := (TypeExpr.Tame.object values).contained 0
  have head := Contained.append (by decide : Contained "interface ") name
  unfold renderExport Declaration.render Interface.render
  exact Contained.append (by decide) ((head.append (by decide)).append body)

theorem contained_importStatement {s : ImportStatement}
    (clauses : ∀ c ∈ s.clauses, Contained c.render) (typesOnly : Bool) :
    Contained (s.render typesOnly) := by
  have keyword : Contained (if typesOnly then "import type" else "import") := by
    cases typesOnly <;> decide
  have each : ∀ text ∈ s.clauses.map ImportClause.render, Contained text :=
    List.forall_mem_map.2 clauses
  have braced : Contained (" \x7b " ++ Text.joinWith ", " (s.clauses.map ImportClause.render) ++
      " \x7d from ") :=
    (Contained.join (by decide) each).bracketed '}' rfl rfl
  have whole := ((keyword.append braced).append (.quoteAscii s.moduleName)).append
    (by decide : Contained ";")
  simpa only [ImportStatement.render, String.append_assoc] using whole

/-- Contained parts make a contained module. -/
theorem contained_layout {header : String} {imports declarations : List String}
    (hh : Contained header) (hi : ∀ s ∈ imports, Contained s)
    (hd : ∀ s ∈ declarations, Contained s) : Contained (layout header imports declarations) := by
  have body : Contained (Text.joinWith "\n\n"
      ((if imports.isEmpty then [] else [Text.joinWith "\n" imports]) ++ declarations)) := by
    refine .join (by decide) (List.forall_mem_append.2 ⟨?_, hd⟩)
    split
    · exact fun s hs => absurd hs List.not_mem_nil
    · exact List.forall_mem_singleton.2 (.join (by decide) hi)
  unfold layout
  dsimp only
  generalize Text.joinWith _ _ = text at body ⊢
  split_ifs
  · exact body.append (by decide)
  · exact hh
  · exact ((hh.append (by decide)).append body).append (by decide)

/-! ## Modules -/

/-- The statement is written as a contained text. -/
def Statement.Tame (typesOnly : Bool) : Statement → Prop
  | .importing s => Contained (s.render typesOnly)
  | .exporting d => Contained (renderExport 0 d)

theorem contained_renderModule {typesOnly : Bool} {header : String} {out : List Statement}
    (hh : Contained header) (tame : ∀ s ∈ out, s.Tame typesOnly) :
    Contained (renderModule typesOnly header out) := by
  refine contained_layout hh ?_ ?_
  · intro text ht
    obtain ⟨s, hs, written⟩ := List.mem_filterMap.1 ht
    cases s with
    | importing s =>
      cases written
      exact tame _ hs
    | exporting d => cases written
  · intro text ht
    obtain ⟨s, hs, written⟩ := List.mem_filterMap.1 ht
    cases s with
    | importing s => cases written
    | exporting d =>
      cases written
      exact tame _ hs

theorem tame_transform {a : Adapter} (tame : a.Tame) (camel typesOnly : Bool) (db : Database) :
    ∀ s ∈ transform a { camelCase := camel } db, s.Tame typesOnly := by
  intro s hs
  simp only [transform, List.mem_append, List.mem_map, List.mem_singleton] at hs
  rcases hs with ((⟨s, hs, rfl⟩ | ⟨d, hd, rfl⟩) | ⟨t, -, rfl⟩) | rfl
  · refine contained_importStatement (fun c hc => ?_) typesOnly
    obtain ⟨source, entry, -, same⟩ := Registry.clause_of_mem_statements hs hc
    have found : a.imports.find? c.declared = some source :=
      (inv_usageFor a { camelCase := camel } db).sources _ entry
    rw [same]
    exact tame.imports (c.declared, source) (Keyed.mem_of_find? found)
  · obtain ⟨name, -, declared⟩ := List.mem_filterMap.1 hd
    obtain ⟨h, found, rfl⟩ := Option.map_eq_some_iff.1 declared
    exact (tame.helpers _ (Keyed.mem_of_find? found)).contained 0
  · refine contained_interface (.pascalCase (a.symbolSource t)) fun p hp => ?_
    obtain ⟨c, -, rfl⟩ := List.mem_map.1 hp
    exact tame_columnTypeOf tame camel db.enums t c
  · refine contained_interface (by decide : Contained databaseInterface) fun p hp => ?_
    obtain ⟨t, -, rfl⟩ := List.mem_map.1 hp
    exact .table (.pascalCase (a.symbolSource t))

/-- **A module keeps its texts in place.** -/
theorem contained_transform (d : Dialect) (camel typesOnly : Bool) (db : Database) :
    Contained (renderModule typesOnly banner (transform d.adapter { camelCase := camel } db)) :=
  contained_renderModule (by decide) (tame_transform d.tame_adapter camel typesOnly db)

end CatalogTypes
