import Blockware.Proofs.Catalog
import Blockware.Proofs.Stored.Params

/-!
# Reading definitions back

A definition that is read, whatever older names, absent members or nulls it was written with, is
written in one form, and this form is read as the same definition.

- `Input.WellFormed`, `Definition.WellFormed`: what reading gives. The default of an input is in
  form, and it is not `null`, which stands for none.
- `Definition.wellFormed_of_read`: what is read has it.
- `Input.read_toJson`, `CodeSpec.read_toJson`, `Definition.read_toJson`: what has it is read back.
- `Json.Record.Names`: a record that is written under the first names of its members.
- `catalogs_are_read_back`: catalogs and their definitions are read back.
-/

namespace Blockware

open Json (Node Fault)

/-! ### What reading gives -/

/-- An input as reading gives it. -/
def Input.WellFormed (i : Input) : Prop := ∀ p, i.default = some p → p.WellFormed ∧ p ≠ .null

/-- A definition as reading gives it. -/
def Definition.WellFormed (d : Definition) : Prop := ∀ i ∈ d.inputs, i.WellFormed

/-- What has been read of an input keeps the form of its default. -/
theorem Input.wellFormed_of_set : ∀ f ∈ Input.record.fields, ∀ n d d',
    (∀ p, d.default = some (some p) → p.WellFormed ∧ p ≠ .null) → f.set d n = .ok d' →
    ∀ p, d'.default = some (some p) → p.WellFormed ∧ p ≠ .null := by
  intro f hf n d d' hd h
  simp only [record, List.mem_cons, List.not_mem_nil, or_false] at hf
  rcases hf with rfl | rfl | rfl | rfl | rfl
  · obtain ⟨name, -, h⟩ := Json.bind_eq_ok.mp h
    cases h
    exact hd
  · obtain ⟨kind, -, h⟩ := Json.bind_eq_ok.mp h
    cases h
    exact hd
  · obtain ⟨label, -, h⟩ := Json.bind_eq_ok.mp h
    cases h
    exact hd
  · obtain ⟨default, hdefault, h⟩ := Json.bind_eq_ok.mp h
    cases h
    rintro p ⟨⟩
    exact ⟨Param.wellFormed_of_read (Node.of_readOption hdefault),
      Param.ne_null_of_readOption hdefault⟩
  · obtain ⟨options, -, h⟩ := Json.bind_eq_ok.mp h
    cases h
    exact hd

theorem Input.wellFormed_of_read {n : Node} {i : Input} (h : read n = .ok i) : i.WellFormed := by
  obtain ⟨draft, hdraft, h⟩ := Json.bind_eq_ok.mp h
  cases h
  have kept : ∀ p, draft.default = some (some p) → p.WellFormed ∧ p ≠ .null :=
    Json.Record.read_invariant (fun f hf m _ => wellFormed_of_set f hf m) (by simp) hdraft
  intro p hp
  rcases Option.getD_eq_iff.mp hp with given | ⟨-, absent⟩
  · exact kept p given
  · cases absent

/-- What has been read of a definition keeps the form of its inputs. -/
theorem Definition.wellFormed_of_set : ∀ f ∈ Definition.record.fields, ∀ n d d',
    (∀ inputs, d.inputs = some inputs → ∀ i ∈ inputs, i.WellFormed) → f.set d n = .ok d' →
    ∀ inputs, d'.inputs = some inputs → ∀ i ∈ inputs, i.WellFormed := by
  intro f hf n d d' hd h
  simp only [record, List.mem_cons, List.not_mem_nil, or_false] at hf
  rcases hf with rfl | rfl | rfl | rfl | rfl | rfl | rfl
  · obtain ⟨id, -, h⟩ := Json.bind_eq_ok.mp h
    cases h
    exact hd
  · obtain ⟨label, -, h⟩ := Json.bind_eq_ok.mp h
    cases h
    exact hd
  · obtain ⟨category, -, h⟩ := Json.bind_eq_ok.mp h
    cases h
    exact hd
  · obtain ⟨color, -, h⟩ := Json.bind_eq_ok.mp h
    cases h
    exact hd
  · obtain ⟨description, -, h⟩ := Json.bind_eq_ok.mp h
    cases h
    exact hd
  · obtain ⟨inputs, hinputs, h⟩ := Json.bind_eq_ok.mp h
    cases h
    rintro _ ⟨⟩
    exact Node.readList_invariant (fun _ _ => Input.wellFormed_of_read) hinputs
  · obtain ⟨code, -, h⟩ := Json.bind_eq_ok.mp h
    cases h
    exact hd

theorem Definition.wellFormed_of_read {n : Node} {d : Definition} (h : read n = .ok d) :
    d.WellFormed := by
  obtain ⟨draft, hdraft, h⟩ := Json.bind_eq_ok.mp h
  cases h
  have kept : ∀ inputs, draft.inputs = some inputs → ∀ i ∈ inputs, i.WellFormed :=
    Json.Record.read_invariant (fun f hf m _ => wellFormed_of_set f hf m) (by simp) hdraft
  show ∀ i ∈ draft.inputs.getD [], i.WellFormed
  cases given : draft.inputs with
  | none => simp
  | some inputs => exact kept inputs given

/-! ### Inputs -/

namespace Input

/-- The tree of a written input. -/
theorem ofJson_toJson (i : Input) :
    Node.ofJson i.toJson = .object none none
      ((i.default.map fun p => ({ name := .ok "default" }, Node.ofJson p.toJson)).toList ++
        [({ name := .ok "kind" }, .scalar none (.str i.kind.tag)),
          ({ name := .ok "label" }, .scalar none (.str i.label)),
          ({ name := .ok "name" }, .scalar none (.str i.name))] ++
        if i.options.isEmpty then []
        else [({ name := .ok "options" }, Node.ofJson (.ofStrings i.options))]) none := by
  obtain ⟨name, kind, label, default, options⟩ := i
  cases default <;> cases options <;> rfl

theorem readVariant_tag (kind : Kind) :
    (Node.scalar none (.str kind.tag)).readVariant Kind.known = .ok kind := by
  cases kind <;> rfl

/-- An input as reading gives it is read back. -/
theorem read_toJson {i : Input} (h : i.WellFormed) : i.toJson.read read = .ok i := by
  have given : ∀ p, i.default = some p →
      (Node.ofJson p.toJson).readOption Param.read = .ok (some p) :=
    fun p hp => Param.readOption_ofJson (h p hp).1 (h p hp).2
  rw [Json.read, ofJson_toJson]
  obtain ⟨name, kind, label, default, options⟩ := i
  cases default <;> cases options <;>
    simp [read, Json.Record.read, Json.Record.readMember, Json.Record.field?, record, Node.raise,
      Node.endOf, Node.readString, Node.readText, readVariant_tag, given, Node.readList_ofStrings,
      bind, Except.bind, pure, Except.pure]

end Input

/-! ### Code -/

namespace CodeSpec

/-- The tree of written code. -/
theorem ofJson_toJson (g : CodeSpec) :
    Node.ofJson g.toJson = .object none none
      ((g.codeTemplate.map fun t =>
          ({ name := .ok "codeTemplate" }, .scalar none (.str t))).toList ++
        [({ name := .ok "headers" }, Node.ofJson (.ofStrings g.headers)),
          ({ name := .ok "libraries" }, Node.ofJson (.ofStrings g.libraries))] ++
        (g.setupTemplate.map fun t =>
          ({ name := .ok "setupTemplate" }, .scalar none (.str t))).toList) none := by
  obtain ⟨headers, setupTemplate, codeTemplate, libraries⟩ := g
  cases setupTemplate <;> cases codeTemplate <;> rfl

/-- Code is read back. -/
theorem read_ofJson (g : CodeSpec) : read (Node.ofJson g.toJson) = .ok g := by
  rw [ofJson_toJson]
  obtain ⟨headers, setupTemplate, codeTemplate, libraries⟩ := g
  cases setupTemplate <;> cases codeTemplate <;>
    simp [read, Json.Record.read, Json.Record.readMember, Json.Record.field?, record, Node.raise,
      Node.endOf, Node.readOption, Node.readString, Node.readText, Node.readList_ofStrings, bind,
      Except.bind, pure, Except.pure]

end CodeSpec

/-! ### Definitions -/

namespace Definition

/-- The tree of a written definition. -/
theorem ofJson_toJson (d : Definition) :
    Node.ofJson d.toJson = .object none none
      ([({ name := .ok "category" }, .scalar none (.str d.category.tag)),
          ({ name := .ok "color" }, .scalar none (.str d.color))] ++
        (d.description.map fun s =>
          ({ name := .ok "description" }, .scalar none (.str s))).toList ++
        [({ name := .ok "generator" }, Node.ofJson d.code.toJson),
          ({ name := .ok "id" }, .scalar none (.str d.id)),
          ({ name := .ok "inputs" }, Node.ofJson (.arr (d.inputs.map Input.toJson))),
          ({ name := .ok "label" }, .scalar none (.str d.label))]) none := by
  obtain ⟨id, label, category, color, description, inputs, code⟩ := d
  cases description <;> rfl

/-- A definition as reading gives it is read back. -/
theorem read_toJson {d : Definition} (h : d.WellFormed) : d.toJson.read read = .ok d := by
  have asked : (Node.ofJson (.arr (d.inputs.map Input.toJson))).readList Input.read =
      .ok d.inputs :=
    Node.readList_ofJson fun i hi => Input.read_toJson (h i hi)
  have placed : (Node.scalar none (.str d.category.tag)).readVariant Category.known =
      .ok d.category := by
    cases d.category <;> rfl
  rw [Json.read, ofJson_toJson]
  obtain ⟨id, label, category, color, description, inputs, code⟩ := d
  cases description <;>
    simp [read, Json.Record.read, Json.Record.readMember, Json.Record.field?, record, Node.raise,
      Node.endOf, Node.readOption, Node.readString, Node.readText, placed, CodeSpec.read_ofJson,
      asked, bind, Except.bind, pure, Except.pure]

end Definition

/-! ### Catalogs -/

namespace Catalog

/-- Every block of a catalog that is read was read as a definition. -/
theorem wellFormed_of_read {n : Node} {c : Catalog} (h : read n = .ok c) :
    ∀ d ∈ c.blocks, d.WellFormed := by
  obtain ⟨draft, -, h⟩ := Json.bind_eq_ok.mp h
  cases h
  intro d hd
  rw [blocks_ofEntries] at hd
  obtain ⟨entry, -, hentry⟩ := List.mem_filterMap.mp hd
  exact Definition.wellFormed_of_read (definitionOf?_eq_some_iff.mp hentry)

/-- A catalog of definitions in form is read back, and then nothing is left out. -/
theorem read_toJson {c : Catalog} (h : ∀ d ∈ c.blocks, d.WellFormed) :
    c.toJson.read read = .ok { c with skipped := [] } := by
  obtain ⟨version, blocks, skipped⟩ := c
  have written : ∀ d ∈ blocks, definitionOf? d.toJson = some d :=
    fun d hd => definitionOf?_eq_some_iff.mpr (Definition.read_toJson (h d hd))
  have same : (ofEntries version (blocks.map Definition.toJson)).blocks = blocks := by
    have all : blocks.filterMap (fun d => definitionOf? d.toJson) = blocks.map id :=
      List.filterMap_eq_map_iff_forall_eq_some.mpr written
    rw [blocks_ofEntries, List.filterMap_map]
    exact all.trans (List.map_id blocks)
  have complete : (ofEntries version (blocks.map Definition.toJson)).skipped = [] := by
    rw [skipped_ofEntries_eq_nil_iff, List.forall_mem_map]
    intro d hd
    rw [written d hd]
    rfl
  calc (toJson ⟨version, blocks, skipped⟩).read read
    _ = .ok (ofEntries version (blocks.map Definition.toJson)) := read_obj version _
    _ = .ok ⟨version, (ofEntries version (blocks.map Definition.toJson)).blocks,
          (ofEntries version (blocks.map Definition.toJson)).skipped⟩ := rfl
    _ = .ok ⟨version, blocks, []⟩ := by rw [same, complete]

end Catalog

/-! ### The written form -/

/-- A record is written under the first names of its members, in their order; some may be absent. -/
def Json.Record.Names {δ : Type} (r : Json.Record δ) (j : Json) : Prop :=
  ∃ members, j = .obj members ∧ (members.map Prod.fst).Sublist (r.fields.map Json.Field.name)

theorem Json.names_optionalMember (name : String) (value : Option Json) :
    ((optionalMember name value).map Prod.fst).Sublist [name] := by
  cases value with
  | none => exact List.nil_sublist _
  | some j => exact List.Sublist.refl _

theorem Input.names_toJson (i : Input) : Input.record.Names i.toJson := by
  refine ⟨_, rfl, ?_⟩
  rw [List.map_append, List.map_append]
  show List.Sublist _ ((["name", "kind", "label"] ++ ["default"]) ++ ["options"])
  refine ((List.Sublist.refl _).append (Json.names_optionalMember _ _)).append ?_
  cases i.options with
  | nil => exact List.nil_sublist _
  | cons first rest => exact List.Sublist.refl _

theorem CodeSpec.names_toJson (g : CodeSpec) : CodeSpec.record.Names g.toJson := by
  refine ⟨_, rfl, ?_⟩
  rw [List.map_append, List.map_append, List.map_append]
  show List.Sublist _ (((["headers"] ++ ["setupTemplate"]) ++ ["codeTemplate"]) ++ ["libraries"])
  exact (((List.Sublist.refl _).append (Json.names_optionalMember _ _)).append
    (Json.names_optionalMember _ _)).append (List.Sublist.refl _)

theorem Definition.names_toJson (d : Definition) : Definition.record.Names d.toJson := by
  refine ⟨_, rfl, ?_⟩
  rw [List.map_append, List.map_append]
  show List.Sublist _
    ((["id", "label", "category", "color"] ++ ["description"]) ++ ["inputs", "generator"])
  exact ((List.Sublist.refl _).append (Json.names_optionalMember _ _)).append (List.Sublist.refl _)

theorem Catalog.names_toJson (c : Catalog) : Catalog.record.Names c.toJson := by
  refine ⟨_, rfl, ?_⟩
  rw [List.map_append]
  show List.Sublist _ (["version"] ++ ["blocks"])
  exact (Json.names_optionalMember _ _).append (List.Sublist.refl _)

theorem Catalog.member?_toJson (c : Catalog) :
    c.toJson.member? "blocks" = some (.arr (c.blocks.map Definition.toJson)) := by
  obtain ⟨version, blocks, skipped⟩ := c
  cases version <;> rfl

/-- A definition is written under first names, and so are the records in it. -/
structure Definition.FirstNames (d : Definition) : Prop where
  own : record.Names d.toJson
  inputs : d.toJson.member? "inputs" = some (.arr (d.inputs.map Input.toJson)) ∧
    ∀ i ∈ d.inputs, Input.record.Names i.toJson
  code : d.toJson.member? "generator" = some d.code.toJson ∧ CodeSpec.record.Names d.code.toJson

theorem Definition.firstNames (d : Definition) : d.FirstNames := by
  refine ⟨d.names_toJson, ⟨?_, fun i _ => i.names_toJson⟩, ?_, d.code.names_toJson⟩
  · obtain ⟨id, label, category, color, description, inputs, code⟩ := d
    cases description <;> rfl
  · obtain ⟨id, label, category, color, description, inputs, code⟩ := d
    cases description <;> rfl

/-- **Catalogs are read back**: a catalog that is read from anything is written as a value that is
read as a catalog with the same version and the same blocks, and nothing is left out any more. Each
definition, in a catalog or on its own, is written under the first names of its members and read
back as itself, whatever names it had before, which members were absent or `null`, and however deep
the defaults of its inputs are nested. -/
theorem catalogs_are_read_back (n : Node) :
    (∀ c, Catalog.read n = .ok c →
      c.toJson.read Catalog.read = .ok { c with skipped := [] } ∧
      (Catalog.record.Names c.toJson ∧
        c.toJson.member? "blocks" = some (.arr (c.blocks.map Definition.toJson))) ∧
      ∀ d ∈ c.blocks, d.toJson.read Definition.read = .ok d ∧ d.FirstNames) ∧
    ∀ d, Definition.read n = .ok d → d.toJson.read Definition.read = .ok d ∧ d.FirstNames := by
  refine ⟨fun c h => ?_, fun d h => ?_⟩
  · have blocks : ∀ d ∈ c.blocks, d.WellFormed := Catalog.wellFormed_of_read h
    exact ⟨Catalog.read_toJson blocks, ⟨c.names_toJson, c.member?_toJson⟩,
      fun d hd => ⟨Definition.read_toJson (blocks d hd), d.firstNames⟩⟩
  · exact ⟨Definition.read_toJson (Definition.wellFormed_of_read h), d.firstNames⟩

/-- A catalog with older names, nulls, a category that is written like a variant with data, a nested
default and an entry that is no definition. -/
theorem older_catalog_is_read_back :
    let speed : Json := .obj [("name", .str "speed"), ("type", .str "number"),
      ("label", .str "Speed"), ("default", .arr [.null, .obj [("low", .int 1), ("high", .int 9)]])]
    let mode : Json := .obj [("name", .str "mode"), ("kind", .str "text"), ("label", .str "Mode"),
      ("default", .null), ("options", .arr [])]
    let entry : Json := .obj [("id", .str "fan"), ("category", .obj [("setup", .null)]),
      ("description", .null), ("inputs", .arr [speed, mode]),
      ("generator", .obj [("setup", .str "fan_init();"), ("code", .null)])]
    let stored : Json := .obj [("blocks", .arr [entry, .bool true])]
    let fan : Definition :=
      { id := "fan", label := "", category := .setup, color := "", description := none
        inputs := [⟨"speed", .number, "Speed",
            some (.array [.null, .object [("high", .integer 9), ("low", .integer 1)]]), []⟩,
          ⟨"mode", .text, "Mode", none, []⟩]
        code := { setupTemplate := some "fan_init();" } }
    let c : Catalog := { blocks := [fan]
                         skipped := [⟨.position 1, ⟨.invalidType (.bool true)
                           "struct CustomBlockDefinition", none⟩⟩] }
    stored.read Catalog.read = .ok c ∧
    fan.code.toJson = .obj [("headers", .arr []), ("setupTemplate", .str "fan_init();"),
      ("libraries", .arr [])] ∧
    c.toJson.read Catalog.read = .ok { c with skipped := [] } ∧
    fan.toJson.read Definition.read = .ok fan := by
  intro speed mode entry stored fan c
  have read : stored.read Catalog.read = .ok c := rfl
  obtain ⟨whole, -, single⟩ := (catalogs_are_read_back (Node.ofJson stored)).1 c read
  exact ⟨read, rfl, whole, (single fan (List.mem_singleton_self fan)).1⟩

end Blockware
