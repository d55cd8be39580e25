import Blockware.Proofs.Registry.Lookup
import Blockware.Proofs.Session

/-!
# The listing of block types

The builder offers the types that a session lists. The listing goes through two tables, one after
the other, and leaves definitions out by a test of its own; what a type means is looked up by its
name.

- `Snapshot.listing`: the listed types, each with the contract it is listed for.
- `Snapshot.mem_listing_iff`: a type is listed with a contract exactly if the lookup finds that one.
- `Snapshot.nodup_fst_listing`: each type is listed once.
- `listing_is_domain_of_resolution`: the objects that a session answers with once it has taken a
  catalog. There is one for each type that means something, and it tells what is looked up under it.
-/

namespace Blockware

namespace Builtin

theorem mem_all (k : Builtin) : k ∈ all := List.mem_of_find?_eq_some (ofType?_typeName k)

/-- No two built-in types have one name. -/
theorem nodup_map_typeName_all : (all.map typeName).Nodup := by
  decide

end Builtin

theorem Category.tag_eq (c : Category) : c.tag = if c = .setup then "setup" else "loop" := by
  cases c <;> rfl

/-- The label of what a type means. -/
def Contract.label : Contract → String
  | .builtin k => k.label
  | .custom d => d.label

namespace Snapshot

/-- The listed types, each with the contract it is listed for. -/
def listing (s : Snapshot) : List (String × Contract) :=
  (Builtin.all.map fun k => (k.typeName, .builtin k)) ++
    (s.custom.filter fun d => (Builtin.ofType? d.id).isNone).map fun d => (d.id, .custom d)

variable {s : Snapshot} {type : String} {c : Contract}

theorem blockTypes_eq (s : Snapshot) : s.blockTypes =
    s.listing.map fun (type, c) => ⟨type, c.label, c.category, c.isUserDefined⟩ := by
  rw [listing, List.map_append, List.map_map, List.map_map]
  rfl

/-! ### What is listed -/

/-- A type is listed with a contract exactly if the lookup finds that one. -/
theorem mem_listing_iff (distinct : (s.custom.map Definition.id).Nodup) :
    (type, c) ∈ s.listing ↔ s.contract? type = some c := by
  rw [listing, List.mem_append, List.mem_map, List.mem_map, contract?_eq_some_iff]
  constructor
  · rintro (⟨k, -, same⟩ | ⟨d, kept, same⟩)
    · obtain ⟨rfl, rfl⟩ := Prod.mk.inj same
      exact Or.inl ⟨k, Builtin.ofType?_typeName k, rfl⟩
    · obtain ⟨rfl, rfl⟩ := Prod.mk.inj same
      obtain ⟨known, shown⟩ := List.mem_filter.mp kept
      refine Or.inr ⟨d, Option.isNone_iff_eq_none.mp shown, ?_, rfl⟩
      exact (Keyed.mem_iff_find?_eq_some distinct).mp known
  · rintro (⟨k, builtin, rfl⟩ | ⟨d, notBuiltin, found, rfl⟩)
    · exact Or.inl ⟨k, k.mem_all, by rw [Builtin.typeName_of_ofType? builtin]⟩
    · rw [definition?, Keyed.find?] at found
      have same := List.find?_some found
      obtain rfl : d.id = type := of_decide_eq_true same
      refine Or.inr ⟨d, List.mem_filter.mpr ⟨List.mem_of_find?_eq_some found, ?_⟩, rfl⟩
      exact Option.isNone_iff_eq_none.mpr notBuiltin

theorem map_fst_listing (s : Snapshot) : s.listing.map Prod.fst =
    Builtin.all.map Builtin.typeName ++
      (s.custom.filter fun d => (Builtin.ofType? d.id).isNone).map Definition.id := by
  rw [listing, List.map_append, List.map_map, List.map_map]
  rfl

/-- Each type is listed once: definitions with the name of a built-in are left out. -/
theorem nodup_fst_listing (distinct : (s.custom.map Definition.id).Nodup) :
    (s.listing.map Prod.fst).Nodup := by
  rw [map_fst_listing, List.nodup_append]
  refine ⟨Builtin.nodup_map_typeName_all, ?_, ?_⟩
  · exact distinct.sublist (List.filter_sublist.map Definition.id)
  · intro name ofBuiltin other ofDefinition same
    obtain ⟨k, -, rfl⟩ := List.mem_map.mp ofBuiltin
    obtain ⟨d, kept, rfl⟩ := List.mem_map.mp ofDefinition
    have shown := (List.mem_filter.mp kept).2
    rw [← same, Builtin.ofType?_typeName] at shown
    cases shown

/-- A type is listed exactly if it means something. -/
theorem mem_map_fst_listing (distinct : (s.custom.map Definition.id).Nodup) :
    type ∈ s.listing.map Prod.fst ↔ (s.contract? type).isSome := by
  rw [List.mem_map, Option.isSome_iff_exists]
  constructor
  · rintro ⟨⟨type, c⟩, listed, rfl⟩
    exact ⟨c, (mem_listing_iff distinct).mp listed⟩
  · rintro ⟨c, meaning⟩
    exact ⟨(type, c), (mem_listing_iff distinct).mpr meaning, rfl⟩

end Snapshot

/-! ### Sessions -/

/-- After a session has taken a catalog, what it resolves types by is made of that catalog, kept or
loaded anew. -/
theorem Session.serves_useCatalog (session : Session) (now : Nat) {text : String}
    {catalog : Catalog} (accepted : Catalog.ofText text "init_registry" = .ok catalog) :
    (session.useCatalog now text).2.generator.Serves catalog := by
  rw [useCatalog, accepted]
  exact ((Generator.Serves.ofFixed catalog).snapshot {} now).2

/-- **The listing is the domain of resolution**: after a session has taken a catalog, it lists each
type once, and lists the types that mean something, which are the built-in ones and those that the
catalog defines. The members of an object in the listing are a type, the label and the category of
what is looked up under that type, and whether it is a definition; if so, it is the last one of the
type in the catalog. -/
theorem listing_is_domain_of_resolution (session : Session) (now later : Nat) (text : String)
    (catalog : Catalog) (accepted : Catalog.ofText text "init_registry" = .ok catalog) :
    let after := (session.useCatalog now text).2
    let s := (after.generator.snapshot {} later).1
    ∃ entries : List (String × Contract),
      (after.blockTypes later).1 = .arr (entries.map fun (type, c) => .obj [
        ("type", .str type), ("name", .str c.label),
        ("category", .str (if c.category = .setup then "setup" else "loop")),
        ("custom", .bool c.isUserDefined)]) ∧
      (entries.map Prod.fst).Nodup ∧
      (∀ type, type ∈ entries.map Prod.fst ↔ (s.contract? type).isSome) ∧
      (∀ type, (s.contract? type).isSome ↔
        (∃ k : Builtin, k.typeName = type) ∨ ∃ d ∈ catalog.blocks, d.id = type) ∧
      (∀ type c, (type, c) ∈ entries ↔ s.contract? type = some c) ∧
      (∀ type c, (type, c) ∈ entries → c.isUserDefined = s.isUserDefined type) ∧
      (∀ type d, (type, .custom d) ∈ entries → ∃ before behind,
        catalog.blocks = before ++ d :: behind ∧ d.id = type ∧
          ∀ other ∈ behind, other.id ≠ type) := by
  intro after s
  have loaded : s = .ofCatalog catalog :=
    ((session.serves_useCatalog now accepted).snapshot {} later).1
  have distinct : (s.custom.map Definition.id).Nodup := by
    rw [loaded]
    exact Snapshot.nodup_id_ofDefinitions catalog.blocks
  have defined (type : String) :
      s.definition? type = (Snapshot.ofDefinitions catalog.blocks).definition? type := by
    rw [loaded]
    rfl
  refine ⟨s.listing, ?_, Snapshot.nodup_fst_listing distinct, ?_, ?_, ?_, ?_, ?_⟩
  · show Json.arr (s.blockTypes.map BlockType.toJson) = _
    rw [s.blockTypes_eq, List.map_map]
    refine congrArg Json.arr (List.map_congr_left fun (type, c) _ => ?_)
    simp only [Function.comp_apply, BlockType.toJson, Category.tag_eq]
  · exact fun type => Snapshot.mem_map_fst_listing distinct
  · intro type
    rw [Snapshot.isSome_contract?_iff, defined, Snapshot.isSome_definition?_ofDefinitions]
  · exact fun type c => Snapshot.mem_listing_iff distinct
  · intro type c listed
    exact Snapshot.isUserDefined_of_contract? ((Snapshot.mem_listing_iff distinct).mp listed)
  · intro type d listed
    have meaning := (Snapshot.mem_listing_iff distinct).mp listed
    have found := (Snapshot.contract?_eq_custom_iff.mp meaning).2
    rw [defined] at found
    obtain ⟨rfl, before, behind, split, last⟩ :=
      Snapshot.definition?_ofDefinitions_eq_some_iff.mp found
    exact ⟨before, behind, split, rfl, last⟩

/-- A definition that comes twice, one behind a built-in type, and an entry that is no definition.
The first is listed once, as it is defined last, and the entry is not. -/
theorem beep_is_listed_once :
    let text := "\x7b\"blocks\":[" ++
      "\x7b\"id\":\"beep\",\"label\":\"Beep\",\"category\":\"loop\"\x7d," ++
      "\x7b\"id\":\"log\",\"label\":\"Mine\",\"category\":\"setup\"\x7d," ++
      "\x7b\"id\":\"broken\"\x7d," ++
      "\x7b\"id\":\"beep\",\"label\":\"Louder\",\"category\":\"setup\"\x7d]\x7d"
    ∃ catalog, Catalog.ofText text "init_registry" = .ok catalog ∧
      ∃ items : List Json,
        ((Session.start.useCatalog 0 text).2.blockTypes 9000).1 = .arr items ∧
        (items.map fun item => item.member? "type").Nodup ∧
        .obj [("type", .str "beep"), ("name", .str "Louder"), ("category", .str "setup"),
          ("custom", .bool true)] ∈ items ∧
        .obj [("type", .str "log"), ("name", .str "Log"), ("category", .str "loop"),
          ("custom", .bool false)] ∈ items ∧
        some (.str "broken") ∉ items.map fun item => item.member? "type" := by
  intro text
  -- The text is read once, for everything that is asked about its catalog.
  have read : (Catalog.ofText text "init_registry").toOption.any fun catalog =>
      ((Snapshot.ofCatalog catalog).definition? "beep").map (fun d => (d.label, d.category)) =
          some ("Louder", Category.setup) &&
        ((Snapshot.ofCatalog catalog).contract? "broken").isNone := by
    decide +kernel
  cases accepted : Catalog.ofText text "init_registry" with
  | error fault =>
    rw [accepted] at read
    cases read
  | ok catalog =>
    rw [accepted] at read
    obtain ⟨known, unknown⟩ := Bool.and_eq_true_iff.mp read
    obtain ⟨beep, found, told⟩ := Option.map_eq_some_iff.mp (of_decide_eq_true known)
    obtain ⟨label, setup⟩ := Prod.mk.inj told
    have loaded := ((Session.start.serves_useCatalog 0 accepted).snapshot {} 9000).1
    obtain ⟨entries, answer, distinct, -, -, meant, -⟩ :=
      listing_is_domain_of_resolution .start 0 9000 text catalog accepted
    rw [loaded] at meant
    refine ⟨catalog, rfl, _, answer, ?_⟩
    rw [List.map_map]
    show (entries.map fun e => some (Json.str e.1)).Nodup ∧ _ ∧ _ ∧
      some (Json.str "broken") ∉ entries.map fun e => some (Json.str e.1)
    refine ⟨?_, ?_, ?_, ?_⟩
    · have injective : Function.Injective fun type => some (Json.str type) := fun _ _ same =>
        Json.str.inj (Option.some.inj same)
      have once := distinct.map injective
      rwa [List.map_map] at once
    · have listed := (meant "beep" (.custom beep)).mpr
        (Snapshot.contract?_eq_custom_iff.mpr ⟨rfl, found⟩)
      refine List.mem_map.mpr ⟨_, listed, ?_⟩
      simp [label, setup, Contract.label, Contract.category, Contract.isUserDefined]
    · have listed := (meant "log" (.builtin .log)).mpr
        (Snapshot.contract?_eq_some_iff.mpr (Or.inl ⟨.log, rfl, rfl⟩))
      exact List.mem_map.mpr ⟨_, listed, rfl⟩
    · intro listed
      obtain ⟨⟨type, c⟩, there, same⟩ := List.mem_map.mp listed
      obtain rfl : type = "broken" := Json.str.inj (Option.some.inj same)
      have meaning := (meant "broken" c).mp there
      rw [Option.isNone_iff_eq_none.mp unknown] at meaning
      cases meaning

end Blockware
