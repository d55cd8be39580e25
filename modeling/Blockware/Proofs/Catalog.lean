import Blockware.Proofs.Json.Reading
import Blockware.Proofs.Registry.History
import Blockware.Proofs.Registry.Lookup

/-!
# Entries that are no definitions

A catalog is read entry by entry. An entry that is no definition is left out with a reason that
names it, and nothing else comes of it: the other entries mean what they mean without it, also where
it has the id of an earlier one.

- `Catalog.definitionOf?`, `Catalog.faultAt?`: what comes of one entry.
- `Catalog.sift_eq`: what comes of a list of entries is what comes of each of them.
- `Catalog.read_obj`: a stored catalog is read as the catalog of its entries.
- `unreadable_entries_are_isolated`: which entries of a stored catalog count, what is said of the
  others, and that these change nothing.
-/

namespace Blockware

open Json (Node Fault)

/-! ### Single entries -/

theorem Skipped.reason_id (id : String) (fault : Fault) :
    (Skipped.mk (.id id) fault).reason = s!"definition '{id}' skipped: {fault.message}" := by
  apply String.toList_injective
  simp [Skipped.reason, EntryName.display, toString]

theorem Skipped.reason_position (position : Nat) (fault : Fault) :
    (Skipped.mk (.position position) fault).reason =
      s!"definition #{position} skipped: {fault.message}" := by
  apply String.toList_injective
  simp [Skipped.reason, EntryName.display, toString]

namespace Catalog

/-- The definition that an entry is read as, if it is one. -/
def definitionOf? (entry : Json) : Option Definition := (entry.read Definition.read).toOption

/-- What is said of an entry that is no definition: it is named by its id, or by its position if it
has no id that is a string. -/
def faultAt? (position : Nat) (entry : Json) : Option String :=
  match entry.read Definition.read, entry.member? "id" with
  | .ok _, _ => none
  | .error fault, some (.str id) => some s!"definition '{id}' skipped: {fault.message}"
  | .error fault, _ => some s!"definition #{position} skipped: {fault.message}"

/-- The entry that is left out, if it is. -/
def skippedAt? (position : Nat) (entry : Json) : Option Skipped :=
  match entry.read Definition.read with
  | .ok _ => none
  | .error fault => some ⟨nameOf position entry, fault⟩

theorem definitionOf?_eq_some_iff {entry : Json} {d : Definition} :
    definitionOf? entry = some d ↔ entry.read Definition.read = .ok d := by
  rw [definitionOf?]
  cases entry.read Definition.read <;> simp [Except.toOption]

theorem map_reason_skippedAt? (position : Nat) (entry : Json) :
    (skippedAt? position entry).map Skipped.reason = faultAt? position entry := by
  rw [skippedAt?, faultAt?.eq_def]
  cases entry.read Definition.read with
  | ok d => rfl
  | error fault =>
    rw [Option.map_some, nameOf.eq_def]
    cases entry.member? "id" with
    | none => exact congrArg some (Skipped.reason_position position fault)
    | some j =>
      cases j with
      | str id => exact congrArg some (Skipped.reason_id id fault)
      | _ => exact congrArg some (Skipped.reason_position position fault)

theorem skippedAt?_eq_none_iff (position : Nat) (entry : Json) :
    skippedAt? position entry = none ↔ (definitionOf? entry).isSome := by
  rw [skippedAt?, definitionOf?]
  cases entry.read Definition.read with
  | ok d => exact iff_of_true rfl rfl
  | error fault => exact iff_of_false (Option.some_ne_none _) Bool.false_ne_true

/-- An entry has its name whatever the order of its members. -/
theorem nameOf_sorted (position : Nat) (entry : Json) :
    nameOf position entry.sorted = nameOf position entry := by
  rw [nameOf, nameOf, Json.member?_sorted]
  cases entry.member? "id" with
  | none => rfl
  | some j => cases j <;> rfl

/-! ### Lists of entries -/

theorem sift_eq (position : Nat) (entries : List Json) :
    sift position entries = (entries.filterMap definitionOf?,
      (entries.zipIdx position).filterMap fun e => skippedAt? e.2 e.1) := by
  induction entries generalizing position with
  | nil => rfl
  | cons entry rest ih =>
    rw [sift, ih, List.zipIdx_cons, List.filterMap_cons, List.filterMap_cons, definitionOf?,
      skippedAt?]
    cases entry.read Definition.read <;> rfl

theorem sift_map_sorted (position : Nat) (entries : List Json) :
    sift position (entries.map Json.sorted) = sift position entries := by
  induction entries generalizing position with
  | nil => rfl
  | cons entry rest ih =>
    rw [List.map_cons, sift, sift, ih, Json.read_sorted, nameOf_sorted]

theorem blocks_ofEntries (version : Option String) (entries : List Json) :
    (ofEntries version entries).blocks = entries.filterMap definitionOf? := by
  rw [ofEntries, sift_eq]

theorem skipped_ofEntries (version : Option String) (entries : List Json) :
    (ofEntries version entries).skipped =
      entries.zipIdx.filterMap fun e => skippedAt? e.2 e.1 := by
  rw [ofEntries, sift_eq]

/-- A stored catalog is the catalog of its entries. -/
theorem read_obj (version : Option String) (entries : List Json) :
    (Json.obj (Json.optionalMember "version" (version.map .str) ++ [("blocks", .arr entries)])).read
      Catalog.read = .ok (ofEntries version entries) := by
  have items : (Node.ofJson (.arr entries)).readList Node.toJson =
      .ok (entries.map Json.sorted) := by
    rw [Node.ofJson, Json.sorted_arr]
    nth_rewrite 1 [← List.map_id (entries.map Json.sorted)]
    refine Node.readList_ofSorted fun j hj => ?_
    obtain ⟨entry, -, rfl⟩ := List.mem_map.mp hj
    exact Node.toJson_ofSorted_of_canonical (Json.canonical_sorted entry)
  have same : ofEntries version (entries.map Json.sorted) = ofEntries version entries := by
    rw [ofEntries, ofEntries, sift_map_sorted]
  rw [← same]
  cases version with
  | none =>
    show Catalog.read (.object none none
      [({ name := .ok "blocks" }, .ofJson (.arr entries))] none) = _
    simp [Catalog.read, Json.Record.read, Json.Record.readMember, Json.Record.field?, record,
      Node.raise, Node.endOf, items, bind, Except.bind, pure, Except.pure]
  | some version =>
    show Catalog.read (.object none none
      [({ name := .ok "blocks" }, .ofJson (.arr entries)),
        ({ name := .ok "version" }, .scalar none (.str version))] none) = _
    simp [Catalog.read, Json.Record.read, Json.Record.readMember, Json.Record.field?, record,
      Node.raise, Node.endOf, items, Node.readOption, Node.readString, Node.readText, bind,
      Except.bind, pure, Except.pure]

/-! ### Entries left out -/

variable {entries : List Json}

theorem map_reason_skipped_ofEntries (version : Option String) (entries : List Json) :
    (ofEntries version entries).skipped.map Skipped.reason =
      entries.zipIdx.filterMap fun e => faultAt? e.2 e.1 := by
  rw [skipped_ofEntries, List.map_filterMap]
  exact congrArg (List.filterMap · _) (funext fun e => map_reason_skippedAt? e.2 e.1)

/-- Every entry counts or is left out. -/
theorem length_sift (position : Nat) (entries : List Json) :
    (sift position entries).1.length + (sift position entries).2.length = entries.length := by
  induction entries generalizing position with
  | nil => rfl
  | cons entry rest ih =>
    have later := ih (position + 1)
    rw [sift]
    cases entry.read Definition.read with
    | ok d =>
      show (sift (position + 1) rest).1.length + 1 + (sift (position + 1) rest).2.length =
        rest.length + 1
      omega
    | error fault =>
      show (sift (position + 1) rest).1.length + ((sift (position + 1) rest).2.length + 1) =
        rest.length + 1
      omega

/-- Some entry is left out exactly if some entry is no definition. -/
theorem skipped_ofEntries_eq_nil_iff (version : Option String) :
    (ofEntries version entries).skipped = [] ↔ ∀ e ∈ entries, (definitionOf? e).isSome := by
  rw [skipped_ofEntries, List.filterMap_eq_nil_iff]
  constructor
  · intro all e he
    obtain ⟨i, hi⟩ := List.mem_iff_getElem?.mp he
    exact (skippedAt?_eq_none_iff i e).mp (all (e, i) (List.mem_zipIdx_iff_getElem?.mpr hi))
  · intro all e he
    exact (skippedAt?_eq_none_iff e.2 e.1).mpr (all e.1 (List.fst_mem_of_mem_zipIdx he))

/-- The definitions are those of the entries that count. -/
theorem filterMap_filter_definitionOf? (entries : List Json) :
    (entries.filter fun e => (definitionOf? e).isSome).filterMap definitionOf? =
      entries.filterMap definitionOf? := by
  rw [List.filterMap_filter]
  refine congrArg (List.filterMap · entries) (funext fun e => ?_)
  cases definitionOf? e <;> rfl

/-- An entry is the last definition of its id if no later entry is a definition of this id. -/
theorem isLast_filterMap {before after : List Json} {entry : Json} {d : Definition}
    (read : definitionOf? entry = some d)
    (last : ∀ e ∈ after, ∀ later, definitionOf? e = some later → later.id ≠ d.id) :
    d.IsLast ((before ++ entry :: after).filterMap definitionOf?) := by
  refine ⟨before.filterMap definitionOf?, after.filterMap definitionOf?, ?_, fun later there => ?_⟩
  · rw [List.filterMap_append, List.filterMap_cons_some read]
  · obtain ⟨e, he, read⟩ := List.mem_filterMap.mp there
    exact last e he later read

end Catalog

/-- What a snapshot has of a catalog does not depend on what the catalog left out. -/
theorem Snapshot.contract?_congr {s t : Snapshot} (same : s.custom = t.custom) (type : String) :
    s.contract? type = t.contract? type := by
  rw [contract?, contract?, definition?, definition?, same]

/-- **Entries that are no definitions**, for any stored list of entries. The blocks of the catalog
are the entries that are definitions, in their order, and for each other entry there is one reason,
in their order, which names it by its id or else by its place among all entries. Any list of entries
with the same definitions, whatever else is put between them, has the same blocks and a snapshot in
which every type means the same. In particular a definition keeps its id if no later entry is a
definition of it, be there later entries with this id that are none. The snapshot of a registry that
loads the catalog warns exactly if there is an entry that is no definition. -/
theorem unreadable_entries_are_isolated (version : Option String) (entries : List Json) :
    let c := Catalog.ofEntries version entries
    let s := Snapshot.ofCatalog c
    ((Json.obj (Json.optionalMember "version" (version.map .str) ++
        [("blocks", .arr entries)])).read Catalog.read = .ok c ∧ c.version = version) ∧
    (c.blocks = entries.filterMap Catalog.definitionOf? ∧
      c.skipped.map Skipped.reason = entries.zipIdx.filterMap (fun e => Catalog.faultAt? e.2 e.1) ∧
      c.blocks.length + c.skipped.length = entries.length) ∧
    (∀ others : List Json,
      (others.filter fun e => (Catalog.definitionOf? e).isSome) =
          (entries.filter fun e => (Catalog.definitionOf? e).isSome) →
      (Catalog.ofEntries version others).blocks = c.blocks ∧
      ∀ type, (Snapshot.ofCatalog (Catalog.ofEntries version others)).contract? type =
        s.contract? type) ∧
    (∀ before entry after d, entries = before ++ entry :: after →
      Catalog.definitionOf? entry = some d →
      (∀ e ∈ after, ∀ later, Catalog.definitionOf? e = some later → later.id ≠ d.id) →
      s.definition? d.id = some d ∧
      s.contract? d.id = some (((Builtin.ofType? d.id).map .builtin).getD (.custom d))) ∧
    ∀ (r : Registry) (files : Files) (now : Nat) (store : Store),
      r.store.load files = (.ok c, store) →
      (r.reload files now).1 = s ∧
      ((r.reload files now).1.warning.isSome ↔
        ∃ e ∈ entries, Catalog.definitionOf? e = none) := by
  intro c s
  have warned : s.warning.isSome ↔ ∃ e ∈ entries, Catalog.definitionOf? e = none := by
    have complete : c.skipped = [] ↔ ∀ e ∈ entries, (Catalog.definitionOf? e).isSome :=
      Catalog.skipped_ofEntries_eq_nil_iff version
    have reported : s.warning.isSome ↔ ¬ c.skipped = [] := by
      show (if c.skipped.isEmpty then none else some (LoadWarning.skipped c.skipped)).isSome ↔ _
      cases c.skipped <;> simp
    rw [reported, complete]
    simp
  refine ⟨⟨Catalog.read_obj version entries, rfl⟩, ⟨Catalog.blocks_ofEntries version entries,
    Catalog.map_reason_skipped_ofEntries version entries, Catalog.length_sift 0 entries⟩,
    ?_, ?_, ?_⟩
  · intro others same
    have blocks : (Catalog.ofEntries version others).blocks = c.blocks := by
      rw [Catalog.blocks_ofEntries, ← Catalog.filterMap_filter_definitionOf?, same,
        Catalog.filterMap_filter_definitionOf?, ← Catalog.blocks_ofEntries version]
    exact ⟨blocks, Snapshot.contract?_congr (congrArg Definition.collect blocks)⟩
  · rintro before entry after d rfl read last
    have found : s.definition? d.id = some d := by
      show (Snapshot.ofDefinitions c.blocks).definition? d.id = some d
      rw [Snapshot.definition?_ofDefinitions_eq_some_iff, Catalog.blocks_ofEntries]
      exact ⟨rfl, Catalog.isLast_filterMap read last⟩
    refine ⟨found, ?_⟩
    rw [Snapshot.contract?, found]
    cases Builtin.ofType? d.id <;> rfl
  · intro r files now store load
    rw [Registry.reload_of_ok load]
    exact ⟨rfl, warned⟩

/-- A definition between an entry that is no object and one with its own id but no category: it
stands as if it were alone, and both of the others are reported. -/
theorem broken_duplicate_is_isolated :
    let entry : Json := .obj [("id", .str "beep"), ("category", .str "loop")]
    let broken : Json := .obj [("id", .str "beep")]
    let beep : Definition := ⟨"beep", "", .loop, "", none, [], {}⟩
    let c := Catalog.ofEntries none [.bool true, entry, broken]
    let alone := Catalog.ofEntries none [entry]
    let r : Registry := .ofStore (.fixed c)
    (Catalog.definitionOf? entry = some beep ∧ Catalog.definitionOf? broken = none) ∧
    c.skipped.map Skipped.reason =
      ["definition #0 skipped: invalid type: boolean `true`, expected struct CustomBlockDefinition",
        "definition 'beep' skipped: missing field `category`"] ∧
    (alone.blocks = c.blocks ∧ ∀ type,
      (Snapshot.ofCatalog alone).contract? type = (Snapshot.ofCatalog c).contract? type) ∧
    (Snapshot.ofCatalog c).contract? "beep" = some (.custom beep) ∧
    (r.reload {} 0).1.warning.isSome := by
  intro entry broken beep c alone r
  obtain ⟨-, ⟨-, reasons, -⟩, isolated, last, reloaded⟩ :=
    unreadable_entries_are_isolated none [.bool true, entry, broken]
  have beepRead : Catalog.definitionOf? entry = some beep := rfl
  have brokenUnread : Catalog.definitionOf? broken = none := rfl
  refine ⟨⟨beepRead, brokenUnread⟩, reasons, isolated [entry] rfl, ?_, ?_⟩
  · refine (last [.bool true] entry [broken] beep rfl beepRead ?_).2
    intro e he later read
    rw [List.mem_singleton.mp he, brokenUnread] at read
    cases read
  · refine (reloaded r {} 0 (.fixed c) rfl).2.mpr ⟨broken, ?_, brokenUnread⟩
    exact List.mem_cons_of_mem _ (List.mem_cons_of_mem _ (List.mem_singleton_self broken))

end Blockware
