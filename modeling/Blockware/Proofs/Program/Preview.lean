import Blockware.Proofs.FirstOccurrences
import Blockware.Proofs.Program.Linking

/-!
# Previews and what they need

The builder shows the code of a single block, and with it headers and libraries. The code is that of
the block and of its body. The headers and libraries are those of the block alone, and of a
definition only those that it declares itself.

- `Snapshot.headersOf`: the headers that a type brings into a program.
- `Block.preview?_eq_some`: every block of a known type has a preview.
- `Block.TellsHeaders`, `Block.TellsLibraries`: that nothing else is needed.
- `preview_headers_eq_iff`, `preview_libraries_iff`, `preview_tells_needs_iff`: just then a preview
  has the headers and libraries of the program of its block.
-/

namespace Blockware

/-- The headers that a type brings into a program: that of its peripheral, and those of its
definition. -/
def Snapshot.headersOf (s : Snapshot) (type : String) : List String :=
  ((Peripheral.ofType? type).map Peripheral.header).toList ++ s.customHeaders type

theorem walk_singleton (b : Block) : walk [b] = b :: walk b.visibleInner := by
  rw [walk_eq_preorder, walk_eq_preorder, Block.preorder_cons, Block.preorder, List.append_nil]

namespace Block

variable {s : Snapshot} {b : Block}

/-- That a preview has the headers of a program: those of a definition stand there once each, the
one of its peripheral first, and no block in the body brings any. -/
structure TellsHeaders (s : Snapshot) (b : Block) : Prop where
  own : ∀ d, s.contract? b.type = some (.custom d) → d.headerLines.Nodup ∧
    ∀ q, Peripheral.ofType? b.type = some q → d.headerLines.head? = some q.header
  body : ∀ v ∈ walk b.visibleInner, s.headersOf v.type = []

/-- That a preview has the libraries of a program: a definition declares the one of its peripheral,
and no block in the body needs any but that of every program. -/
structure TellsLibraries (s : Snapshot) (b : Block) : Prop where
  own : ∀ d, s.contract? b.type = some (.custom d) →
    ∀ q, Peripheral.ofType? b.type = some q → q.library ∈ d.code.libraries
  body : ∀ v ∈ walk b.visibleInner, ∀ l ∈ Manifest.blockLibraries s v, l = Manifest.baseline

/-- The headers of the preview of a type: what a definition declares, or else the one of the
peripheral. -/
def previewHeaders (type : String) : Contract → List String
  | .builtin _ => ((Peripheral.ofType? type).map Peripheral.header).toList
  | .custom d => d.headerLines

/-- A block of a known type has a preview, with headers and libraries by the type alone. -/
theorem preview?_eq_some {c : Contract} (h : s.contract? b.type = some c) :
    ∃ p, b.preview? s = some p ∧ p.headers = previewHeaders b.type c ∧
      p.libraries = s.librariesOf b.type := by
  rw [preview?, h, Snapshot.librariesOf, h]
  cases c with
  | builtin k =>
    cases k.category with
    | setup => exact ⟨_, rfl, rfl, rfl⟩
    | loop => exact ⟨_, rfl, rfl, rfl⟩
  | custom d => exact ⟨_, rfl, rfl, rfl⟩

/-! ### Kinds of blocks -/

/-- A block of a definition has no body that counts. -/
theorem walk_visibleInner_of_custom {d : Definition} (h : s.contract? b.type = some (.custom d)) :
    walk b.visibleInner = [] := by
  have leaf : ¬ b.takesBody := by
    rw [takesBody, builtin?, (Snapshot.contract?_eq_custom_iff.mp h).1]
    exact Bool.false_ne_true
  rw [visibleInner_of_not_takesBody leaf, walk_eq_preorder, preorder]

/-- A built-in block has no body that counts, or is of no peripheral. -/
theorem bodiless_or_plain {k : Builtin} (h : s.contract? b.type = some (.builtin k)) :
    walk b.visibleInner = [] ∨ Peripheral.ofType? b.type = none ∧ s.librariesOf b.type = [] := by
  have name : k.typeName = b.type := Snapshot.typeName_of_contract? h
  rw [Snapshot.librariesOf, h, ← name]
  by_cases body : b.takesBody
  · right
    rcases takesBody_iff.mp body with same | same
    · cases (Snapshot.contract?_of_builtin s same).symm.trans h
      decide
    · cases (Snapshot.contract?_of_builtin s same).symm.trans h
      decide
  · left
    rw [visibleInner_of_not_takesBody body, walk_eq_preorder, preorder]

/-- A built-in type declares the library of its peripheral. -/
theorem library_mem_librariesOf {k : Builtin} (h : s.contract? b.type = some (.builtin k))
    {q : Peripheral} (own : Peripheral.ofType? b.type = some q) :
    q.library ∈ s.librariesOf b.type := by
  have name : k.typeName = b.type := Snapshot.typeName_of_contract? h
  rw [Snapshot.librariesOf, h]
  refine List.mem_append_left _ ?_
  rw [name, own]
  exact List.mem_singleton_self _

/-! ### Headers -/

/-- The headers of a program without modules are those that the types of its blocks bring. -/
theorem mem_programHeaders_nil {blocks : List Block} {header : String} :
    header ∈ programHeaders s blocks [] ↔ ∃ v ∈ walk blocks, header ∈ s.headersOf v.type := by
  rw [mem_programHeaders]
  simp only [Snapshot.headersOf, List.mem_append, Option.mem_toList, Option.map_eq_some_iff,
    List.not_mem_nil, false_and, exists_false, false_or, and_or_left, exists_or]

theorem previewHeaders_subset {c : Contract} (h : s.contract? b.type = some c) :
    previewHeaders b.type c ⊆ programHeaders s [b] [] := by
  intro header shown
  rw [mem_programHeaders_nil, walk_singleton]
  refine ⟨b, List.mem_cons_self, ?_⟩
  rw [Snapshot.headersOf, Snapshot.customHeaders, h]
  cases c with
  | builtin k => exact List.mem_append_left _ shown
  | custom d => exact List.mem_append_right _ shown

/-- Something put before a list leaves it as it is if it stands there first already. -/
theorem eraseDups_toList_append_eq_iff {o : Option String} {headers : List String} :
    headers = (o.toList ++ headers).eraseDups ↔
      headers.Nodup ∧ ∀ x, o = some x → headers.head? = some x := by
  cases o with
  | none => simpa [eq_comm] using eraseDups_eq_self_iff
  | some x =>
    rw [Option.toList_some, List.singleton_append]
    constructor
    · intro same
      refine ⟨?_, ?_⟩
      · rw [same]
        exact Keyed.nodup_eraseDups _
      · intro y first
        rw [same, ← first]
        exact (firstOccurrences_eraseDups _).head?_eq
    · rintro ⟨distinct, first⟩
      obtain ⟨rest, rfl⟩ := List.head?_eq_some_iff.mp (first x rfl)
      have known : (x :: x :: rest).eraseDups = ([x, x] ++ rest).eraseDups := rfl
      have once : [x, x].eraseDups = [x].eraseDups := by simp [List.eraseDups_cons]
      rw [known, eraseDups_append_congr once, List.singleton_append]
      exact (eraseDups_eq_self_iff.mpr distinct).symm

/-- Without a body that counts, a block brings the headers of its type, each once. -/
theorem programHeaders_of_bodiless (h : walk b.visibleInner = []) :
    programHeaders s [b] [] = (s.headersOf b.type).eraseDups := by
  rw [programHeaders, walk_singleton, h, Snapshot.headersOf, List.flatMap_nil, List.nil_append,
    List.flatMap_singleton, List.filterMap_cons, List.filterMap_nil]
  cases Peripheral.ofType? b.type <;> rfl

/-- A definition that declares the header of its peripheral first, and none twice, declares all. -/
theorem headerLines_eq_iff {d : Definition} (h : s.contract? b.type = some (.custom d)) :
    d.headerLines = programHeaders s [b] [] ↔ b.TellsHeaders s := by
  have bodiless := walk_visibleInner_of_custom h
  have headers : s.headersOf b.type =
      ((Peripheral.ofType? b.type).map Peripheral.header).toList ++ d.headerLines := by
    rw [Snapshot.headersOf, Snapshot.customHeaders, h]
  rw [programHeaders_of_bodiless bodiless, headers, eraseDups_toList_append_eq_iff]
  constructor
  · rintro ⟨distinct, first⟩
    refine ⟨?_, by simp [bodiless]⟩
    intro d' same
    cases h.symm.trans same
    refine ⟨distinct, fun q own => first q.header ?_⟩
    rw [own]
    rfl
  · intro tells
    obtain ⟨distinct, first⟩ := tells.own d h
    refine ⟨distinct, fun header own => ?_⟩
    obtain ⟨q, announced, rfl⟩ := Option.map_eq_some_iff.mp own
    exact first q announced

/-- A built-in block has the header of its peripheral, unless it has a body that brings others. -/
theorem peripheralHeader_eq_iff {k : Builtin} (h : s.contract? b.type = some (.builtin k)) :
    ((Peripheral.ofType? b.type).map Peripheral.header).toList = programHeaders s [b] [] ↔
      b.TellsHeaders s := by
  have undefined : ∀ d, s.contract? b.type ≠ some (.custom d) := by simp [h]
  have tells : b.TellsHeaders s ↔ ∀ v ∈ walk b.visibleInner, s.headersOf v.type = [] :=
    ⟨TellsHeaders.body, fun body => ⟨fun d same => absurd same (undefined d), body⟩⟩
  have headers : s.headersOf b.type =
      ((Peripheral.ofType? b.type).map Peripheral.header).toList := by
    rw [Snapshot.headersOf, Snapshot.customHeaders, h, List.append_nil]
  rw [tells]
  rcases bodiless_or_plain h with bodiless | ⟨plain, -⟩
  · refine iff_of_true ?_ (by simp [bodiless])
    rw [programHeaders_of_bodiless bodiless, headers]
    cases Peripheral.ofType? b.type <;> rfl
  · -- A container has no headers, and those of the program are those of its body.
    rw [plain] at headers ⊢
    simp only [Option.map_none, Option.toList_none] at headers ⊢
    rw [eq_comm, List.eq_nil_iff_forall_not_mem]
    simp only [mem_programHeaders_nil, walk_singleton, List.exists_mem_cons_iff, headers,
      List.not_mem_nil, false_or, List.eq_nil_iff_forall_not_mem]
    constructor
    · intro none v hv header there
      exact none header ⟨v, hv, there⟩
    · rintro none header ⟨v, hv, there⟩
      exact none v hv header there

/-- The headers of a preview are those of the program exactly if nothing else is needed. -/
theorem preview_headers_eq_iff {c : Contract} (h : s.contract? b.type = some c) :
    previewHeaders b.type c = programHeaders s [b] [] ↔ b.TellsHeaders s := by
  cases c with
  | builtin k => exact peripheralHeader_eq_iff h
  | custom d => exact headerLines_eq_iff h

/-! ### Libraries -/

/-- But for the one of every program, the libraries of a program of one block are those of the block
and of what stands in its body. -/
theorem mem_libraries_singleton {projectName library : String}
    (special : library ≠ Manifest.baseline) :
    library ∈ (Manifest.build s projectName [b] []).libraries ↔
      library ∈ Manifest.blockLibraries s b ∨
      ∃ v ∈ walk b.visibleInner, library ∈ Manifest.blockLibraries s v := by
  rw [Manifest.build, walk_singleton, List.mem_eraseDups, List.map_nil, List.mem_append,
    List.mem_singleton, List.flatMap_cons, List.mem_append, List.mem_flatMap]
  simp [special]

theorem librariesOf_subset {projectName : String} :
    s.librariesOf b.type ⊆ (Manifest.build s projectName [b] []).libraries := by
  intro library declared
  rw [mem_libraries_build, walk_singleton]
  exact Or.inr (Or.inr (Or.inr ⟨b, List.mem_cons_self, declared⟩))

theorem library_ne_baseline (q : Peripheral) : q.library ≠ Manifest.baseline := by
  cases q <;> decide

/-- The libraries of a preview are those of the program exactly if nothing else is needed. -/
theorem preview_libraries_iff {c : Contract} (h : s.contract? b.type = some c)
    (projectName : String) :
    (∀ l, l ≠ Manifest.baseline →
      (l ∈ s.librariesOf b.type ↔ l ∈ (Manifest.build s projectName [b] []).libraries)) ↔
      b.TellsLibraries s := by
  constructor
  · intro same
    refine ⟨?_, ?_⟩
    · intro d meaning q own
      have needed : q.library ∈ Manifest.blockLibraries s b := by
        rw [Manifest.blockLibraries, own]
        exact List.mem_cons_self
      have declared := (same q.library (library_ne_baseline q)).mpr
        ((mem_libraries_singleton (library_ne_baseline q)).mpr (Or.inl needed))
      rwa [Snapshot.librariesOf, meaning] at declared
    · intro v hv l needed
      by_contra special
      have declared :=
        (same l special).mpr ((mem_libraries_singleton special).mpr (Or.inr ⟨v, hv, needed⟩))
      -- Only a container has a body, and it declares nothing.
      cases c with
      | builtin k =>
        rcases bodiless_or_plain h with bodiless | ⟨-, none⟩
        · rw [bodiless] at hv
          exact List.not_mem_nil hv
        · rw [none] at declared
          exact List.not_mem_nil declared
      | custom d =>
        rw [walk_visibleInner_of_custom h] at hv
        exact List.not_mem_nil hv
  · intro tells l special
    refine ⟨fun declared => librariesOf_subset declared, fun linked => ?_⟩
    rcases (mem_libraries_singleton special).mp linked with own | ⟨v, hv, needed⟩
    · rcases List.mem_append.mp own with announced | declared
      · obtain ⟨q, found, rfl⟩ := Option.map_eq_some_iff.mp (Option.mem_toList.mp announced)
        cases c with
        | builtin k => exact library_mem_librariesOf h found
        | custom d =>
          have declared := tells.own d h q found
          rwa [Snapshot.librariesOf, h]
      · exact declared
    · exact absurd (tells.body v hv l needed) special

end Block

/-- **A preview tells what its block alone needs**: a block of a known type has a preview, and its
headers and libraries are some of those of the program of the block. They are all of them exactly
if a definition declares those of its peripheral too, and no block in the body needs any. -/
theorem preview_tells_needs_iff (s : Snapshot) (heartbeat : Nat) (projectName : String) (b : Block)
    (c : Contract) (h : s.contract? b.type = some c) :
    let program := Program.generate s heartbeat projectName [b] []
    let manifest := Manifest.build s projectName [b] []
    ∃ p, b.preview? s = some p ∧
      p.headers ⊆ program.headers ∧ p.libraries ⊆ manifest.libraries ∧
      (p.headers = program.headers ↔ b.TellsHeaders s) ∧
      ((∀ l, l ≠ Manifest.baseline → (l ∈ p.libraries ↔ l ∈ manifest.libraries)) ↔
        b.TellsLibraries s) := by
  intro program manifest
  obtain ⟨p, found, headers, libraries⟩ := Block.preview?_eq_some h
  refine ⟨p, found, ?_⟩
  rw [headers, libraries]
  exact ⟨Block.previewHeaders_subset h, Block.librariesOf_subset, Block.preview_headers_eq_iff h,
    Block.preview_libraries_iff h projectName⟩

/-- Flash memory behind a definition that declares the header and the library of its bus, and one
header of its own: the preview has what the program has. -/
theorem flash_preview_tells_its_needs :
    let flash : Definition := ⟨"spi_flash", "Flash", .loop, "#e05a00", none, [],
      { headers := ["hardware/spi.h", "flash.h"], libraries := ["hardware_spi", "flash"] }⟩
    let s := Snapshot.ofDefinitions [flash]
    let b : Block := ⟨"store", "spi_flash", [], []⟩
    s.contract? b.type = some (.custom flash) ∧
    ∃ p, b.preview? s = some p ∧
      p.headers = (Program.generate s defaultHeartbeat "demo" [b] []).headers ∧
      ∀ l, l ≠ Manifest.baseline →
        (l ∈ p.libraries ↔ l ∈ (Manifest.build s "demo" [b] []).libraries) := by
  intro flash s b
  have meaning : s.contract? b.type = some (.custom flash) := rfl
  have bodiless : walk b.visibleInner = [] := Block.walk_visibleInner_of_custom meaning
  have tellsHeaders : b.TellsHeaders s := by
    refine ⟨?_, by simp [bodiless]⟩
    intro d same
    cases meaning.symm.trans same
    decide
  have tellsLibraries : b.TellsLibraries s := by
    refine ⟨?_, by simp [bodiless]⟩
    intro d same
    cases meaning.symm.trans same
    decide
  obtain ⟨p, found, -, -, headers, libraries⟩ :=
    preview_tells_needs_iff s defaultHeartbeat "demo" b (.custom flash) meaning
  exact ⟨meaning, p, found, headers.mpr tellsHeaders, libraries.mpr tellsLibraries⟩

/-- A conditional around a statement that writes to a bus: its preview shows the statement, and
neither the header nor the library that the statement needs. -/
theorem conditional_preview_hides_its_bus :
    let write : Block := ⟨"w", "spi_write", [("csn", .integer 5), ("data", .string "hi")], []⟩
    let guard : Block := ⟨"c", "if_condition",
      [("left", .string "x"), ("op", .string "<"), ("right", .integer 3)], [write]⟩
    ∃ p, guard.preview? .bare = some p ∧
      p.code = joinLines? ["if (x < 3) \x7b", "    // SPI Write", "    gpio_put(5, 0);",
        "    spi_write_blocking(spi0, (const uint8_t*)\"hi\", 2);", "    gpio_put(5, 1);", "\x7d"] ∧
      p.headers = [] ∧ p.libraries = [] ∧
      (Program.generate .bare defaultHeartbeat "demo" [guard] []).headers =
        ["#include \"hardware/spi.h\""] ∧
      (Manifest.build .bare "demo" [guard] []).libraries = ["pico_stdlib", "hardware_spi"] := by
  intro write guard
  refine ⟨_, rfl, ?_, by decide +kernel, by decide +kernel, ?_, ?_⟩
  · dsimp only
    refine congrArg joinLines? ?_
    decide +kernel
  · show programHeaders _ _ _ = _
    rw [programHeaders, walk_eq_preorder]
    decide +kernel
  · show (Manifest.build _ _ _ _).libraries = _
    rw [Manifest.build, walk_eq_preorder]
    decide +kernel

end Blockware
