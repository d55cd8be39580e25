import Blockware.Manifest
import Blockware.Proofs.Program.Visits

/-!
# Headers and libraries

What a program includes and what it is linked against are told by separate tables: modules by their
names, known or not, blocks by the first letters of their types and by what their contracts declare.
For the peripherals and the second core the tables say the same.

- `mem_programHeaders`, `mem_libraries_build`: where headers and libraries come from.
- `linkedHeaders`: the headers that have a library of their own.
- `modules_agree`, `peripherals_agree`, `builtins_agree`: the tables tell such a header and its
  library for the same module names and the same types.
- `headers_and_libraries_agree`: so a program includes the header exactly if it is linked against
  the library.
-/

namespace Blockware

/-- A definition that a type means is one of the snapshot. -/
theorem Snapshot.mem_custom_of_contract? {s : Snapshot} {type : String} {d : Definition}
    (h : s.contract? type = some (.custom d)) : d ∈ s.custom := by
  have known := (contract?_eq_custom_iff.mp h).2
  rw [definition?, Keyed.find?] at known
  exact List.mem_of_find?_eq_some known

/-! ### Where headers and libraries come from -/

section Origins

variable {s : Snapshot} {blocks : List Block}

/-- A header is that of a module, of a peripheral, or of a definition. -/
theorem mem_programHeaders {modules : List BoardModule} {header : String} :
    header ∈ programHeaders s blocks modules ↔
      (∃ m ∈ modules, header ∈ m.headers) ∨
      (∃ b ∈ walk blocks, ∃ p, Peripheral.ofType? b.type = some p ∧ p.header = header) ∨
      (∃ b ∈ walk blocks, header ∈ s.customHeaders b.type) := by
  rw [programHeaders, List.mem_eraseDups, List.mem_append, List.mem_append, List.mem_flatMap,
    List.mem_filterMap, List.mem_flatMap, or_assoc]
  simp only [Option.map_eq_some_iff]

/-- A library is that of every program, of a module, of a peripheral, or of a contract. -/
theorem mem_libraries_build {projectName : String} {modules : List String} {library : String} :
    library ∈ (Manifest.build s projectName blocks modules).libraries ↔
      library = Manifest.baseline ∨
      (∃ name ∈ modules, BoardModule.library name = library) ∨
      (∃ b ∈ walk blocks, ∃ p, Peripheral.ofType? b.type = some p ∧ p.library = library) ∨
      (∃ b ∈ walk blocks, library ∈ s.librariesOf b.type) := by
  rw [Manifest.build, List.mem_eraseDups, List.mem_append, List.mem_cons, List.mem_map,
    List.mem_flatMap, or_assoc]
  simp only [Manifest.blockLibraries, List.mem_append, Option.mem_toList, Option.map_eq_some_iff,
    and_or_left, exists_or]

end Origins

/-! ### Modules -/

namespace BoardModule

theorem mem_all (m : BoardModule) : m ∈ all := by
  cases m <;> decide

/-- A module is known by its name in any case. -/
theorem ofName?_eq_some_iff {name : String} {m : BoardModule} :
    ofName? name = some m ↔ Text.lowerCase name = m.name := by
  constructor
  · intro found
    rw [ofName?] at found
    have same := List.find?_some found
    exact (beq_iff_eq.mp same).symm
  · intro same
    rw [ofName?, same]
    cases m <;> rfl

/-- The convention for libraries never gives the exception to it. -/
theorem library_ne (word : String) : "hardware_" ++ word ≠ "pico_multicore" := by
  intro same
  -- They differ in their first letters.
  have letters := congrArg String.toList same
  rw [String.toList_append] at letters
  exact absurd (List.cons.inj letters).1 (by decide)

/-- The library of a known module is that of its name in any case, and of no other name. -/
theorem library_eq_iff {name : String} {m : BoardModule} :
    library name = library m.name ↔ Text.lowerCase name = m.name := by
  have fixed : Text.lowerCase m.name = m.name := by cases m <;> decide
  rw [library, library, fixed]
  by_cases known : Text.lowerCase name = multicore.name
  · rw [if_pos known, known]
    by_cases same : m.name = multicore.name
    · simp [same]
    · rw [if_neg same]
      exact iff_of_false (library_ne m.name).symm (Ne.symm same)
  · rw [if_neg known]
    by_cases same : m.name = multicore.name
    · rw [if_pos same, same]
      exact iff_of_false (library_ne _) known
    · rw [if_neg same, String.append_right_inj]

end BoardModule

/-! ### The tables -/

/-- The headers that have a library of their own, with it. -/
def linkedHeaders : List (String × String) :=
  [("#include \"hardware/spi.h\"", "hardware_spi"),
    ("#include \"hardware/i2c.h\"", "hardware_i2c"),
    ("#include \"hardware/adc.h\"", "hardware_adc"),
    ("#include \"hardware/pwm.h\"", "hardware_pwm"),
    ("#include \"pico/multicore.h\"", "pico_multicore")]

/-- Each of the headers is that of one module alone, and its library that of the module's name. -/
theorem linkedHeaders_owner : ∀ linked ∈ linkedHeaders, ∃ m : BoardModule,
    (∀ other ∈ BoardModule.all, linked.1 ∈ other.headers ↔ other = m) ∧
      BoardModule.library m.name = linked.2 := by
  simp only [linkedHeaders, List.forall_mem_cons]
  exact ⟨⟨.spi, by decide⟩, ⟨.i2c, by decide⟩, ⟨.adc, by decide⟩, ⟨.pwm, by decide⟩,
    ⟨.multicore, by decide⟩, List.forall_mem_nil _⟩

/-- A header is told for the same module names as its library. -/
theorem module_agrees {linked : String × String} (h : linked ∈ linkedHeaders) (name : String) :
    (∃ m, BoardModule.ofName? name = some m ∧ linked.1 ∈ m.headers) ↔
      BoardModule.library name = linked.2 := by
  obtain ⟨m, own, library⟩ := linkedHeaders_owner linked h
  rw [← library, BoardModule.library_eq_iff, ← BoardModule.ofName?_eq_some_iff]
  constructor
  · rintro ⟨other, found, header⟩
    rw [found, (own other other.mem_all).mp header]
  · intro found
    exact ⟨m, found, (own m m.mem_all).mpr rfl⟩

/-- Names that are no module's tell no header, and none of these libraries either. -/
theorem modules_agree {linked : String × String} (h : linked ∈ linkedHeaders)
    {names : List String} :
    (∃ m ∈ knownModules names, linked.1 ∈ m.headers) ↔
      ∃ name ∈ names, BoardModule.library name = linked.2 := by
  simp only [knownModules, List.mem_filterMap, ← module_agrees h]
  constructor
  · rintro ⟨m, ⟨name, hname, found⟩, header⟩
    exact ⟨name, hname, m, found, header⟩
  · rintro ⟨name, hname, m, found, header⟩
    exact ⟨m, ⟨name, hname, found⟩, header⟩

/-- A header and a library are told for the same families of types. -/
theorem peripherals_agree (p : Peripheral) :
    ∀ linked ∈ linkedHeaders, p.header = linked.1 ↔ p.library = linked.2 := by
  cases p <;> decide

/-- A built-in type declares one of the libraries only if its name announces it. -/
theorem builtins_agree (k : Builtin) :
    ∀ linked ∈ linkedHeaders, linked.2 ∈ k.libraries →
      (Peripheral.ofType? k.typeName).map Peripheral.library = some linked.2 := by
  cases k <;> decide

theorem ne_baseline : ∀ linked ∈ linkedHeaders, linked.2 ≠ Manifest.baseline := by
  decide

/-! ### Contracts -/

namespace Snapshot

variable (s : Snapshot) {b : Block}

/-- Only definitions bring headers of their own. -/
theorem not_mem_customHeaders {header : String}
    (undeclared : ∀ d, s.contract? b.type = some (.custom d) → header ∉ d.headerLines) :
    header ∉ s.customHeaders b.type := by
  intro declared
  rw [customHeaders] at declared
  split at declared
  · rename_i d meaning
    exact undeclared d meaning declared
  · exact List.not_mem_nil declared

/-- Where no definition declares it, one of the libraries is announced by the name of the type. -/
theorem announced_of_mem_librariesOf {linked : String × String} (h : linked ∈ linkedHeaders)
    (undeclared : ∀ d, s.contract? b.type = some (.custom d) → linked.2 ∉ d.code.libraries)
    (declared : linked.2 ∈ s.librariesOf b.type) :
    ∃ p, Peripheral.ofType? b.type = some p ∧ p.library = linked.2 := by
  rw [librariesOf] at declared
  cases meaning : s.contract? b.type with
  | none => simp [meaning] at declared
  | some c =>
    rw [meaning] at declared
    cases c with
    | builtin k =>
      have name : k.typeName = b.type := typeName_of_contract? meaning
      rw [← name]
      exact Option.map_eq_some_iff.mp (builtins_agree k linked h declared)
    | custom d => exact absurd declared (undeclared d meaning)

end Snapshot

/-- **Headers and libraries agree**: unless a definition of a visited type declares the one or the
other, a program includes the header of a peripheral, or of the second core, exactly if it is linked
against its library. -/
theorem headers_and_libraries_agree (s : Snapshot) (heartbeat : Nat) (projectName : String)
    (blocks : List Block) (modules : List String) (linked : String × String)
    (h : linked ∈ linkedHeaders)
    (undeclared : ∀ b ∈ walk blocks, ∀ d, s.contract? b.type = some (.custom d) →
      linked.1 ∉ d.headerLines ∧ linked.2 ∉ d.code.libraries) :
    linked.1 ∈ (Program.generate s heartbeat projectName blocks modules).headers ↔
      linked.2 ∈ (Manifest.build s projectName blocks modules).libraries := by
  have noHeader : ¬ ∃ b ∈ walk blocks, linked.1 ∈ s.customHeaders b.type := by
    rintro ⟨b, hb, declared⟩
    exact s.not_mem_customHeaders (fun d meaning => (undeclared b hb d meaning).1) declared
  have announced : (∃ b ∈ walk blocks, linked.2 ∈ s.librariesOf b.type) →
      ∃ b ∈ walk blocks, ∃ p, Peripheral.ofType? b.type = some p ∧ p.library = linked.2 := by
    rintro ⟨b, hb, declared⟩
    refine ⟨b, hb, ?_⟩
    exact s.announced_of_mem_librariesOf h (fun d meaning => (undeclared b hb d meaning).2) declared
  show linked.1 ∈ programHeaders s blocks (knownModules modules) ↔ _
  rw [mem_programHeaders, mem_libraries_build, modules_agree h]
  simp only [peripherals_agree _ linked h, ne_baseline linked h, noHeader, or_false, false_or]
  constructor
  · exact Or.imp_right Or.inl
  · rintro (module | peripheral | contract)
    · exact Or.inl module
    · exact Or.inr peripheral
    · exact Or.inr (announced contract)

/-- Flash memory behind a definition, an unknown type in a conditional and a module in mixed case:
three of the headers are included, and the program is linked against their libraries. -/
theorem flash_program_links_what_it_includes :
    let flash : Definition := ⟨"spi_flash", "Flash", .loop, "#e05a00", none, [],
      { headers := ["hardware/flash.h"], libraries := ["hardware_flash"] }⟩
    let fade : Block := ⟨"fade", "pwm_fade", [], []⟩
    let blocks : List Block := [⟨"dark", "if_condition", [], [fade]⟩, ⟨"log", "spi_flash", [], []⟩]
    let modules := ["MultiCore", "ethernet"]
    let p := Program.generate (.ofDefinitions [flash]) defaultHeartbeat "demo" blocks modules
    let libraries := (Manifest.build (.ofDefinitions [flash]) "demo" blocks modules).libraries
    (∀ linked ∈ linkedHeaders, linked.1 ∈ p.headers ↔ linked.2 ∈ libraries) ∧
    libraries = ["pico_stdlib", "pico_multicore", "hardware_ethernet", "hardware_pwm",
      "hardware_spi", "hardware_flash"] := by
  intro flash fade blocks modules p libraries
  have undeclared : ∀ linked ∈ linkedHeaders, ∀ b ∈ walk blocks, ∀ d,
      (Snapshot.ofDefinitions [flash]).contract? b.type = some (.custom d) →
        linked.1 ∉ d.headerLines ∧ linked.2 ∉ d.code.libraries := by
    intro linked h b hb d meaning
    -- There is no other definition.
    have only : d = flash := List.mem_singleton.mp (Snapshot.mem_custom_of_contract? meaning)
    subst only
    revert linked
    decide
  refine ⟨fun linked h => headers_and_libraries_agree _ _ _ _ _ linked h (undeclared linked h), ?_⟩
  show (Manifest.build _ _ _ _).libraries = _
  rw [Manifest.build, walk_eq_preorder]
  decide

end Blockware
