import Blockware.Proofs.FirstOccurrences
import Blockware.Proofs.Program.Linking
import Blockware.Proofs.Program.Partition

/-!
# Modules that are named more than once

A project names its modules in a list, in any case, and may name one more than once. Headers,
functions and libraries are those of the modules as a set. The snippets are not: a module brings its
own as often as it is named.

- `withoutRespellings`: the names but for those that repeat an earlier one in any case.
- `knownModules_withoutRespellings`, `eraseDups_map_library`: they name the same modules, each once,
  and the same libraries.
- `repeated_modules_repeat_snippets`: so a program is the same for them exactly if no known module is
  named more than once.
-/

namespace Blockware

/-- The names in a list, but for those that have the lower-case form of an earlier one. -/
def withoutRespellings (names : List String) : List String :=
  names.eraseDupsBy fun later earlier => Text.lowerCase later == Text.lowerCase earlier

variable {names : List String}

theorem map_lowerCase_withoutRespellings (names : List String) :
    (withoutRespellings names).map Text.lowerCase = (names.map Text.lowerCase).eraseDups :=
  map_eraseDupsBy Text.lowerCase names

/-! ### Modules and libraries -/

/-- The module of a name in lower case. -/
def BoardModule.ofLowerName? (lower : String) : Option BoardModule :=
  all.find? fun m => m.name == lower

/-- The library of a name in lower case. -/
def BoardModule.libraryOfLower (lower : String) : String :=
  if lower = multicore.name then "pico_multicore" else "hardware_" ++ lower

theorem knownModules_eq (names : List String) :
    knownModules names = (names.map Text.lowerCase).filterMap BoardModule.ofLowerName? := by
  rw [List.filterMap_map]
  rfl

theorem map_library_eq (names : List String) :
    names.map BoardModule.library =
      (names.map Text.lowerCase).map BoardModule.libraryOfLower := by
  rw [List.map_map]
  rfl

/-- Respellings of a name name no further module. -/
theorem knownModules_withoutRespellings (names : List String) :
    knownModules (withoutRespellings names) = (knownModules names).eraseDups := by
  rw [knownModules_eq, knownModules_eq, map_lowerCase_withoutRespellings]
  refine filterMap_eraseDups ?_ _
  intro lower lower' m found found'
  have name := List.find?_some found
  have name' := List.find?_some found'
  exact (beq_iff_eq.mp name).symm.trans (beq_iff_eq.mp name')

/-- Respellings of a name name no further library. -/
theorem eraseDups_map_library (names : List String) :
    ((withoutRespellings names).map BoardModule.library).eraseDups =
      (names.map BoardModule.library).eraseDups := by
  rw [map_library_eq, map_library_eq, map_lowerCase_withoutRespellings]
  exact eraseDups_map_eraseDups _ _

/-! ### The parts that take modules as a set -/

theorem programHeaders_eraseDups (s : Snapshot) (blocks : List Block)
    (modules : List BoardModule) :
    programHeaders s blocks modules.eraseDups = programHeaders s blocks modules := by
  rw [programHeaders, programHeaders, List.append_assoc, List.append_assoc]
  exact eraseDups_append_congr (eraseDups_flatMap_eraseDups BoardModule.headers modules) _

/-- No two modules bring functions of one name. -/
theorem BoardModule.eq_of_name_eq {m m' : BoardModule} :
    ∀ f ∈ m.functions, ∀ f' ∈ m'.functions, f.1 = f'.1 → f = f' := by
  cases m <;> cases m' <;> decide

/-- A module that is named again defines its functions again as they are. -/
theorem collect_moduleFunctions_eraseDups (modules : List BoardModule) :
    Routine.collect (moduleFunctions modules.eraseDups) =
      Routine.collect (moduleFunctions modules) := by
  have told : ∀ ms, Routine.collect (moduleFunctions ms) = (moduleFunctions ms).eraseDups := by
    intro ms
    refine Keyed.collect_eq_eraseDups ?_
    intro f hf f' hf' same
    obtain ⟨m, -, own⟩ := List.mem_flatMap.mp hf
    obtain ⟨m', -, own'⟩ := List.mem_flatMap.mp hf'
    obtain ⟨g, hg, rfl⟩ := List.mem_map.mp own
    obtain ⟨g', hg', rfl⟩ := List.mem_map.mp own'
    rw [BoardModule.eq_of_name_eq g hg g' hg' same]
  rw [told, told]
  exact eraseDups_flatMap_eraseDups _ modules

theorem build_withoutRespellings (s : Snapshot) (projectName : String) (blocks : List Block)
    (modules : List String) :
    Manifest.build s projectName blocks (withoutRespellings modules) =
      Manifest.build s projectName blocks modules := by
  have named : (Manifest.baseline :: (withoutRespellings modules).map BoardModule.library).eraseDups =
      (Manifest.baseline :: modules.map BoardModule.library).eraseDups := by
    have baseline (libraries : List String) :
        (Manifest.baseline :: libraries).eraseDups =
          ([Manifest.baseline] ++ libraries.eraseDups).eraseDups :=
      (eraseDups_append_eraseDups [Manifest.baseline] libraries).symm
    rw [baseline, baseline, eraseDups_map_library]
  rw [Manifest.build, Manifest.build, eraseDups_append_congr named]

/-! ### The snippets -/

/-- Every module has statements that run once. -/
theorem BoardModule.setup_ne_nil (m : BoardModule) : m.setup ≠ [] := by
  cases m <;> exact List.cons_ne_nil _ _

/-- The snippets of modules are those of the modules without repetitions just if there are none. -/
theorem flatMap_setup_eq_iff {modules : List BoardModule} :
    modules.flatMap BoardModule.setup = modules.eraseDups.flatMap BoardModule.setup ↔
      modules.Nodup := by
  constructor
  · intro same
    refine eraseDups_eq_self_iff.mp (Eq.symm ?_)
    exact eq_of_length_flatMap_eq (sublist_eraseDups modules) (fun m _ => m.setup_ne_nil)
      (congrArg List.length same)
  · intro distinct
    rw [eraseDups_eq_self_iff.mpr distinct]

/-- The modules among some that have an example of a loop. -/
def withExample (modules : List BoardModule) : List BoardModule :=
  modules.filter fun m => m.exampleLoop ≠ []

/-- Modules without an example add nothing to those of the others. -/
theorem flatMap_exampleLoop_withExample (modules : List BoardModule) :
    (withExample modules).flatMap BoardModule.exampleLoop =
      modules.flatMap BoardModule.exampleLoop := by
  induction modules with
  | nil => rfl
  | cons m rest ih =>
    rw [withExample, List.filter_cons, List.flatMap_cons]
    split
    · rw [List.flatMap_cons]
      exact congrArg _ ih
    · rename_i silent
      have nothing : m.exampleLoop = [] := by simpa using silent
      rw [nothing, List.nil_append]
      exact ih

theorem flatMap_exampleLoop_eq_iff {modules : List BoardModule} :
    modules.flatMap BoardModule.exampleLoop = modules.eraseDups.flatMap BoardModule.exampleLoop ↔
      (withExample modules).Nodup := by
  have once : withExample modules.eraseDups = (withExample modules).eraseDups :=
    filter_eraseDups _ modules
  rw [← flatMap_exampleLoop_withExample modules, ← flatMap_exampleLoop_withExample modules.eraseDups,
    once]
  constructor
  · intro same
    refine eraseDups_eq_self_iff.mp (Eq.symm ?_)
    refine eq_of_length_flatMap_eq (sublist_eraseDups _) ?_ (congrArg List.length same)
    intro m hm
    simpa using (List.mem_filter.mp hm).2
  · intro distinct
    rw [eraseDups_eq_self_iff.mpr distinct]

/-! ### Whole programs -/

/-- **Repeated modules repeat their snippets**: against the names without respellings, a list of
modules brings the same headers, functions and libraries. The statements that run once have the
snippet of a module as often as the module is named, and so have the examples in the loop of a
program without blocks. So the program is the same exactly if no known module is named twice. -/
theorem repeated_modules_repeat_snippets (s : Snapshot) (heartbeat : Nat) (projectName : String)
    (blocks : List Block) (modules : List String) :
    let p := Program.generate s heartbeat projectName blocks modules
    let once := Program.generate s heartbeat projectName blocks (withoutRespellings modules)
    let known := knownModules modules
    Manifest.build s projectName blocks modules =
      Manifest.build s projectName blocks (withoutRespellings modules) ∧
    p.headers = once.headers ∧ p.functions = once.functions ∧
    knownModules (withoutRespellings modules) = known.eraseDups ∧
    (∃ before after,
      p.setupLines = before ++ known.flatMap BoardModule.setup ++ after ∧
      once.setupLines = before ++ known.eraseDups.flatMap BoardModule.setup ++ after) ∧
    (p.setupLines = once.setupLines ↔ known.Nodup) ∧
    (p.loopLines = once.loopLines ↔ (blocks = [] → (withExample known).Nodup)) ∧
    (p = once ↔ known.Nodup) := by
  intro p once known
  have modulesOnce : knownModules (withoutRespellings modules) = known.eraseDups :=
    knownModules_withoutRespellings modules
  have headers : p.headers = once.headers := by
    show programHeaders s blocks known = programHeaders s blocks (knownModules _)
    rw [modulesOnce, programHeaders_eraseDups]
  have functions : p.functions = once.functions := by
    show (Program.generate _ _ _ _ _).functions = (Program.generate _ _ _ _ _).functions
    rw [functions_generate, functions_generate, modulesOnce, collect_moduleFunctions_eraseDups]
  let flags := if ∃ b ∈ blocks, b.type = "adc_config" then ["bool adc_initialized = false;"] else []
  let rest := (s.setupBlocks blocks).flatMap (Block.setupCode s) ++ gpioInitPart blocks
  have setup : p.setupLines = flags ++ known.flatMap BoardModule.setup ++ rest :=
    (setupLines_generate s heartbeat projectName blocks modules).trans (List.append_assoc _ _ _)
  have setupOnce : once.setupLines =
      flags ++ known.eraseDups.flatMap BoardModule.setup ++ rest := by
    rw [← modulesOnce]
    exact (setupLines_generate s heartbeat projectName blocks _).trans (List.append_assoc _ _ _)
  have sameSetup : p.setupLines = once.setupLines ↔ known.Nodup := by
    rw [setup, setupOnce, List.append_left_inj, List.append_right_inj, flatMap_setup_eq_iff]
  refine ⟨(build_withoutRespellings s projectName blocks modules).symm, headers, functions,
    modulesOnce, ⟨flags, rest, setup, setupOnce⟩, sameSetup, ?_, ?_⟩
  · show (Program.generate _ _ _ _ _).loopLines = (Program.generate _ _ _ _ _).loopLines ↔ _
    rw [loopLines_generate, loopLines_generate, modulesOnce, List.append_left_inj,
      List.append_left_inj]
    by_cases empty : blocks = []
    · simp only [empty, ↓reduceIte, forall_const]
      exact flatMap_exampleLoop_eq_iff
    · simp [empty]
  · constructor
    · intro same
      exact sameSetup.mp (congrArg Program.setupLines same)
    · intro distinct
      have same : knownModules (withoutRespellings modules) = known :=
        modulesOnce.trans (eraseDups_eq_self_iff.mpr distinct)
      show Program.generate _ _ _ _ _ = Program.generate _ _ _ _ _
      rw [Program.generate, Program.generate, same]

/-- A module in two spellings: its snippet declares the number of a slice, and is there twice. -/
theorem respelled_module_declares_slice_twice :
    let modules := ["pwm", "PWM"]
    let p := Program.generate .bare defaultHeartbeat "demo" [] modules
    let once := Program.generate .bare defaultHeartbeat "demo" [] (withoutRespellings modules)
    let slice := "uint slice_num = pwm_gpio_to_slice_num(PICO_DEFAULT_LED_PIN);"
    withoutRespellings modules = ["pwm"] ∧ p.headers = once.headers ∧
      p.setupLines.count slice = 2 ∧ once.setupLines.count slice = 1 ∧ p ≠ once := by
  intro modules p once slice
  have twice : p.setupLines.count slice = 2 := by decide +kernel
  have single : once.setupLines.count slice = 1 := by decide +kernel
  refine ⟨by decide +kernel, by decide +kernel, twice, single, ?_⟩
  intro same
  rw [same, single] at twice
  cases twice

end Blockware
