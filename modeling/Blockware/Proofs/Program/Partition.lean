import Blockware.Proofs.Keyed
import Blockware.Proofs.Program.Visits

/-!
# The two parts of a program

Every top-level block belongs to the part that runs once or to the main loop. A block adds its
code to its part where it stands, and nothing to the other one.

- `Block.emitInto`, `Block.emitAllInto`: the emission of blocks with a table of functions that is
  handed from block to block and written to on the way, also from inside of a body.
- `Block.emitAllInto_eq`: the lines are the same for every table, and the table takes up the
  functions that the blocks lift out, one after the other.
- `Block.flag?_eq_some_iff`: only a configuration of the converter needs its flag.
- `blocks_are_partitioned`: both parts of a program, piece by piece.
-/

namespace Blockware

/-! ### The table of functions on the way -/

namespace Routine

/-- Enters functions into a table, one after the other. -/
def enter (table fs : List Routine) : List Routine := fs.foldl (Keyed.put Routine.name) table

theorem enter_append (table fs gs : List Routine) :
    enter table (fs ++ gs) = enter (enter table fs) gs := List.foldl_append

/-- What is collected last is entered into the table of what is collected before. -/
theorem collect_append (fs gs : List Routine) :
    collect (fs ++ gs) = enter (collect fs) gs := List.foldl_append

end Routine

namespace Block

mutual

/-- The lines of a block where it stands, and the table of functions after it, given the one that
all blocks before it have left. -/
def emitInto (s : Snapshot) (nested : Bool) (table : List Routine) :
    Block → List String × List Routine
  | ⟨id, type, params, inner⟩ =>
    let b : Block := ⟨id, type, params, inner⟩
    match b.builtin? with
    | some .functionDef =>
      match functionName? b with
      | none => ([], table)
      | some name =>
        let (lines, table) := emitAllInto s true table inner
        ([], Keyed.put Routine.name table ⟨name, functionBody lines, .block⟩)
    | some .ifCondition =>
      let (lines, table) := emitAllInto s true table inner
      ((Condition.ofBlock b).guardLine :: lines.map (indent 1) ++ ["\x7d"], table)
    | _ => (b.ownLines s nested, table)

/-- The lines of the blocks of a list, and the table of functions after all of them. -/
def emitAllInto (s : Snapshot) (nested : Bool) (table : List Routine) :
    List Block → List String × List Routine
  | [] => ([], table)
  | b :: rest =>
    let (first, table) := emitInto s nested table b
    let (later, table) := emitAllInto s nested table rest
    (first ++ later, table)

end

variable {s : Snapshot} {nested : Bool} {table : List Routine}

/-- A function is entered after those in its body, which see the table first. -/
theorem emitInto_functionDef {b : Block} {name : String} (h : b.builtin? = some .functionDef)
    (named : functionName? b = some name) :
    b.emitInto s nested table =
      ([], Keyed.put Routine.name (emitAllInto s true table b.inner).2
        ⟨name, functionBody (emitAllInto s true table b.inner).1, .block⟩) := by
  obtain ⟨id, type, params, inner⟩ := b
  rw [emitInto]
  simp only at h named ⊢
  rw [h, named]

/-- A function without a name leaves the table alone, and so does its body. -/
theorem emitInto_anonymous {b : Block} (h : b.builtin? = some .functionDef)
    (anonymous : functionName? b = none) : b.emitInto s nested table = ([], table) := by
  obtain ⟨id, type, params, inner⟩ := b
  rw [emitInto]
  simp only at h anonymous ⊢
  rw [h, anonymous]

theorem emitInto_ifCondition {b : Block} (h : b.builtin? = some .ifCondition) :
    b.emitInto s nested table =
      ((Condition.ofBlock b).guardLine ::
          (emitAllInto s true table b.inner).1.map (indent 1) ++ ["\x7d"],
        (emitAllInto s true table b.inner).2) := by
  obtain ⟨id, type, params, inner⟩ := b
  rw [emitInto]
  simp only at h ⊢
  rw [h]

theorem emitInto_leaf {b : Block} (h : ¬ b.takesBody) :
    b.emitInto s nested table = (b.ownLines s nested, table) := by
  rw [takesBody_iff] at h
  obtain ⟨id, type, params, inner⟩ := b
  rw [emitInto]
  simp only
  split
  · exact absurd (Or.inl ‹_›) h
  · exact absurd (Or.inr ‹_›) h
  · rfl

/-- If the body of a block emits the same lines into every table, so does the block. -/
theorem emitInto_eq_of_inner {b : Block}
    (body : emitAllInto s true table b.inner =
      ((emitAll s true b.inner).lines, Routine.enter table (emitAll s true b.inner).functions))
    (place : nested = true ∨ s.isSetup b = false) :
    b.emitInto s nested table =
      ((b.emit s nested).lines, Routine.enter table (b.emit s nested).functions) := by
  rcases kind_cases b with h | h | h
  · cases name : functionName? b with
    | none =>
      rw [emitInto_anonymous h name, emit_anonymous s h name]
      rfl
    | some name' =>
      rw [emitInto_functionDef h name, emit_functionDef s h name, body, Routine.enter_append]
      rfl
  · rw [emitInto_ifCondition h, emit_ifCondition s h, body]
  · rw [emitInto_leaf h, emit_leaf h place]
    rfl

/-- **The table does not show in the lines**: whatever functions blocks find in the table, they
emit the lines that they emit alone, and enter the functions that they lift out alone. -/
theorem emitAllInto_eq {blocks : List Block}
    (place : nested = true ∨ ∀ b ∈ blocks, s.isSetup b = false) :
    emitAllInto s nested table blocks =
      ((emitAll s nested blocks).lines,
        Routine.enter table (emitAll s nested blocks).functions) := by
  -- The table is any one: the blocks before and around these have written to it.
  induction blocks using program_induction generalizing nested table with
  | nil => rfl
  | cons b rest ihInner ihRest =>
    have first : b.emitInto s nested table = _ :=
      emitInto_eq_of_inner (ihInner (Or.inl rfl))
        (place.imp_right fun loop => loop b List.mem_cons_self)
    have later : emitAllInto s nested (Routine.enter table (b.emit s nested).functions) rest = _ :=
      ihRest (place.imp_right fun loop c hc => loop c (List.mem_cons_of_mem b hc))
    rw [emitAllInto, first]
    simp only [later, emitAll, Emission.lines_append, Emission.functions_append,
      Routine.enter_append]

/-- What blocks emit is what each of them emits alone. -/
theorem emitAll_eq_flatMap (s : Snapshot) (nested : Bool) (blocks : List Block) :
    emitAll s nested blocks =
      { lines := blocks.flatMap fun b => (b.emit s nested).lines
        functions := blocks.flatMap fun b => (b.emit s nested).functions } := by
  induction blocks with
  | nil => rfl
  | cons b rest ih =>
    rw [emitAll, ih, List.flatMap_cons, List.flatMap_cons]
    rfl

/-! ### Flags -/

/-- Only a configuration of the converter relies on a flag. -/
theorem flag?_eq_some_iff {b : Block} {flag : String} :
    b.flag? = some flag ↔ b.type = "adc_config" ∧ flag = "bool adc_initialized = false;" := by
  constructor
  · intro h
    obtain ⟨kind, hkind, h⟩ := Option.bind_eq_some_iff.mp h
    obtain ⟨p, -, h⟩ := Option.bind_eq_some_iff.mp h
    split at h
    · rename_i config
      cases p with
      | adc =>
        refine ⟨?_, (Option.some.inj h).symm⟩
        rw [← Builtin.typeName_of_ofType? hkind, ← config]
        rfl
      | _ => cases h
    · cases h
  · rintro ⟨type, rfl⟩
    rw [flag?, builtin?, type]
    decide

end Block

namespace Snapshot

variable (s : Snapshot) {b : Block} {blocks : List Block}

/-- The configurations of the converter belong to the part that runs once. -/
theorem isSetup_of_adcConfig (h : b.type = "adc_config") : s.isSetup b := by
  have kind : b.builtin? = some .adcConfig := Block.builtin?_eq_some_iff.mpr h
  rw [s.isSetup_of_builtin kind]
  decide

/-- The flag of the converter is declared once if there is a configuration of it. -/
theorem flags_eq (blocks : List Block) :
    ((s.setupBlocks blocks).filterMap Block.flag?).eraseDups =
      if ∃ b ∈ blocks, b.type = "adc_config" then ["bool adc_initialized = false;"] else [] := by
  have same : ∀ flag ∈ (s.setupBlocks blocks).filterMap Block.flag?,
      flag = "bool adc_initialized = false;" := by
    intro flag h
    obtain ⟨b, -, hb⟩ := List.mem_filterMap.mp h
    exact (Block.flag?_eq_some_iff.mp hb).2
  rw [Keyed.eraseDups_of_forall_eq same]
  by_cases configured : ∃ b ∈ blocks, b.type = "adc_config"
  · obtain ⟨b, hb, type⟩ := configured
    have declared : "bool adc_initialized = false;" ∈
        (s.setupBlocks blocks).filterMap Block.flag? :=
      List.mem_filterMap.mpr ⟨b, List.mem_filter.mpr ⟨hb, s.isSetup_of_adcConfig type⟩,
        Block.flag?_eq_some_iff.mpr ⟨type, rfl⟩⟩
    rw [if_neg (List.ne_nil_of_mem declared), if_pos ⟨b, hb, type⟩]
  · have none : (s.setupBlocks blocks).filterMap Block.flag? = [] := by
      refine List.filterMap_eq_nil_iff.mpr fun b hb => Option.eq_none_iff_forall_ne_some.mpr ?_
      intro flag h
      exact configured ⟨b, (List.mem_filter.mp hb).1, (Block.flag?_eq_some_iff.mp h).1⟩
    rw [if_pos none, if_neg configured]

/-- A block is in the loop if it is not in the part that runs once. -/
theorem loopBlocks_eq (blocks : List Block) :
    s.loopBlocks blocks = blocks.filter fun b => s.categoryOfType b.type = .loop := by
  refine List.filter_congr fun b _ => ?_
  rw [isSetup]
  cases s.categoryOfType b.type <;> rfl

/-- A type is that of definitions of functions if it has that name. -/
theorem isFunctionDef_iff (type : String) : s.isFunctionDef type ↔ type = "function_def" := by
  constructor
  · intro h
    rw [isFunctionDef, contract?] at h
    cases found : Builtin.ofType? type with
    | none =>
      cases custom : s.definition? type <;> simp [found, custom] at h
    | some kind =>
      rw [found] at h
      cases kind with
      | functionDef => exact (Builtin.typeName_of_ofType? found).symm
      | _ => cases h
  · rintro rfl
    rfl

/-- The loop is idle if it is made of definitions of functions. -/
theorem loopBlocks_all_isFunctionDef (blocks : List Block) :
    ((s.loopBlocks blocks).all fun b => s.isFunctionDef b.type) =
      decide (∀ b ∈ s.loopBlocks blocks, b.type = "function_def") := by
  rw [Bool.eq_iff_iff, List.all_eq_true, decide_eq_true_iff]
  exact forall₂_congr fun b _ => s.isFunctionDef_iff b.type

/-- A block of the part that runs once is not in the loop, wherever it stands. -/
theorem loopBlocks_append_cons (h : s.isSetup b) (before after : List Block) :
    s.loopBlocks (before ++ b :: after) = s.loopBlocks (before ++ after) := by
  rw [loopBlocks, loopBlocks, List.filter_append, List.filter_append,
    List.filter_cons_of_neg (by simp [h])]

end Snapshot

/-! ### Whole programs -/

section Whole

variable (s : Snapshot) (heartbeat : Nat) (projectName : String) (blocks : List Block)
  (modules : List String)

theorem setupLines_generate :
    (Program.generate s heartbeat projectName blocks modules).setupLines =
      (if ∃ b ∈ blocks, b.type = "adc_config" then ["bool adc_initialized = false;"] else []) ++
        (knownModules modules).flatMap BoardModule.setup ++
        (s.setupBlocks blocks).flatMap (Block.setupCode s) ++ gpioInitPart blocks := by
  show setupPart s blocks (knownModules modules) = _
  rw [setupPart, s.flags_eq]

theorem loopLines_generate :
    (Program.generate s heartbeat projectName blocks modules).loopLines =
      (if blocks = [] then (knownModules modules).flatMap BoardModule.exampleLoop else []) ++
        (s.loopBlocks blocks).flatMap (fun b => (b.emit s false).lines) ++
        (if ∀ b ∈ s.loopBlocks blocks, b.type = "function_def" then [idleStatement heartbeat]
          else []) := by
  show loopPart s heartbeat blocks _ (Block.emitAll s false (s.loopBlocks blocks)) = _
  rw [loopPart, s.loopBlocks_all_isFunctionDef, Block.emitAll_eq_flatMap]
  simp only [List.isEmpty_iff, decide_eq_true_eq]

theorem functions_generate :
    (Program.generate s heartbeat projectName blocks modules).functions =
      Routine.enter (Routine.collect (moduleFunctions (knownModules modules)))
        ((s.loopBlocks blocks).flatMap fun b => (b.emit s false).functions) := by
  show Routine.collect (_ ++ (Block.emitAll s false (s.loopBlocks blocks)).functions) = _
  rw [Routine.collect_append, Block.emitAll_eq_flatMap]

end Whole

/-- **Blocks are partitioned**: the part that runs once has the flag of the converter exactly if a
top-level block configures it, then the statements of the known modules, then the code of the
blocks of its category, and then the driven pins. The loop has the examples of the modules if there
are no blocks at all, then what each block of its category emits alone, and then the heartbeat if
these blocks only define functions. What stands in the table of functions when a block emits its
code makes no difference to it. And a block of the part that runs once adds no function and no line
to the loop: without it these are the same, unless it is the only block. -/
theorem blocks_are_partitioned (s : Snapshot) (heartbeat : Nat) (projectName : String)
    (blocks : List Block) (modules : List String) :
    let generate := fun blocks => Program.generate s heartbeat projectName blocks modules
    let known := knownModules modules
    let setup := blocks.filter fun b => s.categoryOfType b.type = .setup
    let loop := blocks.filter fun b => s.categoryOfType b.type = .loop
    let lines := loop.flatMap fun b => (b.emit s false).lines
    let functions := loop.flatMap fun b => (b.emit s false).functions
    (generate blocks).setupLines =
      (if ∃ b ∈ blocks, b.type = "adc_config" then ["bool adc_initialized = false;"] else []) ++
        known.flatMap BoardModule.setup ++ setup.flatMap (Block.setupCode s) ++
        gpioInitPart blocks ∧
    (generate blocks).loopLines =
      (if blocks = [] then known.flatMap BoardModule.exampleLoop else []) ++ lines ++
        (if ∀ b ∈ loop, b.type = "function_def" then [idleStatement heartbeat] else []) ∧
    (generate blocks).functions =
      Routine.enter (Routine.collect (moduleFunctions known)) functions ∧
    (∀ table, Block.emitAllInto s false table loop = (lines, Routine.enter table functions)) ∧
    (∀ before b after, blocks = before ++ b :: after → s.categoryOfType b.type = .setup →
      (generate blocks).functions = (generate (before ++ after)).functions ∧
      (generate blocks).loopLines = if before ++ after = [] then [idleStatement heartbeat]
        else (generate (before ++ after)).loopLines) := by
  intro generate known setup loop lines functions
  have loopEq : s.loopBlocks blocks = loop := s.loopBlocks_eq blocks
  refine ⟨setupLines_generate s heartbeat projectName blocks modules, ?_, ?_, ?_, ?_⟩
  · have loopLines := loopLines_generate s heartbeat projectName blocks modules
    rw [loopEq] at loopLines
    exact loopLines
  · have table := functions_generate s heartbeat projectName blocks modules
    rw [loopEq] at table
    exact table
  · intro table
    have notSetup : ∀ b ∈ loop, s.isSetup b = false := by
      intro b hb
      rw [← loopEq] at hb
      simpa using (List.mem_filter.mp hb).2
    rw [Block.emitAllInto_eq (Or.inr notSetup), Block.emitAll_eq_flatMap]
  · rintro before b after rfl isSetup
    have same := s.loopBlocks_append_cons (decide_eq_true isSetup) before after
    have notEmpty : before ++ b :: after ≠ [] := by simp
    constructor
    · show (Program.generate _ _ _ _ _).functions = (Program.generate _ _ _ _ _).functions
      rw [functions_generate, functions_generate, same]
    · show (Program.generate _ _ _ _ _).loopLines =
        if _ then _ else (Program.generate _ _ _ _ _).loopLines
      rw [loopLines_generate, loopLines_generate, same, if_neg notEmpty]
      -- Without blocks there would be the examples of the modules, which the block suppresses.
      by_cases alone : before ++ after = []
      · rw [if_pos alone, alone]
        rfl
      · rw [if_neg alone, if_neg alone]

/-- A sensor between a lamp and a block of an unknown type: the loop has the line of the lamp, and
the part that runs once has the others, the flag of the sensor first. -/
theorem sensor_adds_nothing_to_loop :
    let lamp : Block := ⟨"lamp", "gpio_set", [("pin", .integer 25), ("level", .integer 1)], []⟩
    let sensor : Block := ⟨"sensor", "adc_config", [("pin", .integer 26)], []⟩
    let unknown : Block := ⟨"x", "zzz_config", [], []⟩
    let generate := fun blocks => Program.generate .bare defaultHeartbeat "demo" blocks []
    Snapshot.bare.categoryOfType sensor.type = .setup ∧
    (generate [lamp, sensor, unknown]).setupLines =
      ["bool adc_initialized = false;", "// ADC Config (Pin 26)",
        "if (!adc_initialized) \x7b adc_init(); adc_initialized = true; \x7d",
        "adc_gpio_init(26);", unknownComment "zzz_config", "// Auto-generated GPIO Init",
        "gpio_init(25); gpio_set_dir(25, GPIO_OUT);"] ∧
    (generate [lamp, sensor, unknown]).functions = (generate [lamp, unknown]).functions ∧
    (generate [lamp, sensor, unknown]).loopLines = (generate [lamp, unknown]).loopLines := by
  intro lamp sensor unknown generate
  have isSetup : Snapshot.bare.categoryOfType sensor.type = .setup := by decide
  obtain ⟨setupLines, -, -, -, without⟩ :=
    blocks_are_partitioned .bare defaultHeartbeat "demo" [lamp, sensor, unknown] []
  obtain ⟨functions, loopLines⟩ := without [lamp] sensor [unknown] rfl isSetup
  have pins : drivenPins [lamp, sensor, unknown] = ["25"] := by
    rw [drivenPins, walk_eq_preorder]
    decide
  refine ⟨isSetup, ?_, functions, loopLines⟩
  rw [setupLines, gpioInitPart, pins]
  decide

end Blockware
