import Blockware.Proofs.Policy
import Blockware.Proofs.Program.Partition

/-!
# Interleaving does not matter

Blocks of the two parts of a program may stand in any order among one another. Much of a program is
told from a walk over all blocks, though, which sees them in their common order.

- `Snapshot.perm_of_parts`: lists with the same parts have the same blocks.
- `Snapshot.filterMap_walk_loopBlocks`: what a walk finds in the loop only, it finds in the loop
  alone, in the same order: the blocks that run once hide nothing in their bodies.
- `interleaving_does_not_matter`: so programs with the same parts are the same, but for the order
  of headers and libraries.
-/

namespace Blockware

namespace Snapshot

variable (s : Snapshot) {blocks others : List Block}

/-- Lists with the same parts have the same blocks. -/
theorem perm_of_parts (setup : s.setupBlocks blocks = s.setupBlocks others)
    (loop : s.loopBlocks blocks = s.loopBlocks others) : blocks.Perm others := by
  have split : (s.setupBlocks blocks ++ s.loopBlocks blocks).Perm blocks :=
    List.filter_append_perm s.isSetup blocks
  have split' : (s.setupBlocks others ++ s.loopBlocks others).Perm others :=
    List.filter_append_perm s.isSetup others
  rw [setup, loop] at split
  exact split.symm.trans split'

/-- A block that runs once has no body that a walk would go into. -/
theorem visibleInner_of_isSetup {b : Block} (h : s.isSetup b) : b.visibleInner = [] :=
  Block.visibleInner_of_not_takesBody (Block.not_takesBody_of_isSetup h)

/-- What no block that runs once has is found in the loop, in the same order. -/
theorem filterMap_walk_loopBlocks {α : Type} {f : Block → Option α}
    (none : ∀ b, s.isSetup b → f b = none) (blocks : List Block) :
    (walk (s.loopBlocks blocks)).filterMap f = (walk blocks).filterMap f := by
  rw [walk_eq_preorder, walk_eq_preorder]
  induction blocks with
  | nil => rfl
  | cons b rest ih =>
    rw [loopBlocks] at ih ⊢
    by_cases setup : s.isSetup b
    -- It stands alone in the walk: its body is not seen.
    · rw [List.filter_cons_of_neg (by simp [setup]), ih, Block.preorder_cons,
        s.visibleInner_of_isSetup setup, List.filterMap_cons_none (none b setup)]
      rfl
    · rw [List.filter_cons_of_pos (by simp [setup]), Block.preorder_cons, Block.preorder_cons,
        List.filterMap_cons, List.filterMap_cons, List.filterMap_append, List.filterMap_append, ih]

/-- Pins are driven in the loop. -/
theorem drivenPins_loopBlocks (blocks : List Block) :
    drivenPins (s.loopBlocks blocks) = drivenPins blocks := by
  rw [drivenPins, drivenPins, s.filterMap_walk_loopBlocks]
  intro b setup
  by_cases drives : b.builtin? = some .gpioSet
  · rw [s.isSetup_of_builtin drives] at setup
    exact absurd setup (by decide)
  · simp [drives]

end Snapshot

/-! ### Whole programs -/

section Parts

variable {s : Snapshot} {blocks others : List Block}

theorem setupPart_eq_of_parts (setup : s.setupBlocks blocks = s.setupBlocks others)
    (loop : s.loopBlocks blocks = s.loopBlocks others) (modules : List BoardModule) :
    setupPart s blocks modules = setupPart s others modules := by
  have pins : drivenPins blocks = drivenPins others := by
    rw [← s.drivenPins_loopBlocks blocks, loop, s.drivenPins_loopBlocks]
  rw [setupPart, setupPart, setup, gpioInitPart, gpioInitPart, pins]

theorem loopPart_eq_of_parts (perm : blocks.Perm others)
    (loop : s.loopBlocks blocks = s.loopBlocks others) (heartbeat : Nat)
    (modules : List BoardModule) (emission : Emission) :
    loopPart s heartbeat blocks modules emission =
      loopPart s heartbeat others modules emission := by
  rw [loopPart, loopPart, loop, perm.isEmpty_eq]

/-- A walk visits the same blocks in whatever order the top-level blocks stand. -/
theorem walk_perm (perm : blocks.Perm others) : (walk blocks).Perm (walk others) := by
  rw [walk_eq_preorder, walk_eq_preorder, Block.preorder_eq_flatMap, Block.preorder_eq_flatMap]
  exact perm.flatMap_right Block.reach

theorem programHeaders_perm (perm : blocks.Perm others) (modules : List BoardModule) :
    (programHeaders s blocks modules).Perm (programHeaders s others modules) := by
  have visited := walk_perm perm
  refine Keyed.eraseDups_perm fun line => ?_
  have peripherals := (visited.filterMap fun b =>
    (Peripheral.ofType? b.type).map Peripheral.header).mem_iff (a := line)
  have custom := (visited.flatMap_right fun b => s.customHeaders b.type).mem_iff (a := line)
  rw [List.mem_append, List.mem_append, List.mem_append, List.mem_append, peripherals, custom]

theorem libraries_build_perm (perm : blocks.Perm others) (projectName : String)
    (modules : List String) :
    (Manifest.build s projectName blocks modules).libraries.Perm
      (Manifest.build s projectName others modules).libraries := by
  refine Keyed.eraseDups_perm fun library => ?_
  have needed := ((walk_perm perm).flatMap_right (Manifest.blockLibraries s)).mem_iff (a := library)
  rw [List.mem_append, List.mem_append, needed]

theorem conflicts_eq_of_perm (perm : blocks.Perm others) : conflicts blocks = conflicts others := by
  refine conflicts_congr fun id r => ?_
  simp only [perm.mem_iff]

end Parts

/-- **Interleaving does not matter**: if two lists of blocks have the same blocks that run once, in
the same order, and the same blocks in the loop, in the same order, then their programs have the
same statements that run once, the same loop and the same functions. Headers and libraries are the
same, each once, in perhaps another order. The same resources are in conflict, and a generator
refuses both projects for the same resources or neither of them. -/
theorem interleaving_does_not_matter (s : Snapshot) (heartbeat : Nat) (projectName : String)
    (modules : List String) {blocks others : List Block}
    (setup : s.setupBlocks blocks = s.setupBlocks others)
    (loop : s.loopBlocks blocks = s.loopBlocks others) :
    let p := Program.generate s heartbeat projectName blocks modules
    let q := Program.generate s heartbeat projectName others modules
    p.setupLines = q.setupLines ∧ p.loopLines = q.loopLines ∧ p.functions = q.functions ∧
    p.hasBlocks = q.hasBlocks ∧ p.headers.Perm q.headers ∧
    (Manifest.build s projectName blocks modules).libraries.Perm
      (Manifest.build s projectName others modules).libraries ∧
    conflicts blocks = conflicts others ∧
    ∀ (g : Generator) (files : Files) (now : Nat) (buildOptions : Dict Json) (refusal : Refusal),
      (g.generate files now projectName { modules, blocks, buildOptions }).1 = .error refusal ↔
        (g.generate files now projectName { modules, blocks := others, buildOptions }).1 =
          .error refusal := by
  intro p q
  have perm := s.perm_of_parts setup loop
  have contested := conflicts_eq_of_perm perm
  have emission : Block.emitAll s false (s.loopBlocks blocks) =
      Block.emitAll s false (s.loopBlocks others) := by rw [loop]
  refine ⟨setupPart_eq_of_parts setup loop _, ?_, ?_, ?_, programHeaders_perm perm _,
    libraries_build_perm perm projectName modules, contested, ?_⟩
  · show loopPart s heartbeat blocks _ (Block.emitAll s false (s.loopBlocks blocks)) = _
    rw [loopPart_eq_of_parts perm loop, emission]
    rfl
  · show Routine.collect (_ ++ (Block.emitAll s false (s.loopBlocks blocks)).functions) = _
    rw [emission]
    rfl
  · show (!blocks.isEmpty) = !others.isEmpty
    rw [perm.isEmpty_eq]
  · intro g files now buildOptions refusal
    -- The refusal is decided by the conflicts alone.
    rw [Generator.generate_eq_error_iff, Generator.generate_eq_error_iff, contested]

/-- A sensor is set up on the pin of a lamp, before the blocks of the loop or after them. The same
statement drives the pin, the headers come in another order, and the strict policy refuses both
projects for the pin. -/
theorem sensor_may_stand_first_or_last :
    let sensor : Block := ⟨"sensor", "adc_config", [("pin", .integer 26)], []⟩
    let lamp : Block := ⟨"lamp", "gpio_set", [("pin", .integer 26)], []⟩
    let send : Block := ⟨"send", "spi_write", [], []⟩
    let generate := fun blocks => Program.generate .bare defaultHeartbeat "demo" blocks []
    let g : Generator := { registry := .bare, policy := .strict }
    let run := fun blocks => (g.generate {} 0 "demo" { blocks }).1
    (generate [sensor, lamp, send]).setupLines = (generate [lamp, send, sensor]).setupLines ∧
    (generate [sensor, lamp, send]).headers ≠ (generate [lamp, send, sensor]).headers ∧
    (generate [sensor, lamp, send]).headers.Perm (generate [lamp, send, sensor]).headers ∧
    run [sensor, lamp, send] = .error (.conflict [.pin 26]) ∧
    run [lamp, send, sensor] = .error (.conflict [.pin 26]) := by
  intro sensor lamp send generate g run
  obtain ⟨first, second, third⟩ : Snapshot.bare.isSetup sensor = true ∧
      Snapshot.bare.isSetup lamp = false ∧ Snapshot.bare.isSetup send = false := by decide
  have setup : Snapshot.bare.setupBlocks [sensor, lamp, send] =
      Snapshot.bare.setupBlocks [lamp, send, sensor] := by
    simp [Snapshot.setupBlocks, first, second, third]
  have loop : Snapshot.bare.loopBlocks [sensor, lamp, send] =
      Snapshot.bare.loopBlocks [lamp, send, sensor] := by
    simp [Snapshot.loopBlocks, first, second, third]
  obtain ⟨setupLines, -, -, -, headers, -, -, refused⟩ :=
    interleaving_does_not_matter .bare defaultHeartbeat "demo" [] setup loop
  have contested : run [sensor, lamp, send] = .error (.conflict [.pin 26]) :=
    Generator.generate_eq_error_iff.mpr ⟨rfl, by decide, by decide⟩
  refine ⟨setupLines, ?_, headers, contested, (refused _ _ _ _ _).mp contested⟩
  show programHeaders _ _ _ ≠ programHeaders _ _ _
  rw [programHeaders, programHeaders, walk_eq_preorder, walk_eq_preorder]
  decide

end Blockware
