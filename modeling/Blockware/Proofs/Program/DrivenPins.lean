import Blockware.Proofs.FirstOccurrences
import Blockware.Proofs.Program.Scopes

/-!
# Pins are set up before they are driven

The pins that blocks drive are collected by a walk over the blocks, but the statements that drive them
are emitted by a recursion that lifts functions out. The walk misses none of the blocks that the
recursion comes to, so each of these pins is set up in the part that runs once.

- `Block.drivenPin?`: the pin of a block that sets one.
- `gpioInitPart_eq`: what the walk makes of these pins.
- `PlacedLine.DrivesReadyPin`: a line drives the pin of its block, and that pin is set up.
- `Block.driveReadyPins_placedIn`: so does each line of blocks that the walk visits.
- `driven_pins_are_set_up`: which pins are set up, and that no line in the loop or in a function of a
  program drives another one.
-/

namespace Blockware

namespace Block

/-- The text of the pin of a block that sets a pin, if it has one. -/
def drivenPin? (b : Block) : Option String :=
  if b.type = "gpio_set" then (b.slot "pin").value.map Param.display else none

/-- A block that drives a pin sets it, and shows the text of the pin. -/
theorem drivenPin?_eq_some_iff {b : Block} {pin : String} :
    b.drivenPin? = some pin ↔
      b.builtin? = some .gpioSet ∧ (b.slot "pin").isPresent ∧ (b.slot "pin").text = pin := by
  have kind : b.builtin? = some .gpioSet ↔ b.type = "gpio_set" := builtin?_eq_some_iff
  rw [drivenPin?, kind]
  by_cases sets : b.type = "gpio_set"
  · rw [if_pos sets, Slot.isPresent, Slot.text]
    cases (b.slot "pin").value with
    | none => simp
    | some value => simp [sets]
  · simp [sets]

/-- A block that drives a pin adds one statement, which names the pin. -/
theorem ownLines_of_drivenPin? (s : Snapshot) {b : Block} {pin : String}
    (drives : b.drivenPin? = some pin) (nested : Bool) :
    let level := (b.slot "level").text
    b.ownLines s nested = [s!"gpio_put({pin}, {level});"] := by
  intro level
  obtain ⟨sets, -, rfl⟩ := drivenPin?_eq_some_iff.mp drives
  exact ownLines_action s sets rfl (by decide) nested

/-- No block of the part that runs once drives a pin. -/
theorem drivenPin?_of_isSetup {s : Snapshot} {b : Block} (setup : s.isSetup b) :
    b.drivenPin? = none := by
  refine Option.eq_none_iff_forall_ne_some.mpr fun pin drives => ?_
  rw [s.isSetup_of_builtin (drivenPin?_eq_some_iff.mp drives).1] at setup
  exact absurd setup (by decide)

end Block

/-! ### The pins that are set up -/

theorem drivenPins_eq (blocks : List Block) :
    drivenPins blocks = ((walk blocks).filterMap Block.drivenPin?).eraseDups := by
  rw [drivenPins]
  congr 1
  refine List.filterMap_congr fun b _ => Option.ext fun pin => ?_
  rw [Block.drivenPin?_eq_some_iff]
  simp [and_assoc]

/-- The pins of the visited blocks are set up, each once, behind a comment if there are any. -/
theorem gpioInitPart_eq {blocks : List Block} {pins : List String}
    (h : FirstOccurrences ((walk blocks).filterMap Block.drivenPin?) pins) :
    gpioInitPart blocks = if (walk blocks).filterMap Block.drivenPin? = [] then []
      else "// Auto-generated GPIO Init" :: pins.map Action.gpioInit := by
  have collected : drivenPins blocks = pins := (drivenPins_eq blocks).trans h.eq_eraseDups.symm
  rw [gpioInitPart, collected]
  simp only [List.isEmpty_iff, h.eq_nil_iff]

/-- The pin of a visited block is set up. -/
theorem gpioInit_mem_gpioInitPart {blocks : List Block} {b : Block} {pin : String}
    (visited : b ∈ walk blocks) (drives : b.drivenPin? = some pin) :
    Action.gpioInit pin ∈ gpioInitPart blocks := by
  have asked : pin ∈ (walk blocks).filterMap Block.drivenPin? :=
    List.mem_filterMap.mpr ⟨b, visited, drives⟩
  have kept := firstOccurrences_eraseDups ((walk blocks).filterMap Block.drivenPin?)
  rw [gpioInitPart_eq kept, if_neg (List.ne_nil_of_mem asked)]
  exact List.mem_cons_of_mem _ (List.mem_map_of_mem ((kept.mem_iff pin).mpr asked))

/-! ### The lines that drive them -/

/-- If the block of a line drives a pin, then the line does, and the pin is one of those set up. -/
def PlacedLine.DrivesReadyPin (setup : List String) (q : PlacedLine) : Prop :=
  ∀ pin, q.visit.block.drivenPin? = some pin →
    let level := (q.visit.block.slot "level").text
    q.own = s!"gpio_put({pin}, {level});" ∧
      s!"gpio_init({pin}); gpio_set_dir({pin}, GPIO_OUT);" ∈ setup

/-- Blocks drive pins that are set up if all of them that are live are visited. -/
theorem Block.driveReadyPins_placedIn {s : Snapshot} {nested : Bool} {depth : Nat}
    {all blocks : List Block} {setup : List String} (reached : ∀ c ∈ live blocks, c ∈ walk all)
    (ready : gpioInitPart all ⊆ setup) :
    ∀ q ∈ placedIn s nested depth blocks, q.DrivesReadyPin setup := by
  intro q hq pin drives level
  obtain ⟨-, alive, line⟩ := mem_placedIn hq
  rw [ownLines_of_drivenPin? s drives, List.mem_singleton] at line
  exact ⟨line, ready (gpioInit_mem_gpioInitPart (reached _ alive) drives)⟩

/-- A live block of the loop is visited. -/
theorem Snapshot.mem_walk_of_mem_live_loopBlocks {s : Snapshot} {blocks : List Block} {c : Block}
    (alive : c ∈ Block.live (s.loopBlocks blocks)) : c ∈ walk blocks := by
  rw [walk_eq_preorder]
  exact Block.mem_preorder_of_filter (Block.mem_preorder_of_mem_live alive)

/-- **Driven pins are set up**: the part that runs once ends with a comment and the statements for
the pins of all visited blocks that set one, once for each text of a pin and in the order in which
the texts come up first; without such blocks nothing is there. None of these blocks is in that part.
In the loop, and in each function that was lifted out of a block, the line of such a block drives its
pin, and that pin is set up. -/
theorem driven_pins_are_set_up (s : Snapshot) (heartbeat : Nat) (projectName : String)
    (blocks : List Block) (modules : List String) :
    let p := Program.generate s heartbeat projectName blocks modules
    let known := knownModules modules
    let asked := (walk blocks).filterMap Block.drivenPin?
    let flags := if ∃ b ∈ blocks, b.type = "adc_config" then ["bool adc_initialized = false;"] else []
    let examples := if blocks = [] then known.flatMap BoardModule.exampleLoop else []
    let beats := if ∀ b ∈ s.loopBlocks blocks, b.type = "function_def" then
      [idleStatement heartbeat] else []
    let loop := Block.placedIn s false 0 (s.loopBlocks blocks)
    (∃ pins, FirstOccurrences asked pins ∧ pins.Nodup ∧
      p.setupLines = flags ++ known.flatMap BoardModule.setup ++
        (s.setupBlocks blocks).flatMap (Block.setupCode s) ++
        if asked = [] then []
        else "// Auto-generated GPIO Init" ::
          pins.map fun pin => s!"gpio_init({pin}); gpio_set_dir({pin}, GPIO_OUT);") ∧
    (∀ b ∈ s.setupBlocks blocks, b.drivenPin? = none) ∧
    p.loopLines = examples ++ loop.map (PlacedLine.text 0) ++ beats ∧
    (∀ q ∈ loop, q.DrivesReadyPin p.setupLines) ∧
    (∀ f ∈ p.functions, f.isLifted → ∃ d ∈ Block.live blocks, d.definedName? = some f.name ∧
      let body := Block.placedIn s true 0 d.inner
      f.body = functionBody (body.map (PlacedLine.text 0)) ∧
      ∀ q ∈ body, q.DrivesReadyPin p.setupLines) := by
  intro p known asked flags examples beats loop
  have setupLines := setupLines_generate s heartbeat projectName blocks modules
  have ready : gpioInitPart blocks ⊆ p.setupLines := by
    show _ ⊆ (Program.generate s heartbeat projectName blocks modules).setupLines
    rw [setupLines]
    exact List.subset_append_right _ _
  refine ⟨?_, ?_, ?_, ?_, ?_⟩
  · have kept := firstOccurrences_eraseDups asked
    rw [gpioInitPart_eq kept] at setupLines
    exact ⟨asked.eraseDups, kept, kept.nodup, setupLines⟩
  · intro b hb
    exact Block.drivenPin?_of_isSetup (List.mem_filter.mp hb).2
  · exact loopLines_eq_placed s heartbeat projectName blocks modules
  · exact Block.driveReadyPins_placedIn (fun _ => Snapshot.mem_walk_of_mem_live_loopBlocks) ready
  · intro f hf lifted
    obtain ⟨d, alive, own⟩ := exists_live_of_isLifted s heartbeat projectName hf lifted
    obtain ⟨defined, body⟩ := Block.routine?_eq_some own
    -- The converse fails: the walk also visits the bodies of definitions without a name, which the
    -- recursion passes over, and pins in there are set up but never driven.
    have reached : ∀ c ∈ Block.live d.inner, c ∈ walk blocks := fun _ =>
      Block.mem_walk_of_mem_live_inner alive defined
    exact ⟨d, alive, defined, body, Block.driveReadyPins_placedIn reached ready⟩

/-- A lamp in a conditional in a function, and two more in the loop: there are two pins, and that of
the function comes up first. -/
theorem guarded_lamp_is_set_up :
    let lamp (id : String) (pin : Int) : Block :=
      ⟨id, "gpio_set", [("pin", .integer pin), ("level", .integer 1)], []⟩
    let guard : Block :=
      ⟨"g", "if_condition", [("left", .string "x"), ("op", .string "<"), ("right", .integer 1)],
        [lamp "a" 25]⟩
    let blink : Block := ⟨"f", "function_def", [("name", .string "blink")], [guard]⟩
    let blocks := [blink, lamp "b" 7, lamp "c" 25]
    let p := Program.generate .bare defaultHeartbeat "demo" blocks []
    p.functions =
      [⟨"blink", ["if (x < 1) \x7b", "    gpio_put(25, 1);", "\x7d"], .block⟩] ∧
    p.loopLines = ["gpio_put(7, 1);", "gpio_put(25, 1);"] ∧
    p.setupLines = ["// Auto-generated GPIO Init", "gpio_init(25); gpio_set_dir(25, GPIO_OUT);",
      "gpio_init(7); gpio_set_dir(7, GPIO_OUT);"] ∧
    ∃ d ∈ Block.live blocks, d.definedName? = some "blink" ∧
      ∀ q ∈ Block.placedIn .bare true 0 d.inner, q.DrivesReadyPin p.setupLines := by
  intro lamp guard blink blocks p
  have functions : p.functions =
      [⟨"blink", ["if (x < 1) \x7b", "    gpio_put(25, 1);", "\x7d"], .block⟩] := by decide
  have asked : (walk blocks).filterMap Block.drivenPin? = ["25", "7", "25"] := by
    rw [walk_eq_preorder]
    decide
  obtain ⟨⟨pins, first, -, setup⟩, -, -, -, lifted⟩ :=
    driven_pins_are_set_up .bare defaultHeartbeat "demo" blocks []
  rw [asked] at first setup
  obtain rfl : pins = ["25", "7"] := first.eq_eraseDups
  refine ⟨functions, by decide, setup, ?_⟩
  obtain ⟨d, alive, defined, -, ready⟩ :=
    lifted ⟨"blink", _, .block⟩ (functions ▸ List.mem_singleton_self _) rfl
  exact ⟨d, alive, defined, ready⟩

end Blockware
