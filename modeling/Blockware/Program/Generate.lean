import Blockware.BoardModule
import Blockware.Program.Emission

/-!
# Generating a program

The program of some blocks and modules against a snapshot. Top-level blocks fall into setup and loop by
their category and keep their order within each.

- `Program.generate`: the program.
- `programHeaders`, `setupPart`, `loopPart`: its parts.
- `Block.preview?`: what a single block generates.
-/

namespace Blockware

/-- How long the idle loop waits where nothing else is said. -/
def defaultHeartbeat : Nat := 1000

/-- The statement of a loop that has nothing else to do. -/
def idleStatement (ms : Nat) : String := s!"sleep_ms({ms}); // Heartbeat"

/-- The functions that modules bring. -/
def moduleFunctions (modules : List BoardModule) : List Routine :=
  modules.flatMap fun m => m.functions.map fun f => ⟨f.1, f.2, .module⟩

namespace Snapshot

/-- Whether a block belongs to the part that runs once. -/
def isSetup (s : Snapshot) (b : Block) : Bool := s.categoryOfType b.type = .setup

/-- The top-level blocks that run once. -/
def setupBlocks (s : Snapshot) (blocks : List Block) : List Block := blocks.filter s.isSetup

/-- The top-level blocks of the loop. -/
def loopBlocks (s : Snapshot) (blocks : List Block) : List Block := blocks.filter fun b => !s.isSetup b

/-- The header lines of the definition that a type means. -/
def customHeaders (s : Snapshot) (type : String) : List String :=
  match s.contract? type with
  | some (.custom d) => d.headerLines
  | _ => []

/-- Whether a type is that of a definition of a function. -/
def isFunctionDef (s : Snapshot) (type : String) : Bool :=
  match s.contract? type with
  | some (.builtin .functionDef) => true
  | _ => false

end Snapshot

/-- The header lines: of the modules, of the peripherals, and of the definitions, each line once. -/
def programHeaders (s : Snapshot) (blocks : List Block) (modules : List BoardModule) : List String :=
  let all := walk blocks
  (modules.flatMap BoardModule.headers ++
    (all.filterMap fun b => (Peripheral.ofType? b.type).map Peripheral.header) ++
    all.flatMap fun b => s.customHeaders b.type).eraseDups

/-- The flag that a configuration block relies on. -/
def Block.flag? (b : Block) : Option String := do
  let kind ← b.builtin?
  let p ← Peripheral.ofType? b.type
  if p.config = kind then p.flag? else none

/-- The texts of the pins that a program drives, each once. -/
def drivenPins (blocks : List Block) : List String :=
  ((walk blocks).filterMap fun b =>
    if b.builtin? = some .gpioSet && (b.slot "pin").isPresent then some (b.slot "pin").text
    else none).eraseDups

/-- The statements that set up the driven pins as outputs. -/
def gpioInitPart (blocks : List Block) : List String :=
  let pins := drivenPins blocks
  if pins.isEmpty then [] else "// Auto-generated GPIO Init" :: pins.map Action.gpioInit

/-- The statements that run once: flags, modules, blocks, and the driven pins. -/
def setupPart (s : Snapshot) (blocks : List Block) (modules : List BoardModule) : List String :=
  let setup := s.setupBlocks blocks
  (setup.filterMap Block.flag?).eraseDups ++ modules.flatMap BoardModule.setup ++
    setup.flatMap (Block.setupCode s) ++ gpioInitPart blocks

/-- The statements of the loop, given what its blocks emit: the modules' examples if there are no
blocks at all, the lines of the blocks, and the heartbeat if every block of the loop only defines a
function. -/
def loopPart (s : Snapshot) (heartbeat : Nat) (blocks : List Block) (modules : List BoardModule)
    (emission : Emission) : List String :=
  (if blocks.isEmpty then modules.flatMap BoardModule.exampleLoop else []) ++ emission.lines ++
    if (s.loopBlocks blocks).all fun b => s.isFunctionDef b.type then [idleStatement heartbeat] else []

/-- The program of some blocks and modules. -/
def Program.generate (s : Snapshot) (heartbeat : Nat) (projectName : String) (blocks : List Block)
    (modules : List String) : Program :=
  let known := knownModules modules
  let emission := Block.emitAll s false (s.loopBlocks blocks)
  { projectName := projectName
    headers := programHeaders s blocks known
    functions := Routine.collect (moduleFunctions known ++ emission.functions)
    setupLines := setupPart s blocks known
    loopLines := loopPart s heartbeat blocks known emission
    hasBlocks := !blocks.isEmpty }

/-- Lines as one text; nothing for no lines. -/
def joinLines? (lines : List String) : Option String :=
  if lines.isEmpty then none else some ("\n".intercalate lines)

/-- What a single block generates; nothing for an unknown type. A definition shows its templates
filled in, a built-in block its statements and the functions lifted out of it. -/
def Block.preview? (s : Snapshot) (b : Block) : Option Preview :=
  match s.contract? b.type with
  | none => none
  | some (.custom d) => some (d.preview b.params)
  | some (.builtin kind) =>
    let headers := ((Peripheral.ofType? b.type).map Peripheral.header).toList
    let (setup, code) :=
      match kind.category with
      | .setup => (b.setupCode s, [])
      | .loop =>
        let emission := Block.emitAll s false [b]
        let functions := Routine.collect emission.functions
        ([], emission.lines ++ functions.flatMap fun f => Text.lines f.text)
    some { headers, setup := joinLines? setup, code := joinLines? code, libraries := kind.libraries }

end Blockware
