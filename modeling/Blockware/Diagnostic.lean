import Blockware.Builtin.Wiring
import Blockware.Definition

/-!
# Diagnostics

What the user should hear about a program. A diagnostic never stops the generation.

- `HardwareUnit`: what a configuration block sets up and an action uses.
- `Finding`: what is found, with its wording (`Finding.message`), what to do about it
  (`Finding.suggestion?`), and whether the program cannot be right as it is (`Finding.isError`).
- `Diagnostic`: a finding with the block that it is about.
-/

namespace Blockware

/-- A hardware unit that must be set up before it is used: an instance of a bus, or the whole of a
family that has no instances. -/
structure HardwareUnit where
  family : Peripheral
  bus : Option String
  deriving DecidableEq

/-- The name of a unit as the user reads it. -/
def HardwareUnit.display (u : HardwareUnit) : String := u.bus.getD u.family.title

/-- The fastest clock of an SPI bus, in hertz: half of the system clock. -/
def SpiConfig.maxBaud : Nat := 62500000

/-- The fastest clock of an I2C bus, in hertz. -/
def I2cConfig.maxBaud : Nat := 1000000

/-- Something about a program that the user should know. -/
inductive Finding where
  | duplicateId (id : String)
  | unknownType (type : String)
  /-- A definition for the loop has code that would run once. -/
  | unusedSetup (definition : String)
  /-- A block that is no container has a body. -/
  | ignoredBody (type : String)
  /-- A setup block stands in a body. -/
  | nestedSetup (type : String)
  | pinOffBoard (slot : String) (pin : Int)
  | noAdcInput (pin : Int)
  | wrongRole (pin : Nat) (role bus : String)
  | unknownBus (family : Peripheral) (bus : String)
  | spiSpeed (baud : Binary64.Extended)
  | i2cSpeed (baud : Binary64.Extended)
  | unconfigured (type : String) (unit : HardwareUnit)
  | unnamedFunction
  | badFunctionName (name : String)
  | repeatedFunction (name : String)
  | undefinedFunction (name : String)
  | unsupportedComparison (op : String)
  | missingOperand
  /-- A parameter does not fit the inputs of a definition. -/
  | input (finding : InputFinding)
  | unknownModule (name : String)
  deriving DecidableEq

namespace Finding

/-- Whether the program cannot be right as it is. -/
def isError : Finding → Bool
  | .duplicateId _ => true
  | .pinOffBoard .. => true
  | .noAdcInput _ => true
  | .spiSpeed _ => true
  | .i2cSpeed _ => true
  | .badFunctionName _ => true
  | .undefinedFunction _ => true
  | .input finding => finding.isError
  | _ => false

/-- The wording. -/
def message : Finding → String
  | .duplicateId id => s!"Duplicate block id '{id}'"
  | .unknownType type => s!"Unknown block type '{type}'"
  | .unusedSetup definition => s!"Setup template of loop block '{definition}' is never emitted"
  | .ignoredBody type => s!"'{type}' cannot contain other blocks; its body is ignored"
  | .nestedSetup type => s!"Setup block '{type}' inside a body is ignored"
  | .pinOffBoard slot pin => s!"'{slot}' pin {pin} is outside GPIO 0-{Board.lastPin}"
  | .noAdcInput pin => s!"GPIO {pin} has no ADC input"
  | .wrongRole pin role bus => s!"GPIO {pin} cannot be {role} of {bus}"
  | .unknownBus family bus => s!"Unknown {family.title} instance '{bus}'"
  | .spiSpeed baud =>
    s!"SPI speed {baud.display} must be between 1 and {SpiConfig.maxBaud} Hz"
  | .i2cSpeed baud =>
    s!"I2C speed {baud.display} must be positive and at most {I2cConfig.maxBaud} Hz"
  | .unconfigured type unit => s!"'{type}' uses {unit.display} but nothing configures it"
  | .unnamedFunction => "Function without a name is skipped"
  | .badFunctionName name => s!"'{name}' is not a valid function name"
  | .repeatedFunction name =>
    s!"Function '{name}' is defined more than once; the last definition wins"
  | .undefinedFunction name => s!"Call to undefined function '{name}'"
  | .unsupportedComparison op => s!"Unsupported comparison '{op}'"
  | .missingOperand => "Condition is missing an operand"
  | .input finding => finding.message
  | .unknownModule name => s!"Unknown module '{name}' contributes no code"

/-- What the user can do about it. -/
def suggestion? : Finding → Option String
  | .duplicateId _ => some "Give every block its own id"
  | .unknownType _ => some "Check the custom block catalog or remove the block"
  | .unusedSetup _ => some "Move the setup code to a setup-category block"
  | .nestedSetup _ => some "Move configuration blocks to the top level"
  | .noAdcInput _ => some "Use GPIO 26, 27 or 28"
  | .unknownBus family _ => some s!"Use {family.stem}0 or {family.stem}1"
  | .spiSpeed _ => some "SPI tops out at half the 125 MHz system clock"
  | .i2cSpeed _ => some "Use 100000, 400000 or 1000000"
  | .unconfigured _ unit => some s!"Add a {unit.family.config.typeName} block"
  | .unnamedFunction => some "Name the function"
  | .badFunctionName _ => some "Use letters, digits and underscores, not starting with a digit"
  | .undefinedFunction _ => some "Add a function_def block with this name"
  | .unsupportedComparison _ => some "Use ==, !=, <, <=, > or >="
  | .ignoredBody _ => none
  | .pinOffBoard .. => none
  | .wrongRole .. => none
  | .repeatedFunction _ => none
  | .missingOperand => none
  | .input _ => none
  | .unknownModule _ => none

end Finding

/-- A finding with the id of the block that it is about. -/
structure Diagnostic where
  block : Option String
  finding : Finding
  deriving DecidableEq

namespace Diagnostic

/-- A finding about a block. -/
def about (b : Block) (finding : Finding) : Diagnostic := ⟨some b.id, finding⟩

/-- Whether it is an error. -/
def isError (d : Diagnostic) : Bool := d.finding.isError

/-- The diagnostic as JSON. -/
def toJson (d : Diagnostic) : Json :=
  .obj (Json.optionalMember "block_id" (d.block.map .str) ++ [("message", .str d.finding.message)] ++
    Json.optionalMember "suggestion" (d.finding.suggestion?.map .str))

end Diagnostic

end Blockware
