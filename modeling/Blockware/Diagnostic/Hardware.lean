import Blockware.Diagnostic

/-!
# Diagnostics on hardware

- `pinDiagnostics`: pins that the board does not have, or that cannot measure.
- `routingDiagnostics`: bus pins that cannot take their role, and bus instances that do not exist.
- `speedDiagnostics`: bus speeds that the hardware cannot reach.
- `unconfiguredDiagnostics`: actions on hardware that no top-level block configures.

Only a value that is a number can be wrong: a name stands for something that is not known here.
-/

namespace Blockware

/-- The slots of a built-in type that name pins. -/
def Builtin.pinSlots : Builtin → List String
  | .spiConfig => ["rx", "tx", "sck", "csn"]
  | .i2cConfig => ["sda", "scl"]
  | .adcConfig => ["pin"]
  | .pwmConfig => ["pin"]
  | .gpioSet => ["pin"]
  | .adcRead => ["pin"]
  | .pwmSet => ["pin"]
  | .spiWrite => ["csn"]
  | .spiRead => ["csn"]
  | _ => []

/-- Whether the pins of a built-in type must be able to measure. -/
def Builtin.isMeasuring : Builtin → Bool
  | .adcConfig => true
  | .adcRead => true
  | _ => false

/-- What is wrong with a pin in a slot of a built-in type. -/
def slotFindings (kind : Builtin) (slot : String) (pin : Int) : List Finding :=
  if pin < 0 ∨ Board.lastPin < pin then [.pinOffBoard slot pin]
  else if kind.isMeasuring && !Board.adcPins.contains pin.toNat then [.noAdcInput pin]
  else []

namespace Block

/-- What is wrong with the pins of a block. -/
def pinFindings (b : Block) : List Finding :=
  match b.builtin? with
  | none => []
  | some kind => kind.pinSlots.flatMap fun slot =>
    match (b.params.get? slot).bind Param.integer? with
    | none => []
    | some pin => slotFindings kind slot pin

end Block

/-- What is wrong with the pins of a program. -/
def pinDiagnostics (blocks : List Block) : List Diagnostic :=
  (walk blocks).flatMap fun b => b.pinFindings.map (.about b)

/-! ### Buses -/

/-- What is wrong with a slot as the pin of a role that only some pins can take. -/
def roleFindings (bus role : String) (slot : Slot) (allowed : List Nat) : List Finding :=
  match slot.pin? with
  | none => []
  | some pin => if allowed.contains pin then [] else [.wrongRole pin role bus]

/-- What is wrong with the pins of an SPI configuration on its instance. -/
def SpiConfig.routingFindings (c : SpiConfig) : List Finding :=
  match Board.spiPins? c.bus with
  | none => [.unknownBus .spi c.bus]
  | some pins =>
    roleFindings c.bus "RX" c.rx pins.rx ++ roleFindings c.bus "TX" c.tx pins.tx ++
      roleFindings c.bus "SCK" c.sck pins.sck ++ roleFindings c.bus "CSn" c.csn pins.csn

/-- What is wrong with the pins of an I2C configuration on its instance. -/
def I2cConfig.routingFindings (c : I2cConfig) : List Finding :=
  match Board.i2cPins? c.bus with
  | none => [.unknownBus .i2c c.bus]
  | some pins =>
    roleFindings c.bus "SDA" c.sda pins.sda ++ roleFindings c.bus "SCL" c.scl pins.scl

/-- The speed that a slot gives as a number above `bound` or not above zero. -/
def badSpeed? (baud : Slot) (bound : Nat) : Option Binary64.Extended :=
  (baud.value.bind Param.numeral?).filter fun x => x.leInt 0 || x.gtInt bound

/-- What is wrong with the speed of an SPI configuration. -/
def SpiConfig.speedFindings (c : SpiConfig) : List Finding :=
  ((badSpeed? c.baud SpiConfig.maxBaud).map .spiSpeed).toList

/-- What is wrong with the speed of an I2C configuration. -/
def I2cConfig.speedFindings (c : I2cConfig) : List Finding :=
  ((badSpeed? c.baud I2cConfig.maxBaud).map .i2cSpeed).toList

namespace Block

/-- What is wrong with the pins of a bus configuration. -/
def routingFindings (b : Block) : List Finding :=
  match b.builtin? with
  | some .spiConfig => (SpiConfig.ofBlock b).routingFindings
  | some .i2cConfig => (I2cConfig.ofBlock b).routingFindings
  | _ => []

/-- What is wrong with the speed of a bus configuration. -/
def speedFindings (b : Block) : List Finding :=
  match b.builtin? with
  | some .spiConfig => (SpiConfig.ofBlock b).speedFindings
  | some .i2cConfig => (I2cConfig.ofBlock b).speedFindings
  | _ => []

/-- The unit that a configuration block sets up. -/
def configuredUnit? (b : Block) : Option HardwareUnit :=
  match b.builtin? with
  | some .spiConfig => some ⟨.spi, some (SpiConfig.ofBlock b).bus⟩
  | some .i2cConfig => some ⟨.i2c, some (I2cConfig.ofBlock b).bus⟩
  | some .adcConfig => some ⟨.adc, none⟩
  | some .pwmConfig => some ⟨.pwm, none⟩
  | _ => none

/-- The unit that an action needs to be set up. -/
def usedUnit? (b : Block) : Option HardwareUnit :=
  match b.builtin? with
  | some .spiWrite => some ⟨.spi, some (SpiConfig.busOf (b.slot "inst"))⟩
  | some .spiRead => some ⟨.spi, some (SpiConfig.busOf (b.slot "inst"))⟩
  | some .i2cWrite => some ⟨.i2c, some (I2cConfig.busOf (b.slot "inst"))⟩
  | some .i2cRead => some ⟨.i2c, some (I2cConfig.busOf (b.slot "inst"))⟩
  | some .adcRead => some ⟨.adc, none⟩
  | some .pwmSet => some ⟨.pwm, none⟩
  | _ => none

end Block

/-- What is wrong with the bus pins of top-level blocks. -/
def routingDiagnostics (blocks : List Block) : List Diagnostic :=
  blocks.flatMap fun b => b.routingFindings.map (.about b)

/-- What is wrong with the bus speeds of top-level blocks. -/
def speedDiagnostics (blocks : List Block) : List Diagnostic :=
  blocks.flatMap fun b => b.speedFindings.map (.about b)

/-- The units that top-level blocks set up. -/
def configuredUnits (blocks : List Block) : List HardwareUnit :=
  blocks.filterMap Block.configuredUnit?

/-- The unit that an action needs and that is not among the ones set up. -/
def unconfiguredUnit? (configured : List HardwareUnit) (b : Block) : Option HardwareUnit :=
  b.usedUnit?.filter fun u => !configured.contains u

/-- The actions of a program on hardware that nothing sets up. -/
def unconfiguredDiagnostics (blocks : List Block) : List Diagnostic :=
  let configured := configuredUnits blocks
  (walk blocks).filterMap fun b =>
    (unconfiguredUnit? configured b).map fun u => .about b (.unconfigured b.type u)

end Blockware
