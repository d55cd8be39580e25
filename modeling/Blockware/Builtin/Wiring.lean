import Blockware.Block
import Blockware.Resource

/-!
# Configuration blocks

A configuration block sets up a peripheral before the main loop and claims the pins and the bus
instance that it sets up. Two of them configure a bus, which has a default instance and speed; the
other two configure one pin.

For each: its statements (`lines`) and what it claims (`claims`).
-/

namespace Blockware

/-- The pins among some slots, as claims. -/
def claimedPins (args : List Slot) : List Resource := args.filterMap fun a => a.pin?.map Resource.pin

/-- The speed of a bus that names none. -/
def defaultSpeed : String := "100000"

/-- An SPI configuration. -/
structure SpiConfig where
  /-- The bus instance. -/
  bus : String
  baud : Slot
  rx : Slot
  tx : Slot
  sck : Slot
  csn : Slot

namespace SpiConfig

/-- The instance that a slot names. -/
def busOf (inst : Slot) : String := inst.textOr "spi0"

/-- Reads a block. -/
def ofBlock (b : Block) : SpiConfig where
  bus := busOf (b.slot "inst")
  baud := b.slot "baud"
  rx := b.slot "rx"
  tx := b.slot "tx"
  sck := b.slot "sck"
  csn := b.slot "csn"

/-- The statements. -/
def lines (c : SpiConfig) : List String :=
  let csn := c.csn.text
  [s!"// SPI Config ({c.bus})",
    s!"spi_init({c.bus}, {c.baud.textOr defaultSpeed});",
    s!"gpio_set_function({c.rx.text}, GPIO_FUNC_SPI);",
    s!"gpio_set_function({c.sck.text}, GPIO_FUNC_SPI);",
    s!"gpio_set_function({c.tx.text}, GPIO_FUNC_SPI);",
    s!"gpio_init({csn});",
    s!"gpio_set_dir({csn}, GPIO_OUT);",
    s!"gpio_put({csn}, 1);"]

/-- The claims: four pins and the instance. -/
def claims (c : SpiConfig) : List Resource :=
  claimedPins [c.rx, c.csn, c.sck, c.tx] ++ [.bus c.bus]

end SpiConfig

/-- An I2C configuration. -/
structure I2cConfig where
  /-- The bus instance. -/
  bus : String
  baud : Slot
  sda : Slot
  scl : Slot

namespace I2cConfig

/-- The instance that a slot names. -/
def busOf (inst : Slot) : String := inst.textOr "i2c0"

/-- Reads a block. -/
def ofBlock (b : Block) : I2cConfig where
  bus := busOf (b.slot "inst")
  baud := b.slot "baud"
  sda := b.slot "sda"
  scl := b.slot "scl"

/-- The statements. -/
def lines (c : I2cConfig) : List String :=
  let sda := c.sda.text
  let scl := c.scl.text
  [s!"// I2C Config ({c.bus})",
    s!"i2c_init({c.bus}, {c.baud.textOr defaultSpeed});",
    s!"gpio_set_function({sda}, GPIO_FUNC_I2C);",
    s!"gpio_set_function({scl}, GPIO_FUNC_I2C);",
    s!"gpio_pull_up({sda});",
    s!"gpio_pull_up({scl});"]

/-- The claims: two pins and the instance. -/
def claims (c : I2cConfig) : List Resource := claimedPins [c.sda, c.scl] ++ [.bus c.bus]

end I2cConfig

namespace AdcConfig

/-- The statements for a pin. The converter itself is set up by the first of them that runs, which a
flag shared by all of them tells. -/
def lines (pin : Slot) : List String :=
  let pin := pin.text
  [s!"// ADC Config (Pin {pin})",
    "if (!adc_initialized) \x7b adc_init(); adc_initialized = true; \x7d",
    s!"adc_gpio_init({pin});"]

end AdcConfig

namespace PwmConfig

/-- The statements for a pin. -/
def lines (pin : Slot) : List String :=
  let pin := pin.text
  [s!"// PWM Config (Pin {pin})",
    s!"gpio_set_function({pin}, GPIO_FUNC_PWM);",
    s!"uint slice_{pin} = pwm_gpio_to_slice_num({pin});",
    s!"pwm_set_wrap(slice_{pin}, 65535);",
    s!"pwm_set_enabled(slice_{pin}, true);"]

end PwmConfig
end Blockware
