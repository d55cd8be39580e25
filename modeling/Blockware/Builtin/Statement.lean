import Blockware.Builtin.Wiring
import Blockware.Builtin.Flow
import Blockware.Text.Bytes
import Blockware.Text.Literal

/-!
# Statements of built-in blocks

- `Block.setupLinesAs`: the statements of a configuration block.
- `Block.loopLinesAs`: the statements of an action. Containers have none of their own here: their code
  is their body's.
- `Block.claims`: the resources that a block owns. Only configuration blocks and `gpio_set` own any;
  every other action uses what one of those has set up.
-/

namespace Blockware

/-- How many bytes a text has in UTF-8. -/
def byteLength (s : String) : Nat := Text.utf8Length s.toList

namespace Action

/-- Drives a pin. -/
def gpioSet (b : Block) : List String :=
  let pin := (b.slot "pin").text
  let level := (b.slot "level").text
  [s!"gpio_put({pin}, {level});"]

/-- Sets a pin up as an output. -/
def gpioInit (pin : String) : String := s!"gpio_init({pin}); gpio_set_dir({pin}, GPIO_OUT);"

/-- Waits. -/
def sleep (b : Block) : List String :=
  let ms := (b.slot "ms").text
  [s!"sleep_ms({ms});"]

/-- Sends a line of text to the serial line. -/
def uartWrite (b : Block) : List String :=
  let text := Text.literal (b.slot "text").text
  [s!"uart_puts(uart0, \"{text}\\n\");"]

/-- Prints a line of text. -/
def log (b : Block) : List String :=
  let text := Text.literal (b.slot "text").text
  [s!"printf(\"{text}\\n\");"]

/-- Writes bytes to an SPI device; the length counts the bytes of the text. -/
def spiWrite (b : Block) : List String :=
  let csn := (b.slot "csn").text
  let data := (b.slot "data").text
  let bus := SpiConfig.busOf (b.slot "inst")
  ["// SPI Write",
    s!"gpio_put({csn}, 0);",
    s!"spi_write_blocking({bus}, (const uint8_t*)\"{Text.literal data}\", {byteLength data});",
    s!"gpio_put({csn}, 1);"]

/-- Reads bytes from an SPI device. -/
def spiRead (b : Block) : List String :=
  let csn := (b.slot "csn").text
  let len := (b.slot "len").textOr "1"
  let bus := SpiConfig.busOf (b.slot "inst")
  ["// SPI Read",
    s!"uint8_t spi_rx_buf[{len}];",
    s!"gpio_put({csn}, 0);",
    s!"spi_read_blocking({bus}, 0, spi_rx_buf, {len});",
    s!"gpio_put({csn}, 1);",
    "printf(\"SPI Read: %02x\\n\", spi_rx_buf[0]);"]

/-- Writes bytes to an I2C device; the length counts the bytes of the text. -/
def i2cWrite (b : Block) : List String :=
  let addr := (b.slot "addr").text
  let data := (b.slot "data").text
  let bus := I2cConfig.busOf (b.slot "inst")
  ["// I2C Write",
    s!"i2c_write_blocking({bus}, {addr}, (const uint8_t*)\"{Text.literal data}\", " ++
      s!"{byteLength data}, false);"]

/-- Reads bytes from an I2C device. -/
def i2cRead (b : Block) : List String :=
  let addr := (b.slot "addr").text
  let len := (b.slot "len").textOr "1"
  let bus := I2cConfig.busOf (b.slot "inst")
  ["// I2C Read",
    s!"uint8_t i2c_rx_buf[{len}];",
    s!"i2c_read_blocking({bus}, {addr}, i2c_rx_buf, {len}, false);",
    "printf(\"I2C Read: %02x\\n\", i2c_rx_buf[0]);"]

/-- Measures a voltage. -/
def adcRead (b : Block) : List String :=
  let pin := (b.slot "pin").text
  ["// ADC Read",
    s!"adc_select_input({pin} - 26);",
    s!"uint16_t adc_val_{pin} = adc_read();",
    s!"printf(\"ADC (Pin {pin}): %d\\n\", adc_val_{pin});"]

/-- Sets the level of a pulse. -/
def pwmSet (b : Block) : List String :=
  let pin := (b.slot "pin").text
  let level := (b.slot "level").text
  ["// PWM Set Level",
    s!"pwm_set_gpio_level({pin}, {level}); // level 0-65535"]

/-- Calls a function, whether or not there is one of the name. -/
def functionCall (b : Block) : List String := [s!"{callTarget b}();"]

end Action

namespace Block

/-- The statements of a block read as a configuration block of a type. -/
def setupLinesAs (kind : Builtin) (b : Block) : List String :=
  match kind with
  | .spiConfig => (SpiConfig.ofBlock b).lines
  | .i2cConfig => (I2cConfig.ofBlock b).lines
  | .adcConfig => AdcConfig.lines (b.slot "pin")
  | .pwmConfig => PwmConfig.lines (b.slot "pin")
  | _ => []

/-- The statements of a block read as an action of a type. -/
def loopLinesAs (kind : Builtin) (b : Block) : List String :=
  match kind with
  | .gpioSet => Action.gpioSet b
  | .sleep => Action.sleep b
  | .uartWrite => Action.uartWrite b
  | .log => Action.log b
  | .spiWrite => Action.spiWrite b
  | .spiRead => Action.spiRead b
  | .i2cWrite => Action.i2cWrite b
  | .i2cRead => Action.i2cRead b
  | .adcRead => Action.adcRead b
  | .pwmSet => Action.pwmSet b
  | .functionCall => Action.functionCall b
  | _ => []

/-- The resources of which a block claims to be the only owner. -/
def claims (b : Block) : List Resource :=
  match b.builtin? with
  | some .spiConfig => (SpiConfig.ofBlock b).claims
  | some .i2cConfig => (I2cConfig.ofBlock b).claims
  | some .adcConfig => claimedPins [b.slot "pin"]
  | some .pwmConfig => claimedPins [b.slot "pin"]
  | some .gpioSet => claimedPins [b.slot "pin"]
  | _ => []

end Block
end Blockware
