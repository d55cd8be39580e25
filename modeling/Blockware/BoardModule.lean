import Blockware.Text.LowerCase

/-!
# Board modules

Before programs were built from blocks, a project was a list of module names. Each known module still
brings fixed code: headers, statements that run once, functions those statements refer to, and
statements of an example loop, which only a program without blocks shows.

- `BoardModule.ofName?`: the module of a name in any case.
- `BoardModule.library`: the library of a name, known or not.
-/

namespace Blockware

/-- A known module. -/
inductive BoardModule where
  | adc
  | pwm
  | gpio
  | i2c
  | spi
  | uart
  | multicore
  deriving DecidableEq

namespace BoardModule

/-- All modules. -/
def all : List BoardModule := [.adc, .pwm, .gpio, .i2c, .spi, .uart, .multicore]

/-- The module's name, in lower case. -/
def name : BoardModule → String
  | .adc => "adc"
  | .pwm => "pwm"
  | .gpio => "gpio"
  | .i2c => "i2c"
  | .spi => "spi"
  | .uart => "uart"
  | .multicore => "multicore"

/-- The module of a name in any case. -/
def ofName? (name : String) : Option BoardModule :=
  let lower := Text.lowerCase name
  all.find? fun m => m.name == lower

/-- The lines that include the module's headers. -/
def headers : BoardModule → List String
  | .adc => ["#include \"hardware/adc.h\""]
  | .pwm => ["#include \"hardware/pwm.h\""]
  | .gpio => ["#include \"hardware/gpio.h\""]
  | .i2c => ["#include \"hardware/i2c.h\""]
  | .spi => ["#include \"hardware/spi.h\""]
  | .uart => ["#include \"hardware/uart.h\""]
  | .multicore => ["#include \"pico/multicore.h\""]

/-- The statements that run once. -/
def setup : BoardModule → List String
  | .adc => [
      "// ADC Initialization",
      "adc_init();",
      "// Make sure GPIO is high-impedance, no pullups etc",
      "adc_gpio_init(26);",
      "// Select ADC input 0 (GPIO26)",
      "adc_select_input(0);"]
  | .pwm => [
      "// PWM Initialization",
      "gpio_set_function(PICO_DEFAULT_LED_PIN, GPIO_FUNC_PWM);",
      "uint slice_num = pwm_gpio_to_slice_num(PICO_DEFAULT_LED_PIN);",
      "pwm_set_wrap(slice_num, 3);",
      "pwm_set_chan_level(slice_num, PWM_CHAN_A, 1);",
      "pwm_set_enabled(slice_num, true);"]
  | .gpio => [
      "// GPIO Initialization",
      "const uint LED_PIN = PICO_DEFAULT_LED_PIN;",
      "gpio_init(LED_PIN);",
      "gpio_set_dir(LED_PIN, GPIO_OUT);"]
  | .i2c => [
      "// I2C Initialization",
      "i2c_init(i2c_default, 100 * 1000);",
      "gpio_set_function(PICO_DEFAULT_I2C_SDA_PIN, GPIO_FUNC_I2C);",
      "gpio_set_function(PICO_DEFAULT_I2C_SCL_PIN, GPIO_FUNC_I2C);",
      "gpio_pull_up(PICO_DEFAULT_I2C_SDA_PIN);",
      "gpio_pull_up(PICO_DEFAULT_I2C_SCL_PIN);"]
  | .spi => [
      "// SPI Initialization",
      "spi_init(spi_default, 500 * 1000);",
      "gpio_set_function(PICO_DEFAULT_SPI_RX_PIN, GPIO_FUNC_SPI);",
      "gpio_set_function(PICO_DEFAULT_SPI_SCK_PIN, GPIO_FUNC_SPI);",
      "gpio_set_function(PICO_DEFAULT_SPI_TX_PIN, GPIO_FUNC_SPI);",
      "// Chip select is active-low, so initialised to high",
      "gpio_init(PICO_DEFAULT_SPI_CSN_PIN);",
      "gpio_set_dir(PICO_DEFAULT_SPI_CSN_PIN, GPIO_OUT);",
      "gpio_put(PICO_DEFAULT_SPI_CSN_PIN, 1);"]
  | .uart => [
      "// UART Initialization",
      "uart_init(uart0, 115200);",
      "gpio_set_function(0, GPIO_FUNC_UART);",
      "gpio_set_function(1, GPIO_FUNC_UART);",
      "uart_puts(uart0, \"UART initialized\\n\");"]
  | .multicore => [
      "// Multicore Initialization",
      "multicore_launch_core1(core1_entry);",
      "printf(\"Core 1 launched\\n\");"]

/-- The statements of the example loop. -/
def exampleLoop : BoardModule → List String
  | .adc => [
      "// ADC Example reading",
      "// uint16_t result = adc_read();",
      "// printf(\"ADC value: %d\\n\", result);"]
  | .pwm => [
      "// PWM Example update",
      "// pwm_set_chan_level(slice_num, PWM_CHAN_A, 2);"]
  | .gpio => [
      "// GPIO Blink",
      "gpio_put(LED_PIN, 1);",
      "sleep_ms(250);",
      "gpio_put(LED_PIN, 0);",
      "sleep_ms(250);"]
  | .uart => [
      "// UART Example",
      "// if (uart_is_readable(uart0)) \x7b",
      "//     char c = uart_getc(uart0);",
      "//     uart_putc(uart0, c);",
      "// \x7d"]
  | .i2c => []
  | .spi => []
  | .multicore => []

/-- The functions that the setup statements refer to: name and body. -/
def functions : BoardModule → List (String × List String)
  | .multicore => [("core1_entry", ["while (1) \x7b", "    sleep_ms(500);", "\x7d"])]
  | _ => []

/-- The library of a module name, known or not: one exception to a convention. -/
def library (name : String) : String :=
  let lower := Text.lowerCase name
  if lower = multicore.name then "pico_multicore" else "hardware_" ++ lower

end BoardModule

/-- The known modules among some names. -/
def knownModules (names : List String) : List BoardModule := names.filterMap BoardModule.ofName?

end Blockware
