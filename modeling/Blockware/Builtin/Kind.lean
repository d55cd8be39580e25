/-!
# The kinds of built-in blocks

A program has a part that runs once and a part that repeats; every block type belongs to one of them.
This module holds the names: what the built-in types are called, which part they belong to, which
peripheral of the board they drive, and which libraries their code needs.

- `Category`: the part of the program, by the naming convention for types (`Category.ofTypeName`).
- `Peripheral`: the four families that a type name announces by its first letters.
- `Builtin`: the seventeen built-in types; `Builtin.ofType?` finds the one of a name.
-/

namespace Blockware

/-- The part of the program that a block belongs to. -/
inductive Category where
  /-- Runs once, before the main loop. -/
  | setup
  /-- Runs in every round of the main loop. -/
  | loop
  deriving DecidableEq

namespace Category

/-- The end of a type name that marks a setup block. -/
def setupEnding : String := "_config"

/-- The category that a type name implies. -/
def ofTypeName (type : String) : Category :=
  if setupEnding.toList.isSuffixOf type.toList then .setup else .loop

/-- The name as a person reads it. -/
def display : Category → String
  | .setup => "Setup"
  | .loop => "Loop"

/-- The name in stored data. -/
def tag : Category → String
  | .setup => "setup"
  | .loop => "loop"

/-- The categories by their names in stored data. -/
def known : List (String × Category) := [("setup", .setup), ("loop", .loop)]

end Category

/-- A built-in block type. -/
inductive Builtin where
  | spiConfig
  | i2cConfig
  | adcConfig
  | pwmConfig
  | gpioSet
  | sleep
  | uartWrite
  | log
  | spiWrite
  | spiRead
  | i2cWrite
  | i2cRead
  | adcRead
  | pwmSet
  | functionDef
  | functionCall
  | ifCondition
  deriving DecidableEq

/-- A family of hardware units on the board. -/
inductive Peripheral where
  | spi
  | i2c
  | adc
  | pwm
  deriving DecidableEq

namespace Peripheral

/-- All families. -/
def all : List Peripheral := [.spi, .i2c, .adc, .pwm]

/-- The letters with which type names of the family begin. -/
def stem : Peripheral → String
  | .spi => "spi"
  | .i2c => "i2c"
  | .adc => "adc"
  | .pwm => "pwm"

/-- The stem in capitals. -/
def title : Peripheral → String
  | .spi => "SPI"
  | .i2c => "I2C"
  | .adc => "ADC"
  | .pwm => "PWM"

/-- The family that a type name announces, be the type known or not. -/
def ofType? (type : String) : Option Peripheral :=
  all.find? fun p => p.stem.toList.isPrefixOf type.toList

/-- The line that includes the header of the family. -/
def header : Peripheral → String
  | .spi => "#include \"hardware/spi.h\""
  | .i2c => "#include \"hardware/i2c.h\""
  | .adc => "#include \"hardware/adc.h\""
  | .pwm => "#include \"hardware/pwm.h\""

/-- The library of the family. -/
def library : Peripheral → String
  | .spi => "hardware_spi"
  | .i2c => "hardware_i2c"
  | .adc => "hardware_adc"
  | .pwm => "hardware_pwm"

/-- The declaration of a flag by which the family's setup code knows whether it has run. -/
def flag? : Peripheral → Option String
  | .adc => some "bool adc_initialized = false;"
  | _ => none

/-- The built-in type that configures the family. -/
def config : Peripheral → Builtin
  | .spi => .spiConfig
  | .i2c => .i2cConfig
  | .adc => .adcConfig
  | .pwm => .pwmConfig

end Peripheral

namespace Builtin

/-- All built-in types, in the order in which they are listed to the user. -/
def all : List Builtin :=
  [.spiConfig, .i2cConfig, .adcConfig, .pwmConfig, .gpioSet, .sleep, .uartWrite, .log, .spiWrite,
    .spiRead, .i2cWrite, .i2cRead, .adcRead, .pwmSet, .functionDef, .functionCall, .ifCondition]

/-- The type's name in a program. -/
def typeName : Builtin → String
  | .spiConfig => "spi_config"
  | .i2cConfig => "i2c_config"
  | .adcConfig => "adc_config"
  | .pwmConfig => "pwm_config"
  | .gpioSet => "gpio_set"
  | .sleep => "sleep"
  | .uartWrite => "uart_write"
  | .log => "log"
  | .spiWrite => "spi_write"
  | .spiRead => "spi_read"
  | .i2cWrite => "i2c_write"
  | .i2cRead => "i2c_read"
  | .adcRead => "adc_read"
  | .pwmSet => "pwm_set"
  | .functionDef => "function_def"
  | .functionCall => "function_call"
  | .ifCondition => "if_condition"

/-- The built-in type of a name. -/
def ofType? (type : String) : Option Builtin := all.find? fun k => k.typeName == type

/-- The name as the user reads it. -/
def label : Builtin → String
  | .spiConfig => "SPI Config"
  | .i2cConfig => "I2C Config"
  | .adcConfig => "ADC Config"
  | .pwmConfig => "PWM Config"
  | .gpioSet => "Set GPIO"
  | .sleep => "Sleep"
  | .uartWrite => "UART Write"
  | .log => "Log"
  | .spiWrite => "SPI Write"
  | .spiRead => "SPI Read"
  | .i2cWrite => "I2C Write"
  | .i2cRead => "I2C Read"
  | .adcRead => "ADC Read"
  | .pwmSet => "PWM Set Level"
  | .functionDef => "Define Function"
  | .functionCall => "Call Function"
  | .ifCondition => "If"

/-- The category, by the naming convention. -/
def category (k : Builtin) : Category := Category.ofTypeName k.typeName

/-- Whether blocks of the type have a body of which code is generated. -/
def takesBody : Builtin → Bool
  | .functionDef => true
  | .ifCondition => true
  | _ => false

/-- The libraries that the code of the type links against. -/
def libraries (k : Builtin) : List String :=
  ((Peripheral.ofType? k.typeName).map Peripheral.library).toList ++
    match k with
    | .gpioSet => ["hardware_gpio"]
    | .uartWrite => ["hardware_uart"]
    | _ => []

theorem ofType?_typeName (k : Builtin) : ofType? k.typeName = some k := by
  cases k <;> decide

theorem typeName_of_ofType? {type : String} {k : Builtin} (h : ofType? type = some k) :
    k.typeName = type := by
  simpa using List.find?_some h

end Builtin
end Blockware
