import Blockware.Json.Reader

/-!
# Hardware resources

What only one block may own: a pin of the board or an instance of a bus.

- `Resource`, `Resource.display`: a resource and its name for the user.
- `Resource.before`: the order of resources, pins first by number and then instances by name.
- `Board`: which pins there are and what they can do.
-/

namespace Blockware

/-- A resource that a block may claim. -/
inductive Resource where
  /-- A pin by its number. -/
  | pin (n : Nat)
  /-- An instance of a bus by its name. -/
  | bus (name : String)
  deriving DecidableEq

namespace Resource

/-- The name of a resource as the user reads it. -/
def display : Resource → String
  | .pin n => s!"GP{n}"
  | .bus name => name

/-- Whether a resource comes before another one. -/
def before : Resource → Resource → Bool
  | .pin m, .pin n => m < n
  | .pin _, .bus _ => true
  | .bus _, .pin _ => false
  | .bus a, .bus b => a < b

/-- The resource as JSON. -/
def toJson : Resource → Json
  | .pin n => .int n
  | .bus name => .str name

/-- The resource as the name of a member of a JSON object. -/
def toKey : Resource → String
  | .pin n => toString n
  | .bus name => name

/-- Reads a resource: a whole number of 32 bits is a pin, a string an instance. -/
def read (n : Json.Node) : Except Json.Fault Resource := do
  match ← n.toJson with
  | .int i =>
    if 0 ≤ i ∧ i < 2 ^ 32 then return .pin i.toNat
    else .error ⟨.noVariant "ResourceId", none⟩
  | .str s => return .bus s
  | _ => .error ⟨.noVariant "ResourceId", none⟩

end Resource

namespace Board

/-- The highest pin of the board. -/
def lastPin : Nat := 29

/-- The pins that can measure a voltage. -/
def adcPins : List Nat := [26, 27, 28]

/-- The pins that can take each role of an SPI instance. -/
structure SpiPins where
  rx : List Nat
  tx : List Nat
  sck : List Nat
  csn : List Nat

/-- The pins of an SPI instance. -/
def spiPins? (bus : String) : Option SpiPins :=
  match bus with
  | "spi0" => some ⟨[0, 4, 16, 20], [3, 7, 19, 23], [2, 6, 18, 22], [1, 5, 17, 21]⟩
  | "spi1" => some ⟨[8, 12], [11, 15], [10, 14], [9, 13]⟩
  | _ => none

/-- The pins that can take each role of an I2C instance. -/
structure I2cPins where
  sda : List Nat
  scl : List Nat

/-- The pins of an I2C instance. -/
def i2cPins? (bus : String) : Option I2cPins :=
  match bus with
  | "i2c0" => some ⟨[0, 4, 8, 12, 16, 20], [1, 5, 9, 13, 17, 21]⟩
  | "i2c1" => some ⟨[2, 6, 10, 14, 18, 26], [3, 7, 11, 15, 19, 27]⟩
  | _ => none

end Board
end Blockware
