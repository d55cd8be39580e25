import Blockware.Json.Printer
import Blockware.Json.Reader

/-!
# Parameters

The values that the user enters into a block, and how they read as C source text.

- `Param`: a value. A whole number that 64 bits hold with a sign stays whole, every other number is a
  double.
- `Param.display`: the text of a value in a program.
- `Param.number?`, `Param.integer?`, `Param.isUnset`: the value as a number, and as "not set".
- `Param.toJson`, `Param.ofJson`: the value in stored data.
- `Params`, `Slot`: the parameters of a block, and the slot of one of them. A slot always has a text, so
  a half-filled block still has code.
-/

namespace Blockware

/-- A parameter value. The entries of an object stand in key order. -/
inductive Param where
  | integer (n : Int)
  | number (x : Binary64)
  | string (s : String)
  | boolean (b : Bool)
  | array (items : List Param)
  | object (members : List (String × Param))
  | null
  deriving Inhabited, BEq

/-- The parameters of a block. -/
abbrev Params := Dict Param

namespace Param

/-- The largest whole number that 64 bits hold with a sign. -/
def maxInteger : Int := 2 ^ 63 - 1

/-- The least whole number that 64 bits hold with a sign. -/
def minInteger : Int := -2 ^ 63

/-! ### Stored data -/

mutual

/-- The value as JSON. -/
def toJson : Param → Json
  | .integer n => .int n
  | .number x => .float x
  | .string s => .str s
  | .boolean b => .bool b
  | .array items => .arr (itemsToJson items)
  | .object members => .obj (membersToJson members)
  | .null => .null

/-- The items of an array as JSON. -/
def itemsToJson : List Param → List Json
  | [] => []
  | p :: rest => toJson p :: itemsToJson rest

/-- The entries of an object as JSON. -/
def membersToJson : List (String × Param) → List (String × Json)
  | [] => []
  | (name, p) :: rest => (name, toJson p) :: membersToJson rest

end

mutual

/-- The value that JSON stands for; every JSON value is one. -/
def ofJson : Json → Param
  | .null => .null
  | .bool b => .boolean b
  | .int n => if n ≤ maxInteger then .integer n else .number (Binary64.ofInt n)
  | .float x => .number x
  | .str s => .string s
  | .arr items => .array (itemsOfJson items)
  | .obj members => .object (membersOfJson [] members)

/-- The values of the items of an array. -/
def itemsOfJson : List Json → List Param
  | [] => []
  | j :: rest => ofJson j :: itemsOfJson rest

/-- The entries after those in `done`, sorted in among them. -/
def membersOfJson (done : Dict Param) : List (String × Json) → Dict Param
  | [] => done
  | (name, j) :: rest => membersOfJson (Dict.insert done name (ofJson j)) rest

end

/-- Reads a value; only a text that is not JSON has a fault. -/
def read (n : Json.Node) : Except Json.Fault Param := ofJson <$> n.toJson

/-! ### Views -/

/-- The value as a string, if it is one. -/
def string? : Param → Option String
  | .string s => some s
  | _ => none

/-- The value as a number, if it is one. -/
def number? : Param → Option Binary64
  | .number x => some x
  | .integer n => some (Binary64.ofInt n)
  | _ => none

/-- A whole number held to what 64 bits hold with a sign. -/
def clamp (n : Int) : Int := max minInteger (min maxInteger n)

/-- The value as a whole number, if it is a number without a fractional part. -/
def integer? : Param → Option Int
  | .integer n => some n
  | .number x => if x.isWhole then some (clamp x.truncate) else none
  | _ => none

/-- Whether the value counts as not set: nothing, an empty string, zero or `false`. -/
def isUnset : Param → Bool
  | .null => true
  | .string s => s.isEmpty
  | .integer n => n == 0
  | .number x => x.isZero
  | .boolean b => !b
  | .array _ => false
  | .object _ => false

/-- The text of a double: a whole one below `10¹⁵` like an integer, minus zero included. -/
def displayNumber (x : Binary64) : String :=
  if x.isWhole && decide (x.magnitude < 10 ^ 15 * Binary64.unitsPerOne) then toString x.truncate
  else x.display

mutual

/-- The text of a value in a program: strings bare, the items of an array between commas, an object
as JSON. -/
def display : Param → String
  | .integer n => toString n
  | .number x => displayNumber x
  | .string s => s
  | .boolean b => if b then "true" else "false"
  | .null => "null"
  | .array items => displayItems items
  | .object members => (Param.object members).toJson.text

/-- The texts of the items of an array, with commas between them. -/
def displayItems : List Param → String
  | [] => ""
  | [p] => display p
  | p :: rest => display p ++ "," ++ displayItems rest

end

end Param

/-! ### Slots -/

/-- One parameter slot of a block. -/
structure Slot where
  /-- The value, if the block has one there. -/
  value : Option Param

namespace Slot

/-- What stands in a program for a value that is not there. -/
def missingText : String := "undefined"

/-- The slot of a key. -/
def read (params : Params) (key : String) : Slot := ⟨params.get? key⟩

/-- Whether there is a value. -/
def isPresent (a : Slot) : Bool := a.value.isSome

/-- The text of the value. -/
def text (a : Slot) : String :=
  match a.value with
  | some p => p.display
  | none => missingText

/-- The text of the value, or a default for one that is not set. -/
def textOr (a : Slot) (default : String) : String :=
  match a.value with
  | some p => if p.isUnset then default else p.display
  | none => default

/-- The largest pin number. -/
def maxPin : Int := 2 ^ 32 - 1

/-- The value as a pin: only a whole number is one. -/
def pin? (a : Slot) : Option Nat := do
  let n ← (← a.value).integer?
  if 0 ≤ n ∧ n ≤ maxPin then some n.toNat else none

/-- The value as a tag: only a string that is not empty is one. -/
def tag? (a : Slot) : Option String := do
  let s ← (← a.value).string?
  if s.isEmpty then none else some s

end Slot
end Blockware
