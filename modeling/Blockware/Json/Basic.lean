import Blockware.Dict
import Blockware.Number.Binary64

/-!
# JSON values

A JSON value as a program holds it. A numeral without a point or an exponent is a whole number as
long as it fits 64 bits, signed or unsigned; every other numeral is a double.
-/

namespace Blockware

/-- A JSON value. The members of an object stand in the order in which they are written. -/
inductive Json where
  | null
  | bool (b : Bool)
  | int (n : Int)
  | float (x : Binary64)
  | str (s : String)
  | arr (items : List Json)
  | obj (members : List (String × Json))
  deriving Inhabited, BEq

namespace Json

/-- A string, or `null` for none. -/
def ofString? : Option String → Json
  | none => .null
  | some s => .str s

/-- An array of strings. -/
def ofStrings (ss : List String) : Json := .arr (ss.map .str)

/-- A natural number. -/
def ofNat (n : Nat) : Json := .int n

/-- A member, unless there is nothing to write. -/
def optionalMember (name : String) : Option Json → List (String × Json)
  | none => []
  | some j => [(name, j)]

/-- The last member of a name in an object. -/
def member? (j : Json) (name : String) : Option Json :=
  match j with
  | .obj members => (members.reverse.find? fun m => m.1 == name).map Prod.snd
  | _ => none

mutual

/-- The value with the members of every object in key order, of a repeated name the last one. -/
def sorted : Json → Json
  | .arr items => .arr (sortedItems items)
  | .obj members => .obj (sortedMembers [] members)
  | j => j

/-- `sorted` on each item. -/
def sortedItems : List Json → List Json
  | [] => []
  | j :: rest => sorted j :: sortedItems rest

/-- The members after those in `done`, sorted in among them. -/
def sortedMembers (done : Dict Json) : List (String × Json) → Dict Json
  | [] => done
  | (name, j) :: rest => sortedMembers (Dict.insert done name (sorted j)) rest

end

end Json
end Blockware
