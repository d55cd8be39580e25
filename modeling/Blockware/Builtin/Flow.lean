import Blockware.Block
import Blockware.Text.Blank

/-!
# Control flow

- `Comparison`: the operator of a condition, as a symbol or a word; any other text is kept as written.
- `Condition`: the two operands and the operator of an `if_condition`, with its opening line.
- `functionName?`: the name that a `function_def` declares.
- `isCName`: whether a text is a name in C.
-/

namespace Blockware

/-- The operator of a condition. -/
inductive Comparison where
  | eq
  | ne
  | lt
  | le
  | gt
  | ge
  /-- A text that is no operator. -/
  | other (text : String)
  deriving DecidableEq

namespace Comparison

/-- The operator that a text means, blanks around it aside. -/
def ofText (text : String) : Comparison :=
  match Text.trim text with
  | "==" => .eq
  | "eq" => .eq
  | "!=" => .ne
  | "ne" => .ne
  | "<" => .lt
  | "lt" => .lt
  | "<=" => .le
  | "le" => .le
  | ">" => .gt
  | "gt" => .gt
  | ">=" => .ge
  | "ge" => .ge
  | op => .other op

/-- The operator in a program. -/
def symbol : Comparison → String
  | .eq => "=="
  | .ne => "!="
  | .lt => "<"
  | .le => "<="
  | .gt => ">"
  | .ge => ">="
  | .other op => op

/-- Whether it is an operator of the language. -/
def isKnown : Comparison → Bool
  | .other _ => false
  | _ => true

end Comparison

/-- The condition of an `if_condition`. -/
structure Condition where
  left : Slot
  op : Comparison
  right : Slot

namespace Condition

/-- Reads a block; without an operator the operands are compared for equality. -/
def ofBlock (b : Block) : Condition where
  left := b.slot "left"
  op := .ofText ((b.slot "op").textOr "==")
  right := b.slot "right"

/-- The opening line of the guarded scope. -/
def guardLine (c : Condition) : String :=
  s!"if ({c.left.text} {c.op.symbol} {c.right.text}) \x7b"

end Condition

/-- The name that a `function_def` declares; none if it is not set. -/
def functionName? (b : Block) : Option String :=
  match (b.slot "name").value with
  | some p => if p.isUnset then none else some p.display
  | none => none

/-- The name that a `function_call` calls. -/
def callTarget (b : Block) : String := (b.slot "ref").text

/-- Whether a character may begin a name in C. -/
def beginsCName (c : Char) : Bool := c.isAlpha || c == '_'

/-- Whether a text is a name in C: ASCII letters, digits and low lines, and no digit first. -/
def isCName (name : String) : Bool :=
  match name.toList with
  | [] => false
  | c :: rest => beginsCName c && rest.all fun c => beginsCName c || c.isDigit

end Blockware
