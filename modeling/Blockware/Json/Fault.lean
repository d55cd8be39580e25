import Blockware.Json.Basic
import Blockware.Number.Decimal
import Blockware.Text.Quoted

/-!
# Faults of reading

Why a text or a value cannot be read as what is wanted.

- `Place`: where in a text, by line and byte.
- `Cause`: what is wrong, with `Cause.message` for its wording.
- `Fault`: a cause and, when a text was read, the place.
-/

namespace Blockware.Json

/-- A place in a text: the number of its line, from one, and the bytes of that line before it. -/
structure Place where
  line : Nat
  column : Nat
  deriving DecidableEq

namespace Place

/-- The beginning of a text. -/
def start : Place := ⟨1, 0⟩

/-- The place after a line end. -/
def nextLine (p : Place) : Place := ⟨p.line + 1, 0⟩

/-- The place some bytes later in the same line. -/
def advance (p : Place) (bytes : Nat) : Place := ⟨p.line, p.column + bytes⟩

/-- The place after a character. -/
def after (p : Place) (c : Char) : Place := if c = '\n' then p.nextLine else p.advance c.utf8Size

/-- The place after the first byte of a character: where a reader stands that has looked at it. -/
def afterByte (p : Place) (c : Char) : Place := if c = '\n' then p.nextLine else p.advance 1

/-- The place after the first `bytes` bytes of some characters, be it inside one of them. -/
def afterBytes (p : Place) (bytes : Nat) : List Char → Place
  | [] => p
  | c :: rest =>
    if bytes < c.utf8Size then p.advance bytes else (p.after c).afterBytes (bytes - c.utf8Size) rest

/-- The place after some characters. -/
def afterAll (p : Place) (cs : List Char) : Place := cs.foldl after p

end Place

/-- What stands where something else is wanted. -/
inductive Found where
  | null
  | bool (b : Bool)
  | int (n : Int)
  | float (x : Binary64)
  | str (s : String)
  | sequence
  | map
  deriving DecidableEq

/-- What was found, in words. -/
def Found.describe : Found → String
  | .null => "null"
  | .bool b => s!"boolean `{b}`"
  | .int n => s!"integer `{n}`"
  | .float x => s!"floating point `{x.json}`"
  | .str s => "string " ++ Text.quoted s
  | .sequence => "sequence"
  | .map => "map"

/-- What is wrong. The first group are faults of a text that is not JSON, or holds what no value
can hold; the second are faults of a value that is not of the wanted kind. -/
inductive Cause where
  | endInValue
  | endInList
  | endInObject
  | endInString
  | expectedValue
  | expectedWord
  | expectedColon
  | expectedItemEnd
  | expectedMemberEnd
  | trailingComma
  | trailingCharacters
  | keyNotString
  | invalidNumber
  | numberOutOfRange
  | invalidEscape
  | controlCharacter
  | loneSurrogate
  | unpairedSurrogate
  | nestedTooDeep
  | missingField (name : String)
  | duplicateField (name : String)
  | unknownVariant (name : String) (known : List String)
  | invalidType (found : Found) (wanted : String)
  | invalidValue (found : Found) (wanted : String)
  | invalidLength (count : Nat) (wanted : String)
  | noVariant (type : String)
  deriving DecidableEq

/-- The known variants, as the message lists them: two are joined by a word, three or more are
listed. -/
def Cause.listVariants : List String → String
  | [a] => s!"`{a}`"
  | [a, b] => s!"`{a}` or `{b}`"
  | known => "one of " ++ ", ".intercalate (known.map fun v => s!"`{v}`")

/-- The wording of a cause. -/
def Cause.message : Cause → String
  | .endInValue => "EOF while parsing a value"
  | .endInList => "EOF while parsing a list"
  | .endInObject => "EOF while parsing an object"
  | .endInString => "EOF while parsing a string"
  | .expectedValue => "expected value"
  | .expectedWord => "expected ident"
  | .expectedColon => "expected `:`"
  | .expectedItemEnd => "expected `,` or `]`"
  | .expectedMemberEnd => "expected `,` or `\x7d`"
  | .trailingComma => "trailing comma"
  | .trailingCharacters => "trailing characters"
  | .keyNotString => "key must be a string"
  | .invalidNumber => "invalid number"
  | .numberOutOfRange => "number out of range"
  | .invalidEscape => "invalid escape"
  | .controlCharacter => "control character (\\u0000-\\u001F) found while parsing a string"
  | .loneSurrogate => "lone leading surrogate in hex escape"
  | .unpairedSurrogate => "unexpected end of hex escape"
  | .nestedTooDeep => "recursion limit exceeded"
  | .missingField name => s!"missing field `{name}`"
  | .duplicateField name => s!"duplicate field `{name}`"
  | .unknownVariant name known =>
    s!"unknown variant `{name}`, expected " ++ Cause.listVariants known
  | .invalidType found wanted => s!"invalid type: {found.describe}, expected {wanted}"
  | .invalidValue found wanted => s!"invalid value: {found.describe}, expected {wanted}"
  | .invalidLength count wanted => s!"invalid length {count}, expected {wanted}"
  | .noVariant type => s!"data did not match any variant of untagged enum {type}"

/-- A cause, and the place in the text if one was read. -/
structure Fault where
  cause : Cause
  place : Option Place := none
  deriving DecidableEq

/-- A fault at its own place, or else at a given one. -/
def Fault.orAt (f : Fault) (place : Option Place) : Fault := { f with place := f.place.or place }

/-- The wording of a fault. -/
def Fault.message (f : Fault) : String :=
  match f.place with
  | none => f.cause.message
  | some p => f.cause.message ++ s!" at line {p.line} column {p.column}"

end Blockware.Json
