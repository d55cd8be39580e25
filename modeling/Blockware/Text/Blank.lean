/-!
# Blanks and lines

- `isBlank`: the white space of any script.
- `trim`, `trimEnd`: a text without the blanks at its ends.
- `lines`: the lines of a text. A line feed ends a line, a carriage return before it belongs to the
  line end, and a text that ends in a line end has no empty line after it.
-/

namespace Blockware.Text

/-- Whether a character is white space in any script. The zero-width space is not. -/
def isBlank (c : Char) : Bool :=
  let n := c.toNat
  (9 ≤ n && n ≤ 13) || n == 0x20 || n == 0x85 || n == 0xA0 || n == 0x1680 ||
    (0x2000 ≤ n && n ≤ 0x200A) || n == 0x2028 || n == 0x2029 || n == 0x202F || n == 0x205F ||
    n == 0x3000

/-- What a list holds before its last elements that satisfy `p`. -/
def dropEndWhile (p : Char → Bool) (cs : List Char) : List Char := (cs.reverse.dropWhile p).reverse

/-- A text without the blanks at its end. -/
def trimEnd (s : String) : String := String.ofList (dropEndWhile isBlank s.toList)

/-- A text without the blanks at both ends. -/
def trim (s : String) : String :=
  String.ofList (dropEndWhile isBlank (s.toList.dropWhile isBlank))

/-- Ends a line whose characters are given last first: a carriage return is part of the line end. -/
def endLine : List Char → List Char
  | '\r' :: line => line.reverse
  | line => line.reverse

/-- The lines of a text of which the current line has begun with `line`, last character first. -/
def linesFrom (line : List Char) : List Char → List (List Char)
  | [] => if line.isEmpty then [] else [line.reverse]
  | c :: rest => if c = '\n' then endLine line :: linesFrom [] rest else linesFrom (c :: line) rest

/-- The lines of a text, without their line ends. -/
def lines (s : String) : List String := (linesFrom [] s.toList).map String.ofList

end Blockware.Text
