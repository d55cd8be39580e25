/-!
# Ranges of characters

Properties of characters that no rule gives are tables of ranges of code points.
-/

namespace Blockware.Text

/-- The code points from the first to the last one, both included. -/
abbrev CharRange := Nat × Nat

/-- Whether a range holds a character. -/
def CharRange.holds (range : CharRange) (c : Char) : Bool :=
  range.1 ≤ c.toNat && c.toNat ≤ range.2

/-- Whether one of the ranges holds a character. -/
def CharRange.anyHolds (ranges : List CharRange) (c : Char) : Bool :=
  ranges.any fun range => range.holds c

end Blockware.Text
