import Blockware.Number.Decimal

/-!
# Numerals in text

What a person may type for a number.

- `Numeral.read?`: a decimal numeral with an optional sign, point and exponent, or one of the words
  for infinity and for what is not a number. Nothing may stand before or after it.
- `Numeral.readNatural?`: a whole number up to a bound, with an optional plus sign.
-/

namespace Blockware.Numeral

/-- The value of a list of decimal digits, read after `start`. -/
def value (digits : List Char) (start : Nat) : Nat :=
  digits.foldl (fun n c => 10 * n + (c.toNat - '0'.toNat)) start

/-- The digits at the start and what follows them. -/
def spanDigits (cs : List Char) : List Char × List Char :=
  (cs.takeWhile Char.isDigit, cs.dropWhile Char.isDigit)

/-- Takes a sign off the start: whether it is minus, and what follows. -/
def sign : List Char → Bool × List Char
  | '-' :: rest => (true, rest)
  | '+' :: rest => (false, rest)
  | cs => (false, cs)

/-- An exponent up to the end of the text; no exponent is zero. -/
def exponent? : List Char → Option Int
  | [] => some 0
  | c :: rest =>
    if c = 'e' ∨ c = 'E' then
      let (negative, digits) := sign rest
      if digits.isEmpty || !digits.all Char.isDigit then none
      else some (if negative then -(value digits 0 : Int) else value digits 0)
    else none

/-- The unsigned decimal that makes up the whole of a text: digits on at least one side of the point. -/
def decimal? (cs : List Char) : Option Decimal :=
  let (whole, rest) := spanDigits cs
  let (fraction, rest) :=
    match rest with
    | '.' :: more => spanDigits more
    | other => ([], other)
  if whole.isEmpty && fraction.isEmpty then none
  else (exponent? rest).map fun e => ⟨value fraction (value whole 0), e - (fraction.length : Int)⟩

/-- The number that a text denotes. A decimal beyond the largest double denotes infinity. -/
def read? (text : String) : Option Binary64.Extended :=
  let (negative, body) := sign text.toList
  let word := String.ofList (body.map Char.toLower)
  if word = "inf" ∨ word = "infinity" then some (.infinite negative)
  else if word = "nan" then some .notANumber
  else (decimal? body).map fun d =>
    match Binary64.ofDecimal negative d with
    | some x => .finite x
    | none => .infinite negative

/-- The whole number that a text denotes, if it is at most `bound`. -/
def readNatural? (bound : Nat) (text : String) : Option Nat :=
  let digits :=
    match text.toList with
    | '+' :: rest => rest
    | cs => cs
  if digits.isEmpty || !digits.all Char.isDigit then none
  else
    let n := value digits 0
    if n ≤ bound then some n else none

end Blockware.Numeral
