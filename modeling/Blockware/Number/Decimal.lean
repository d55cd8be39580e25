import Blockware.Number.Binary64

/-!
# Decimal forms of doubles

A double has many decimal numerals that read back to it; the one written is the shortest, and of the
shortest ones the nearest.

- `Decimal`: a whole number of digits times a power of ten.
- `Binary64.ofDecimal`: the double nearest to a decimal.
- `Binary64.shortest`: the fewest digits that read back. A candidate is read back before it is
  chosen, and the exact expansion stands by, so what is written always reads back.
- `Binary64.display`, `Binary64.json`: the two ways in which the digits are set out.
-/

namespace Blockware

/-- The number `digits · 10^exponent`. -/
structure Decimal where
  digits : Nat
  exponent : Int
  deriving DecidableEq

namespace Decimal

/-- How many decimal digits a whole number has; zero has none. -/
def width (n : Nat) : Nat := if n = 0 then 0 else (Nat.toDigits 10 n).length

/-- The digits without the zeros at the end, and the place of the point: figures `d₁d₂…` with the
point at `p` stand for `0.d₁d₂… · 10^p`. -/
def figures (d : Decimal) : List Char × Int :=
  let all := Nat.toDigits 10 d.digits
  ((all.reverse.dropWhile (· == '0')).reverse, (all.length : Int) + d.exponent)

end Decimal

namespace Binary64

/-- The double nearest to a decimal, `none` beyond the largest double. A decimal of more than 310
places before the point is beyond it and one below `10⁻³³⁰` rounds to zero, whatever the digits. -/
def ofDecimal (negative : Bool) (d : Decimal) : Option Binary64 :=
  let places := (Decimal.width d.digits : Int) + d.exponent
  if d.digits = 0 ∨ places < -330 then some (zero negative)
  else if 310 < places then none
  else round negative (d.digits * 10 ^ d.exponent.toNat * unitsPerOne) (10 ^ (-d.exponent).toNat)

/-! ### Shortest digits -/

/-- Which of two decimals of one length is taken when both are equally near. -/
inductive Tie where
  /-- The one whose last digit is even. -/
  | even
  /-- The one farther from zero. -/
  | away
  deriving DecidableEq

/-- The decimal exponent of the first digit of a nonzero value: the largest `e` such that `10^e` is
at most the value. -/
def leadingExponent (x : Binary64) : Int :=
  let whole := x.magnitude / unitsPerOne
  if whole = 0 then -(Decimal.width ((unitsPerOne + x.magnitude - 1) / x.magnitude - 1) : Int)
  else (Decimal.width whole : Int) - 1

/-- The two decimals of `count` digits next to `x`, the nearer one first. -/
def neighbours (tie : Tie) (x : Binary64) (count : Nat) : List Decimal :=
  let exponent := x.leadingExponent + 1 - (count : Int)
  let num := x.magnitude * 10 ^ (-exponent).toNat
  let den := unitsPerOne * 10 ^ exponent.toNat
  let lower : Decimal := ⟨num / den, exponent⟩
  let upper : Decimal := ⟨num / den + 1, exponent⟩
  let twice := 2 * (num % den)
  let upperFirst :=
    decide (den < twice) ||
      (decide (twice = den) && (tie == .away || lower.digits % 2 == 1))
  if upperFirst then [upper, lower] else [lower, upper]

/-- The exact decimal expansion: a power of two divides the power of ten of the same exponent. -/
def exactDecimal (x : Binary64) : Decimal := ⟨x.magnitude * 5 ^ 1074, -1074⟩

/-- The shortest decimal that reads back to `x`, of two the nearer one. Seventeen digits are enough
for every double. -/
def shortest (tie : Tie) (x : Binary64) : Decimal :=
  let candidates := (List.range 17).flatMap fun k => x.neighbours tie (k + 1)
  (candidates.find? fun d => decide (ofDecimal x.negative d = some x)).getD x.exactDecimal

/-! ### Layouts -/

/-- The figures without an exponent: zeros fill the places up to the point, and the point stands only
before a figure. -/
def positional (figures : List Char) (point : Int) : List Char :=
  if point ≤ 0 then '0' :: '.' :: (List.replicate (-point).toNat '0' ++ figures)
  else if figures.length ≤ point.toNat then
    figures ++ List.replicate (point.toNat - figures.length) '0'
  else figures.take point.toNat ++ '.' :: figures.drop point.toNat

/-- The figures with one digit before the point and a signed exponent. -/
def scientific (figures : List Char) (point : Int) : List Char :=
  let mantissa :=
    match figures with
    | [] => []
    | [d] => [d]
    | d :: rest => d :: '.' :: rest
  let exponent := point - 1
  mantissa ++ 'e' :: (if exponent < 0 then '-' else '+') :: Nat.toDigits 10 exponent.natAbs

/-- The minus sign of a negative number, zero included. -/
def sign (x : Binary64) : List Char := if x.negative then ['-'] else []

/-- The text of a double as a person reads it: never an exponent, and no point in a whole number. -/
def display (x : Binary64) : String :=
  if x.isZero then String.ofList (x.sign ++ ['0'])
  else
    let (figures, point) := (x.shortest .away).figures
    String.ofList (x.sign ++ positional figures point)

/-- The text of a double in JSON: positional from `10⁻⁵` up to `10¹⁶` and then with a point in any
case, which sets it apart from a whole number; otherwise scientific. -/
def json (x : Binary64) : String :=
  if x.isZero then String.ofList (x.sign ++ ['0', '.', '0'])
  else
    let (figures, point) := (x.shortest .even).figures
    let body :=
      if -4 ≤ point ∧ point ≤ 16 then
        let digits := positional figures point
        if '.' ∈ digits then digits else digits ++ ['.', '0']
      else scientific figures point
    String.ofList (x.sign ++ body)

end Binary64

/-- The text of a numeral's value as a person reads it. -/
def Binary64.Extended.display : Binary64.Extended → String
  | .finite x => x.display
  | .infinite negative => if negative then "-inf" else "inf"
  | .notANumber => "NaN"

end Blockware
