/-!
# Finite double-precision numbers

A finite double is a whole multiple of `2⁻¹⁰⁷⁴`, so all of its arithmetic that this library needs is
arithmetic of whole numbers: no step below is approximate but `round`, which says how it rounds.

- `Binary64`: sign, significand and exponent, kept in the one form that each value has.
- `Binary64.magnitude`, `Binary64.scaled`: the value, counted in units of `2⁻¹⁰⁷⁴`.
- `Binary64.round`: the double nearest to a fraction, a tie going to the even significand; `none`
  beyond the largest double.
- `Binary64.isWhole`, `Binary64.truncate`: the whole numbers among the doubles.
-/

namespace Blockware

/-- Powers are those of the core library, also beside a library of algebra that has its own. -/
@[default_instance 20000]
instance (priority := 20000) instPowOfNatPow {α : Type} [NatPow α] : Pow α Nat := instPowNat

/-- A finite double, `±significand · 2^(exponent - 1074)`. The bounds make the form unique: the
significand fills its 53 bits unless the exponent is already the smallest. -/
structure Binary64 where
  /-- Whether the sign is minus; zero comes with both signs. -/
  negative : Bool
  /-- The binary digits, as a whole number. -/
  significand : Nat
  /-- How often the significand is doubled, counted from the finest unit. -/
  exponent : Nat
  significand_lt : significand < 2 ^ 53
  exponent_le : exponent ≤ 2045
  normal : 2 ^ 52 ≤ significand ∨ exponent = 0
  deriving DecidableEq

namespace Binary64

/-- Zero, of either sign. -/
def zero (negative : Bool) : Binary64 where
  negative := negative
  significand := 0
  exponent := 0
  significand_lt := by decide
  exponent_le := by decide
  normal := .inr rfl

/-- The largest double, of either sign. -/
def largest (negative : Bool) : Binary64 where
  negative := negative
  significand := 2 ^ 53 - 1
  exponent := 2045
  significand_lt := by decide
  exponent_le := by decide
  normal := .inl (by decide)

instance : Inhabited Binary64 := ⟨zero false⟩

/-- How many of the finest units `2⁻¹⁰⁷⁴` one makes. -/
def unitsPerOne : Nat := 2 ^ 1074

theorem unitsPerOne_pos : 0 < unitsPerOne := by decide +kernel

/-- The absolute value, in units of `2⁻¹⁰⁷⁴`. -/
def magnitude (x : Binary64) : Nat := x.significand * 2 ^ x.exponent

/-- The value, in units of `2⁻¹⁰⁷⁴`. -/
def scaled (x : Binary64) : Int := if x.negative then -(x.magnitude : Int) else x.magnitude

/-- Whether the value is zero, whatever the sign. -/
def isZero (x : Binary64) : Bool := x.significand == 0

/-- Whether the value has no fractional part. -/
def isWhole (x : Binary64) : Bool := x.magnitude % unitsPerOne == 0

/-- The whole part, toward zero. -/
def truncate (x : Binary64) : Int :=
  let whole : Int := ((x.magnitude / unitsPerOne : Nat) : Int)
  if x.negative then -whole else whole

/-- Whether the value is at most the whole number `n`. -/
def leInt (x : Binary64) (n : Int) : Bool := decide (x.scaled ≤ n * (unitsPerOne : Int))

/-! ### Rounding -/

/-- The whole number nearest to `num / den`; halfway between two, the even one. -/
def roundDiv (num den : Nat) : Nat :=
  let quotient := num / den
  let twice := 2 * (num % den)
  if twice < den then quotient
  else if den < twice then quotient + 1
  else quotient + quotient % 2

theorem div_le_roundDiv (num den : Nat) : num / den ≤ roundDiv num den := by
  unfold roundDiv
  dsimp only
  split
  · exact Nat.le_refl _
  · split <;> omega

theorem roundDiv_le (num den : Nat) : roundDiv num den ≤ num / den + 1 := by
  unfold roundDiv
  dsimp only
  split
  · omega
  · split
    · exact Nat.le_refl _
    · have := Nat.mod_lt (num / den) (by decide : 0 < 2)
      omega

/-- The exponent at which a value of `units` whole units fits the significand. -/
def exponentOf (units : Nat) : Nat := units.log2 - 52

theorem div_exponentOf_lt (units : Nat) : units / 2 ^ exponentOf units < 2 ^ 53 := by
  have below : units < 2 ^ (units.log2 + 1) := Nat.lt_log2_self
  apply Nat.div_lt_of_lt_mul
  rw [← Nat.pow_add]
  apply Nat.lt_of_lt_of_le below
  apply Nat.pow_le_pow_right (by decide)
  unfold exponentOf
  omega

theorem le_div_exponentOf {units : Nat} (h : exponentOf units ≠ 0) :
    2 ^ 52 ≤ units / 2 ^ exponentOf units := by
  have nonzero : units ≠ 0 := by
    rintro rfl
    exact h (by decide)
  have above : 2 ^ units.log2 ≤ units := Nat.log2_self_le nonzero
  rw [Nat.le_div_iff_mul_le (Nat.two_pow_pos _), ← Nat.pow_add]
  have : 52 + exponentOf units = units.log2 := by
    unfold exponentOf at h ⊢
    omega
  rw [this]
  exact above

/-- The double nearest to `num / den` units of `2⁻¹⁰⁷⁴`, of two equally near ones the one with the
even significand, and `none` where that lies beyond the largest double. -/
def round (negative : Bool) (num den : Nat) : Option Binary64 :=
  let exponent := exponentOf (num / den)
  let significand := roundDiv num (den * 2 ^ exponent)
  if full : significand = 2 ^ 53 then
    if fits : exponent + 1 ≤ 2045 then
      some ⟨negative, 2 ^ 52, exponent + 1, by decide, fits, .inl (Nat.le_refl _)⟩
    else none
  else if fits : exponent ≤ 2045 then
    some ⟨negative, significand, exponent,
      by
        have atMost : significand ≤ num / den / 2 ^ exponent + 1 := by
          rw [Nat.div_div_eq_div_mul]
          exact roundDiv_le _ _
        have below : num / den / 2 ^ exponent < 2 ^ 53 := div_exponentOf_lt (num / den)
        omega,
      fits,
      by
        by_cases h : exponent = 0
        · exact .inr h
        · refine .inl (Nat.le_trans (le_div_exponentOf h) ?_)
          rw [Nat.div_div_eq_div_mul]
          exact div_le_roundDiv _ _⟩
  else none

/-- The double nearest to a whole number, held to the largest double. -/
def ofInt (n : Int) : Binary64 :=
  (round (decide (n < 0)) (n.natAbs * unitsPerOne) 1).getD (largest (decide (n < 0)))

end Binary64

/-- What a numeral may denote beside a finite double. -/
inductive Binary64.Extended where
  | finite (x : Binary64)
  | infinite (negative : Bool)
  | notANumber
  deriving DecidableEq

namespace Binary64.Extended

/-- Whether the value is at most the whole number `n`; what is not a number never is. -/
def leInt : Extended → Int → Bool
  | .finite x, n => x.leInt n
  | .infinite negative, _ => negative
  | .notANumber, _ => false

/-- Whether the value lies above the whole number `n`; what is not a number never does. -/
def gtInt : Extended → Int → Bool
  | .finite x, n => !x.leInt n
  | .infinite negative, _ => !negative
  | .notANumber, _ => false

end Binary64.Extended

end Blockware
