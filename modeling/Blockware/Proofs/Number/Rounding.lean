import Mathlib.Tactic.Ring
import Blockware.Number.Decimal

/-!
# Rounding

A fraction is rounded by its value alone, whatever the form that it is given in, and a double is
rounded to itself.

- `Binary64.round_congr`: equal fractions are rounded alike.
- `Binary64.round_magnitude`: a double is rounded to itself.
- `Binary64.round_eq_none`: beyond the largest double there is nothing to round to.
- `Binary64.ofDecimal_shift`: zeros may stand in the digits of a decimal or in its exponent.
- `Binary64.ofDecimal_shortest`: the shortest digits read back.
-/

namespace Blockware

namespace Binary64

/-! ### Fractions -/

theorem roundDiv_mul_right (num den : Nat) {c : Nat} (hc : 0 < c) :
    roundDiv (num * c) (den * c) = roundDiv num den := by
  have quotient : num * c / (den * c) = num / den := Nat.mul_div_mul_right num den hc
  have twice : 2 * (num * c % (den * c)) = 2 * (num % den) * c := by
    rw [Nat.mul_mod_mul_right, Nat.mul_assoc]
  simp only [roundDiv, quotient, twice, Nat.mul_lt_mul_right hc]

theorem roundDiv_mul_self (n : Nat) {den : Nat} (hden : 0 < den) : roundDiv (n * den) den = n := by
  rw [roundDiv, Nat.mul_div_cancel n hden, Nat.mul_mod_left]
  exact if_pos hden

theorem round_mul_right (negative : Bool) (num den : Nat) {c : Nat} (hc : 0 < c) :
    round negative (num * c) (den * c) = round negative num den := by
  have quotient : num * c / (den * c) = num / den := Nat.mul_div_mul_right num den hc
  have significand (k : Nat) : roundDiv (num * c) (den * c * 2 ^ k) = roundDiv num (den * 2 ^ k) := by
    rw [Nat.mul_right_comm, roundDiv_mul_right num _ hc]
  simp only [round, quotient, significand]

/-- Equal fractions are rounded alike. -/
theorem round_congr (negative : Bool) {num den num' den' : Nat} (hden : 0 < den) (hden' : 0 < den')
    (same : num * den' = num' * den) : round negative num den = round negative num' den' := by
  rw [← round_mul_right negative num den hden', ← round_mul_right negative num' den' hden, same,
    Nat.mul_comm den]

/-! ### Exactness -/

theorem magnitude_eq_zero_iff {x : Binary64} : x.magnitude = 0 ↔ x.isZero := by
  have scale : 2 ^ x.exponent ≠ 0 := Nat.ne_of_gt (Nat.two_pow_pos _)
  rw [magnitude, isZero, beq_iff_eq, Nat.mul_eq_zero, or_iff_left scale]

/-- The exponent of a double is the one at which its value fits the significand. -/
theorem exponentOf_magnitude (x : Binary64) : exponentOf x.magnitude = x.exponent := by
  have below : x.significand < 2 ^ 53 := x.significand_lt
  rcases x.normal with filled | least
  · have above : 2 ^ (52 + x.exponent) ≤ x.magnitude := by
      rw [Nat.pow_add]
      exact Nat.mul_le_mul_right _ filled
    have bounded : x.magnitude < 2 ^ (52 + x.exponent + 1) := by
      rw [Nat.add_right_comm, Nat.pow_add]
      exact Nat.mul_lt_mul_of_pos_right below (Nat.two_pow_pos _)
    have nonzero : x.magnitude ≠ 0 :=
      Nat.ne_of_gt (Nat.lt_of_lt_of_le (Nat.two_pow_pos _) above)
    rw [exponentOf, (Nat.log2_eq_iff nonzero).mpr ⟨above, bounded⟩]
    omega
  · -- A significand that is not filled has the least exponent, at which `exponentOf` is cut off.
    rw [exponentOf, magnitude, least, Nat.pow_zero, Nat.mul_one]
    by_cases zero : x.significand = 0
    · rw [zero]
      decide
    · have log : x.significand.log2 < 53 := (Nat.log2_lt zero).mpr below
      omega

/-- A double is rounded to itself. -/
theorem round_magnitude (x : Binary64) : round x.negative x.magnitude 1 = some x := by
  have significand : roundDiv x.magnitude (2 ^ x.exponent) = x.significand :=
    roundDiv_mul_self _ (Nat.two_pow_pos _)
  have notFull : x.significand ≠ 2 ^ 53 := Nat.ne_of_lt x.significand_lt
  simp only [round, Nat.div_one, Nat.one_mul, exponentOf_magnitude, significand, dif_neg notFull,
    dif_pos x.exponent_le]

theorem magnitude_lt (x : Binary64) {e : Nat} (h : x.exponent ≤ e) : x.magnitude < 2 ^ (53 + e) := by
  have grown : 2 ^ x.exponent ≤ 2 ^ e := Nat.pow_le_pow_right (by decide) h
  calc x.significand * 2 ^ x.exponent
      < 2 ^ 53 * 2 ^ x.exponent := Nat.mul_lt_mul_of_pos_right x.significand_lt (Nat.two_pow_pos _)
    _ ≤ 2 ^ 53 * 2 ^ e := Nat.mul_le_mul_left _ grown
    _ = 2 ^ (53 + e) := (Nat.pow_add 2 53 e).symm

/-- Beyond the largest double there is nothing to round to. -/
theorem round_eq_none (negative : Bool) {num den e : Nat} (large : 2045 < e)
    (beyond : 2 ^ (53 + e) ≤ num / den) : round negative num den = none := by
  have nonzero : num / den ≠ 0 :=
    Nat.ne_of_gt (Nat.lt_of_lt_of_le (Nat.two_pow_pos _) beyond)
  have log : 53 + e ≤ (num / den).log2 := (Nat.le_log2 nonzero).mpr beyond
  have exponent : 2045 < exponentOf (num / den) := by
    rw [exponentOf]
    omega
  have unfit : ¬ exponentOf (num / den) + 1 ≤ 2045 := by omega
  have unfit' : ¬ exponentOf (num / den) ≤ 2045 := by omega
  simp only [round, dif_neg unfit, dif_neg unfit', dite_eq_ite, ite_self]

end Binary64

/-! ### Decimals -/

theorem Decimal.width_le_iff {n k : Nat} : width n ≤ k ↔ n < 10 ^ k := by
  rw [width]
  split
  · rename_i zero
    simp [zero]
  · rename_i nonzero
    cases k with
    | zero => simp [nonzero]
    | succ k => exact Nat.length_toDigits_le_iff (by decide) (Nat.succ_pos k)

/-- Zeros at the end of the digits are places. -/
theorem Decimal.width_mul_pow {n : Nat} (nonzero : n ≠ 0) (k : Nat) :
    width (n * 10 ^ k) = width n + k := by
  have ten (m : Nat) : 0 < 10 ^ m := Nat.pow_pos (by decide)
  apply Nat.le_antisymm
  · rw [width_le_iff, Nat.pow_add]
    exact Nat.mul_lt_mul_of_pos_right (width_le_iff.mp (Nat.le_refl _)) (ten k)
  · -- The first digit is not zero, and it stays the first digit.
    have positive : 0 < width n := by
      rw [Nat.pos_iff_ne_zero]
      intro zero
      have := width_le_iff.mp (Nat.le_of_eq zero)
      omega
    obtain ⟨w, hw⟩ : ∃ w, width n = w + 1 := Nat.exists_eq_add_one.mpr positive
    have full : 10 ^ w ≤ n := by
      by_contra less
      have := width_le_iff.mpr (Nat.not_le.mp less)
      omega
    by_contra less
    have below : n * 10 ^ k < 10 ^ (w + k) := width_le_iff.mp (by omega)
    rw [Nat.pow_add] at below
    exact absurd (Nat.mul_le_mul_right (10 ^ k) full) (Nat.not_le.mpr below)

namespace Binary64

/-- Zeros may stand in the digits of a decimal or in its exponent. -/
theorem ofDecimal_shift (negative : Bool) (n k : Nat) (e : Int) :
    ofDecimal negative ⟨n * 10 ^ k, e⟩ = ofDecimal negative ⟨n, e + k⟩ := by
  have ten (m : Nat) : 0 < 10 ^ m := Nat.pow_pos (by decide)
  by_cases zero : n = 0
  · simp [ofDecimal, zero]
  · have nonzero : n * 10 ^ k ≠ 0 := Nat.mul_ne_zero zero (Nat.ne_of_gt (ten k))
    have places : ((Decimal.width (n * 10 ^ k) : Nat) : Int) + e = Decimal.width n + (e + k) := by
      rw [Decimal.width_mul_pow zero]
      omega
    have rounded : round negative (n * 10 ^ k * 10 ^ e.toNat * unitsPerOne) (10 ^ (-e).toNat) =
        round negative (n * 10 ^ (e + k).toNat * unitsPerOne) (10 ^ (-(e + k)).toNat) := by
      -- Which of the powers stand above the line depends on the signs of `e` and `e + k`.
      refine round_congr negative (ten _) (ten _) ?_
      have exponents : k + e.toNat + (-(e + k)).toNat = (e + k).toNat + (-e).toNat := by omega
      calc n * 10 ^ k * 10 ^ e.toNat * unitsPerOne * 10 ^ (-(e + k)).toNat
          = n * unitsPerOne * (10 ^ k * 10 ^ e.toNat * 10 ^ (-(e + k)).toNat) := by ring
        _ = n * unitsPerOne * (10 ^ (e + k).toNat * 10 ^ (-e).toNat) := by
            rw [← Nat.pow_add, ← Nat.pow_add, ← Nat.pow_add, exponents]
        _ = n * 10 ^ (e + k).toNat * unitsPerOne * 10 ^ (-e).toNat := by ring
    simp only [ofDecimal, places, rounded, zero, nonzero]

/-- A decimal within the bounds on its places is rounded. -/
theorem ofDecimal_eq_round (negative : Bool) {d : Decimal} (nonzero : d.digits ≠ 0)
    (low : -330 ≤ (Decimal.width d.digits : Int) + d.exponent)
    (high : (Decimal.width d.digits : Int) + d.exponent ≤ 310) :
    ofDecimal negative d =
      round negative (d.digits * 10 ^ d.exponent.toNat * unitsPerOne) (10 ^ (-d.exponent).toNat) := by
  have inside : ¬ (d.digits = 0 ∨ (Decimal.width d.digits : Int) + d.exponent < -330) := by omega
  rw [ofDecimal, if_neg inside, if_neg (Int.not_lt.mpr high)]

/-! ### Shortest digits -/

/-- A power of two divides the power of ten of the same exponent. -/
theorem round_expansion (negative : Bool) (m k : Nat) :
    round negative (m * 5 ^ k * 2 ^ k) (10 ^ k) = round negative m 1 := by
  refine round_congr negative (Nat.pow_pos (by decide)) Nat.one_pos ?_
  rw [Nat.mul_one, Nat.mul_assoc, ← Nat.mul_pow]

/-- The exact expansion reads back. -/
theorem ofDecimal_exactDecimal {x : Binary64} (nonzero : x.magnitude ≠ 0) :
    ofDecimal x.negative x.exactDecimal = some x := by
  have five (k : Nat) : 0 < 5 ^ k := Nat.pow_pos (by decide)
  have digits : x.magnitude * 5 ^ 1074 ≠ 0 := Nat.mul_ne_zero nonzero (Nat.ne_of_gt (five 1074))
  have low : 744 ≤ Decimal.width (x.magnitude * 5 ^ 1074) := by
    have least : 10 ^ 743 ≤ 5 ^ 1074 := by decide +kernel
    have larger : 5 ^ 1074 ≤ x.magnitude * 5 ^ 1074 :=
      Nat.le_mul_of_pos_left _ (Nat.pos_of_ne_zero nonzero)
    by_contra less
    have below := Decimal.width_le_iff.mp (Nat.le_of_lt_succ (Nat.not_le.mp less))
    exact absurd (Nat.le_trans least larger) (Nat.not_le.mpr below)
  have high : Decimal.width (x.magnitude * 5 ^ 1074) ≤ 1384 := by
    have most : 2 ^ (53 + 2045) * 5 ^ 1074 ≤ 10 ^ 1384 := by decide +kernel
    refine Decimal.width_le_iff.mpr (Nat.lt_of_lt_of_le ?_ most)
    exact Nat.mul_lt_mul_of_pos_right (x.magnitude_lt x.exponent_le) (five 1074)
  have expansion : round x.negative (x.magnitude * 5 ^ 1074 * unitsPerOne) (10 ^ 1074) = some x := by
    rw [unitsPerOne, round_expansion]
    exact x.round_magnitude
  rw [exactDecimal]
  -- From here on the digits count by their bounds alone; they are far too many to compute with.
  generalize x.magnitude * 5 ^ 1074 = n at digits low high expansion ⊢
  have whole : (-1074 : Int).toNat = 0 := rfl
  have fraction : (-(-1074) : Int).toNat = 1074 := rfl
  rw [ofDecimal_eq_round _ digits (by dsimp only; omega) (by dsimp only; omega), whole, fraction,
    Nat.pow_zero, Nat.mul_one]
  exact expansion

/-- The shortest digits read back. -/
theorem ofDecimal_shortest (tie : Tie) {x : Binary64} (nonzero : x.magnitude ≠ 0) :
    ofDecimal x.negative (x.shortest tie) = some x := by
  rw [shortest]
  cases found : ((List.range 17).flatMap fun k => x.neighbours tie (k + 1)).find?
      fun d => decide (ofDecimal x.negative d = some x) with
  | none =>
    -- That 17 digits suffice is not needed: the exact expansion stands in where none are found.
    exact ofDecimal_exactDecimal nonzero
  | some d =>
    have readsBack := List.find?_some found
    exact of_decide_eq_true readsBack

end Binary64

end Blockware
