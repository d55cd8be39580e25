import Mathlib.Algebra.Field.Rat
import Mathlib.Algebra.Order.Ring.Int
import Mathlib.Data.Rat.Cast.Defs
import Mathlib.Tactic.NormNum
import Blockware.Proofs.Number.Reading

/-!
# Whole numbers among the doubles

A double is an exact number, whatever it is rounded from. Up to the size of a significand every whole
number is one of them.

- `Binary64.toRat`: the exact value.
- `Binary64.toRat_eq_intCast_iff`: which doubles are a given whole number, zero of either sign among
  them.
- `Binary64.toRat_of_round`: a whole number that fits the significand is rounded to itself.
- `Binary64.toRat_of_read?_natural`: its digits are read as itself.
-/

namespace Blockware

namespace Binary64

/-- The exact value. -/
def toRat (x : Binary64) : ℚ := x.scaled / unitsPerOne

/-! ### Whole values -/

/-- A count of units is a whole number exactly if no unit is left beside its whole part. -/
theorem natCast_eq_mul_iff {count units : Nat} (some : 0 < units) {n : Int} :
    (count : Int) = n * units ↔ count % units = 0 ∧ ((count / units : Nat) : Int) = n := by
  have positive : (units : Int) ≠ 0 := by omega
  constructor
  · intro multiple
    constructor
    · have rest : (count : Int) % units = 0 := by rw [multiple, Int.mul_emod_left]
      exact_mod_cast rest
    · rw [Int.natCast_ediv, multiple, Int.mul_ediv_cancel _ positive]
  · rintro ⟨rest, rfl⟩
    have split : count / units * units = count := Nat.div_mul_cancel (Nat.dvd_of_mod_eq_zero rest)
    exact_mod_cast split.symm

/-- A double is a whole number exactly if it has no fractional part and the number is its whole part. -/
theorem toRat_eq_intCast_iff {x : Binary64} {n : Int} :
    x.toRat = n ↔ x.isWhole ∧ x.truncate = n := by
  have nonzero : (unitsPerOne : ℚ) ≠ 0 := Nat.cast_ne_zero.mpr (Nat.ne_of_gt unitsPerOne_pos)
  have counted : x.toRat = n ↔ x.scaled = n * unitsPerOne := by
    rw [toRat, div_eq_iff nonzero]
    exact_mod_cast Iff.rfl
  rw [counted, scaled, truncate, isWhole, beq_iff_eq]
  cases x.negative with
  | true =>
    have signed : -(x.magnitude : Int) = n * unitsPerOne ↔ (x.magnitude : Int) = -n * unitsPerOne := by
      rw [Int.neg_mul]
      omega
    rw [if_pos rfl, if_pos rfl, signed, natCast_eq_mul_iff unitsPerOne_pos]
    refine and_congr_right fun _ => ?_
    omega
  | false =>
    rw [if_neg Bool.false_ne_true, if_neg Bool.false_ne_true, natCast_eq_mul_iff unitsPerOne_pos]

theorem toRat_eq_natCast_iff {x : Binary64} {n : Nat} :
    x.toRat = n ↔ x.isWhole ∧ x.truncate = n := by
  rw [← toRat_eq_intCast_iff, Int.cast_natCast]

/-! ### Exact rounding -/

/-- What is a multiple of the place of its last digit is rounded to itself. -/
theorem magnitude_of_round {negative : Bool} {num : Nat} {x : Binary64}
    (multiple : 2 ^ exponentOf num ∣ num) (rounded : round negative num 1 = some x) :
    x.negative = negative ∧ x.magnitude = num := by
  obtain ⟨k, split⟩ := multiple
  have significand : roundDiv num (2 ^ exponentOf num) = k := by
    have same : num = k * 2 ^ exponentOf num := split.trans (Nat.mul_comm _ _)
    calc roundDiv num (2 ^ exponentOf num)
        = roundDiv (k * 2 ^ exponentOf num) (2 ^ exponentOf num) := by rw [← same]
      _ = k := roundDiv_mul_self k (Nat.two_pow_pos _)
  simp only [round, Nat.div_one, Nat.one_mul, significand] at rounded
  split at rounded
  · rename_i full
    split at rounded
    · cases rounded
      refine ⟨rfl, ?_⟩
      have doubled : 2 ^ (exponentOf num + 1) = 2 ^ exponentOf num * 2 := Nat.pow_succ _ _
      calc 2 ^ 52 * 2 ^ (exponentOf num + 1)
          = 2 ^ exponentOf num * 2 ^ 53 := by omega
        _ = num := by rw [← full, ← split]
    · cases rounded
  · split at rounded
    · cases rounded
      exact ⟨rfl, (Nat.mul_comm _ _).trans split.symm⟩
    · cases rounded

/-- A whole number that fits the significand is rounded to itself. -/
theorem toRat_of_round {n : Nat} {x : Binary64} (small : n < 2 ^ 53)
    (rounded : round false (n * unitsPerOne) 1 = some x) : x.toRat = n := by
  obtain ⟨places, units⟩ : ∃ k, unitsPerOne = 2 ^ k := ⟨1074, by rw [unitsPerOne]⟩
  have multiple : 2 ^ exponentOf (n * unitsPerOne) ∣ n * unitsPerOne := by
    rw [units]
    refine Nat.dvd_mul_left_of_dvd (Nat.pow_dvd_pow 2 ?_) n
    rw [exponentOf]
    by_cases zero : n * 2 ^ places = 0
    · rw [zero]
      exact Nat.zero_le _
    · have below : n * 2 ^ places < 2 ^ (53 + places) := by
        rw [Nat.pow_add]
        exact Nat.mul_lt_mul_of_pos_right small (Nat.two_pow_pos _)
      have log := (Nat.log2_lt zero).mpr below
      omega
  obtain ⟨positive, exact⟩ := magnitude_of_round multiple rounded
  rw [toRat_eq_natCast_iff, isWhole, truncate, positive, exact, Nat.mul_mod_left,
    Nat.mul_div_cancel n unitsPerOne_pos]
  exact ⟨rfl, rfl⟩

/-- The digits of such a number are read as the number. -/
theorem toRat_of_read?_natural {n : Nat} {x : Binary64} (small : n < 2 ^ 53)
    (read : Numeral.read? (toString n) = some (.finite x)) : x.toRat = n := by
  have nearest := Numeral.read?_toString n
  have same : toString (n : Int) = toString n := rfl
  have sign : decide ((n : Int) < 0) = false := decide_eq_false (Int.not_lt.mpr (Int.natCast_nonneg n))
  rw [same, read, sign, Int.natAbs_natCast] at nearest
  cases rounded : round false (n * unitsPerOne) 1 with
  | none =>
    rw [rounded] at nearest
    cases nearest
  | some y =>
    rw [rounded] at nearest
    cases nearest
    exact toRat_of_round small rounded

end Binary64

end Blockware
