import Blockware.Number.Numeral
import Blockware.Proofs.Number.Rounding
import Blockware.Proofs.Text.Lines

/-!
# Numerals that are written

What is written for a number is read back as that number: the text of a double, and the text of a
whole number, which may be rounded.

- `Numeral.decimal?_digits`, `Numeral.decimal?_point`: what digits stand for, with or without a point.
- `Decimal.figures_spec`: the figures of a decimal and their point stand for the decimal.
- `Numeral.read?_display`: the text of a double is read back.
- `Numeral.read?_toString`: the text of a whole number is read as the nearest double.
- `Numeral.IsFigure`: the characters that such texts are made of, none of which is a blank.
-/

namespace Blockware

/-- The value of what is rounded, with infinity beyond the largest double. -/
def Binary64.Extended.ofRounded (negative : Bool) : Option Binary64 → Binary64.Extended
  | some x => .finite x
  | none => .infinite negative

namespace Numeral

/-! ### Digits -/

theorem spanDigits_append {ds cs : List Char} (digits : ∀ c ∈ ds, c.isDigit)
    (stop : ∀ c ∈ cs.head?, c.isDigit = false) : spanDigits (ds ++ cs) = (ds, cs) := by
  rw [spanDigits, List.takeWhile_append_of_pos digits, List.dropWhile_append_of_pos digits]
  cases cs with
  | nil => simp
  | cons c rest =>
    have other : c.isDigit = false := stop c rfl
    simp [other]

theorem spanDigits_self {ds : List Char} (digits : ∀ c ∈ ds, c.isDigit) :
    spanDigits ds = (ds, []) := by
  have ended : spanDigits (ds ++ []) = (ds, []) := spanDigits_append digits (by simp)
  rwa [List.append_nil] at ended

theorem value_append (ds es : List Char) (start : Nat) :
    value (ds ++ es) start = value es (value ds start) :=
  List.foldl_append

theorem value_zeros (k start : Nat) : value (List.replicate k '0') start = start * 10 ^ k := by
  rw [Nat.mul_comm]
  exact Nat.ofDigitChars_replicate_zero

theorem value_toDigits (n : Nat) : value (Nat.toDigits 10 n) 0 = n := Nat.ofDigitChars_ten_toDigits

/-- Digits alone stand for a whole number. -/
theorem decimal?_digits {ds : List Char} (digits : ∀ c ∈ ds, c.isDigit) (some : ds ≠ []) :
    decimal? ds = .some ⟨value ds 0, 0⟩ := by
  have filled : ds.isEmpty = false := by simpa using some
  simp [decimal?, spanDigits_self digits, filled, exponent?, value]

/-- Digits after the point are places. -/
theorem decimal?_point {ws fs : List Char} (whole : ∀ c ∈ ws, c.isDigit) (some : ws ≠ [])
    (fraction : ∀ c ∈ fs, c.isDigit) :
    decimal? (ws ++ '.' :: fs) = .some ⟨value (ws ++ fs) 0, -(fs.length : Int)⟩ := by
  have filled : ws.isEmpty = false := by simpa using some
  have split : spanDigits (ws ++ '.' :: fs) = (ws, '.' :: fs) :=
    spanDigits_append whole (by simp)
  simp [decimal?, split, spanDigits_self fraction, filled, exponent?, value_append]

/-! ### Signs -/

theorem ne_sign_of_isDigit {c : Char} (digit : c.isDigit) : c ≠ '-' ∧ c ≠ '+' := by
  constructor <;> rintro rfl <;> exact absurd digit (by decide)

theorem toLower_of_isDigit {c : Char} (digit : c.isDigit) : c.toLower = c := by
  have nine : c.toNat ≤ '9'.toNat := (Char.isDigit_iff_toNat.mp digit).2
  have noCapital : ¬ (c.val ≥ 'A'.val ∧ c.val ≤ 'Z'.val) := by
    rintro ⟨above, -⟩
    have capital : 'A'.toNat ≤ c.toNat := above
    exact absurd (Nat.le_trans capital nine) (by decide)
  exact dif_neg noCapital

/-- A text that begins with none of the letters of the words is a decimal or nothing. -/
theorem read?_of_head (negative : Bool) {cs : List Char} {c : Char} (first : cs.head? = some c)
    (noSign : c ≠ '-' ∧ c ≠ '+') (noWord : c.toLower ≠ 'i' ∧ c.toLower ≠ 'n') :
    read? (String.ofList ((if negative then ['-'] else []) ++ cs)) =
      (decimal? cs).map fun d => .ofRounded negative (Binary64.ofDecimal negative d) := by
  obtain ⟨rest, rfl⟩ : ∃ rest, cs = c :: rest := List.head?_eq_some_iff.mp first
  have signed : sign ((if negative then ['-'] else []) ++ c :: rest) = (negative, c :: rest) := by
    cases negative with
    | true => rfl
    | false => simp [sign, noSign.1, noSign.2]
  have other {word : String} (differs : word.toList.head? ≠ some c.toLower) :
      String.ofList ((c :: rest).map Char.toLower) ≠ word := by
    rintro rfl
    exact differs (by rw [String.toList_ofList, List.map_cons, List.head?_cons])
  have noInfinity : ¬ (String.ofList ((c :: rest).map Char.toLower) = "inf" ∨
      String.ofList ((c :: rest).map Char.toLower) = "infinity") :=
    not_or.mpr ⟨other (by simpa using noWord.1.symm), other (by simpa using noWord.1.symm)⟩
  have number : String.ofList ((c :: rest).map Char.toLower) ≠ "nan" :=
    other (by simpa using noWord.2.symm)
  simp only [read?, String.toList_ofList, signed, if_neg noInfinity, if_neg number]
  rfl

theorem read?_digits (negative : Bool) {cs : List Char} {c : Char} (first : cs.head? = some c)
    (digit : c.isDigit) :
    read? (String.ofList ((if negative then ['-'] else []) ++ cs)) =
      (decimal? cs).map fun d => .ofRounded negative (Binary64.ofDecimal negative d) := by
  refine read?_of_head negative first (ne_sign_of_isDigit digit) ?_
  rw [toLower_of_isDigit digit]
  constructor <;> rintro rfl <;> exact absurd digit (by decide)

/-- A text that begins with a brace is no numeral. -/
theorem read?_eq_none_of_brace {s : String} (first : s.toList.head? = some '\x7b') :
    read? s = none := by
  have read := read?_of_head false first (by decide) (by decide)
  rw [if_neg (by decide), List.nil_append, String.ofList_toList] at read
  obtain ⟨rest, text⟩ : ∃ rest, s.toList = '\x7b' :: rest := List.head?_eq_some_iff.mp first
  rw [read, text]
  rfl

end Numeral

/-! ### Figures -/

namespace Decimal

/-- The zeros that are left out of the figures are places. -/
theorem figures_spec {d : Decimal} (nonzero : d.digits ≠ 0) :
    ∃ k : Nat, Numeral.value d.figures.1 0 * 10 ^ k = d.digits ∧
      d.figures.2 = d.figures.1.length + (d.exponent + k) ∧
      (∀ c ∈ d.figures.1, c.isDigit) ∧ d.figures.1 ≠ [] := by
  have parts : d.figures.1 ++ ((Nat.toDigits 10 d.digits).reverse.takeWhile (· == '0')).reverse =
      Nat.toDigits 10 d.digits := by
    rw [figures, ← List.reverse_append, List.takeWhile_append_dropWhile, List.reverse_reverse]
  obtain ⟨k, zeros⟩ : ∃ k, ((Nat.toDigits 10 d.digits).reverse.takeWhile (· == '0')).reverse =
      List.replicate k '0' := by
    refine ⟨_, List.eq_replicate_iff.mpr ⟨rfl, fun c hc => ?_⟩⟩
    have all := List.all_takeWhile (p := (· == '0')) (l := (Nat.toDigits 10 d.digits).reverse)
    exact eq_of_beq (List.all_eq_true.mp all c (List.mem_reverse.mp hc))
  rw [zeros] at parts
  have value : Numeral.value d.figures.1 0 * 10 ^ k = d.digits := by
    rw [← Numeral.value_zeros, ← Numeral.value_append, parts, Numeral.value_toDigits]
  refine ⟨k, value, ?_, fun c hc => ?_, fun none => ?_⟩
  · have length : (Nat.toDigits 10 d.digits).length = d.figures.1.length + k := by
      rw [← parts, List.length_append, List.length_replicate]
    have point : d.figures.2 = (Nat.toDigits 10 d.digits).length + d.exponent := rfl
    rw [point, length]
    omega
  · have there : c ∈ Nat.toDigits 10 d.digits := by
      rw [← parts]
      exact List.mem_append_left _ hc
    exact Nat.isDigit_of_mem_toDigits (by decide) (by decide) there
  · rw [none] at value
    exact nonzero (value.symm.trans (Nat.zero_mul _))

end Decimal

/-! ### Layouts -/

namespace Binary64

variable {fs : List Char}

theorem head_positional (digits : ∀ c ∈ fs, c.isDigit) (some : fs ≠ []) (point : Int) :
    ∃ c, (positional fs point).head? = .some c ∧ c.isDigit := by
  obtain ⟨c, rest, rfl⟩ := List.exists_cons_of_ne_nil some
  have digit : c.isDigit := digits c List.mem_cons_self
  rw [positional]
  split
  · exact ⟨'0', rfl, by decide⟩
  · split
    · exact ⟨c, rfl, digit⟩
    · obtain ⟨k, hk⟩ : ∃ k, point.toNat = k + 1 := ⟨point.toNat - 1, by omega⟩
      rw [hk]
      exact ⟨c, rfl, digit⟩

/-- Figures with their point in place stand for the number that they stand for with an exponent. -/
theorem ofDecimal_positional (digits : ∀ c ∈ fs, c.isDigit) (some : fs ≠ []) (negative : Bool)
    (point : Int) :
    (Numeral.decimal? (positional fs point)).map (ofDecimal negative) =
      .some (ofDecimal negative ⟨Numeral.value fs 0, point - fs.length⟩) := by
  have zeros (k : Nat) : ∀ c ∈ List.replicate k '0', c.isDigit := by
    intro c hc
    rw [List.eq_of_mem_replicate hc]
    decide
  rw [positional]
  -- The point stands before the figures, behind them, or among them.
  split
  · rename_i low
    have fraction : ∀ c ∈ List.replicate (-point).toNat '0' ++ fs, c.isDigit := by
      intro c hc
      rcases List.mem_append.mp hc with zero | figure
      · exact zeros _ c zero
      · exact digits c figure
    have zero : ∀ c ∈ ['0'], c.isDigit := List.forall_mem_singleton.mpr rfl
    have read := Numeral.decimal?_point zero (by decide) fraction
    have value : Numeral.value (['0'] ++ (List.replicate (-point).toNat '0' ++ fs)) 0 =
        Numeral.value fs 0 := by
      rw [← List.append_assoc, Numeral.value_append, Numeral.value_append, Numeral.value_zeros]
      simp [Numeral.value]
    have places : -((List.replicate (-point).toNat '0' ++ fs).length : Int) = point - fs.length := by
      rw [List.length_append, List.length_replicate]
      omega
    rw [value, places] at read
    exact congrArg (Option.map (ofDecimal negative)) read
  · rename_i high
    split
    · rename_i short
      have all : ∀ c ∈ fs ++ List.replicate (point.toNat - fs.length) '0', c.isDigit := by
        intro c hc
        rcases List.mem_append.mp hc with figure | zero
        · exact digits c figure
        · exact zeros _ c zero
      have places : (0 : Int) + (point.toNat - fs.length : Nat) = point - fs.length := by omega
      rw [Numeral.decimal?_digits all (List.append_ne_nil_of_left_ne_nil some _),
        Numeral.value_append, Numeral.value_zeros, Option.map_some, ofDecimal_shift, places]
    · rename_i long
      have whole : ∀ c ∈ fs.take point.toNat, c.isDigit := fun c hc =>
        digits c (List.mem_of_mem_take hc)
      have fraction : ∀ c ∈ fs.drop point.toNat, c.isDigit := fun c hc =>
        digits c (List.mem_of_mem_drop hc)
      have filled : fs.take point.toNat ≠ [] := by
        rw [Ne, List.take_eq_nil_iff]
        exact not_or.mpr ⟨by omega, some⟩
      have places : -((fs.drop point.toNat).length : Int) = point - fs.length := by
        rw [List.length_drop]
        omega
      rw [Numeral.decimal?_point whole filled fraction, List.take_append_drop, places, Option.map_some]

/-- The text of a double is a layout of figures that stand for it. -/
theorem display_spec {x : Binary64} (nonzero : x.magnitude ≠ 0) :
    ∃ (figures : List Char) (point : Int), (∀ c ∈ figures, c.isDigit) ∧ figures ≠ [] ∧
      x.display = String.ofList ((if x.negative then ['-'] else []) ++ positional figures point) ∧
      ofDecimal x.negative ⟨Numeral.value figures 0, point - figures.length⟩ = some x := by
  have reads := ofDecimal_shortest .away nonzero
  have digits : (x.shortest .away).digits ≠ 0 := by
    intro zero
    rw [ofDecimal, if_pos (Or.inl zero)] at reads
    rw [← Option.some.inj reads] at nonzero
    exact nonzero (Nat.zero_mul _)
  have notZero : x.isZero = false := eq_false_of_ne_true (mt magnitude_eq_zero_iff.mpr nonzero)
  obtain ⟨k, value, point, figures, filled⟩ := Decimal.figures_spec digits
  refine ⟨(x.shortest .away).figures.1, (x.shortest .away).figures.2, figures, filled, ?_, ?_⟩
  · rw [display, notZero]
    rfl
  · have places : (x.shortest .away).figures.2 - (x.shortest .away).figures.1.length =
        (x.shortest .away).exponent + k := by omega
    rw [places, ← ofDecimal_shift, value]
    exact reads

end Binary64

namespace Numeral

/-- The text of a double is read back. -/
theorem read?_display {x : Binary64} (nonzero : x.magnitude ≠ 0) :
    read? x.display = some (.finite x) := by
  obtain ⟨fs, point, figures, filled, text, reads⟩ := Binary64.display_spec nonzero
  obtain ⟨c, first, digit⟩ := Binary64.head_positional figures filled point
  have layout := Binary64.ofDecimal_positional figures filled x.negative point
  rw [reads] at layout
  have mapped := congrArg (Option.map (Binary64.Extended.ofRounded x.negative)) layout
  rw [Option.map_map] at mapped
  rw [text, read?_digits x.negative first digit]
  exact mapped

/-! ### Whole numbers -/

theorem toString_eq (n : Int) :
    toString n = String.ofList ((if n < 0 then ['-'] else []) ++ Nat.toDigits 10 n.natAbs) := by
  cases n with
  | ofNat m => rfl
  | negSucc m =>
    apply String.toList_injective
    rw [Int.toString_eq_repr, Int.repr, String.toList_append, Nat.toList_repr, String.toList_ofList,
      String.toList_ofList, if_pos (Int.negSucc_lt_zero m)]
    rfl

/-- The double nearest to a whole number of any size. -/
theorem ofDecimal_natural (negative : Bool) (n : Nat) :
    Binary64.ofDecimal negative ⟨n, 0⟩ = Binary64.round negative (n * Binary64.unitsPerOne) 1 := by
  by_cases zero : n = 0
  · rw [zero, Nat.zero_mul]
    have exact := (Binary64.zero negative).round_magnitude
    rw [Binary64.magnitude, Binary64.zero, Nat.zero_mul] at exact
    rw [exact, Binary64.ofDecimal, if_pos (Or.inl rfl)]
    rfl
  · by_cases places : Decimal.width n ≤ 310
    · rw [Binary64.ofDecimal_eq_round negative (d := ⟨n, 0⟩) zero (by dsimp only; omega)
        (by dsimp only; omega)]
      simp
    · -- A number this long is given up before it is rounded, and rounding would find nothing either.
      have large : 10 ^ 310 ≤ n := by
        by_contra less
        exact places (Decimal.width_le_iff.mpr (Nat.not_le.mp less))
      have beyond : 2 ^ (53 + 2046) ≤ n * Binary64.unitsPerOne / 1 := by
        have most : 2 ^ (53 + 2046) ≤ 10 ^ 310 * Binary64.unitsPerOne := by decide +kernel
        rw [Nat.div_one]
        exact Nat.le_trans most (Nat.mul_le_mul_right _ large)
      rw [Binary64.round_eq_none negative (by omega) beyond, Binary64.ofDecimal, if_neg, if_pos]
      · dsimp only
        omega
      · dsimp only
        omega

/-- The text of a whole number is read as the nearest double. -/
theorem read?_toString (n : Int) :
    read? (toString n) = some (.ofRounded (decide (n < 0))
      (Binary64.round (decide (n < 0)) (n.natAbs * Binary64.unitsPerOne) 1)) := by
  have digits : ∀ c ∈ Nat.toDigits 10 n.natAbs, c.isDigit := fun c hc =>
    Nat.isDigit_of_mem_toDigits (by decide) (by decide) hc
  obtain ⟨c, rest, split⟩ := List.exists_cons_of_ne_nil (Nat.toDigits_ne_nil (n := n.natAbs) (b := 10))
  have first : (Nat.toDigits 10 n.natAbs).head? = some c := by rw [split, List.head?_cons]
  have digit : c.isDigit := digits c (List.mem_of_mem_head? first)
  have signed := read?_digits (decide (n < 0)) first digit
  rw [decimal?_digits digits Nat.toDigits_ne_nil, value_toDigits, Option.map_some, ofDecimal_natural]
    at signed
  rw [toString_eq, ← signed]
  simp

/-- A whole double is read back from the text of its whole part. -/
theorem read?_truncate {x : Binary64} (whole : x.isWhole) (nonzero : x.magnitude ≠ 0) :
    read? (toString x.truncate) = some (.finite x) := by
  obtain ⟨m, quotient⟩ : ∃ m, x.magnitude / Binary64.unitsPerOne = m := ⟨_, rfl⟩
  have multiple : m * Binary64.unitsPerOne = x.magnitude := by
    rw [← quotient]
    exact Nat.div_mul_cancel (Nat.dvd_of_mod_eq_zero (eq_of_beq whole))
  have positive : m ≠ 0 := by
    rintro rfl
    exact nonzero (multiple.symm.trans (Nat.zero_mul _))
  have truncated : x.truncate = if x.negative then -(m : Int) else m := by
    rw [Binary64.truncate, quotient]
  -- The sign survives in the text since the whole part is not zero.
  have sign : decide (x.truncate < 0) = x.negative := by
    rw [truncated]
    cases x.negative with
    | true => simpa using Nat.pos_of_ne_zero positive
    | false => simp
  have size : x.truncate.natAbs = m := by
    rw [truncated]
    cases x.negative with
    | true => simp
    | false => simp
  rw [read?_toString, sign, size, multiple, x.round_magnitude]
  rfl

/-! ### Characters -/

/-- The characters of a number that is written without an exponent. -/
def IsFigure (c : Char) : Prop := c.isDigit ∨ c = '.' ∨ c = '-'

theorem not_isBlank_of_isFigure {c : Char} (h : IsFigure c) : Text.isBlank c = false := by
  rcases h with digit | rfl | rfl
  · have bounds := Char.isDigit_iff_toNat.mp digit
    have low : 48 ≤ c.toNat := bounds.1
    have high : c.toNat ≤ 57 := bounds.2
    simp only [Text.isBlank]
    generalize c.toNat = n at low high
    simp
    omega
  · decide
  · decide

theorem isFigure_of_mem_signed (negative : Bool) {cs : List Char} (h : ∀ c ∈ cs, IsFigure c) :
    ∀ c ∈ (String.ofList ((if negative then ['-'] else []) ++ cs)).toList, IsFigure c := by
  intro c hc
  rw [String.toList_ofList] at hc
  rcases List.mem_append.mp hc with signed | there
  · cases negative with
    | true => exact Or.inr (Or.inr (List.mem_singleton.mp signed))
    | false => exact absurd signed List.not_mem_nil
  · exact h c there

theorem isFigure_of_mem_positional {fs : List Char} {point : Int} (digits : ∀ c ∈ fs, c.isDigit) :
    ∀ c ∈ Binary64.positional fs point, IsFigure c := by
  have zeros (k : Nat) : ∀ c ∈ List.replicate k '0', IsFigure c := by
    intro c hc
    rw [List.eq_of_mem_replicate hc]
    exact Or.inl (by decide)
  intro c hc
  rw [Binary64.positional] at hc
  split at hc
  · rcases List.mem_cons.mp hc with rfl | hc
    · exact Or.inl (by decide)
    · rcases List.mem_cons.mp hc with rfl | hc
      · exact Or.inr (Or.inl rfl)
      · rcases List.mem_append.mp hc with zero | figure
        · exact zeros _ c zero
        · exact Or.inl (digits c figure)
  · split at hc
    · rcases List.mem_append.mp hc with figure | zero
      · exact Or.inl (digits c figure)
      · exact zeros _ c zero
    · rcases List.mem_append.mp hc with figure | hc
      · exact Or.inl (digits c (List.mem_of_mem_take figure))
      · rcases List.mem_cons.mp hc with rfl | figure
        · exact Or.inr (Or.inl rfl)
        · exact Or.inl (digits c (List.mem_of_mem_drop figure))

theorem isFigure_of_mem_toString {n : Int} : ∀ c ∈ (toString n).toList, IsFigure c := by
  have digits : ∀ c ∈ Nat.toDigits 10 n.natAbs, IsFigure c := fun c hc =>
    Or.inl (Nat.isDigit_of_mem_toDigits (by decide) (by decide) hc)
  rw [toString_eq]
  simpa using isFigure_of_mem_signed (decide (n < 0)) digits

theorem isFigure_of_mem_display {x : Binary64} (nonzero : x.magnitude ≠ 0) :
    ∀ c ∈ x.display.toList, IsFigure c := by
  obtain ⟨fs, point, figures, -, text, -⟩ := Binary64.display_spec nonzero
  rw [text]
  exact isFigure_of_mem_signed _ (isFigure_of_mem_positional figures)

end Numeral

end Blockware
