import Blockware.Proofs.Number.Reading
import Blockware.Proofs.Program.Configured

/-!
# Speeds that are reported and speeds that are written

The check of the bus speeds looks at the value of a parameter: a number, or a text that denotes one.
The code has a text, for some values the default one. For most values the two agree: a speed is
reported if its text denotes a number that the bus cannot run at. They part at a zero, which is
reported although the default stands in the code, and at an array, which is never reported although
the text of one with a single number in it denotes the number.

- `Peripheral.maxSpeed?`: the fastest clock of a bus.
- `Param.isNumericZero`: the values that are reported and not written.
- `isSome_badSpeed?_iff`: what the check finds about a slot, by the text that is written for it.
- `speed_errors_are_about_written_speeds`: the same for a configuration in a program.
-/

namespace Blockware

/-- The fastest clock of a bus, in hertz. -/
def Peripheral.maxSpeed? : Peripheral → Option Nat
  | .spi => some 62500000
  | .i2c => some 1000000
  | .adc => none
  | .pwm => none

/-- Whether a bus cannot run at a speed: it is zero, negative, or above the fastest clock. -/
def Binary64.Extended.isOutside (bound : Nat) (x : Binary64.Extended) : Bool :=
  x.leInt 0 || x.gtInt bound

/-- The largest double lies beyond every speed that a bus runs at, as infinity does. -/
theorem Binary64.isOutside_ofRounded {family : Peripheral} {bound : Nat}
    (limit : family.maxSpeed? = some bound) (negative : Bool) (rounded : Option Binary64) :
    (Extended.ofRounded negative rounded).isOutside bound =
      (Extended.finite (rounded.getD (largest negative))).isOutside bound := by
  cases rounded with
  | some x => rfl
  | none =>
    cases family with
    | spi => cases limit; cases negative <;> decide +kernel
    | i2c => cases limit; cases negative <;> decide +kernel
    | adc => cases limit
    | pwm => cases limit

namespace Param

/-- Whether the value is the number zero, whole or not and of either sign. -/
def isNumericZero : Param → Bool
  | .integer n => n == 0
  | .number x => x.isZero
  | _ => false

/-- Whether the value is an array. -/
def isArray : Param → Bool
  | .array _ => true
  | _ => false

variable {p : Param}

/-! ### Values and their texts -/

/-- The text of a double other than zero is read back. -/
theorem read?_displayNumber {x : Binary64} (nonzero : x.isZero = false) :
    Numeral.read? (Text.trim (displayNumber x)) = some (.finite x) := by
  have size : x.magnitude ≠ 0 := mt Binary64.magnitude_eq_zero_iff.mp (ne_true_of_eq_false nonzero)
  rw [displayNumber]
  split
  · rename_i small
    have whole : x.isWhole := (Bool.and_eq_true_iff.mp small).1
    rw [Text.trim_eq_self fun c hc =>
      Numeral.not_isBlank_of_isFigure (Numeral.isFigure_of_mem_toString c hc)]
    exact Numeral.read?_truncate whole size
  · rw [Text.trim_eq_self fun c hc =>
      Numeral.not_isBlank_of_isFigure (Numeral.isFigure_of_mem_display size c hc)]
    exact Numeral.read?_display size

/-- The text of an object is no numeral. -/
theorem read?_object (members : List (String × Param)) :
    Numeral.read? (Text.trim (Param.object members).display) = none := by
  have first : (Param.object members).display.toList.head? = some '\x7b' := by
    simp [display, toJson, Json.text]
  exact Numeral.read?_eq_none_of_brace (Text.head?_trim first (by decide))

theorem numeral?_integer (n : Int) :
    (Param.integer n).numeral? = some (.finite (Binary64.ofInt n)) := rfl

theorem numeral?_number (x : Binary64) : (Param.number x).numeral? = some (.finite x) := rfl

theorem numeral?_string (s : String) :
    (Param.string s).numeral? = Numeral.read? (Text.trim s) := by
  simp only [numeral?, number?, string?, Option.bind_some]

/-- The number that a value means lies outside exactly if the one that its text denotes does, unless
the value counts as not set or is an array. -/
theorem any_numeral?_eq {family : Peripheral} {bound : Nat} (limit : family.maxSpeed? = some bound)
    (set : p.isUnset = false) (scalar : p.isArray = false) :
    p.numeral?.any (Binary64.Extended.isOutside bound) =
      (Numeral.read? (Text.trim p.display)).any (Binary64.Extended.isOutside bound) := by
  cases p with
  | integer n =>
    -- The value is rounded within the doubles, and its text may be read as infinity.
    have plain : Text.trim (toString n) = toString n := Text.trim_eq_self fun c hc =>
      Numeral.not_isBlank_of_isFigure (Numeral.isFigure_of_mem_toString c hc)
    have nearest := Binary64.isOutside_ofRounded limit (decide (n < 0))
      (Binary64.round (decide (n < 0)) (n.natAbs * Binary64.unitsPerOne) 1)
    rw [← Binary64.ofInt] at nearest
    rw [numeral?_integer, display, plain, Numeral.read?_toString, Option.any_some, Option.any_some]
    exact nearest.symm
  | number x =>
    have nonzero : x.isZero = false := set
    rw [numeral?_number, display, read?_displayNumber nonzero]
  | string s => rw [numeral?_string, display]
  | boolean b =>
    cases b with
    | true =>
      have word : Numeral.read? (Text.trim "true") = none := by decide
      rw [display, if_pos rfl, word]
      rfl
    | false => cases set
  | array items => cases scalar
  | object members =>
    rw [read?_object]
    rfl
  | null => cases set

/-- Of the values that count as not set, the zeros lie outside and the others mean no number. -/
theorem any_numeral?_of_isUnset (bound : Nat) (unset : p.isUnset) :
    p.numeral?.any (Binary64.Extended.isOutside bound) = p.isNumericZero := by
  have outside {x : Binary64} (zero : x.isZero) :
      (Binary64.Extended.finite x).isOutside bound = true := by
    have scaled : x.scaled = 0 := by
      rw [Binary64.scaled, Binary64.magnitude_eq_zero_iff.mpr zero]
      exact ite_self 0
    have below : x.leInt 0 = true := by
      rw [Binary64.leInt, scaled, Int.zero_mul]
      rfl
    exact Bool.or_eq_true_iff.mpr (Or.inl below)
  cases p with
  | integer n =>
    obtain rfl : n = 0 := eq_of_beq unset
    have zero : (Binary64.ofInt 0).isZero := by decide +kernel
    rw [numeral?_integer, Option.any_some, outside zero]
    rfl
  | number x =>
    have zero : x.isZero = true := unset
    rw [numeral?_number, Option.any_some, outside zero, isNumericZero, zero]
  | string s =>
    have empty : s = "" := String.isEmpty_iff.mp unset
    have nothing : Numeral.read? (Text.trim "") = none := by decide
    rw [empty, numeral?_string, nothing]
    rfl
  | boolean b => rfl
  | array items => cases unset
  | object members => cases unset
  | null => rfl

/-- A zero counts as not set. -/
theorem isUnset_of_isNumericZero (zero : p.isNumericZero) : p.isUnset := by
  cases p with
  | integer n => exact zero
  | number x => exact zero
  | _ => cases zero

/-- An array means no number. -/
theorem numeral?_of_isArray (list : p.isArray) : p.numeral? = none := by
  cases p with
  | array items => rfl
  | _ => cases list

theorem isArray_iff : p.isArray ↔ ∃ items, p = .array items := by
  cases p <;> simp [isArray]

end Param

/-! ### Slots -/

section Slots

variable {family : Peripheral} {bound : Nat}

/-- Every bus runs at the default speed. -/
theorem default_is_inside (limit : family.maxSpeed? = some bound) :
    (Numeral.read? (Text.trim defaultSpeed)).any (Binary64.Extended.isOutside bound) = false := by
  cases family with
  | spi => cases limit; decide +kernel
  | i2c => cases limit; decide +kernel
  | adc => cases limit
  | pwm => cases limit

/-- What the check finds about a slot, by the text that is written for it: a speed is found if it is
the number zero, or if its text denotes a number outside and it is no array. -/
theorem isSome_badSpeed?_iff (limit : family.maxSpeed? = some bound) (a : Slot) :
    (badSpeed? a bound).isSome ↔
      (∃ p, a.value = some p ∧ p.isNumericZero) ∨
      (¬ ∃ items, a.value = some (.array items)) ∧
        ∃ x, Numeral.read? (Text.trim (a.textOr defaultSpeed)) = some x ∧ x.isOutside bound := by
  have found : (badSpeed? a bound).isSome =
      (a.value.bind Param.numeral?).any (Binary64.Extended.isOutside bound) := Option.isSome_filter
  have inside := default_is_inside limit
  have denoted := Option.any_eq_true (Binary64.Extended.isOutside bound)
    (Numeral.read? (Text.trim (a.textOr defaultSpeed)))
  rw [found, ← denoted, Slot.textOr]
  cases a.value with
  | none => simp [inside]
  | some p =>
    simp only [Option.bind_some, Option.some.injEq, exists_eq_left', ← Param.isArray_iff]
    by_cases unset : p.isUnset
    · rw [if_pos unset, inside, Param.any_numeral?_of_isUnset bound unset]
      simp
    · have noZero : ¬ p.isNumericZero := fun zero => unset (Param.isUnset_of_isNumericZero zero)
      rw [if_neg unset]
      by_cases list : p.isArray
      · simp [Param.numeral?_of_isArray list, list, noZero]
      · rw [Param.any_numeral?_eq limit (eq_false_of_ne_true unset) (eq_false_of_ne_true list)]
        simp [noZero, list]

end Slots

/-! ### Programs -/

section Programs

variable {b : Block} {family : Peripheral} {bound : Nat}

/-- What is found about the speed of a configuration of a bus is one error, if anything. -/
theorem Block.speedFindings_of_config (type : b.type = family.config.typeName)
    (limit : family.maxSpeed? = some bound) :
    ∃ wording : Binary64.Extended → Finding, (∀ x, (wording x).isError) ∧
      b.speedFindings = ((badSpeed? (b.slot "baud") bound).map wording).toList := by
  have kind : b.builtin? = some family.config := builtin?_eq_some_iff.mpr type
  rw [speedFindings, kind]
  cases family with
  | spi => cases limit; exact ⟨.spiSpeed, fun _ => rfl, rfl⟩
  | i2c => cases limit; exact ⟨.i2cSpeed, fun _ => rfl, rfl⟩
  | adc => cases limit
  | pwm => cases limit

theorem exists_bus_named (limit : family.maxSpeed? = some bound) (b : Block) :
    ∃ own, (HardwareUnit.named family b).bus = some own := by
  cases family with
  | spi => exact ⟨_, rfl⟩
  | i2c => exact ⟨_, rfl⟩
  | adc => cases limit
  | pwm => cases limit

/-- **Speed errors are about the speed that is written**: among the top-level blocks, a configuration
of a bus has one call that sets up the bus, at the speed that it names or at the default one. The
check finds at most one thing about it, an error. It finds none about an array. About another value,
and where there is none, it finds one exactly if the speed in the call, without blanks around it,
denotes a number that is zero, negative or above the fastest clock, or if the value is the number
zero, for which the call has the default speed. -/
theorem speed_errors_are_about_written_speeds (s : Snapshot) (before after : List Block)
    (type : b.type = family.config.typeName) (limit : family.maxSpeed? = some bound) :
    ∃ own, (HardwareUnit.named family b).bus = some own ∧
      (∀ bus speed, family.initCall bus speed ∈ b.setupCode s ↔
        family.initCall bus speed = family.initCall own b.speed) ∧
      ∃ found, speedDiagnostics (before ++ b :: after) =
          speedDiagnostics before ++ found ++ speedDiagnostics after ∧
        (∀ d ∈ found, d.block = some b.id ∧ d.isError) ∧ found.length ≤ 1 ∧
        (found ≠ [] ↔
          (∃ p, (b.slot "baud").value = some p ∧ p.isNumericZero) ∨
          (¬ ∃ items, (b.slot "baud").value = some (.array items)) ∧
            ∃ x, Numeral.read? (Text.trim b.speed) = some x ∧ (x.leInt 0 ∨ x.gtInt bound)) ∧
        ((∃ p, (b.slot "baud").value = some p ∧ p.isNumericZero) → b.speed = "100000") := by
  obtain ⟨own, named⟩ := exists_bus_named limit b
  refine ⟨own, named, fun bus speed => ⟨Block.initCall_eq_of_mem_setupCode s type named, ?_⟩, ?_⟩
  · intro same
    rw [same]
    exact Block.initCall_mem_setupCode s type named
  · obtain ⟨wording, error, findings⟩ := Block.speedFindings_of_config type limit
    refine ⟨b.speedFindings.map (.about b), ?_, ?_, ?_, ?_, ?_⟩
    · simp [speedDiagnostics]
    · intro d hd
      obtain ⟨finding, there, rfl⟩ := List.mem_map.mp hd
      rw [findings, Option.mem_toList] at there
      obtain ⟨x, -, rfl⟩ := Option.map_eq_some_iff.mp there
      exact ⟨rfl, error x⟩
    · rw [List.length_map, findings]
      cases badSpeed? (b.slot "baud") bound <;> simp
    · have reported : b.speedFindings.map (Diagnostic.about b) ≠ [] ↔
          (badSpeed? (b.slot "baud") bound).isSome := by
        rw [findings]
        cases badSpeed? (b.slot "baud") bound <;> simp
      rw [reported, isSome_badSpeed?_iff limit]
      simp only [Binary64.Extended.isOutside, Bool.or_eq_true]
      rfl
    · rintro ⟨p, value, zero⟩
      rw [Block.speed, Slot.textOr, value]
      exact if_pos (Param.isUnset_of_isNumericZero zero)

/-- A speed in a text, with blanks around it and with an exponent: the bus is set up with the text as
it is, and the error is about the block. The bus before it names no speed and is not reported. -/
theorem speed_of_7e7_is_reported :
    let plain : Block := ⟨"a", "i2c_config", [], []⟩
    let fast : Block := ⟨"b", "spi_config", [("baud", .string " 7e7 ")], []⟩
    (fast.type = Peripheral.spi.config.typeName ∧ Peripheral.spi.maxSpeed? = some 62500000) ∧
    Peripheral.spi.initCall "spi0" " 7e7 " ∈ fast.setupCode .bare ∧
    ∃ d, speedDiagnostics [plain, fast] = [d] ∧ d.block = some "b" ∧ d.isError := by
  intro plain fast
  have type : fast.type = Peripheral.spi.config.typeName := rfl
  obtain ⟨own, named, calls, found, split, about, short, iff, -⟩ :=
    speed_errors_are_about_written_speeds .bare [plain] [] type rfl
  obtain rfl : "spi0" = own := Option.some.inj named
  have speed : fast.speed = " 7e7 " := rfl
  refine ⟨⟨type, rfl⟩, (calls _ _).mpr (by rw [speed]), ?_⟩
  have some : found ≠ [] := by
    refine iff.mpr (Or.inr ⟨?_, ?_⟩)
    · rintro ⟨items, array⟩
      cases array
    · have outside : (Numeral.read? (Text.trim fast.speed)).any
          (Binary64.Extended.isOutside 62500000) := by decide +kernel
      obtain ⟨x, read, beyond⟩ := (Option.any_eq_true _ _).mp outside
      exact ⟨x, read, Bool.or_eq_true_iff.mp beyond⟩
  obtain ⟨d, rfl⟩ : ∃ d, found = [d] := by
    cases found with
    | nil => exact absurd rfl some
    | cons d rest =>
      have none : rest = [] := List.eq_nil_of_length_eq_zero (by simpa using short)
      exact ⟨d, by rw [none]⟩
  exact ⟨d, split, about d (List.mem_singleton_self d)⟩

/-- At a zero the default speed is written, at which every bus runs, and an error is reported. An array
with a single number in it is written as the number, and no error is reported. -/
theorem zero_is_reported_and_array_is_not :
    let zero : Block := ⟨"s", "spi_config", [("baud", .integer 0)], []⟩
    let listed : Block := ⟨"s", "spi_config", [("baud", .array [.integer 70000000])], []⟩
    (Peripheral.spi.initCall "spi0" "100000" ∈ zero.setupCode .bare ∧
      (¬ ∃ x, Numeral.read? (Text.trim "100000") = some x ∧ (x.leInt 0 ∨ x.gtInt 62500000)) ∧
      speedDiagnostics [zero] ≠ []) ∧
    (Peripheral.spi.initCall "spi0" "70000000" ∈ listed.setupCode .bare ∧
      (∃ x, Numeral.read? (Text.trim "70000000") = some x ∧ (x.leInt 0 ∨ x.gtInt 62500000)) ∧
      speedDiagnostics [listed] = []) := by
  intro zero listed
  have outside (text : String) :
      (∃ x, Numeral.read? (Text.trim text) = some x ∧ (x.leInt 0 ∨ x.gtInt 62500000)) ↔
        (Numeral.read? (Text.trim text)).any (Binary64.Extended.isOutside 62500000) := by
    simp only [Option.any_eq_true, Binary64.Extended.isOutside, Bool.or_eq_true]
    rfl
  refine ⟨⟨?_, ?_, ?_⟩, ?_, ?_, rfl⟩
  · exact Block.initCall_mem_setupCode .bare rfl rfl
  · rw [outside]
    decide +kernel
  · decide +kernel
  · exact Block.initCall_mem_setupCode .bare rfl rfl
  · rw [outside]
    decide +kernel

end Programs

end Blockware
