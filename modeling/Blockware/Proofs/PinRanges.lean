import Blockware.Diagnostic.Report
import Blockware.Proofs.Ownership
import Blockware.Proofs.Walk

/-!
# Claimed pins are on the board

Which slots of a block name pins is told twice: by the table that the check goes through, and by the
claims of each type. The check looks at whole numbers of any size, and only those of 32 bits without a
sign are claimed. So nothing is claimed that the check does not look at.

- `Param.integer?_number_eq_natCast_iff`: which doubles count as a number of a pin.
- `Slot.whole?`, `Slot.pin?_eq_some_iff`: a slot as a whole number, and when it is a pin.
- `Slot.text_of_pin?`: a pin is written as its number.
- `Block.pin_mem_claims_iff`: the claimed pins are those in the slots of the table.
- `mem_slotFindings_iff`, `mem_pinDiagnostics_iff`: what is reported about which parameter.
- `claimed_pins_are_on_board`: without a report all claimed pins are on the board, and just the
  parameters that are wrong are reported.
-/

namespace Blockware

/-! ### Slots -/

/-- A double counts as a number of 32 bits without a sign exactly if it is that whole number. -/
theorem Param.integer?_number_eq_natCast_iff {x : Binary64} {n : Nat} (small : n < 2 ^ 32) :
    (Param.number x).integer? = some (n : Int) ↔ x.isWhole ∧ x.truncate = n := by
  -- A double beyond 64 bits is cut off at their ends, neither of which has 32 bits.
  have clamped : clamp x.truncate = n ↔ x.truncate = n := by
    have least : minInteger = -2 ^ 63 := rfl
    have largest : maxInteger = 2 ^ 63 - 1 := rfl
    rw [clamp]
    omega
  rw [integer?]
  by_cases whole : x.isWhole
  · rw [if_pos whole, Option.some.injEq, clamped, and_iff_right whole]
  · rw [if_neg whole]
    simp [whole]

namespace Slot

/-- The value as a whole number, of any size and with a sign. -/
def whole? (a : Slot) : Option Int := a.value.bind Param.integer?

/-- A pin is a whole number that 32 bits hold without a sign. -/
theorem pin?_eq_some_iff {a : Slot} {p : Nat} :
    a.pin? = some p ↔ a.whole? = some (p : Int) ∧ p < 2 ^ 32 := by
  have largest : maxPin = 2 ^ 32 - 1 := rfl
  rw [whole?, pin?]
  cases a.value with
  | none => simp
  | some v =>
    simp only [Option.bind_eq_bind, Option.bind_some]
    cases v.integer? with
    | none => simp
    | some n =>
      rw [Option.bind_some, Option.some.injEq]
      by_cases fits : 0 ≤ n ∧ n ≤ maxPin
      · rw [if_pos fits, Option.some.injEq]
        omega
      · rw [if_neg fits]
        simp only [reduceCtorEq, false_iff]
        omega

/-- The text of a pin is its number in digits, be the value whole or a double. -/
theorem text_of_pin? {a : Slot} {p : Nat} (h : a.pin? = some p) : a.text = toString p := by
  obtain ⟨whole, small⟩ := pin?_eq_some_iff.mp h
  obtain ⟨v, value, read⟩ := Option.bind_eq_some_iff.mp whole
  rw [text, value]
  cases v with
  | integer n =>
    obtain rfl : n = p := Option.some.inj read
    rfl
  | number x =>
    obtain ⟨isWhole, truncated⟩ := (Param.integer?_number_eq_natCast_iff small).mp read
    have quotient : x.magnitude / Binary64.unitsPerOne = p := by
      rw [Binary64.truncate] at truncated
      generalize x.magnitude / Binary64.unitsPerOne = m at truncated
      cases negative : x.negative with
      | true =>
        rw [negative, if_pos rfl] at truncated
        omega
      | false =>
        rw [negative, if_neg Bool.false_ne_true] at truncated
        omega
    have below : x.magnitude < 10 ^ 15 * Binary64.unitsPerOne := by
      rw [← Nat.div_lt_iff_lt_mul Binary64.unitsPerOne_pos, quotient]
      exact Nat.lt_trans small (by decide)
    show Param.displayNumber x = _
    rw [Param.displayNumber, isWhole, decide_eq_true below, truncated]
    rfl
  | _ => cases read

end Slot

/-! ### Claims -/

theorem pin_mem_claimedPins_iff {slots : List Slot} {p : Nat} :
    .pin p ∈ claimedPins slots ↔ ∃ a ∈ slots, a.pin? = some p := by
  simp [claimedPins, List.mem_filterMap]

/-- The types that claim their pins. The others use pins that are claimed elsewhere. -/
def Builtin.claimsPins : Builtin → Bool
  | .spiConfig => true
  | .i2cConfig => true
  | .adcConfig => true
  | .pwmConfig => true
  | .gpioSet => true
  | _ => false

/-- The claimed pins are those in the slots that the check goes through. -/
theorem Block.pin_mem_claims_iff {b : Block} {p : Nat} :
    .pin p ∈ b.claims ↔ ∃ kind, b.builtin? = some kind ∧ kind.claimsPins ∧
      ∃ key ∈ kind.pinSlots, (b.slot key).pin? = some p := by
  rw [claims]
  cases b.builtin? with
  | none => simp
  | some kind =>
    cases kind with
    | spiConfig =>
      -- The four pins of this bus are claimed in another order than the table has them.
      simp [SpiConfig.claims, SpiConfig.ofBlock, pin_mem_claimedPins_iff, Builtin.claimsPins,
        Builtin.pinSlots]
      tauto
    | i2cConfig =>
      simp [I2cConfig.claims, I2cConfig.ofBlock, pin_mem_claimedPins_iff, Builtin.claimsPins,
        Builtin.pinSlots]
    | _ => simp [pin_mem_claimedPins_iff, Builtin.claimsPins, Builtin.pinSlots]

/-! ### Reports -/

/-- A pin is reported if it is not on the board, or else if it must measure and cannot. -/
theorem mem_slotFindings_iff {kind : Builtin} {key : String} {n : Int} {finding : Finding} :
    finding ∈ slotFindings kind key n ↔
      (n < 0 ∨ 29 < n) ∧ finding = .pinOffBoard key n ∨
      (0 ≤ n ∧ n ≤ 29) ∧ kind.isMeasuring ∧ ¬ (n = 26 ∨ n = 27 ∨ n = 28) ∧
        finding = .noAdcInput n := by
  have board : (Board.lastPin : Int) = 29 := rfl
  rw [slotFindings, board]
  by_cases off : n < 0 ∨ 29 < n
  · rw [if_pos off, List.mem_singleton]
    have : ¬ (0 ≤ n ∧ n ≤ 29) := by omega
    simp [off, this]
  · have on : 0 ≤ n ∧ n ≤ 29 := by omega
    have measures : Board.adcPins.contains n.toNat = true ↔ n = 26 ∨ n = 27 ∨ n = 28 := by
      simp only [Board.adcPins, List.contains_iff_mem, List.mem_cons, List.not_mem_nil, or_false]
      omega
    rw [if_neg off]
    by_cases wrong : kind.isMeasuring ∧ ¬ (n = 26 ∨ n = 27 ∨ n = 28)
    · have chosen : (kind.isMeasuring && !Board.adcPins.contains n.toNat) = true := by
        rw [Bool.and_eq_true, Bool.not_eq_true', ← Bool.not_eq_true, measures]
        exact wrong
      rw [if_pos chosen, List.mem_singleton]
      simp only [off, on, wrong, false_and, true_and, false_or, not_false_eq_true]
    · have other : ¬ (kind.isMeasuring && !Board.adcPins.contains n.toNat) = true := by
        rw [Bool.and_eq_true, Bool.not_eq_true', ← Bool.not_eq_true, measures]
        exact wrong
      rw [if_neg other]
      simp only [List.not_mem_nil, off, false_and, false_or, false_iff]
      exact fun h => wrong ⟨h.2.1, h.2.2.1⟩

namespace Block

variable {b : Block} {finding : Finding}

/-- What is found about a block is found about its slots that name pins. -/
theorem mem_pinFindings_iff :
    finding ∈ b.pinFindings ↔ ∃ kind, b.builtin? = some kind ∧ ∃ key ∈ kind.pinSlots, ∃ n,
      (b.slot key).whole? = some n ∧ finding ∈ slotFindings kind key n := by
  rw [pinFindings]
  cases b.builtin? with
  | none => simp
  | some kind =>
    simp only [List.mem_flatMap, Option.some.injEq, exists_eq_left']
    refine exists_congr fun key => and_congr_right fun _ => ?_
    have same : (b.params.get? key).bind Param.integer? = (b.slot key).whole? := rfl
    rw [same]
    cases (b.slot key).whole? <;> simp

end Block

theorem mem_pinDiagnostics_iff {blocks : List Block} {d : Diagnostic} :
    d ∈ pinDiagnostics blocks ↔ ∃ b ∈ walk blocks, ∃ kind, b.builtin? = some kind ∧
      ∃ key ∈ kind.pinSlots, ∃ n, (b.slot key).whole? = some n ∧
        ((n < 0 ∨ 29 < n) ∧ d = .about b (.pinOffBoard key n) ∨
          (0 ≤ n ∧ n ≤ 29) ∧ kind.isMeasuring ∧ ¬ (n = 26 ∨ n = 27 ∨ n = 28) ∧
            d = .about b (.noAdcInput n)) := by
  rw [pinDiagnostics, List.mem_flatMap]
  refine exists_congr fun b => and_congr_right fun _ => ?_
  rw [List.mem_map]
  constructor
  · rintro ⟨finding, found, rfl⟩
    obtain ⟨kind, hkind, key, hkey, n, whole, found⟩ := Block.mem_pinFindings_iff.mp found
    refine ⟨kind, hkind, key, hkey, n, whole, ?_⟩
    rcases mem_slotFindings_iff.mp found with ⟨off, rfl⟩ | ⟨on, measures, wrong, rfl⟩
    · exact Or.inl ⟨off, rfl⟩
    · exact Or.inr ⟨on, measures, wrong, rfl⟩
  · rintro ⟨kind, hkind, key, hkey, n, whole, ⟨off, rfl⟩ | ⟨on, measures, wrong, rfl⟩⟩
    · refine ⟨_, Block.mem_pinFindings_iff.mpr ⟨kind, hkind, key, hkey, n, whole, ?_⟩, rfl⟩
      exact mem_slotFindings_iff.mpr (Or.inl ⟨off, rfl⟩)
    · refine ⟨_, Block.mem_pinFindings_iff.mpr ⟨kind, hkind, key, hkey, n, whole, ?_⟩, rfl⟩
      exact mem_slotFindings_iff.mpr (Or.inr ⟨on, measures, wrong, rfl⟩)

/-- Whatever is reported about a pin is an error. -/
theorem isError_of_mem_pinDiagnostics {blocks : List Block} {d : Diagnostic}
    (h : d ∈ pinDiagnostics blocks) : d.isError := by
  obtain ⟨b, -, kind, -, key, -, n, -, ⟨-, rfl⟩ | ⟨-, -, -, rfl⟩⟩ := mem_pinDiagnostics_iff.mp h
  · rfl
  · rfl

/-- Without errors, a pin in a slot of the table is on the board, and measures if it must. -/
theorem pin_on_board {blocks : List Block} (quiet : ∀ d ∈ pinDiagnostics blocks, ¬ d.isError)
    {b : Block} (visited : b ∈ walk blocks) {kind : Builtin} (hkind : b.builtin? = some kind)
    {key : String} (hkey : key ∈ kind.pinSlots) {p : Nat} (pin : (b.slot key).pin? = some p) :
    p ≤ 29 ∧ (kind.isMeasuring → p = 26 ∨ p = 27 ∨ p = 28) := by
  have whole := (Slot.pin?_eq_some_iff.mp pin).1
  have silent (d : Diagnostic) : d ∉ pinDiagnostics blocks := fun h =>
    quiet d h (isError_of_mem_pinDiagnostics h)
  have onBoard : p ≤ 29 := by
    by_contra off
    refine silent (.about b (.pinOffBoard key p)) (mem_pinDiagnostics_iff.mpr ?_)
    exact ⟨b, visited, kind, hkind, key, hkey, p, whole, Or.inl ⟨by omega, rfl⟩⟩
  refine ⟨onBoard, fun measures => ?_⟩
  by_contra wrong
  refine silent (.about b (.noAdcInput p)) (mem_pinDiagnostics_iff.mpr ?_)
  exact ⟨b, visited, kind, hkind, key, hkey, p, whole,
    Or.inr ⟨by omega, measures, by omega, rfl⟩⟩

/-- **Claimed pins are on the board**: if the check of the pins finds no error in a program, then every
pin that is owned has a number up to 29, and those that configurations of the converter claim are 26,
27 or 28. And just the parameters that are wrong are reported: of the slots of a visited block that
name pins, those with a whole number that is not on the board, and for the two types that measure
those with one that is on the board but cannot measure. -/
theorem claimed_pins_are_on_board (blocks : List Block) :
    ((Report.ofList (pinDiagnostics blocks)).errors = [] →
      (∀ p, .pin p ∈ (ownership blocks).resources → p ≤ 29) ∧
      ∀ b ∈ blocks, b.type = "adc_config" → ∀ p, .pin p ∈ b.claims → p = 26 ∨ p = 27 ∨ p = 28) ∧
    ∀ d, d ∈ pinDiagnostics blocks ↔ ∃ b ∈ walk blocks, ∃ kind, b.builtin? = some kind ∧
      ∃ key ∈ kind.pinSlots, ∃ n, (b.slot key).whole? = some n ∧
        ((n < 0 ∨ 29 < n) ∧ d = .about b (.pinOffBoard key n) ∨
          (0 ≤ n ∧ n ≤ 29) ∧ (b.type = "adc_config" ∨ b.type = "adc_read") ∧
            ¬ (n = 26 ∨ n = 27 ∨ n = 28) ∧ d = .about b (.noAdcInput n)) := by
  refine ⟨fun noErrors => ?_, fun d => ?_⟩
  · have quiet : ∀ d ∈ pinDiagnostics blocks, ¬ d.isError := List.filter_eq_nil_iff.mp noErrors
    have claimed {b : Block} (hb : b ∈ blocks) {p : Nat} (claims : .pin p ∈ b.claims) :
        p ≤ 29 ∧ (b.type = "adc_config" → p = 26 ∨ p = 27 ∨ p = 28) := by
      obtain ⟨kind, hkind, -, key, hkey, pin⟩ := Block.pin_mem_claims_iff.mp claims
      have visited : b ∈ walk blocks := by
        rw [walk_eq_preorder]
        exact (Block.sublist_preorder blocks).subset hb
      obtain ⟨onBoard, measuring⟩ := pin_on_board quiet visited hkind hkey pin
      refine ⟨onBoard, fun type => measuring ?_⟩
      have isConfig : b.builtin? = some .adcConfig := Block.builtin?_eq_some_iff.mpr type
      rw [hkind] at isConfig
      rw [Option.some.inj isConfig]
      rfl
    refine ⟨fun p owned => ?_, fun b hb type p claims => (claimed hb claims).2 type⟩
    obtain ⟨⟨_, ids⟩, entry, rfl⟩ := List.mem_map.mp owned
    have ordered := ordered_ownership blocks
    obtain ⟨id, owner⟩ := List.exists_mem_of_ne_nil ids (ordered.owned _ entry)
    obtain ⟨b, hb, -, claims⟩ := owns_ownership.mp ((ordered.mem_iff_owns entry).mp owner)
    exact (claimed hb claims).1
  · rw [mem_pinDiagnostics_iff]
    refine exists_congr fun b => and_congr_right fun _ => exists_congr fun kind =>
      and_congr_right fun hkind => ?_
    have measuring : kind.isMeasuring ↔ b.type = "adc_config" ∨ b.type = "adc_read" := by
      rw [Block.builtin?_eq_some_iff.mp hkind]
      cases kind <;> decide
    simp only [measuring]

/-- A bus, a sensor, and a lamp in a conditional: no error is found, so the owned pins are on the
board, and that of the sensor can measure. With a lamp at pin 30 the conditional is reported. -/
theorem sensor_at_26_is_on_board :
    let sensor : Block := ⟨"a", "adc_config", [("pin", .integer 26)], []⟩
    let bus : Block := ⟨"b", "i2c_config", [("scl", .integer 5), ("sda", .integer 4)], []⟩
    let guard (pin : Int) : Block :=
      ⟨"c", "if_condition", [], [⟨"d", "gpio_set", [("pin", .integer pin)], []⟩]⟩
    let blocks := [sensor, bus, guard 25]
    (Report.ofList (pinDiagnostics blocks)).errors = [] ∧
    (∀ p, .pin p ∈ (ownership blocks).resources → p ≤ 29) ∧
    (.pin 26 ∈ sensor.claims ∧ ∀ p, .pin p ∈ sensor.claims → p = 26 ∨ p = 27 ∨ p = 28) ∧
    ⟨some "d", .pinOffBoard "pin" 30⟩ ∈ pinDiagnostics [guard 30] := by
  intro sensor bus guard blocks
  have noErrors : (Report.ofList (pinDiagnostics blocks)).errors = [] := by
    rw [pinDiagnostics, walk_eq_preorder]
    decide
  obtain ⟨owned, measuring⟩ := (claimed_pins_are_on_board blocks).1 noErrors
  refine ⟨noErrors, owned, ⟨by decide, measuring sensor List.mem_cons_self rfl⟩, ?_⟩
  refine ((claimed_pins_are_on_board [guard 30]).2 _).mpr ?_
  refine ⟨⟨"d", "gpio_set", [("pin", .integer 30)], []⟩, ?_, .gpioSet, rfl, "pin", by decide, 30,
    rfl, Or.inl ⟨by decide, rfl⟩⟩
  rw [walk_eq_preorder]
  exact List.mem_cons_of_mem _ List.mem_cons_self

end Blockware
