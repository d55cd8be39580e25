import Mathlib.Data.List.Count
import Blockware.Proofs.Number.Whole
import Blockware.Proofs.PinRanges
import Blockware.Proofs.Program.DrivenPins
import Blockware.Proofs.Stored.Conflicts

/-!
# Claimed pins are those in the code

What a block claims goes by the value of a slot, and what it writes goes by the text. A pin may be
given as a whole number or as a double, and both ways it is claimed by its number and written in its
digits. So blocks that claim one pin write it alike, and a pin in the report of conflicts is the one
that stands in the code of its owners.

- `Slot.toRat?`, `Slot.pin?_eq_some_iff_toRat?`: a slot as an exact number, and which of them are pins.
- `Slot.text_eq_toString_iff`: a number is written in the digits of a pin if it is that pin.
- `count_gpioInit`: how often the part that runs once sets up a driven pin.
- `Block.pinLines`, `Block.ownLines_perm_pinLines`: the lines of a block that name the pin in a slot,
  and that the others name none.
- `Block.ownLines_infix`: the lines of a top-level block stand together in the program.
- `claimed_pins_are_written`: all of it for a whole program.
-/

namespace Blockware

/-! ### Pins as numbers and as texts -/

/-- The value as an exact number, if it is one. -/
def Param.toRat? : Param → Option ℚ
  | .integer n => some n
  | .number x => some x.toRat
  | _ => none

/-- A whole number is written in the digits of a natural one exactly if it is that one. -/
theorem toString_eq_natural_iff {m : Int} {n : Nat} : toString m = toString n ↔ m = n := by
  refine ⟨fun same => ?_, fun same => by rw [same]; rfl⟩
  have chars := congrArg String.toList same
  rw [Numeral.toString_eq, String.toList_ofList, Nat.toString_eq_repr, Nat.toList_repr] at chars
  have positive : ¬ m < 0 := by
    intro negative
    rw [if_pos negative] at chars
    have sign : '-' ∈ Nat.toDigits 10 n := by
      rw [← chars]
      exact List.mem_cons_self
    have digit : '-'.isDigit := Nat.isDigit_of_mem_toDigits (by decide) (by decide) sign
    cases digit
  obtain ⟨k, rfl⟩ := Int.eq_ofNat_of_zero_le (Int.not_lt.mp positive)
  exact congrArg _ (Resource.toString_inj same)

/-- A double is written in the digits of a number that fits the significand only if it is that one. -/
theorem Param.toRat_of_displayNumber {x : Binary64} {n : Nat} (small : n < 2 ^ 53)
    (written : displayNumber x = toString n) : x.toRat = n := by
  rw [displayNumber] at written
  split at written
  · rename_i whole
    rw [Bool.and_eq_true] at whole
    exact Binary64.toRat_eq_natCast_iff.mpr ⟨whole.1, toString_eq_natural_iff.mp written⟩
  · rename_i other
    have nonzero : x.magnitude ≠ 0 := by
      intro zero
      refine other ?_
      have bound : 0 < 10 ^ 15 * Binary64.unitsPerOne :=
        Nat.mul_pos (by decide) Binary64.unitsPerOne_pos
      rw [Binary64.isWhole, zero, Nat.zero_mod, decide_eq_true bound]
      rfl
    refine Binary64.toRat_of_read?_natural small ?_
    rw [← written]
    exact Numeral.read?_display nonzero

namespace Slot

/-- The value as an exact number, if it is one. -/
def toRat? (a : Slot) : Option ℚ := a.value.bind Param.toRat?

/-- A pin is a number that is whole and that 32 bits hold without a sign. -/
theorem pin?_eq_some_iff_toRat? {a : Slot} {n : Nat} :
    a.pin? = some n ↔ n < 2 ^ 32 ∧ a.toRat? = some (n : ℚ) := by
  rw [pin?_eq_some_iff, and_comm, whole?, toRat?]
  refine and_congr_right fun small => ?_
  cases a.value with
  | none => simp
  | some v =>
    rw [Option.bind_some, Option.bind_some]
    cases v with
    | integer m =>
      rw [Param.integer?, Param.toRat?, Option.some.injEq, Option.some.injEq]
      exact_mod_cast Iff.rfl
    | number x =>
      rw [Param.integer?_number_eq_natCast_iff small, Param.toRat?, Option.some.injEq,
        Binary64.toRat_eq_natCast_iff]
    | _ => simp [Param.integer?, Param.toRat?]

/-- A number is written in the digits of a pin exactly if it is that pin. -/
theorem text_eq_toString_iff {a : Slot} {q : ℚ} (number : a.toRat? = some q) {n : Nat}
    (small : n < 2 ^ 32) : a.text = toString n ↔ a.pin? = some n := by
  refine ⟨fun written => ?_, text_of_pin?⟩
  refine pin?_eq_some_iff_toRat?.mpr ⟨small, ?_⟩
  obtain ⟨v, value, -⟩ := Option.bind_eq_some_iff.mp number
  rw [text, value] at written
  rw [toRat?, value] at number ⊢
  rw [Option.bind_some] at number ⊢
  cases v with
  | integer m =>
    have same : m = n := toString_eq_natural_iff.mp written
    rw [Param.toRat?, same, Int.cast_natCast]
  | number x =>
    have exact : x.toRat = n := Param.toRat_of_displayNumber (small.trans (by decide)) written
    rw [Param.toRat?, exact]
  | _ => cases number

end Slot

/-! ### Setting pins up -/

theorem Action.toList_gpioInit (pin : String) :
    (gpioInit pin).toList = "gpio_init(".toList ++ (pin.toList ++
      ("); gpio_set_dir(".toList ++ (pin.toList ++ ", GPIO_OUT);".toList))) := by
  simp [gpioInit, toString]

/-- Different texts of pins are set up by different lines. -/
theorem Action.gpioInit_injective : Function.Injective gpioInit := by
  intro pin other same
  have chars := congrArg String.toList same
  rw [toList_gpioInit, toList_gpioInit] at chars
  have rest := List.append_cancel_left chars
  -- The text stands in the line twice, so the texts have one length.
  have sizes := congrArg List.length rest
  simp only [List.length_append] at sizes
  exact String.toList_injective (List.append_inj_left rest (by omega))

/-- The pin of a visited block is set up by one line. -/
theorem count_gpioInit {blocks : List Block} {b : Block} {pin : String} (visited : b ∈ walk blocks)
    (drives : b.drivenPin? = some pin) :
    (gpioInitPart blocks).count (Action.gpioInit pin) = 1 := by
  have asked : pin ∈ (walk blocks).filterMap Block.drivenPin? :=
    List.mem_filterMap.mpr ⟨b, visited, drives⟩
  have kept := firstOccurrences_eraseDups ((walk blocks).filterMap Block.drivenPin?)
  have comment : "// Auto-generated GPIO Init" ≠ Action.gpioInit pin := by
    intro same
    have chars := congrArg String.toList same
    rw [Action.toList_gpioInit] at chars
    cases chars
  rw [gpioInitPart_eq kept, if_neg (List.ne_nil_of_mem asked), List.count_cons_of_ne comment,
    List.count_map_of_injective _ _ Action.gpioInit_injective]
  exact List.count_eq_one_of_mem kept.nodup ((kept.mem_iff pin).mpr asked)

/-- A block that sets a pin, and claims it, drives it by its number. -/
theorem Block.drivenPin?_of_claims {b : Block} {n : Nat} (sets : b.type = "gpio_set")
    (claims : .pin n ∈ b.claims) : b.drivenPin? = some (toString n) := by
  have kind : b.builtin? = some .gpioSet := builtin?_eq_some_iff.mpr sets
  obtain ⟨kind', hkind, -, key, hkey, pin⟩ := pin_mem_claims_iff.mp claims
  rw [kind] at hkind
  cases hkind
  obtain rfl : key = "pin" := List.mem_singleton.mp hkey
  refine drivenPin?_eq_some_iff.mpr ⟨kind, ?_, Slot.text_of_pin? pin⟩
  obtain ⟨v, value, -⟩ := Option.bind_eq_some_iff.mp (Slot.pin?_eq_some_iff.mp pin).1
  rw [Slot.isPresent, value]
  rfl

/-! ### Lines that name pins -/

namespace Block

variable {b : Block} {kind : Builtin}

/-- A block of a type claims a pin, which is in one of its slots. -/
structure ClaimsPin (b : Block) (kind : Builtin) (key : String) (n : Nat) : Prop where
  builtin : b.builtin? = some kind
  claims : kind.claimsPins
  slot : key ∈ kind.pinSlots
  pin : (b.slot key).pin? = some n

/-- The lines of a block that name the pin in one of its slots, by the text of the pin. -/
def pinLines (b : Block) (kind : Builtin) (key pin : String) : List String :=
  match kind with
  | .spiConfig =>
    if key = "csn" then
      [s!"gpio_init({pin});", s!"gpio_set_dir({pin}, GPIO_OUT);", s!"gpio_put({pin}, 1);"]
    else [s!"gpio_set_function({pin}, GPIO_FUNC_SPI);"]
  | .i2cConfig => [s!"gpio_set_function({pin}, GPIO_FUNC_I2C);", s!"gpio_pull_up({pin});"]
  | .adcConfig => [s!"// ADC Config (Pin {pin})", s!"adc_gpio_init({pin});"]
  | .pwmConfig => [
      s!"// PWM Config (Pin {pin})",
      s!"gpio_set_function({pin}, GPIO_FUNC_PWM);",
      s!"uint slice_{pin} = pwm_gpio_to_slice_num({pin});",
      s!"pwm_set_wrap(slice_{pin}, 65535);",
      s!"pwm_set_enabled(slice_{pin}, true);"]
  | .gpioSet =>
    let level := (b.slot "level").text
    [s!"gpio_put({pin}, {level});"]
  | _ => []

/-- The lines of a block that name none of its pins. -/
def pinlessLines (b : Block) (kind : Builtin) : List String :=
  match kind with
  | .spiConfig =>
    let bus := SpiConfig.busOf (b.slot "inst")
    let baud := (b.slot "baud").textOr defaultSpeed
    [s!"// SPI Config ({bus})", s!"spi_init({bus}, {baud});"]
  | .i2cConfig =>
    let bus := I2cConfig.busOf (b.slot "inst")
    let baud := (b.slot "baud").textOr defaultSpeed
    [s!"// I2C Config ({bus})", s!"i2c_init({bus}, {baud});"]
  | .adcConfig => ["if (!adc_initialized) \x7b adc_init(); adc_initialized = true; \x7d"]
  | _ => []

/-- A block that claims pins adds the lines that name none, and for each slot those that name its
text. -/
theorem ownLines_perm_pinLines (s : Snapshot) (builtin : b.builtin? = some kind)
    (claims : kind.claimsPins) :
    (b.ownLines s false).Perm (b.pinlessLines kind ++
      kind.pinSlots.flatMap fun key => b.pinLines kind key (b.slot key).text) := by
  cases kind with
  | spiConfig =>
    -- The clock is set up before the transmitting pin, which the table has first.
    rw [ownLines_config s builtin (by decide)]
    exact .cons _ (.cons _ (.cons _ (.swap _ _ _)))
  | i2cConfig =>
    -- No pin is pulled up before both have their function.
    rw [ownLines_config s builtin (by decide)]
    exact .cons _ (.cons _ (.cons _ (.swap _ _ _)))
  | adcConfig =>
    -- The converter is set up between the comment for the pin and the call for it.
    rw [ownLines_config s builtin (by decide)]
    exact .swap _ _ _
  | pwmConfig =>
    rw [ownLines_config s builtin (by decide)]
    exact .refl _
  | gpioSet =>
    rw [ownLines_action s builtin rfl (by decide)]
    exact .refl _
  | _ => cases claims

/-- A block claims a pin if one of its slots has it. -/
theorem pin_mem_claims_iff_claimsPin {n : Nat} :
    .pin n ∈ b.claims ↔ ∃ kind key, b.ClaimsPin kind key n := by
  rw [pin_mem_claims_iff]
  constructor
  · rintro ⟨kind, builtin, claims, key, slot, pin⟩
    exact ⟨kind, key, builtin, claims, slot, pin⟩
  · rintro ⟨kind, key, builtin, claims, slot, pin⟩
    exact ⟨kind, builtin, claims, key, slot, pin⟩

/-- For every slot of a block that claims pins there is a line. -/
theorem pinLines_ne_nil (claims : kind.claimsPins) (key pin : String) :
    b.pinLines kind key pin ≠ [] := by
  cases kind with
  | spiConfig =>
    rw [pinLines]
    split
    · exact List.cons_ne_nil _ _
    · exact List.cons_ne_nil _ _
  | i2cConfig | adcConfig | pwmConfig | gpioSet => exact List.cons_ne_nil _ _
  | _ => cases claims

/-- A claimed pin stands in the lines for its slot in digits. -/
theorem ClaimsPin.pinLines_subset {key : String} {n : Nat} (s : Snapshot)
    (h : b.ClaimsPin kind key n) : b.pinLines kind key (toString n) ⊆ b.ownLines s false := by
  intro line named
  rw [← Slot.text_of_pin? h.pin] at named
  refine (ownLines_perm_pinLines s h.builtin h.claims).mem_iff.mpr (List.mem_append_right _ ?_)
  exact List.mem_flatMap.mpr ⟨key, h.slot, named⟩

/-- The lines of a block without a body stand together in the part of the program to which it belongs. -/
theorem ownLines_infix (s : Snapshot) (heartbeat : Nat) (projectName : String) {blocks : List Block}
    (modules : List String) (hb : b ∈ blocks) (leaf : ¬ b.takesBody) :
    let p := Program.generate s heartbeat projectName blocks modules
    b.ownLines s false <:+: if s.isSetup b then p.setupLines else p.loopLines := by
  intro p
  by_cases setup : s.isSetup b
  · have there : b ∈ s.setupBlocks blocks := List.mem_filter.mpr ⟨hb, setup⟩
    have piece : b.setupCode s <:+: (s.setupBlocks blocks).flatMap (setupCode s) :=
      List.infix_of_mem_flatten (List.mem_map_of_mem there)
    rw [if_pos setup, ownLines_of_isSetup setup, setupLines_generate]
    exact piece.trans (List.infix_append _ _ _)
  · have loop : s.isSetup b = false := eq_false_of_ne_true setup
    have there : b ∈ s.loopBlocks blocks := List.mem_filter.mpr ⟨hb, by simp [loop]⟩
    have piece : (b.emit s false).lines <:+:
        (s.loopBlocks blocks).flatMap fun c => (c.emit s false).lines :=
      List.infix_of_mem_flatten (List.mem_map_of_mem there)
    rw [emit_leaf leaf (Or.inr loop)] at piece
    rw [if_neg setup, loopLines_generate]
    exact piece.trans (List.infix_append _ _ _)

/-- No container claims pins. -/
theorem not_takesBody_of_claimsPins (builtin : b.builtin? = some kind) (claims : kind.claimsPins) :
    ¬ b.takesBody := by
  rw [takesBody_of_builtin builtin]
  cases kind with
  | functionDef | ifCondition => cases claims
  | _ => exact Bool.false_ne_true

end Block

/-- **Claimed pins are written**: a slot is a pin exactly if its value is a number that is whole and
that 32 bits hold without a sign, and then its text is the number in digits. Conversely a number with
such a text is that pin. The part that runs once ends with the lines that set up driven pins: those for
two blocks that claim pins are the same line exactly if the pins are, and the line is there once. The
owners of a contested pin are the ids of the blocks with a slot that is the pin. The lines of such a
block stand together in its part of the program. They are lines that name no pin, and for each slot
those that name its text, so some line names the claimed pin, and all lines for its slot do. -/
theorem claimed_pins_are_written (s : Snapshot) (heartbeat : Nat) (projectName : String)
    (blocks : List Block) (modules : List String) :
    let p := Program.generate s heartbeat projectName blocks modules
    (∀ (a : Slot) (n : Nat), a.pin? = some n ↔ n < 2 ^ 32 ∧ a.toRat? = some (n : ℚ)) ∧
    (∀ (a : Slot) (n : Nat), a.pin? = some n → a.text = toString n) ∧
    (∀ (a : Slot) (q : ℚ), a.toRat? = some q → ∀ n < 2 ^ 32,
      a.text = toString n ↔ a.pin? = some n) ∧
    gpioInitPart blocks <:+ p.setupLines ∧
    (∀ b ∈ walk blocks, b.type = "gpio_set" → ∀ n, .pin n ∈ b.claims →
      (b.slot "pin").text = toString n ∧
      (gpioInitPart blocks).count (Action.gpioInit (toString n)) = 1 ∧
      ∀ c ∈ walk blocks, c.type = "gpio_set" → ∀ m, .pin m ∈ c.claims →
        (Action.gpioInit (b.slot "pin").text = Action.gpioInit (c.slot "pin").text ↔ n = m)) ∧
    (∀ n ids, (.pin n, ids) ∈ conflicts blocks → ∀ id, id ∈ ids ↔
      ∃ b ∈ blocks, b.id = id ∧ ∃ kind key, b.ClaimsPin kind key n) ∧
    (∀ b ∈ blocks, ∀ kind key n, b.ClaimsPin kind key n →
      let own := b.ownLines s false
      own <:+: (if s.isSetup b then p.setupLines else p.loopLines) ∧
      own.Perm (b.pinlessLines kind ++
        kind.pinSlots.flatMap fun key => b.pinLines kind key (b.slot key).text) ∧
      b.pinLines kind key (toString n) ≠ [] ∧ b.pinLines kind key (toString n) ⊆ own) := by
  intro p
  refine ⟨fun _ _ => Slot.pin?_eq_some_iff_toRat?, fun _ _ => Slot.text_of_pin?,
    fun _ _ number _ => Slot.text_eq_toString_iff number, ?_, ?_, ?_, ?_⟩
  · show _ <:+ (Program.generate s heartbeat projectName blocks modules).setupLines
    rw [setupLines_generate]
    exact List.suffix_append _ _
  · intro b hb setsB n claimsB
    have drivesB := Block.drivenPin?_of_claims setsB claimsB
    have textB := (Block.drivenPin?_eq_some_iff.mp drivesB).2.2
    refine ⟨textB, count_gpioInit hb drivesB, fun c _ setsC m claimsC => ?_⟩
    have drivesC := Block.drivenPin?_of_claims setsC claimsC
    have textC := (Block.drivenPin?_eq_some_iff.mp drivesC).2.2
    rw [textB, textC, Action.gpioInit_injective.eq_iff]
    exact ⟨Resource.toString_inj, congrArg toString⟩
  · intro n ids entry id
    simp only [mem_iff_of_mem_conflicts entry, Block.pin_mem_claims_iff_claimsPin]
  · intro b hb kind key n claimed own
    exact ⟨Block.ownLines_infix s heartbeat projectName modules hb
        (Block.not_takesBody_of_claimsPins claimed.builtin claimed.claims),
      Block.ownLines_perm_pinLines s claimed.builtin claimed.claims,
      Block.pinLines_ne_nil claimed.claims key _, claimed.pinLines_subset s⟩

/-- Two lamps and a pulse on one pin, which is given once as a whole number and twice as a double: the
pin is contested, the lamps are set up by one line, and each block names the pin by its digits. -/
theorem double_and_integer_are_one_pin :
    let double : Param := .number (.ofInt 25)
    let first : Block := ⟨"a", "gpio_set", [("level", .integer 1), ("pin", .integer 25)], []⟩
    let second : Block := ⟨"b", "gpio_set", [("level", .integer 0), ("pin", double)], []⟩
    let pulse : Block := ⟨"c", "pwm_config", [("pin", double)], []⟩
    let blocks := [first, second, pulse]
    let p := Program.generate .bare defaultHeartbeat "demo" blocks []
    (.pin 25 ∈ first.claims ∧ .pin 25 ∈ second.claims ∧
      (.pin 25, ["a", "b", "c"]) ∈ conflicts blocks) ∧
    double.toRat? = some 25 ∧ (second.slot "pin").text = "25" ∧
    (Slot.mk (some (.number (.zero true)))).text = "0" ∧
    Action.gpioInit (first.slot "pin").text = Action.gpioInit (second.slot "pin").text ∧
    (gpioInitPart blocks).count (Action.gpioInit "25") = 1 ∧
    (∀ id, id ∈ ["a", "b", "c"] ↔
      ∃ b ∈ blocks, b.id = id ∧ ∃ kind key, b.ClaimsPin kind key 25) ∧
    "gpio_put(25, 0);" ∈ p.loopLines ∧ "gpio_set_function(25, GPIO_FUNC_PWM);" ∈ p.setupLines := by
  intro double first second pulse blocks p
  have claims : .pin 25 ∈ first.claims ∧ .pin 25 ∈ second.claims := by decide +kernel
  have contested : (.pin 25, ["a", "b", "c"]) ∈ conflicts blocks := by decide +kernel
  have firstIn : first ∈ blocks := List.mem_cons_self
  have secondIn : second ∈ blocks := List.mem_cons_of_mem _ List.mem_cons_self
  have pulseIn : pulse ∈ blocks := List.mem_cons_of_mem _ (List.mem_cons_of_mem _ List.mem_cons_self)
  have visited : ∀ b ∈ blocks, b ∈ walk blocks := by
    intro b hb
    rw [walk_eq_preorder]
    exact (Block.sublist_preorder blocks).subset hb
  have pinSecond : (second.slot "pin").pin? = some 25 := by decide +kernel
  have pinPulse : (pulse.slot "pin").pin? = some 25 := by decide +kernel
  have pinZero : (Slot.mk (some (.number (.zero true)))).pin? = some 0 := by decide +kernel
  obtain ⟨exact, digits, -, -, lines, owners, written⟩ :=
    claimed_pins_are_written .bare defaultHeartbeat "demo" blocks []
  obtain ⟨-, once, shared⟩ := lines first (visited _ firstIn) rfl 25 claims.1
  have value : double.toRat? = some 25 := ((exact (second.slot "pin") 25).mp pinSecond).2
  refine ⟨⟨claims.1, claims.2, contested⟩, value, digits _ _ pinSecond, digits _ _ pinZero,
    (shared second (visited _ secondIn) rfl 25 claims.2).mpr rfl, once, owners 25 _ contested,
    ?_, ?_⟩
  · obtain ⟨there, -, -, named⟩ := written second secondIn .gpioSet "pin" 25
      ⟨rfl, rfl, by decide, pinSecond⟩
    exact there.subset (named List.mem_cons_self)
  · obtain ⟨there, -, -, named⟩ := written pulse pulseIn .pwmConfig "pin" 25
      ⟨rfl, rfl, by decide, pinPulse⟩
    exact there.subset (named (List.mem_cons_of_mem _ List.mem_cons_self))

end Blockware
