import Blockware.Proofs.Program.Visits

/-!
# Declarations of locals

Some statements of built-in blocks declare a local. Which one is read off the line, like by a
compiler: the name of a type, a blank, and then a name up to a character that no name has.

- `declaredLocal?`: the local that a line declares.
- `BeginsOther`: what no line begins with that declares a local.
- `Block.local?`: the local that a block declares, told from its type and its pin.
- `Block.filterMap_ownLines`: the lines that a block adds by itself declare that local and no other.
- `Block.SharesSlice`, `Block.SharesReading`: the pairs of blocks that declare one local, told from
  their types and pins alone.
-/

namespace Blockware

/-! ### Reading lines -/

/-- Whether a character may stand in a name in C. -/
def isNameChar (c : Char) : Bool := beginsCName c || c.isDigit

/-- What a text has of a name at its start. -/
def nameAtStart (s : String) : String := String.ofList (s.toList.takeWhile isNameChar)

/-- The types of the locals that blocks declare. -/
def localTypes : List String := ["bool", "uint", "uint8_t", "uint16_t"]

/-- The local that characters declare, if they begin with the name of a type. -/
def declaredIn? (cs : List Char) : Option String :=
  if cs.takeWhile isNameChar ∈ localTypes.map String.toList then
    match cs.dropWhile isNameChar with
    | ' ' :: rest => some (nameAtStart (String.ofList rest))
    | _ => none
  else none

/-- The local that a line declares, however far it is indented. -/
def declaredLocal? (line : String) : Option String :=
  declaredIn? (line.toList.dropWhile (· == ' '))

/-- Indentation hides no declaration. -/
theorem declaredLocal?_indent (level : Nat) (line : String) :
    declaredLocal? (indent level line) = declaredLocal? line := by
  rw [indent]
  split
  · rename_i empty
    rw [String.isEmpty_iff.mp empty]
  · have blanks : ∀ c ∈ List.replicate (4 * level) ' ', (c == ' ') = true := fun c hc =>
      beq_iff_eq.mpr (List.eq_of_mem_replicate hc)
    rw [declaredLocal?, String.toList_append, String.toList_ofList,
      List.dropWhile_append_of_pos blanks, declaredLocal?]

/-- A word and a character after it that no name has. -/
theorem takeWhile_word {word : List Char} (name : ∀ c ∈ word, isNameChar c) {c : Char}
    (stop : isNameChar c = false) (rest : List Char) :
    (word ++ c :: rest).takeWhile isNameChar = word ∧
      (word ++ c :: rest).dropWhile isNameChar = c :: rest := by
  rw [List.takeWhile_append_of_pos name, List.dropWhile_append_of_pos name]
  simp [stop]

/-- A name goes on up to a character that no name has. -/
theorem nameAtStart_append {stem rest : String} (s : String) (name : stem.toList.all isNameChar)
    (stop : rest.toList.head?.any isNameChar = false) :
    nameAtStart (stem ++ (s ++ rest)) = stem ++ nameAtStart s := by
  have ended : rest.toList.takeWhile isNameChar = [] := by
    cases chars : rest.toList with
    | nil => rfl
    | cons c more =>
      rw [chars] at stop
      exact List.takeWhile_cons_of_neg (Bool.not_eq_true _ ▸ stop)
  have taken : (s.toList ++ rest.toList).takeWhile isNameChar = s.toList.takeWhile isNameChar := by
    rw [List.takeWhile_append, ended, List.append_nil]
    split
    · rename_i all
      exact ((List.takeWhile_prefix _).eq_of_length all).symm
    · rfl
  rw [nameAtStart, String.toList_append, String.toList_append,
    List.takeWhile_append_of_pos (List.all_eq_true.mp name), taken, String.ofList_append,
    String.ofList_toList, nameAtStart]

/-- A line that begins with a type declares the name behind it. -/
theorem declaredLocal?_of_type {type : String} (known : type ∈ localTypes) (rest : String) :
    declaredLocal? (type ++ (" " ++ rest)) = some (nameAtStart rest) := by
  have shape : ∀ t ∈ localTypes, t.toList.all isNameChar ∧ t.toList.head?.any (· != ' ') := by
    decide
  obtain ⟨name, first⟩ := shape type known
  have chars : (type ++ (" " ++ rest)).toList = type.toList ++ ' ' :: rest.toList := by simp
  -- A type begins with no blank, so nothing of it is taken for indentation.
  have kept : (type.toList ++ ' ' :: rest.toList).dropWhile (· == ' ') =
      type.toList ++ ' ' :: rest.toList := by
    cases letters : type.toList with
    | nil => simp [letters] at first
    | cons c more =>
      rw [letters] at first
      have other : c ≠ ' ' := by simpa using first
      simp [other]
  obtain ⟨word, after⟩ := takeWhile_word (List.all_eq_true.mp name) (c := ' ') (by decide) rest.toList
  rw [declaredLocal?, chars, kept, declaredIn?, word, after, if_pos (List.mem_map_of_mem known)]
  simp

/-- A text that begins a line with something else than the name of a type. -/
structure BeginsOther (s : String) : Prop where
  noBlank : s.toList.head? ≠ some ' '
  ends : s.toList.dropWhile isNameChar ≠ []
  other : s.toList.takeWhile isNameChar ∉ localTypes.map String.toList

instance (s : String) : Decidable (BeginsOther s) :=
  decidable_of_iff (_ ∧ _ ∧ _) ⟨fun h => ⟨h.1, h.2.1, h.2.2⟩, fun h => ⟨h.noBlank, h.ends, h.other⟩⟩

namespace BeginsOther

variable {s : String}

/-- What follows makes no difference. -/
theorem append (h : BeginsOther s) (t : String) : BeginsOther (s ++ t) := by
  obtain ⟨first, ends, other⟩ := h
  obtain ⟨c, rest, split⟩ := List.exists_cons_of_ne_nil ends
  have stop : isNameChar c = false := by
    have head := List.head?_dropWhile_not isNameChar s.toList
    rw [split] at head
    simpa using head
  have whole : s.toList = s.toList.takeWhile isNameChar ++ c :: rest := by
    rw [← split, List.takeWhile_append_dropWhile]
  have name : ∀ d ∈ s.toList.takeWhile isNameChar, isNameChar d :=
    List.all_eq_true.mp List.all_takeWhile
  have longer : (s ++ t).toList = s.toList.takeWhile isNameChar ++ c :: (rest ++ t.toList) := by
    rw [String.toList_append, ← List.cons_append, ← List.append_assoc, ← whole]
  obtain ⟨word, after⟩ := takeWhile_word name stop (rest ++ t.toList)
  refine ⟨?_, ?_, ?_⟩
  · obtain ⟨d, more, filled⟩ : ∃ d more, s.toList = d :: more :=
      List.exists_cons_of_ne_nil fun none => ends (by rw [none, List.dropWhile_nil])
    rw [String.toList_append, filled, List.cons_append, List.head?_cons]
    rwa [filled, List.head?_cons] at first
  · rw [longer, after]
    exact List.cons_ne_nil _ _
  · rw [longer, word]
    exact other

/-- Such a line declares nothing. -/
theorem declaredLocal?_eq_none (h : BeginsOther s) : declaredLocal? s = none := by
  have kept : s.toList.dropWhile (· == ' ') = s.toList := by
    cases chars : s.toList with
    | nil => rfl
    | cons c rest =>
      have other : c ≠ ' ' := by simpa [chars] using h.noBlank
      simp [other]
  rw [declaredLocal?, kept, declaredIn?, if_neg h.other]

end BeginsOther

/-! ### Statements -/

namespace Block

/-- The name of a local for the pin of a block. -/
def pinLocal (stem : String) (b : Block) : String := stem ++ nameAtStart (b.slot "pin").text

/-- The local that a block declares, in the part that runs once or where it stands. -/
def local? (b : Block) : Option String :=
  match b.builtin? with
  | some .pwmConfig => some (b.pinLocal "slice_")
  | some .spiRead => some "spi_rx_buf"
  | some .i2cRead => some "i2c_rx_buf"
  | some .adcRead => some (b.pinLocal "adc_val_")
  | _ => none

theorem filterMap_of_beginsOther {lines : List String} (h : ∀ l ∈ lines, BeginsOther l) :
    lines.filterMap declaredLocal? = [] :=
  List.filterMap_eq_nil_iff.mpr fun l hl => (h l hl).declaredLocal?_eq_none

/-- Among lines that declare nothing there is one that declares a local. -/
theorem filterMap_of_declared (before : List String) {after : List String} {line name : String}
    (earlier : ∀ l ∈ before, BeginsOther l) (declared : declaredLocal? line = some name)
    (later : ∀ l ∈ after, BeginsOther l) :
    (before ++ line :: after).filterMap declaredLocal? = [name] := by
  rw [List.filterMap_append, filterMap_of_beginsOther earlier, List.filterMap_cons_some declared,
    filterMap_of_beginsOther later, List.nil_append]

/-- A call of a name declares nothing. -/
theorem declaredLocal?_functionCall {b : Block} (name : isCName (callTarget b)) :
    declaredLocal? s!"{callTarget b}();" = none := by
  rw [isCName] at name
  split at name
  · cases name
  · rename_i c rest target
    obtain ⟨first, others⟩ := Bool.and_eq_true_iff.mp name
    have letters : ∀ d ∈ c :: rest, isNameChar d := by
      intro d hd
      rcases List.mem_cons.mp hd with rfl | later
      · rw [isNameChar, first, Bool.true_or]
      · exact List.all_eq_true.mp others d later
    have chars : s!"{callTarget b}();".toList = c :: rest ++ '(' :: [')', ';'] := by
      simp [toString, target]
    have noBlank : c ≠ ' ' := by
      rintro rfl
      exact absurd first (by decide)
    obtain ⟨word, after⟩ := takeWhile_word letters (c := '(') (by decide) [')', ';']
    rw [declaredLocal?, chars, List.cons_append, List.dropWhile_cons_of_neg (by simpa using noBlank),
      ← List.cons_append, declaredIn?, word, after]
    exact ite_self none

/-- A buffer of some length is declared under its name. -/
theorem declaredLocal?_buffer {stem : String} (name : stem.toList.all isNameChar) (len : String) :
    declaredLocal? ("uint8_t" ++ (" " ++ (stem ++ ("[" ++ len ++ "];")))) = some stem := by
  have stop : ("[" ++ len ++ "];").toList.head?.any isNameChar = false := by
    simp
    decide
  have taken := nameAtStart_append "" name stop
  rw [String.empty_append] at taken
  rw [declaredLocal?_of_type (by decide), taken]
  exact congrArg some String.append_empty

theorem declaredLocal?_spiRead (len : String) :
    declaredLocal? s!"uint8_t spi_rx_buf[{len}];" = some "spi_rx_buf" := by
  have line : s!"uint8_t spi_rx_buf[{len}];" =
      "uint8_t" ++ (" " ++ ("spi_rx_buf" ++ ("[" ++ len ++ "];"))) := by
    apply String.toList_injective
    simp [toString]
  rw [line]
  exact declaredLocal?_buffer (by decide) len

theorem declaredLocal?_i2cRead (len : String) :
    declaredLocal? s!"uint8_t i2c_rx_buf[{len}];" = some "i2c_rx_buf" := by
  have line : s!"uint8_t i2c_rx_buf[{len}];" =
      "uint8_t" ++ (" " ++ ("i2c_rx_buf" ++ ("[" ++ len ++ "];"))) := by
    apply String.toList_injective
    simp [toString]
  rw [line]
  exact declaredLocal?_buffer (by decide) len

theorem declaredLocal?_adcRead (pin : String) :
    declaredLocal? s!"uint16_t adc_val_{pin} = adc_read();" =
      some ("adc_val_" ++ nameAtStart pin) := by
  have line : s!"uint16_t adc_val_{pin} = adc_read();" =
      "uint16_t" ++ (" " ++ ("adc_val_" ++ (pin ++ " = adc_read();"))) := by
    apply String.toList_injective
    simp [toString]
  rw [line, declaredLocal?_of_type (by decide), nameAtStart_append pin (by decide) (by decide)]

theorem declaredLocal?_pwmConfig (pin : String) :
    declaredLocal? s!"uint slice_{pin} = pwm_gpio_to_slice_num({pin});" =
      some ("slice_" ++ nameAtStart pin) := by
  have line : s!"uint slice_{pin} = pwm_gpio_to_slice_num({pin});" =
      "uint" ++ (" " ++ ("slice_" ++ (pin ++ (" = pwm_gpio_to_slice_num(" ++ pin ++ ");")))) := by
    apply String.toList_injective
    simp [toString]
  have stop : (" = pwm_gpio_to_slice_num(" ++ pin ++ ");").toList.head?.any isNameChar = false := by
    simp
    decide
  rw [line, declaredLocal?_of_type (by decide), nameAtStart_append pin (by decide) stop]

/-- The statements of an action declare its local, if it has one. -/
theorem filterMap_loopLinesAs {b : Block} {kind : Builtin} (same : b.builtin? = some kind)
    (loop : kind.category = .loop) (call : kind = .functionCall → isCName (callTarget b)) :
    (b.loopLinesAs kind).filterMap declaredLocal? = b.local?.toList := by
  rw [local?, same]
  cases kind with
  | spiConfig | i2cConfig | adcConfig | pwmConfig => cases loop
  | functionDef | ifCondition => rfl
  | functionCall =>
    rw [loopLinesAs, Action.functionCall, List.filterMap_cons_none
      (declaredLocal?_functionCall (call rfl))]
    rfl
  -- Of all other lines it can be seen at their literal beginnings that they declare nothing.
  | gpioSet | sleep | uartWrite | log | spiWrite | i2cWrite | pwmSet =>
    refine filterMap_of_beginsOther ?_
    simp only [loopLinesAs, Action.gpioSet, Action.sleep, Action.uartWrite, Action.log,
      Action.spiWrite, Action.i2cWrite, Action.pwmSet, List.forall_mem_cons, List.not_mem_nil,
      false_imp_iff, implies_true, and_true]
    and_intros <;> (repeat apply BeginsOther.append) <;> decide
  | spiRead =>
    rw [loopLinesAs, Action.spiRead]
    refine filterMap_of_declared ["// SPI Read"] ?_ (declaredLocal?_spiRead _) ?_ <;>
      simp only [List.forall_mem_cons, List.not_mem_nil, false_imp_iff, implies_true, and_true] <;>
      and_intros <;> (repeat apply BeginsOther.append) <;> decide
  | i2cRead =>
    rw [loopLinesAs, Action.i2cRead]
    refine filterMap_of_declared ["// I2C Read"] ?_ (declaredLocal?_i2cRead _) ?_ <;>
      simp only [List.forall_mem_cons, List.not_mem_nil, false_imp_iff, implies_true, and_true] <;>
      and_intros <;> (repeat apply BeginsOther.append) <;> decide
  | adcRead =>
    rw [loopLinesAs, Action.adcRead]
    refine filterMap_of_declared [_, _] ?_ (declaredLocal?_adcRead _) ?_ <;>
      simp only [List.forall_mem_cons, List.not_mem_nil, false_imp_iff, implies_true, and_true] <;>
      and_intros <;> (repeat apply BeginsOther.append) <;> decide

/-- The statements of a configuration declare its local, if it has one. -/
theorem filterMap_setupLinesAs {b : Block} {kind : Builtin} (same : b.builtin? = some kind)
    (setup : kind.category = .setup) :
    (b.setupLinesAs kind).filterMap declaredLocal? = b.local?.toList := by
  rw [local?, same]
  cases kind with
  | spiConfig | i2cConfig | adcConfig =>
    refine filterMap_of_beginsOther ?_
    simp only [setupLinesAs, SpiConfig.lines, I2cConfig.lines, AdcConfig.lines,
      List.forall_mem_cons, List.not_mem_nil, false_imp_iff, implies_true, and_true]
    and_intros <;> (repeat apply BeginsOther.append) <;> decide
  | pwmConfig =>
    rw [setupLinesAs, PwmConfig.lines]
    refine filterMap_of_declared [_, _] ?_ (declaredLocal?_pwmConfig _) ?_ <;>
      simp only [List.forall_mem_cons, List.not_mem_nil, false_imp_iff, implies_true, and_true] <;>
      and_intros <;> (repeat apply BeginsOther.append) <;> decide
  | _ => cases setup

theorem beginsOther_unknownComment (type : String) : BeginsOther (unknownComment type) := by
  have made : unknownComment type = "// Unknown block type: " ++ type := rfl
  rw [made]
  exact BeginsOther.append (by decide) type

theorem beginsOther_ignoredSetupComment (type : String) : BeginsOther (ignoredSetupComment type) := by
  have made : ignoredSetupComment type =
      "// Setup block '" ++ type ++ "' ignored inside a nested body" := rfl
  rw [made]
  exact (BeginsOther.append (by decide) type).append _

theorem beginsOther_guardLine (c : Condition) : BeginsOther c.guardLine := by
  rw [Condition.guardLine]
  repeat apply BeginsOther.append
  decide

/-- The lines that a block adds by itself declare its local, if it has one. In a body, a block for the
part that runs once declares none, and neither does a block of an unknown type. -/
theorem filterMap_ownLines {b : Block} (nested : Bool)
    (call : b.builtin? = some .functionCall → isCName (callTarget b)) :
    (b.ownLines .bare nested).filterMap declaredLocal? =
      if nested && Snapshot.bare.isSetup b then [] else b.local?.toList := by
  cases same : b.builtin? with
  | none =>
    have unknown : Snapshot.bare.contract? b.type = none := by
      have kind : Builtin.ofType? b.type = none := same
      rw [Snapshot.contract?, kind]
      rfl
    have nothing : b.local? = none := by rw [local?, same]
    rw [ownLines, unknown, nothing,
      filterMap_of_beginsOther (List.forall_mem_singleton.mpr (beginsOther_unknownComment b.type))]
    exact (ite_self []).symm
  | some kind =>
    have category := Snapshot.bare.isSetup_of_builtin same
    by_cases setup : kind.category = .setup
    · have isSetup : Snapshot.bare.isSetup b := category.trans (decide_eq_true setup)
      cases nested with
      | true =>
        -- In a body there is a comment in place of the statements.
        have ignored : b.ownLines .bare true = [ignoredSetupComment b.type] := by
          rw [ownLines, Snapshot.bare.contract?_of_builtin same]
          exact if_pos setup
        rw [ignored, isSetup, filterMap_of_beginsOther
          (List.forall_mem_singleton.mpr (beginsOther_ignoredSetupComment b.type))]
        rfl
      | false =>
        rw [ownLines_config _ same setup]
        exact filterMap_setupLinesAs same setup
    · have loop : kind.category = .loop := by
        cases h : kind.category with
        | setup => exact absurd h setup
        | loop => rfl
      have notSetup : Snapshot.bare.isSetup b = false := category.trans (decide_eq_false setup)
      rw [notSetup, Bool.and_false, if_neg Bool.false_ne_true]
      by_cases container : b.takesBody
      · rcases takesBody_iff.mp container with h | h
        · rw [ownLines_functionDef _ h, local?, h]
          rfl
        · rw [ownLines_ifCondition _ h, local?, h]
          refine filterMap_of_beginsOther (List.forall_mem_cons.mpr ⟨beginsOther_guardLine _, ?_⟩)
          exact List.forall_mem_singleton.mpr (by decide)
      · have leaf : kind.takesBody = false := by
          rw [takesBody_of_builtin same] at container
          exact eq_false_of_ne_true container
        rw [ownLines_action _ same leaf loop]
        exact filterMap_loopLinesAs same loop fun h => call (by rw [same, h])

/-! ### Blocks that share a local -/

/-- The local that a block declares in a scope: none if the block belongs to the part that runs once,
since it then stands in a body and is ignored. -/
def scopeLocal? (b : Block) : Option String :=
  if Snapshot.bare.isSetup b then none else b.local?

variable {a b : Block}

/-- Two blocks configure pins whose texts begin with one name. -/
def SharesSlice (a b : Block) : Prop :=
  a.type = "pwm_config" ∧ b.type = "pwm_config" ∧
    nameAtStart (a.slot "pin").text = nameAtStart (b.slot "pin").text

/-- Two blocks read from buses of one kind, or measure at pins whose texts begin with one name. -/
def SharesReading (a b : Block) : Prop :=
  (a.type = "spi_read" ∧ b.type = "spi_read") ∨ (a.type = "i2c_read" ∧ b.type = "i2c_read") ∨
    (a.type = "adc_read" ∧ b.type = "adc_read" ∧
      nameAtStart (a.slot "pin").text = nameAtStart (b.slot "pin").text)

instance : Decidable (a.SharesSlice b) := inferInstanceAs (Decidable (_ ∧ _ ∧ _))

instance : Decidable (a.SharesReading b) :=
  inferInstanceAs (Decidable (_ ∧ _ ∨ _ ∧ _ ∨ _ ∧ _ ∧ _))

theorem local?_eq_some_iff {x : String} :
    b.local? = some x ↔
      (b.type = "pwm_config" ∧ x = b.pinLocal "slice_") ∨
      (b.type = "spi_read" ∧ x = "spi_rx_buf") ∨ (b.type = "i2c_read" ∧ x = "i2c_rx_buf") ∨
      (b.type = "adc_read" ∧ x = b.pinLocal "adc_val_") := by
  have named (kind : Builtin) : b.type = kind.typeName ↔ b.builtin? = some kind :=
    builtin?_eq_some_iff.symm
  have pwm : b.type = "pwm_config" ↔ b.builtin? = some .pwmConfig := named .pwmConfig
  have spi : b.type = "spi_read" ↔ b.builtin? = some .spiRead := named .spiRead
  have i2c : b.type = "i2c_read" ↔ b.builtin? = some .i2cRead := named .i2cRead
  have adc : b.type = "adc_read" ↔ b.builtin? = some .adcRead := named .adcRead
  rw [pwm, spi, i2c, adc, local?]
  cases b.builtin? with
  | none => simp
  | some kind => cases kind <;> simp [eq_comm]

/-- A block that runs once is no action. -/
theorem type_ne_of_isSetup (setup : Snapshot.bare.isSetup b) (kind : Builtin)
    (loop : kind.category = .loop) : b.type ≠ kind.typeName := by
  intro type
  rw [Snapshot.bare.isSetup_of_builtin (builtin?_eq_some_iff.mpr type), loop] at setup
  cases setup

/-- What a block declares that runs once is the slice of a pin. -/
theorem local?_eq_some_iff_of_isSetup {x : String} (setup : Snapshot.bare.isSetup b) :
    b.local? = some x ↔ b.type = "pwm_config" ∧ x = b.pinLocal "slice_" := by
  have spi : b.type ≠ "spi_read" := type_ne_of_isSetup setup .spiRead (by decide)
  have i2c : b.type ≠ "i2c_read" := type_ne_of_isSetup setup .i2cRead (by decide)
  have adc : b.type ≠ "adc_read" := type_ne_of_isSetup setup .adcRead (by decide)
  rw [local?_eq_some_iff]
  simp [spi, i2c, adc]

/-- What a block declares where it stands is the local of a reading. -/
theorem scopeLocal?_eq_some_iff {x : String} :
    b.scopeLocal? = some x ↔
      (b.type = "spi_read" ∧ x = "spi_rx_buf") ∨ (b.type = "i2c_read" ∧ x = "i2c_rx_buf") ∨
        (b.type = "adc_read" ∧ x = b.pinLocal "adc_val_") := by
  rw [scopeLocal?]
  by_cases setup : Snapshot.bare.isSetup b
  · have spi : b.type ≠ "spi_read" := type_ne_of_isSetup setup .spiRead (by decide)
    have i2c : b.type ≠ "i2c_read" := type_ne_of_isSetup setup .i2cRead (by decide)
    have adc : b.type ≠ "adc_read" := type_ne_of_isSetup setup .adcRead (by decide)
    simp [setup, spi, i2c, adc]
  · have pwm : b.type ≠ "pwm_config" := by
      intro type
      have kind : b.builtin? = some .pwmConfig := builtin?_eq_some_iff.mpr type
      exact setup ((Snapshot.bare.isSetup_of_builtin kind).trans (by decide))
    rw [if_neg setup, local?_eq_some_iff]
    simp [pwm]

/-- The name of a local for a pin begins with its stem. -/
theorem pinLocal_inj {stem : String} :
    a.pinLocal stem = b.pinLocal stem ↔
      nameAtStart (a.slot "pin").text = nameAtStart (b.slot "pin").text := by
  rw [pinLocal, pinLocal, String.append_right_inj]

theorem pinLocal_ne {stem other : String} (differ : stem.toList.head? ≠ other.toList.head?)
    (some : stem ≠ "") : b.pinLocal stem ≠ other := by
  rintro rfl
  obtain ⟨c, rest, chars⟩ := List.exists_cons_of_ne_nil (mt String.toList_eq_nil_iff.mp some)
  exact differ (by rw [pinLocal, String.toList_append, chars, List.cons_append, List.head?_cons,
    List.head?_cons])

/-- Blocks share a slice if both run once and declare one local. -/
theorem sharesSlice_iff (setupA : Snapshot.bare.isSetup a) (setupB : Snapshot.bare.isSetup b) :
    a.SharesSlice b ↔ ∃ x, a.local? = some x ∧ b.local? = some x := by
  simp only [local?_eq_some_iff_of_isSetup setupA, local?_eq_some_iff_of_isSetup setupB]
  constructor
  · rintro ⟨typeA, typeB, same⟩
    exact ⟨_, ⟨typeA, rfl⟩, typeB, pinLocal_inj.mpr same⟩
  · rintro ⟨_, ⟨typeA, rfl⟩, typeB, same⟩
    exact ⟨typeA, typeB, pinLocal_inj.mp same⟩

/-- Blocks share a reading if they declare one local where they stand. -/
theorem sharesReading_iff :
    a.SharesReading b ↔ ∃ x, a.scopeLocal? = some x ∧ b.scopeLocal? = some x := by
  have spi : ∀ c : Block, c.pinLocal "adc_val_" ≠ "spi_rx_buf" := fun c =>
    pinLocal_ne (by decide) (by decide)
  have i2c : ∀ c : Block, c.pinLocal "adc_val_" ≠ "i2c_rx_buf" := fun c =>
    pinLocal_ne (by decide) (by decide)
  simp only [scopeLocal?_eq_some_iff]
  constructor
  · rintro (⟨typeA, typeB⟩ | ⟨typeA, typeB⟩ | ⟨typeA, typeB, same⟩)
    · exact ⟨_, Or.inl ⟨typeA, rfl⟩, Or.inl ⟨typeB, rfl⟩⟩
    · exact ⟨_, Or.inr (Or.inl ⟨typeA, rfl⟩), Or.inr (Or.inl ⟨typeB, rfl⟩)⟩
    · exact ⟨_, Or.inr (Or.inr ⟨typeA, rfl⟩), Or.inr (Or.inr ⟨typeB, pinLocal_inj.mpr same⟩)⟩
  · rintro ⟨x, ⟨typeA, rfl⟩ | ⟨typeA, rfl⟩ | ⟨typeA, rfl⟩,
      ⟨typeB, same⟩ | ⟨typeB, same⟩ | ⟨typeB, same⟩⟩
    · exact Or.inl ⟨typeA, typeB⟩
    · exact absurd same (by decide)
    · exact absurd same.symm (spi b)
    · exact absurd same (by decide)
    · exact Or.inr (Or.inl ⟨typeA, typeB⟩)
    · exact absurd same.symm (i2c b)
    · exact absurd same (spi a)
    · exact absurd same (i2c a)
    · exact Or.inr (Or.inr ⟨typeA, typeB, pinLocal_inj.mp same⟩)

end Block

/-- What blocks declare has no duplicates exactly if no two of them declare one local. -/
theorem nodup_filterMap_iff {α : Type} {f : α → Option String} {as : List α} :
    (as.filterMap f).Nodup ↔ as.Pairwise fun a b => ¬ ∃ x, f a = some x ∧ f b = some x := by
  rw [List.Nodup, List.pairwise_filterMap]
  refine List.Pairwise.iff fun a b => ?_
  constructor
  · rintro apart ⟨x, ha, hb⟩
    exact apart x ha x hb rfl
  · rintro apart x ha _ hb rfl
    exact apart ⟨x, ha, hb⟩

end Blockware
