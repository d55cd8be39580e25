import Blockware.Diagnostic.Report
import Blockware.Proofs.Program.Partition

/-!
# Warnings about hardware that nothing sets up

Whether an action is warned of is told from the blocks, and what is set up is told from the code of
the part that runs once. Both read the same instances: an action is warned of exactly if no call in
that code sets up what it uses.

- `Peripheral.actions`, `HardwareUnit.named`: the actions on a family, and the unit that a block
  names.
- `Peripheral.initCall`: the call that sets up an instance of a bus.
- `Block.usedUnit?_of_action`, `Block.configuredUnit?_eq_some_iff`: what actions use and what
  configurations set up, in these terms.
- `Block.initCall_mem_setupCode_iff`: a configuration of a bus sets up the instance that it names.
- `warnings_match_setup_code`: what is warned of, against the code of the program.
-/

namespace Blockware

/-- The types of the actions on a family. -/
def Peripheral.actions : Peripheral → List String
  | .spi => ["spi_write", "spi_read"]
  | .i2c => ["i2c_write", "i2c_read"]
  | .adc => ["adc_read"]
  | .pwm => ["pwm_set"]

/-- The call that sets up an instance of a bus. -/
def Peripheral.initCall (family : Peripheral) (bus speed : String) : String :=
  s!"{family.stem}_init({bus}, {speed});"

/-- The unit of a family that a block names: an instance of a bus, which has a default, or the whole
of a family that has no instances. -/
def HardwareUnit.named (family : Peripheral) (b : Block) : HardwareUnit :=
  match family with
  | .spi => ⟨.spi, some ((b.slot "inst").textOr "spi0")⟩
  | .i2c => ⟨.i2c, some ((b.slot "inst").textOr "i2c0")⟩
  | .adc => ⟨.adc, none⟩
  | .pwm => ⟨.pwm, none⟩

theorem HardwareUnit.family_named (family : Peripheral) (b : Block) :
    (named family b).family = family := by
  cases family <;> rfl

namespace Block

/-- The speed that a block names. -/
def speed (b : Block) : String := (b.slot "baud").textOr defaultSpeed

/-- The block without its body. -/
def bodiless (b : Block) : Block := { b with inner := [] }

/-! ### Units -/

variable {a b : Block} {family : Peripheral} {u : HardwareUnit}

/-- An action uses the unit of its family that it names. -/
theorem usedUnit?_of_action (action : a.type ∈ family.actions) :
    a.usedUnit? = some (.named family a) := by
  cases family with
  | spi =>
    rcases List.mem_pair.mp action with type | type
    · have kind : a.builtin? = some .spiWrite := builtin?_eq_some_iff.mpr type
      rw [usedUnit?, kind]
      rfl
    · have kind : a.builtin? = some .spiRead := builtin?_eq_some_iff.mpr type
      rw [usedUnit?, kind]
      rfl
  | i2c =>
    rcases List.mem_pair.mp action with type | type
    · have kind : a.builtin? = some .i2cWrite := builtin?_eq_some_iff.mpr type
      rw [usedUnit?, kind]
      rfl
    · have kind : a.builtin? = some .i2cRead := builtin?_eq_some_iff.mpr type
      rw [usedUnit?, kind]
      rfl
  | adc =>
    have type : a.type = "adc_read" := List.mem_singleton.mp action
    have kind : a.builtin? = some .adcRead := builtin?_eq_some_iff.mpr type
    rw [usedUnit?, kind]
    rfl
  | pwm =>
    have type : a.type = "pwm_set" := List.mem_singleton.mp action
    have kind : a.builtin? = some .pwmSet := builtin?_eq_some_iff.mpr type
    rw [usedUnit?, kind]
    rfl

/-- Nothing but an action uses a unit. -/
theorem exists_of_usedUnit? (used : a.usedUnit? = some u) :
    ∃ family : Peripheral, a.type ∈ family.actions ∧ u = .named family a := by
  rw [usedUnit?] at used
  cases kind : a.builtin? with
  | none =>
    rw [kind] at used
    cases used
  | some k =>
    have type : a.type = k.typeName := builtin?_eq_some_iff.mp kind
    rw [kind] at used
    rw [type]
    cases k with
    | spiWrite => exact ⟨.spi, by decide, (Option.some.inj used).symm⟩
    | spiRead => exact ⟨.spi, by decide, (Option.some.inj used).symm⟩
    | i2cWrite => exact ⟨.i2c, by decide, (Option.some.inj used).symm⟩
    | i2cRead => exact ⟨.i2c, by decide, (Option.some.inj used).symm⟩
    | adcRead => exact ⟨.adc, by decide, (Option.some.inj used).symm⟩
    | pwmSet => exact ⟨.pwm, by decide, (Option.some.inj used).symm⟩
    | _ => cases used

/-- A configuration sets up the unit of its family that it names. -/
theorem configuredUnit?_eq_some_iff :
    b.configuredUnit? = some u ↔
      b.type = u.family.config.typeName ∧ u = .named u.family b := by
  constructor
  · intro h
    rw [configuredUnit?] at h
    cases kind : b.builtin? with
    | none =>
      rw [kind] at h
      cases h
    | some k =>
      have type : b.type = k.typeName := builtin?_eq_some_iff.mp kind
      rw [kind] at h
      cases k with
      | spiConfig => cases h; exact ⟨type, rfl⟩
      | i2cConfig => cases h; exact ⟨type, rfl⟩
      | adcConfig => cases h; exact ⟨type, rfl⟩
      | pwmConfig => cases h; exact ⟨type, rfl⟩
      | _ => cases h
  · rintro ⟨type, same⟩
    have kind : b.builtin? = some u.family.config := builtin?_eq_some_iff.mpr type
    rw [configuredUnit?, kind, same]
    cases u.family <;> rfl

/-- A configuration belongs to the part that runs once. -/
theorem isSetup_of_config (s : Snapshot) (type : b.type = family.config.typeName) :
    s.isSetup b := by
  rw [s.isSetup_of_builtin (builtin?_eq_some_iff.mpr type)]
  cases family <;> decide

end Block

/-! ### Calls -/

namespace Peripheral

theorem toList_initCall (family : Peripheral) (bus speed : String) :
    (family.initCall bus speed).toList = family.stem.toList ++ ("_init(".toList ++
      (bus.toList ++ (", ".toList ++ (speed.toList ++ ");".toList)))) := by
  simp [initCall, toString]

theorem initCall_spi (bus speed : String) :
    spi.initCall bus speed = s!"spi_init({bus}, {speed});" := by
  apply String.toList_injective
  simp [initCall, stem, toString]

theorem initCall_i2c (bus speed : String) :
    i2c.initCall bus speed = s!"i2c_init({bus}, {speed});" := by
  apply String.toList_injective
  simp [initCall, stem, toString]

/-- At one speed the calls for different instances differ. -/
theorem initCall_left_inj {family : Peripheral} {bus other speed : String} :
    family.initCall bus speed = family.initCall other speed ↔ bus = other := by
  refine ⟨fun same => ?_, fun same => by rw [same]⟩
  have chars := congrArg String.toList same
  rw [toList_initCall, toList_initCall] at chars
  have rest := List.append_cancel_left (List.append_cancel_left chars)
  exact String.toList_injective (List.append_cancel_right rest)

/-- Where instances have no comma, calls for different ones differ at any speeds. -/
theorem eq_of_initCall_eq {family : Peripheral} {bus other speed fast : String}
    (plain : ',' ∉ bus.toList) (plain' : ',' ∉ other.toList)
    (same : family.initCall bus speed = family.initCall other fast) : bus = other := by
  have chars := congrArg String.toList same
  rw [toList_initCall, toList_initCall] at chars
  have rest := List.append_cancel_left (List.append_cancel_left chars)
  -- The instance is what stands before the first comma.
  have first (cs : List Char) (h : ',' ∉ cs) (after : List Char) :
      (cs ++ (", ".toList ++ after)).takeWhile (· ≠ ',') = cs := by
    have all : ∀ c ∈ cs, decide (c ≠ ',') := by
      intro c hc
      refine decide_eq_true ?_
      rintro rfl
      exact h hc
    rw [List.takeWhile_append_of_pos all]
    exact List.append_nil cs
  have taken := congrArg (List.takeWhile (· ≠ ',')) rest
  rw [first _ plain, first _ plain'] at taken
  exact String.toList_injective taken

end Peripheral

theorem SpiConfig.initCall_mem_lines (c : SpiConfig) :
    Peripheral.spi.initCall c.bus (c.baud.textOr defaultSpeed) ∈ c.lines := by
  rw [Peripheral.initCall_spi, lines]
  exact List.mem_cons_of_mem _ List.mem_cons_self

theorem I2cConfig.initCall_mem_lines (c : I2cConfig) :
    Peripheral.i2c.initCall c.bus (c.baud.textOr defaultSpeed) ∈ c.lines := by
  rw [Peripheral.initCall_i2c, lines]
  exact List.mem_cons_of_mem _ List.mem_cons_self

/-- No other line of an SPI configuration begins like the call. -/
theorem SpiConfig.eq_initCall {c : SpiConfig} {line : String} (there : line ∈ c.lines)
    (head : line.toList.head? = some 's') :
    line = Peripheral.spi.initCall c.bus (c.baud.textOr defaultSpeed) := by
  simp only [lines, List.mem_cons, List.not_mem_nil, or_false] at there
  rcases there with rfl | rfl | rfl | rfl | rfl | rfl | rfl | rfl
  · simp [toString] at head
  · exact (Peripheral.initCall_spi _ _).symm
  all_goals simp [toString] at head

/-- No other line of an I2C configuration begins like the call. -/
theorem I2cConfig.eq_initCall {c : I2cConfig} {line : String} (there : line ∈ c.lines)
    (head : line.toList.head? = some 'i') :
    line = Peripheral.i2c.initCall c.bus (c.baud.textOr defaultSpeed) := by
  simp only [lines, List.mem_cons, List.not_mem_nil, or_false] at there
  rcases there with rfl | rfl | rfl | rfl | rfl | rfl
  · simp [toString] at head
  · exact (Peripheral.initCall_i2c _ _).symm
  all_goals simp [toString] at head

namespace Block

variable {b : Block} {family : Peripheral} {own bus speed : String}

/-- The code of a configuration is its statements, whatever the definitions. -/
theorem setupCode_of_config (s : Snapshot) (type : b.type = family.config.typeName) :
    b.setupCode s = b.setupLinesAs family.config :=
  b.setupCode_of_builtin s (builtin?_eq_some_iff.mpr type)

/-- A configuration of a bus has the call that sets up its own instance. -/
theorem initCall_mem_setupCode (s : Snapshot) (type : b.type = family.config.typeName)
    (named : (HardwareUnit.named family b).bus = some own) :
    family.initCall own b.speed ∈ b.setupCode s := by
  rw [b.setupCode_of_config s type]
  cases family with
  | spi =>
    cases named
    exact (SpiConfig.ofBlock b).initCall_mem_lines
  | i2c =>
    cases named
    exact (I2cConfig.ofBlock b).initCall_mem_lines
  | adc => cases named
  | pwm => cases named

/-- It has no other call of this kind. -/
theorem initCall_eq_of_mem_setupCode (s : Snapshot) (type : b.type = family.config.typeName)
    (named : (HardwareUnit.named family b).bus = some own)
    (there : family.initCall bus speed ∈ b.setupCode s) :
    family.initCall bus speed = family.initCall own b.speed := by
  rw [b.setupCode_of_config s type] at there
  cases family with
  | spi =>
    cases named
    have line : Peripheral.spi.initCall bus speed ∈ (SpiConfig.ofBlock b).lines := there
    have only := SpiConfig.eq_initCall line (by simp [Peripheral.toList_initCall, Peripheral.stem])
    exact only
  | i2c =>
    cases named
    have line : Peripheral.i2c.initCall bus speed ∈ (I2cConfig.ofBlock b).lines := there
    have only := I2cConfig.eq_initCall line (by simp [Peripheral.toList_initCall, Peripheral.stem])
    exact only
  | adc => cases named
  | pwm => cases named

/-- A configuration of a bus sets up the instance that it names, and no other one. -/
theorem initCall_mem_setupCode_iff (s : Snapshot) (type : b.type = family.config.typeName)
    (named : (HardwareUnit.named family b).bus = some own) :
    family.initCall bus b.speed ∈ b.setupCode s ↔ own = bus := by
  constructor
  · intro there
    exact (Peripheral.initCall_left_inj.mp (initCall_eq_of_mem_setupCode s type named there)).symm
  · rintro rfl
    exact initCall_mem_setupCode s type named

end Block

/-! ### Bodies -/

/-- What is set up is told from the top-level blocks without their bodies. -/
theorem configuredUnits_bodiless (blocks : List Block) :
    configuredUnits (blocks.map Block.bodiless) = configuredUnits blocks := by
  rw [configuredUnits, List.filterMap_map]
  rfl

/-- So is the code of the blocks that run once. -/
theorem flatMap_setupCode_bodiless (s : Snapshot) (blocks : List Block) :
    (s.setupBlocks (blocks.map Block.bodiless)).flatMap (Block.setupCode s) =
      (s.setupBlocks blocks).flatMap (Block.setupCode s) := by
  rw [Snapshot.setupBlocks, List.filter_map, List.flatMap_map]
  rfl

/-! ### Warnings -/

section Warnings

variable {s : Snapshot} {blocks : List Block} {a : Block} {family : Peripheral} {u : HardwareUnit}

/-- The units that are set up are those that configurations in the part that runs once name. -/
theorem mem_configuredUnits_iff (s : Snapshot) :
    u ∈ configuredUnits blocks ↔
      ∃ b ∈ s.setupBlocks blocks, b.type = u.family.config.typeName ∧ u = .named u.family b := by
  simp only [configuredUnits, List.mem_filterMap, Block.configuredUnit?_eq_some_iff]
  constructor
  · rintro ⟨b, hb, type, same⟩
    exact ⟨b, List.mem_filter.mpr ⟨hb, b.isSetup_of_config s type⟩, type, same⟩
  · rintro ⟨b, hb, type, same⟩
    exact ⟨b, (List.mem_filter.mp hb).1, type, same⟩

/-- A visited action is warned of exactly if what it uses is not set up. -/
theorem mem_unconfiguredDiagnostics_iff (ha : a ∈ walk blocks) (used : a.usedUnit? = some u) :
    Diagnostic.about a (.unconfigured a.type u) ∈ unconfiguredDiagnostics blocks ↔
      u ∉ configuredUnits blocks := by
  rw [unconfiguredDiagnostics, List.mem_filterMap]
  constructor
  · rintro ⟨c, -, warned⟩
    obtain ⟨v, hv, same⟩ := Option.map_eq_some_iff.mp warned
    -- Another block may have the same id, but then it uses the same unit.
    obtain rfl : v = u := (Finding.unconfigured.inj (Diagnostic.mk.inj same).2).2
    simpa using (Option.filter_eq_some_iff.mp hv).2
  · intro missing
    refine ⟨a, ha, ?_⟩
    have unit : unconfiguredUnit? (configuredUnits blocks) a = some u := by
      rw [unconfiguredUnit?, used]
      simpa using missing
    rw [unit]
    rfl

/-- A visited action on a bus is warned of exactly if no call sets up its instance. -/
theorem warned_iff_of_bus (s : Snapshot) (ha : a ∈ walk blocks) (action : a.type ∈ family.actions)
    {bus : String} (named : (HardwareUnit.named family a).bus = some bus) :
    Diagnostic.about a (.unconfigured a.type (.named family a)) ∈ unconfiguredDiagnostics blocks ↔
      ¬ ∃ b ∈ s.setupBlocks blocks, b.type = family.config.typeName ∧
        family.initCall bus b.speed ∈ b.setupCode s := by
  rw [mem_unconfiguredDiagnostics_iff ha (Block.usedUnit?_of_action action),
    mem_configuredUnits_iff s, HardwareUnit.family_named]
  refine not_congr (exists_congr fun b => and_congr_right fun _ => and_congr_right fun type => ?_)
  cases family with
  | spi =>
    cases named
    rw [Block.initCall_mem_setupCode_iff s type rfl]
    simp [HardwareUnit.named, eq_comm]
  | i2c =>
    cases named
    rw [Block.initCall_mem_setupCode_iff s type rfl]
    simp [HardwareUnit.named, eq_comm]
  | adc => cases named
  | pwm => cases named

/-- A visited action on a family without instances is warned of exactly if there is no configuration
of the family. -/
theorem warned_iff_of_whole (s : Snapshot) (ha : a ∈ walk blocks) (action : a.type ∈ family.actions)
    (whole : (HardwareUnit.named family a).bus = none) :
    Diagnostic.about a (.unconfigured a.type (.named family a)) ∈ unconfiguredDiagnostics blocks ↔
      ¬ ∃ b ∈ s.setupBlocks blocks, b.type = family.config.typeName := by
  rw [mem_unconfiguredDiagnostics_iff ha (Block.usedUnit?_of_action action),
    mem_configuredUnits_iff s, HardwareUnit.family_named]
  refine not_congr (exists_congr fun b => and_congr_right fun _ => and_iff_left ?_)
  cases family with
  | spi => cases whole
  | i2c => cases whole
  | adc => rfl
  | pwm => rfl

/-- Nothing but a visited action is warned of. -/
theorem exists_of_mem_unconfiguredDiagnostics {w : Diagnostic}
    (warned : w ∈ unconfiguredDiagnostics blocks) :
    ∃ a ∈ walk blocks, ∃ family : Peripheral, a.type ∈ family.actions ∧
      w = .about a (.unconfigured a.type (.named family a)) := by
  obtain ⟨a, ha, warned⟩ := List.mem_filterMap.mp warned
  obtain ⟨u, hu, rfl⟩ := Option.map_eq_some_iff.mp warned
  obtain ⟨family, action, rfl⟩ := Block.exists_of_usedUnit? (Option.filter_eq_some_iff.mp hu).1
  exact ⟨a, ha, family, action, rfl⟩

end Warnings

/-- **Warnings match the code that runs once.** A visited action on a bus is warned of exactly if
no configuration of that bus at the top of the program has the call that sets up the instance which
the action names; each such call is in the part that runs once. An action on a family without
instances is warned of exactly if there is no configuration of the family there. Nothing else is
warned of, and all of it is in the report. Where instances have no comma, no further line of a
configuration sets one up. And the bodies of blocks do not count: another program with the same
top-level blocks but for their bodies has the same such code, and an action that is visited in both
is warned of in both or in none. -/
theorem warnings_match_setup_code (s : Snapshot) (heartbeat : Nat) (projectName : String)
    (blocks : List Block) (modules : List String) :
    let p := Program.generate s heartbeat projectName blocks modules
    let setup := s.setupBlocks blocks
    let warning (family : Peripheral) (a : Block) :=
      Diagnostic.about a (.unconfigured a.type (.named family a))
    (∀ a ∈ walk blocks, ∀ family : Peripheral, a.type ∈ family.actions →
      (∀ bus, (HardwareUnit.named family a).bus = some bus →
        (warning family a ∈ unconfiguredDiagnostics blocks ↔
          ¬ ∃ b ∈ setup, b.type = family.config.typeName ∧
            family.initCall bus b.speed ∈ b.setupCode s)) ∧
      ((HardwareUnit.named family a).bus = none →
        (warning family a ∈ unconfiguredDiagnostics blocks ↔
          ¬ ∃ b ∈ setup, b.type = family.config.typeName))) ∧
    (∀ b ∈ setup, ∀ line ∈ b.setupCode s, line ∈ p.setupLines) ∧
    (∀ w ∈ unconfiguredDiagnostics blocks,
      (∃ a ∈ walk blocks, ∃ family : Peripheral, a.type ∈ family.actions ∧ w = warning family a) ∧
      w ∈ (Report.ofProgram s blocks modules).warnings) ∧
    (∀ b ∈ setup, ∀ family own bus speed, b.type = family.config.typeName →
      (HardwareUnit.named family b).bus = some own → ',' ∉ own.toList → ',' ∉ bus.toList →
      family.initCall bus speed ∈ b.setupCode s → bus = own) ∧
    (∀ others : List Block, others.map Block.bodiless = blocks.map Block.bodiless →
      (s.setupBlocks others).flatMap (Block.setupCode s) = setup.flatMap (Block.setupCode s) ∧
      ∀ a ∈ walk blocks, a ∈ walk others → ∀ family : Peripheral, a.type ∈ family.actions →
        (warning family a ∈ unconfiguredDiagnostics others ↔
          warning family a ∈ unconfiguredDiagnostics blocks)) := by
  intro p setup warning
  refine ⟨fun a ha family action => ⟨fun bus named => warned_iff_of_bus s ha action named,
    fun whole => warned_iff_of_whole s ha action whole⟩, ?_, ?_, ?_, ?_⟩
  · intro b hb line there
    have code : line ∈ setup.flatMap (Block.setupCode s) := List.mem_flatMap.mpr ⟨b, hb, there⟩
    rw [setupLines_generate]
    exact List.mem_append_left _ (List.mem_append_right _ code)
  · intro w warned
    obtain ⟨a, ha, family, action, rfl⟩ := exists_of_mem_unconfiguredDiagnostics warned
    refine ⟨⟨a, ha, family, action, rfl⟩, List.mem_filter.mpr ⟨?_, rfl⟩⟩
    simp only [diagnostics, List.mem_append]
    tauto
  · intro b _ family own bus speed type named plain plain' there
    exact Peripheral.eq_of_initCall_eq plain' plain
      (Block.initCall_eq_of_mem_setupCode s type named there)
  · intro others same
    refine ⟨?_, fun a ha ha' family action => ?_⟩
    · rw [← flatMap_setupCode_bodiless, same, flatMap_setupCode_bodiless]
    · have units : configuredUnits others = configuredUnits blocks := by
        rw [← configuredUnits_bodiless, same, configuredUnits_bodiless]
      have used := Block.usedUnit?_of_action action
      rw [mem_unconfiguredDiagnostics_iff ha used, mem_unconfiguredDiagnostics_iff ha' used, units]

/-- A configuration with an empty instance sets up what an action in a body uses without naming it.
One in a body sets nothing up, with or without the rest of the program around it. -/
theorem nested_configuration_sets_nothing_up :
    let s := Snapshot.bare
    let config : Block := ⟨"a", "spi_config", [("inst", .string "")], []⟩
    let write : Block := ⟨"c", "spi_write", [], []⟩
    let nested : Block := ⟨"d", "i2c_config", [("inst", .string "i2c1")], []⟩
    let read : Block := ⟨"e", "i2c_read", [("inst", .string "i2c1")], []⟩
    let measure : Block := ⟨"f", "adc_read", [], []⟩
    let blocks := [config, ⟨"b", "if_condition", [], [write, nested]⟩, read, measure]
    let others := [config, ⟨"b", "if_condition", [], []⟩, read, measure]
    let warning (family : Peripheral) (a : Block) :=
      Diagnostic.about a (.unconfigured a.type (.named family a))
    ((HardwareUnit.named .spi write).bus = some "spi0" ∧
      Peripheral.spi.initCall "spi0" config.speed ∈ config.setupCode s ∧
      warning .spi write ∉ unconfiguredDiagnostics blocks) ∧
    (',' ∉ "spi0".toList ∧ ',' ∉ "spi1".toList ∧
      ∀ speed, Peripheral.spi.initCall "spi1" speed ∉ config.setupCode s) ∧
    ((HardwareUnit.named .i2c read).bus = some "i2c1" ∧
      warning .i2c read ∈ unconfiguredDiagnostics blocks) ∧
    ((HardwareUnit.named .adc measure).bus = none ∧
      warning .adc measure ∈ unconfiguredDiagnostics blocks) ∧
    (others.map Block.bodiless = blocks.map Block.bodiless ∧
      warning .i2c read ∈ unconfiguredDiagnostics others) := by
  intro s config write nested read measure blocks others warning
  obtain ⟨actions, -, -, calls, bodies⟩ := warnings_match_setup_code s 1000 "" blocks []
  have visited : walk blocks =
      [config, ⟨"b", "if_condition", [], [write, nested]⟩, write, nested, read, measure] := by
    rw [walk_eq_preorder]
    rfl
  have visited' : walk others = [config, ⟨"b", "if_condition", [], []⟩, read, measure] := by
    rw [walk_eq_preorder]
    rfl
  have setup : s.setupBlocks blocks = [config] := rfl
  have first : config ∈ s.setupBlocks blocks := List.mem_singleton_self config
  have call : Peripheral.spi.initCall "spi0" config.speed ∈ config.setupCode s := by decide
  have readWarned : warning .i2c read ∈ unconfiguredDiagnostics blocks := by
    refine ((actions read (by simp [visited]) .i2c (by decide)).1 "i2c1" rfl).mpr ?_
    rintro ⟨b, hb, type, -⟩
    rw [setup, List.mem_singleton] at hb
    rw [hb] at type
    exact absurd type (by decide)
  refine ⟨⟨rfl, call, fun warned => ?_⟩, ⟨by decide, by decide, fun speed there => ?_⟩,
    ⟨rfl, readWarned⟩, ⟨rfl, ?_⟩, rfl, ?_⟩
  · refine ((actions write (by simp [visited]) .spi (by decide)).1 "spi0" rfl).mp warned ?_
    exact ⟨config, first, rfl, call⟩
  · have same : "spi1" = "spi0" :=
      calls config first .spi "spi0" "spi1" speed rfl rfl (by decide) (by decide) there
    exact absurd same (by decide)
  · refine ((actions measure (by simp [visited]) .adc (by decide)).2 rfl).mpr ?_
    rintro ⟨b, hb, type⟩
    rw [setup, List.mem_singleton] at hb
    rw [hb] at type
    exact absurd type (by decide)
  · exact ((bodies others rfl).2 read (by simp [visited]) (by simp [visited']) .i2c
      (by decide)).mpr readWarned

end Blockware
