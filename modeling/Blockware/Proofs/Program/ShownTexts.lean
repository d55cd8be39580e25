import Blockware.Proofs.Program.Visits
import Blockware.Proofs.Text.Braces
import Blockware.Proofs.Text.Lines

/-!
# Texts from outside in the code of blocks

The lines of a block are fixed but for the texts of its parameters, of its type, and of the
templates of its definition.

- `Block.shownAs`: the texts of parameters in the lines of a block, as they stand there.
- `Visit.shownTexts`, `Visit.templateTexts`: those that a visited block shows at its place.
- `Visit.IsTame`: none of them brings a brace, and only a template brings a line feed.
- `Visit.IsTame.plain_of_mem_ownLines`: then the lines of the block are plain, but for a conditional's.
- `Block.nested_of_mem_setupCode`: in the part that runs once, braces match within each line.
-/

namespace Blockware

open Text (Plain Unbraced Nested bracesOf)

namespace Block

/-- The texts of parameters that a block shows in its lines as one of a type. -/
def shownAs (kind : Builtin) (b : Block) : List String :=
  match kind with
  | .spiConfig =>
    let c := SpiConfig.ofBlock b
    [c.bus, c.baud.textOr defaultSpeed, c.rx.text, c.tx.text, c.sck.text, c.csn.text]
  | .i2cConfig =>
    let c := I2cConfig.ofBlock b
    [c.bus, c.baud.textOr defaultSpeed, c.sda.text, c.scl.text]
  | .adcConfig | .pwmConfig | .adcRead => [(b.slot "pin").text]
  | .gpioSet | .pwmSet => [(b.slot "pin").text, (b.slot "level").text]
  | .sleep => [(b.slot "ms").text]
  | .uartWrite | .log => [Text.literal (b.slot "text").text]
  | .spiWrite =>
    [(b.slot "csn").text, Text.literal (b.slot "data").text, SpiConfig.busOf (b.slot "inst")]
  | .spiRead =>
    [(b.slot "csn").text, (b.slot "len").textOr "1", SpiConfig.busOf (b.slot "inst")]
  | .i2cWrite =>
    [(b.slot "addr").text, Text.literal (b.slot "data").text, I2cConfig.busOf (b.slot "inst")]
  | .i2cRead =>
    [(b.slot "addr").text, (b.slot "len").textOr "1", I2cConfig.busOf (b.slot "inst")]
  | .functionDef => (functionName? b).toList
  | .functionCall => [callTarget b]
  | .ifCondition =>
    let c := Condition.ofBlock b
    [c.left.text, c.op.symbol, c.right.text]

variable {b : Block} {kind : Builtin} {l : String}

/-- The statements of an action are as plain as the texts that it shows. -/
theorem plain_of_mem_loopLinesAs (h : ∀ t ∈ b.shownAs kind, Plain t)
    (hl : l ∈ b.loopLinesAs kind) : Plain l := by
  cases kind with
  | spiConfig | i2cConfig | adcConfig | pwmConfig | functionDef | ifCondition => cases hl
  | _ =>
    simp only [shownAs, List.forall_mem_cons, List.not_mem_nil, false_imp_iff, implies_true,
      and_true] at h
    simp only [loopLinesAs, Action.gpioSet, Action.sleep, Action.uartWrite, Action.log,
      Action.spiWrite, Action.spiRead, Action.i2cWrite, Action.i2cRead, Action.adcRead,
      Action.pwmSet, Action.functionCall] at hl
    revert l
    simp only [toString, List.forall_mem_cons, List.not_mem_nil, false_imp_iff, implies_true,
      and_true, Text.lacks_append, Text.plain_repr, h, true_and]
    and_intros <;> exact Text.lacks_ofList (by decide)

/-- The statement that sets the converter up is the only one with a scope, which it closes. -/
theorem nested_of_mem_setupLinesAs (h : ∀ t ∈ b.shownAs kind, Plain t)
    (hl : l ∈ b.setupLinesAs kind) : Nested (bracesOf l) := by
  cases kind with
  | spiConfig | i2cConfig | pwmConfig =>
    refine Text.nested_of_unbraced (Plain.unbraced ?_)
    simp only [shownAs, List.forall_mem_cons, List.not_mem_nil, false_imp_iff, implies_true,
      and_true] at h
    simp only [setupLinesAs, SpiConfig.lines, I2cConfig.lines, PwmConfig.lines] at hl
    revert l
    simp only [toString, List.forall_mem_cons, List.not_mem_nil, false_imp_iff, implies_true,
      and_true, Text.lacks_append, h]
    and_intros <;> exact Text.lacks_ofList (by decide)
  | adcConfig =>
    have pin : Unbraced (b.slot "pin").text := (h _ List.mem_cons_self).unbraced
    rw [setupLinesAs, AdcConfig.lines] at hl
    simp only [List.mem_cons, List.not_mem_nil, or_false] at hl
    rcases hl with rfl | rfl | rfl
    · exact Text.nested_of_unbraced (Text.lacks_interpolated pin (by decide))
    · have pair : bracesOf "if (!adc_initialized) \x7b adc_init(); adc_initialized = true; \x7d" =
          ['\x7b', '\x7d'] := (Text.bracesOf_ofList _).trans (by decide)
      rw [pair]
      exact Text.nested_nil.enclose
    · exact Text.nested_of_unbraced (Text.lacks_interpolated pin (by decide))
  | _ => cases hl

end Block

/-- A line of code of a text without braces is plain. -/
theorem plain_of_mem_codeLines {text l : String} (h : Unbraced text) (hl : l ∈ codeLines text) :
    Plain l := by
  intro c hc bad
  obtain ⟨there, notLineFeed⟩ := mem_codeLines hl hc
  refine h c there ?_
  simp only [List.mem_cons, List.not_mem_nil, or_false] at bad ⊢
  tauto

/-- The same of the code of a template, which may be missing. -/
theorem plain_of_mem_map_codeLines {text : Option String} {l : String}
    (h : ∀ t ∈ text.toList, Unbraced t) (hl : l ∈ (text.map codeLines).getD []) : Plain l := by
  cases text with
  | none => cases hl
  | some t => exact plain_of_mem_codeLines (h t (Option.mem_toList.mpr rfl)) hl

theorem plain_unknownComment {type : String} (h : Plain type) : Plain (unknownComment type) :=
  Text.lacks_append.mpr ⟨Text.lacks_ofList (by decide), h⟩

theorem plain_ignoredSetupComment {type : String} (h : Plain type) :
    Plain (ignoredSetupComment type) := Text.lacks_interpolated h (by decide)

namespace Visit

/-- The texts of parameters in the lines of a visited block. -/
def shownTexts (s : Snapshot) (v : Visit) : List String :=
  match s.contract? v.block.type with
  | some (.builtin kind) =>
    if kind.category = .setup && v.nested then [] else v.block.shownAs kind
  | _ => []

/-- The filled-in templates in the lines of a visited block. -/
def templateTexts (s : Snapshot) (v : Visit) : List String :=
  match s.contract? v.block.type with
  | some (.custom d) =>
    let code := (d.codeText? v.block.params).toList
    if d.category = .setup then
      if v.nested then [] else (d.setupText? v.block.params).toList ++ code
    else code
  | _ => []

/-- What a visited block shows brings no scope, and only a template brings a further line. -/
structure IsTame (s : Snapshot) (v : Visit) : Prop where
  type : Plain v.block.type
  texts : ∀ t ∈ v.shownTexts s, Plain t
  templates : ∀ t ∈ v.templateTexts s, Unbraced t

instance (s : Snapshot) (v : Visit) : Decidable (v.IsTame s) :=
  decidable_of_iff (Plain v.block.type ∧ (∀ t ∈ v.shownTexts s, Plain t) ∧
      ∀ t ∈ v.templateTexts s, Unbraced t)
    ⟨fun h => ⟨h.1, h.2.1, h.2.2⟩, fun h => ⟨h.type, h.texts, h.templates⟩⟩

variable {s : Snapshot} {v : Visit} {l : String}

/-- A container shows its texts in every place. -/
theorem shownTexts_of_takesBody (s : Snapshot) {kind : Builtin}
    (h : v.block.builtin? = some kind) (container : kind.takesBody = true) :
    v.shownTexts s = v.block.shownAs kind := by
  have notSetup : kind.category ≠ .setup := by
    cases kind with
    | functionDef | ifCondition => decide
    | _ => cases container
  rw [shownTexts, s.contract?_of_builtin h]
  simp [notSetup]

/-- In the loop or in a body, the lines of a block are plain unless it is a conditional. -/
theorem IsTame.plain_of_mem_ownLines (tame : v.IsTame s)
    (place : v.nested = true ∨ s.isSetup v.block = false)
    (other : v.block.builtin? ≠ some .ifCondition) (hl : l ∈ v.block.ownLines s v.nested) :
    Plain l := by
  have texts := tame.texts
  have templates := tame.templates
  rw [Block.ownLines] at hl
  rw [shownTexts] at texts
  rw [templateTexts] at templates
  cases meaning : s.contract? v.block.type with
  | none =>
    simp only [meaning, List.mem_singleton] at hl
    rw [hl]
    exact plain_unknownComment tame.type
  | some c =>
    simp only [meaning] at hl texts templates
    by_cases setup : c.category = .setup
    · -- In the loop there is no such block, and in a body it is left out.
      have inBody : v.nested = true := by
        rcases place with inBody | loop
        · exact inBody
        · rw [Snapshot.isSetup_of_contract meaning] at loop
          exact absurd setup (of_decide_eq_false loop)
      simp only [if_pos setup, if_pos inBody, List.mem_singleton] at hl
      rw [hl]
      exact plain_ignoredSetupComment tame.type
    · simp only [if_neg setup] at hl
      rcases c with kind | d
      · have notSetup : kind.category ≠ .setup := setup
        simp only [notSetup, decide_false, Bool.false_and, Bool.false_eq_true, ↓reduceIte] at texts
        cases kind with
        | functionDef => cases hl
        | ifCondition => exact absurd (Snapshot.contract?_eq_builtin_iff.mp meaning) other
        | _ => exact Block.plain_of_mem_loopLinesAs texts hl
      · have notSetup : d.category ≠ .setup := setup
        simp only [if_neg notSetup] at templates
        exact plain_of_mem_map_codeLines templates hl

/-- The guard of a conditional is plain up to the brace at its end. -/
theorem IsTame.exists_guardLine (tame : v.IsTame s) (h : v.block.builtin? = some .ifCondition) :
    ∃ head, Plain head ∧ (Condition.ofBlock v.block).guardLine = head ++ "\x7b" := by
  have texts := tame.texts
  rw [shownTexts_of_takesBody s h rfl] at texts
  simp only [Block.shownAs, List.forall_mem_cons] at texts
  let c := Condition.ofBlock v.block
  refine ⟨s!"if ({c.left.text} {c.op.symbol} {c.right.text}) ", ?_, ?_⟩
  · simp only [toString, Text.lacks_append, c, texts, and_true]
    and_intros <;> exact Text.lacks_ofList (by decide)
  · simp [Condition.guardLine, toString, c, String.append_assoc]

/-- The name of a function is one of the texts that its definition shows. -/
theorem IsTame.plain_functionName (tame : v.IsTame s) (h : v.block.builtin? = some .functionDef)
    {name : String} (named : functionName? v.block = some name) : Plain name := by
  refine tame.texts name ?_
  rw [shownTexts_of_takesBody s h rfl, Block.shownAs, named]
  exact List.mem_singleton.mpr rfl

end Visit

/-- In the part that runs once, braces match within each line. -/
theorem Block.nested_of_mem_setupCode {s : Snapshot} {b : Block} {depth : Nat} {l : String}
    (tame : Visit.IsTame s ⟨b, false, depth⟩) (setup : s.isSetup b) (hl : l ∈ b.setupCode s) :
    Nested (bracesOf l) := by
  have texts := tame.texts
  have templates := tame.templates
  rw [Block.setupCode] at hl
  rw [Visit.shownTexts] at texts
  rw [Visit.templateTexts] at templates
  cases meaning : s.contract? b.type with
  | none =>
    simp only [meaning, List.mem_singleton] at hl
    rw [hl]
    exact Text.nested_of_unbraced (plain_unknownComment tame.type).unbraced
  | some c =>
    rw [Snapshot.isSetup_of_contract meaning, decide_eq_true_iff] at setup
    simp only [meaning] at hl texts templates
    rcases c with kind | d
    · exact Block.nested_of_mem_setupLinesAs (by simpa using texts) hl
    · have isSetup : d.category = .setup := setup
      simp only [if_pos isSetup] at templates
      refine Text.nested_of_unbraced (Plain.unbraced ?_)
      rcases List.mem_append.mp hl with first | second
      · exact plain_of_mem_map_codeLines (fun t ht => templates t (List.mem_append_left _ ht)) first
      · exact plain_of_mem_map_codeLines (fun t ht => templates t (List.mem_append_right _ ht)) second

end Blockware
