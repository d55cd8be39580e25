import Blockware.Proofs.Program.Visits
import Blockware.Proofs.Text.Literal

/-!
# Writing texts to a bus

A statement that writes to a bus has the text as a literal and, behind that, the number of its bytes.
Both are made of the same parameter, but by different ways: the literal has escapes that count for one
byte each where they are stored.

- `HandsOver`: what a compiler makes of such a statement.
- `handsOver_literal`: it agrees with the text, whatever the text holds.
- `literals_are_read_back_and_counted`: so do the statements of all blocks that write to a bus.
-/

namespace Blockware

open Text (cutLiteral? denoted? endingBackslashes)

/-- A statement calls a function with a literal that denotes a text and with the number of bytes of
that text. What stands before the literal and behind the number is told. -/
def HandsOver (statement call closing : String) (text : List Char) : Prop :=
  ∃ behind inside,
    statement.toList = call.toList ++ '"' :: behind ∧
    cutLiteral? behind =
      some (inside, (", " ++ toString (String.ofList text).utf8ByteSize ++ closing).toList) ∧
    denoted? inside = some text

/-- A literal of a text with the count of its bytes hands the text over. -/
theorem handsOver_literal (call text closing : String) :
    HandsOver (call ++ "\"" ++ Text.literal text ++ "\", " ++ toString (byteLength text) ++ closing)
      call closing text.toList := by
  have bytes : byteLength text = (String.ofList text.toList).utf8ByteSize :=
    Text.utf8Length_eq text.toList
  refine ⟨Text.literalChars text.toList ++
      '"' :: (", " ++ toString (String.ofList text.toList).utf8ByteSize ++ closing).toList,
    Text.literalChars text.toList, ?_, Text.cutLiteral?_literalChars _ _,
    Text.denoted?_literalChars _⟩
  rw [bytes]
  simp [Text.literal, toString]

namespace Block

/-- An action of a built-in type emits its statements, wherever it stands. -/
theorem lines_emit_action (s : Snapshot) {b : Block} {kind : Builtin} (h : b.builtin? = some kind)
    (leaf : kind.takesBody = false) (loop : kind.category = .loop) (nested : Bool) :
    (b.emit s nested).lines = b.loopLinesAs kind := by
  have noBody : ¬ b.takesBody := by simp [takesBody_of_builtin h, leaf]
  have inLoop : s.isSetup b = false := by simp [s.isSetup_of_builtin h, loop]
  rw [emit_leaf noBody (Or.inr inLoop)]
  exact ownLines_action s h leaf loop nested

end Block

/-- **Literals are read back**: the inside of a literal denotes the text that it was made of, breaks
no line, and ends where it is closed, since each quote in it has a backslash of its own and none is
left over at its end. So each statement by which a block writes to a bus hands over the parameter
`data`, with as many bytes as the literal denotes. -/
theorem literals_are_read_back_and_counted :
    (∀ text : String,
      let inside := (Text.literal text).toList
      denoted? inside = some text.toList ∧
      (∀ d ∈ inside, d ≠ '\n' ∧ d ≠ '\r') ∧
      (∀ before after, inside = before ++ '"' :: after → endingBackslashes before % 2 = 1) ∧
      endingBackslashes inside % 2 = 0 ∧
      ∀ after, cutLiteral? (inside ++ '"' :: after) = some (inside, after)) ∧
    (∀ (s : Snapshot) (nested : Bool) (b : Block), b.type = "spi_write" →
      let bus := SpiConfig.busOf (b.slot "inst")
      ∃ statement ∈ (b.emit s nested).lines,
        HandsOver statement s!"spi_write_blocking({bus}, (const uint8_t*)" ");"
          (b.slot "data").text.toList) ∧
    (∀ (s : Snapshot) (nested : Bool) (b : Block), b.type = "i2c_write" →
      let bus := I2cConfig.busOf (b.slot "inst")
      let addr := (b.slot "addr").text
      ∃ statement ∈ (b.emit s nested).lines,
        HandsOver statement s!"i2c_write_blocking({bus}, {addr}, (const uint8_t*)" ", false);"
          (b.slot "data").text.toList) := by
  refine ⟨?_, ?_, ?_⟩
  · intro text inside
    have made : inside = Text.literalChars text.toList := String.toList_ofList
    rw [made]
    exact ⟨Text.denoted?_literalChars _, fun _ => Text.ne_lineEnd_of_mem_literalChars,
      fun _ _ => Text.odd_of_quote, Text.even_endingBackslashes _,
      Text.cutLiteral?_literalChars _⟩
  · intro s nested b type bus
    have kind : b.builtin? = some .spiWrite := Block.builtin?_eq_some_iff.mpr type
    rw [Block.lines_emit_action s kind rfl (by decide)]
    refine ⟨_, List.mem_cons_of_mem _ (List.mem_cons_of_mem _ List.mem_cons_self), ?_⟩
    have := handsOver_literal s!"spi_write_blocking({bus}, (const uint8_t*)" (b.slot "data").text ");"
    simp only [toString, String.append_assoc] at this ⊢
    exact this
  · intro s nested b type bus addr
    have kind : b.builtin? = some .i2cWrite := Block.builtin?_eq_some_iff.mpr type
    rw [Block.lines_emit_action s kind rfl (by decide)]
    refine ⟨_, List.mem_cons_of_mem _ List.mem_cons_self, ?_⟩
    have := handsOver_literal s!"i2c_write_blocking({bus}, {addr}, (const uint8_t*)"
      (b.slot "data").text ", false);"
    simp only [toString, String.append_assoc] at this ⊢
    exact this

/-- A text with quotes, a backslash at its end and a character of two bytes: eight characters in the
literal, five in the text, six bytes. -/
theorem quoted_degrees_have_six_bytes :
    let b : Block :=
      ⟨"w", "spi_write", [("csn", .integer 5), ("data", .string "\"°C\"\\")], []⟩
    let bus := SpiConfig.busOf (b.slot "inst")
    b.type = "spi_write" ∧
    (b.emit .bare true).lines = ["// SPI Write", "gpio_put(5, 0);",
      "spi_write_blocking(spi0, (const uint8_t*)\"\\\"°C\\\"\\\\\", 6);", "gpio_put(5, 1);"] ∧
    ∃ statement ∈ (b.emit .bare true).lines,
      HandsOver statement s!"spi_write_blocking({bus}, (const uint8_t*)" ");"
        (b.slot "data").text.toList := by
  intro b bus
  refine ⟨rfl, by decide, ?_⟩
  exact literals_are_read_back_and_counted.2.1 .bare true b rfl

end Blockware
