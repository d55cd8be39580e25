import Blockware.Proofs.Program.Writing

/-!
# Texts that are printed

A program prints a text by handing it to `printf` as the format. The literal of the text denotes it,
so the format is the text itself, and a format is read once more: where the text holds a percent
sign, that begins a conversion.

- `printed?`: what `printf` prints for a format and no further arguments.
- `printed?_eq_self_iff`: the format itself, if it has neither percent signs nor null characters.
- `CallsPrintf`: what a compiler makes of a statement that prints.
- `printf_prints_text_iff_no_percent`: so the texts of logs and the names of projects are printed as
  they are exactly if they have none.
-/

namespace Blockware

open Text (cutLiteral? denoted?)

/-! ### Formats -/

/-- What `printf` prints for a format without further arguments. Two percent signs print one; any
other percent sign begins a conversion, which has no argument to print. A null character ends the
format. -/
def printed? : List Char → Option (List Char)
  | [] => some []
  | '%' :: '%' :: rest => (printed? rest).map ('%' :: ·)
  | c :: rest =>
    if c = '%' then none else if c = '\x00' then some [] else (printed? rest).map (c :: ·)

/-- Whether every character of a format stands for itself. -/
def Verbatim (format : List Char) : Prop := '%' ∉ format ∧ '\x00' ∉ format

theorem verbatim_cons {c : Char} {rest : List Char} :
    Verbatim (c :: rest) ↔ c ≠ '%' ∧ c ≠ '\x00' ∧ Verbatim rest := by
  simp only [Verbatim, List.mem_cons, not_or, ne_comm (a := c)]
  tauto

/-- Nothing more is printed than the format has characters, and less unless it is verbatim. -/
theorem length_printed?_le {format out : List Char} (h : printed? format = some out) :
    out.length ≤ format.length ∧ (out.length = format.length → Verbatim format) := by
  fun_induction printed? format generalizing out with
  | case1 =>
    cases h
    exact ⟨Nat.le_refl _, fun _ => ⟨List.not_mem_nil, List.not_mem_nil⟩⟩
  | case2 rest ih =>
    -- Two percent signs print one.
    obtain ⟨later, printed, rfl⟩ := Option.map_eq_some_iff.mp h
    have shorter := (ih printed).1
    simp only [List.length_cons]
    omega
  | case3 rest => cases h
  | case4 rest =>
    cases h
    exact ⟨Nat.zero_le _, fun same => absurd same (by simp)⟩
  | case5 c rest _ percent null ih =>
    obtain ⟨later, printed, rfl⟩ := Option.map_eq_some_iff.mp h
    obtain ⟨shorter, verbatim⟩ := ih printed
    simp only [List.length_cons, Nat.add_right_cancel_iff, verbatim_cons]
    exact ⟨Nat.succ_le_succ shorter, fun same => ⟨percent, null, verbatim same⟩⟩

/-- A format is printed as it is exactly if it is verbatim. -/
theorem printed?_eq_self_iff {format : List Char} :
    printed? format = some format ↔ Verbatim format := by
  constructor
  · intro printed
    exact (length_printed?_le printed).2 rfl
  · intro verbatim
    induction format with
    | nil => rfl
    | cons c rest ih =>
      obtain ⟨percent, null, later⟩ := verbatim_cons.mp verbatim
      rw [printed?, if_neg percent, if_neg null, ih later]
      · rfl
      · intro _ same
        exact absurd same percent

/-! ### Statements -/

/-- A statement calls `printf` with a literal that denotes a format, and with nothing else. -/
def CallsPrintf (statement : String) (format : List Char) : Prop :=
  ∃ behind inside,
    statement.toList = "printf(".toList ++ '"' :: behind ∧
    cutLiteral? behind = some (inside, ");".toList) ∧
    denoted? inside = some format

/-- A call of `printf` with the literal of a format has that format. -/
theorem callsPrintf_of_toList_eq {statement : String} {format : List Char}
    (h : statement.toList =
      "printf(".toList ++ '"' :: (Text.literalChars format ++ '"' :: ");".toList)) :
    CallsPrintf statement format :=
  ⟨_, Text.literalChars format, h, Text.cutLiteral?_literalChars _ _,
    Text.denoted?_literalChars _⟩

/-- A log prints its text and a line feed. -/
theorem callsPrintf_log {b : Block} {statement : String} (h : statement ∈ Action.log b) :
    CallsPrintf statement ((b.slot "text").text.toList ++ ['\n']) := by
  have feed : Text.literalChars ['\n'] = ['\\', 'n'] := by decide
  refine callsPrintf_of_toList_eq ?_
  rw [List.mem_singleton.mp h, Text.literalChars_append, feed]
  simp [toString, Text.literal]

/-- A program begins by printing the name of its project. -/
theorem callsPrintf_bannerLine (p : Program) :
    CallsPrintf p.bannerLine
      ("Project: ".toList ++ p.projectName.toList ++ " Initialized\n".toList) := by
  have before : Text.literalChars "Project: ".toList = "Project: ".toList := by decide
  have after : Text.literalChars " Initialized\n".toList = " Initialized\\n".toList := by decide
  refine callsPrintf_of_toList_eq ?_
  unfold Program.bannerLine
  rw [Text.literalChars_append, Text.literalChars_append, before, after]
  simp [toString, Text.literal]

/-- **A text is printed as it is if it has no percent sign**: the one statement of a log, wherever it
stands, and the second statement of `main` call `printf` with a text as the format and nothing to
convert. It prints the text of the log, or the name of the project, as it is exactly if there is
neither a percent sign nor a null character in it. -/
theorem printf_prints_text_iff_no_percent (s : Snapshot) (heartbeat : Nat) (projectName : String)
    (blocks : List Block) (modules : List String) :
    (∀ (nested : Bool) (b : Block), b.type = "log" →
      let text := (b.slot "text").text.toList
      let format := text ++ ['\n']
      (∃ statement, (b.emit s nested).lines = [statement] ∧ CallsPrintf statement format) ∧
      (printed? format = some format ↔ '%' ∉ text ∧ '\x00' ∉ text)) ∧
    let p := Program.generate s heartbeat projectName blocks modules
    let name := projectName.toList
    let format := "Project: ".toList ++ name ++ " Initialized\n".toList
    (∃ statement rest, p.mainLines =
      "int main() \x7b" :: indent 1 "stdio_init_all();" :: indent 1 statement :: rest ∧
        CallsPrintf statement format) ∧
    (printed? format = some format ↔ '%' ∉ name ∧ '\x00' ∉ name) := by
  refine ⟨?_, ?_⟩
  · intro nested b type text format
    have kind : b.builtin? = some .log := Block.builtin?_eq_some_iff.mpr type
    refine ⟨⟨_, ?_, callsPrintf_log List.mem_cons_self⟩, ?_⟩
    · exact Block.lines_emit_action s kind rfl (by decide) nested
    · rw [printed?_eq_self_iff]
      simp [Verbatim, format]
  · intro p name format
    refine ⟨⟨p.bannerLine, _, rfl, callsPrintf_bannerLine p⟩, ?_⟩
    rw [printed?_eq_self_iff]
    simp [Verbatim, format]

/-- A log without a percent sign, in a program whose name has none. -/
theorem quoted_half_is_printed :
    let b : Block := ⟨"l", "log", [("text", .string "\"half\"")], []⟩
    let text := (b.slot "text").text.toList ++ ['\n']
    let banner := "Project: ".toList ++ "demo".toList ++ " Initialized\n".toList
    b.type = "log" ∧ (b.emit .bare false).lines = ["printf(\"\\\"half\\\"\\n\");"] ∧
    text = "\"half\"\n".toList ∧ printed? text = some text ∧
    banner = "Project: demo Initialized\n".toList ∧ printed? banner = some banner := by
  intro b text banner
  obtain ⟨logs, -, named⟩ :=
    printf_prints_text_iff_no_percent .bare defaultHeartbeat "demo" [b] []
  refine ⟨rfl, by decide, by decide, ?_, by decide, ?_⟩
  · exact (logs false b rfl).2.mpr ⟨by decide, by decide⟩
  · exact named.mpr ⟨by decide, by decide⟩

/-- A percent sign at the end of a text begins a conversion, as there is no other one behind it. Two
percent signs are printed as one. -/
theorem percent_is_converted :
    let half : Block := ⟨"h", "log", [("text", .string "50%")], []⟩
    let all : Block := ⟨"a", "log", [("text", .string "100%%")], []⟩
    (half.emit .bare false).lines = ["printf(\"50%\\n\");"] ∧
    CallsPrintf "printf(\"50%\\n\");" "50%\n".toList ∧ printed? "50%\n".toList = none ∧
    (all.emit .bare false).lines = ["printf(\"100%%\\n\");"] ∧
    CallsPrintf "printf(\"100%%\\n\");" "100%%\n".toList ∧
    printed? "100%%\n".toList = some "100%\n".toList := by
  intro half all
  refine ⟨by decide, ?_, by decide, by decide, ?_, by decide⟩
  · exact callsPrintf_of_toList_eq (by decide)
  · exact callsPrintf_of_toList_eq (by decide)

end Blockware
