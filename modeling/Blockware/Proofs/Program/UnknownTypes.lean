import Blockware.Proofs.Program.Scopes

/-!
# Blocks of unknown types

In place of a block of an unknown type a program has a comment with the type, as one line. The type
is any text, and it is written as it is.

- `Stretch`: the lines of blocks that stand together in a program, in `main`, in its loop or in a
  function.
- `Stretch.infix_source`: where they are in the source.
- `Stretch.own_of_unknown`: what a block of an unknown type has there.
- `written_indent_unknownComment`: the comment holds the first line of the type, and no other one.
- `unknown_type_stays_in_comment_iff`: so a block of an unknown type is on one line of the source
  exactly if there is no line feed in its type.
-/

namespace Blockware

open Text (written)

/-! ### The lines of blocks in a program -/

/-- The lines of blocks that stand together in a program, in a scope at some level: those that run
once, those of the loop, and those of the body of a function that was lifted out of a block. -/
inductive Stretch (s : Snapshot) (blocks : List Block) (p : Program) : Nat → List PlacedLine → Prop
  | setup : Stretch s blocks p 1 (Block.placedIn s false 0 (s.setupBlocks blocks))
  | loop : Stretch s blocks p 2 (Block.placedIn s false 0 (s.loopBlocks blocks))
  | function {f : Routine} {d : Block} (kept : f ∈ p.functions) (alive : d ∈ Block.live blocks)
    (own : d.routine? s = some f) : Stretch s blocks p 1 (Block.placedIn s true 0 d.inner)

/-- What runs once is placed as the code of its blocks. -/
theorem map_text_placedIn_setup {s : Snapshot} {blocks : List Block}
    (h : ∀ b ∈ blocks, s.isSetup b) :
    (Block.placedIn s false 0 blocks).map (PlacedLine.text 0) =
      blocks.flatMap (Block.setupCode s) := by
  induction blocks with
  | nil => rfl
  | cons b rest ih =>
    have setup := h b List.mem_cons_self
    rw [Block.placedIn, List.map_append, ih fun c hc => h c (List.mem_cons_of_mem b hc),
      List.flatMap_cons, Block.placedOf_leaf (Block.not_takesBody_of_isSetup setup),
      Block.ownLines_of_isSetup setup, List.map_map]
    congr 1
    exact map_indent_zero _

namespace Program

variable (p : Program)

theorem infix_lines_mainLines : p.mainLines <:+: p.lines := ⟨_, [], List.append_nil _⟩

/-- The statements that run once are in `main`, one level in. -/
theorem infix_lines_setupLines : p.setupLines.map (indent 1) <:+: p.lines := by
  refine List.IsInfix.trans ?_ p.infix_lines_mainLines
  -- Without statements `main` has no empty line behind them either.
  by_cases empty : p.setupLines = []
  · rw [empty]
    exact List.nil_infix
  · rw [mainLines, if_neg (by simpa using empty)]
    exact ⟨["int main() \x7b", indent 1 "stdio_init_all();", indent 1 p.bannerLine, ""], _,
      by simp only [List.append_assoc]; rfl⟩

/-- Those of the loop are in the loop of `main`, two levels in. -/
theorem infix_lines_loopLines : p.loopLines.map (indent 2) <:+: p.lines := by
  refine List.IsInfix.trans ?_ p.infix_lines_mainLines
  exact ⟨_, _, rfl⟩

/-- The body of a function is in the function, one level in. -/
theorem infix_lines_body {f : Routine} (h : f ∈ p.functions) :
    f.body.map (indent 1) <:+: p.lines := by
  obtain ⟨before, after, split⟩ := List.append_of_mem h
  have inFunction : f.body.map (indent 1) <:+: f.lines := ⟨_, _, rfl⟩
  refine inFunction.trans ?_
  let print := fun fs : List Routine => fs.flatMap fun g => g.lines ++ [""]
  rw [p.lines_split split]
  exact ⟨p.headerLines ++ [""] ++ print before, [""] ++ print after ++ p.mainLines,
    by simp only [List.append_assoc, print]⟩

end Program

namespace Stretch

variable {s : Snapshot} {heartbeat : Nat} {projectName : String} {blocks : List Block}
  {modules : List String} {level : Nat} {placed : List PlacedLine}

/-- The lines of a stretch are lines of the program, behind the indentation of their places. -/
theorem infix_lines
    (h : Stretch s blocks (Program.generate s heartbeat projectName blocks modules) level placed) :
    placed.map (PlacedLine.text level) <:+:
      (Program.generate s heartbeat projectName blocks modules).lines := by
  cases h with
  | setup =>
    have once : ∀ b ∈ s.setupBlocks blocks, s.isSetup b := fun b hb => (List.mem_filter.mp hb).2
    rw [← map_indent_text 1 0, map_text_placedIn_setup once]
    refine List.IsInfix.trans (List.IsInfix.map _ ?_) (Program.infix_lines_setupLines _)
    exact ⟨_, _, rfl⟩
  | loop =>
    rw [← map_indent_text 2 0]
    refine List.IsInfix.trans (List.IsInfix.map _ ?_) (Program.infix_lines_loopLines _)
    rw [loopLines_eq_placed]
    exact ⟨_, _, rfl⟩
  | @function f d kept _ own =>
    by_cases empty : Block.placedIn s true 0 d.inner = []
    · rw [empty]
      exact List.nil_infix
    · have body := (Block.routine?_eq_some own).2
      rw [functionBody, if_neg (by simpa using empty)] at body
      rw [← map_indent_text 1 0, ← body]
      exact Program.infix_lines_body _ kept

/-- Each line of a stretch is read from the source where it was written, with the others. -/
theorem infix_source
    (h : Stretch s blocks (Program.generate s heartbeat projectName blocks modules) level placed) :
    (placed.flatMap fun q => written (q.text level)) <:+:
      Text.lines (Program.generate s heartbeat projectName blocks modules).source := by
  obtain ⟨before, after, split⟩ := h.infix_lines
  rw [Program.source, Text.lines_unlines, ← split, List.flatMap_append, List.flatMap_append,
    List.flatMap_map]
  exact ⟨_, _, rfl⟩

/-- The line of a block of an unknown type is the comment for it. -/
theorem own_of_unknown {p : Program} (h : Stretch s blocks p level placed) {q : PlacedLine}
    (hq : q ∈ placed) (unknown : s.contract? q.visit.block.type = none) :
    q.own = unknownComment q.visit.block.type := by
  have own : q.own ∈ q.visit.block.ownLines s q.visit.nested := by
    cases h with
    | setup | loop | function => exact (Block.mem_placedIn hq).2.2
  rw [Block.ownLines, unknown] at own
  exact List.mem_singleton.mp own

end Stretch

/-! ### The comment -/

/-- What stands before the type of a block in the comment for it. -/
def unknownMark (level : Nat) : String :=
  String.ofList (List.replicate (4 * level) ' ') ++ "// Unknown block type: "

theorem indent_unknownComment (level : Nat) (type : String) :
    indent level (unknownComment type) = unknownMark level ++ type := by
  have made : unknownComment type = "// Unknown block type: " ++ type := rfl
  have shown : ("// Unknown block type: " ++ type).isEmpty = false := by
    rw [Bool.eq_false_iff, ne_eq, String.isEmpty_iff, String.append_eq_empty_iff]
    exact fun empty => absurd empty.1 (by decide)
  rw [made, indent, shown, if_neg Bool.false_ne_true, unknownMark, String.append_assoc]

theorem isLine_unknownMark (level : Nat) : Text.IsLine (unknownMark level) := by
  have title : (unknownMark level).toList =
      List.replicate (4 * level) ' ' ++ "// Unknown block type: ".toList := by
    rw [unknownMark, String.toList_append, String.toList_ofList]
  refine ⟨?_, ?_⟩
  · rw [title, List.mem_append, not_or]
    exact ⟨fun blank => absurd (List.eq_of_mem_replicate blank) (by decide), by decide⟩
  · have last : "// Unknown block type: ".toList.getLast? = some ' ' := by decide
    rw [title, List.getLast?_append, last, Option.some_or]
    decide

/-- The comment for a type holds the first line of the type. The other ones follow as they are. -/
theorem written_indent_unknownComment (level : Nat) (type : String) :
    ∃ first rest, written type = first :: rest ∧
      written (indent level (unknownComment type)) = (unknownMark level ++ first) :: rest ∧
      rest.length = type.toList.count '\n' := by
  have count := Text.length_written type
  rw [indent_unknownComment, Text.written_append (isLine_unknownMark level)]
  cases pieces : written type with
  | nil => simp [pieces] at count
  | cons first rest =>
    rw [pieces, List.length_cons] at count
    exact ⟨first, rest, rfl, rfl, Nat.succ.inj count⟩

/-- **An unknown type stays in its comment if it has no line feed**: the lines of blocks are read
from the source where they have been written, in `main`, in its loop, and in every function that was
lifted out of a block. There a block of an unknown type has a comment with the first line of its type
behind the indentation. Further lines of the type follow as they are, so the comment is all of it
exactly if the type has no line feed. -/
theorem unknown_type_stays_in_comment_iff (s : Snapshot) (heartbeat : Nat) (projectName : String)
    (blocks : List Block) (modules : List String) :
    let p := Program.generate s heartbeat projectName blocks modules
    (∀ f ∈ p.functions, f.isLifted → ∃ d : Block, d.definedName? = some f.name ∧
      Stretch s blocks p 1 (Block.placedIn s true 0 d.inner)) ∧
    ∀ level placed, Stretch s blocks p level placed →
      (placed.flatMap fun q => written (q.text level)) <:+: Text.lines p.source ∧
      ∀ q ∈ placed, s.contract? q.visit.block.type = none →
        let type := q.visit.block.type
        let blanks := String.ofList (List.replicate (4 * (level + q.visit.depth)) ' ')
        ∃ first rest, written type = first :: rest ∧
          written (q.text level) = (blanks ++ "// Unknown block type: " ++ first) :: rest ∧
          (rest = [] ↔ '\n' ∉ type.toList) := by
  intro p
  refine ⟨?_, ?_⟩
  · intro f kept lifted
    obtain ⟨d, alive, own⟩ := exists_live_of_isLifted s heartbeat projectName kept lifted
    exact ⟨d, (Block.routine?_eq_some own).1, .function kept alive own⟩
  · intro level placed stretch
    refine ⟨stretch.infix_source, ?_⟩
    intro q hq unknown type blanks
    obtain ⟨first, rest, pieces, comment, count⟩ :=
      written_indent_unknownComment (level + q.visit.depth) type
    rw [PlacedLine.text, stretch.own_of_unknown hq unknown]
    refine ⟨first, rest, pieces, comment, ?_⟩
    rw [← List.length_eq_zero_iff, count, List.count_eq_zero]

/-- A block of an unknown type in a conditional: its comment is on one line of the source. -/
theorem lamp_stays_in_comment :
    let lamp : Block := ⟨"l", "lamp", [], []⟩
    let guard : Block := ⟨"c", "if_condition", [], [lamp]⟩
    let placed := Block.placedIn .bare false 0 (Snapshot.bare.loopBlocks [guard])
    let p := Program.generate .bare defaultHeartbeat "demo" [guard] []
    let q : PlacedLine := ⟨⟨lamp, true, 1⟩, unknownComment "lamp"⟩
    Stretch .bare [guard] p 2 placed ∧ q ∈ placed ∧ Snapshot.bare.contract? "lamp" = none ∧
      written (q.text 2) = ["            // Unknown block type: lamp"] ∧
      (placed.flatMap fun q => written (q.text 2)) <:+: Text.lines p.source := by
  intro lamp guard placed p q
  have there : q ∈ placed := List.mem_cons_of_mem _ List.mem_cons_self
  obtain ⟨shown, comments⟩ := (unknown_type_stays_in_comment_iff .bare defaultHeartbeat "demo"
    [guard] []).2 2 placed .loop
  obtain ⟨first, rest, pieces, comment, single⟩ := comments q there rfl
  have alone : rest = [] := single.mpr (by decide)
  have name : written "lamp" = ["lamp"] := by decide
  obtain ⟨rfl, -⟩ := List.cons.inj (pieces.symm.trans name)
  refine ⟨.loop, there, rfl, ?_, shown⟩
  rw [comment, alone]
  decide

/-- A type of two lines: the second one is a line of the source, and no comment. -/
theorem second_line_leaves_comment :
    let b : Block := ⟨"u", "zzz\nstop();", [], []⟩
    let p := Program.generate .bare defaultHeartbeat "demo" [b] []
    Snapshot.bare.contract? b.type = none ∧ p.loopLines = [unknownComment b.type] ∧
      written (indent 2 (unknownComment b.type)) =
        ["        // Unknown block type: zzz", "stop();"] ∧
      "stop();" ∈ Text.lines p.source := by
  intro b p
  have loop : p.loopLines = [unknownComment b.type] := by decide
  have broken : written (indent 2 (unknownComment b.type)) =
      ["        // Unknown block type: zzz", "stop();"] := by decide
  have line : indent 2 (unknownComment b.type) ∈ p.lines := by
    refine p.infix_lines_loopLines.subset ?_
    rw [loop]
    exact List.mem_cons_self
  refine ⟨rfl, loop, broken, ?_⟩
  rw [Program.source, Text.lines_unlines]
  refine List.mem_flatMap.mpr ⟨_, line, ?_⟩
  rw [broken]
  exact List.mem_cons_of_mem _ List.mem_cons_self

end Blockware
