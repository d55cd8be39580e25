import Blockware.Proofs.Program.Partition
import Blockware.Proofs.Text.Lines

/-!
# When the main loop waits

The heartbeat keeps a loop without statements from spinning. Whether it is there is decided by the
types of the blocks in the loop, and not by the lines that they emit.

- `Block.isSilent`: a definition of the user's that fills in no line.
- `Block.lines_emit_loop_eq_nil_iff`: only definitions of functions and silent blocks emit no lines.
- `loop_is_empty_iff_silent`: so the types and the lines say the same unless nothing but silent
  blocks and definitions of functions is in the loop, with a silent one among them. Then the loop is
  empty.
-/

namespace Blockware

namespace Block

/-- Whether a block is of a definition whose code is missing, or is empty once it is filled in. -/
def isSilent (s : Snapshot) (b : Block) : Bool :=
  match s.contract? b.type with
  | some (.custom d) => (d.codeText? b.params).all String.isEmpty
  | _ => false

variable {s : Snapshot} {b : Block} {kind : Builtin}

theorem isSilent_of_builtin (h : b.builtin? = some kind) : b.isSilent s = false := by
  rw [isSilent, s.contract?_of_builtin h]

theorem type_eq_functionDef_iff : b.type = "function_def" ↔ b.builtin? = some .functionDef := by
  rw [builtin?_eq_some_iff]
  rfl

theorem isSilent_of_functionDef (h : b.type = "function_def") : b.isSilent s = false :=
  isSilent_of_builtin (type_eq_functionDef_iff.mp h)

/-- Every action has a statement. -/
theorem loopLinesAs_ne_nil (loop : kind.category = .loop) (leaf : kind.takesBody = false) :
    b.loopLinesAs kind ≠ [] := by
  cases kind with
  | spiConfig | i2cConfig | adcConfig | pwmConfig => exact absurd loop (by decide)
  | functionDef | ifCondition => cases leaf
  | _ => exact List.cons_ne_nil _ _

/-- The code of a definition has no lines if it is missing or empty. -/
theorem codeLines_getD_eq_nil_iff {text : Option String} :
    (text.map codeLines).getD [] = [] ↔ text.all String.isEmpty := by
  cases text with
  | none => simp
  | some code => simp [codeLines_eq_nil_iff]

/-- Among the blocks of the loop without a body, the silent ones are those without lines. -/
theorem ownLines_eq_nil_iff (leaf : ¬ b.takesBody) (loop : s.isSetup b = false) :
    b.ownLines s false = [] ↔ b.isSilent s := by
  rw [ownLines, isSilent]
  cases meaning : s.contract? b.type with
  | none => simp
  | some c =>
    have notSetup : c.category ≠ .setup := by
      rw [Snapshot.isSetup_of_contract meaning] at loop
      exact of_decide_eq_false loop
    simp only [if_neg notSetup]
    cases c with
    | custom d => exact codeLines_getD_eq_nil_iff
    | builtin kind =>
      have isBuiltin : b.builtin? = some kind := Snapshot.contract?_eq_builtin_iff.mp meaning
      have isLeaf : kind.takesBody = false := by
        rw [takesBody, isBuiltin] at leaf
        simpa using leaf
      have inLoop : kind.category = .loop := by
        cases category : kind.category with
        | loop => rfl
        | setup => exact absurd category notSetup
      have statement := loopLinesAs_ne_nil (b := b) inLoop isLeaf
      cases kind with
      | functionDef | ifCondition => cases isLeaf
      | _ => simpa using statement

/-- A block of the loop emits no lines if it defines a function or is silent. -/
theorem lines_emit_loop_eq_nil_iff (loop : s.isSetup b = false) :
    (b.emit s false).lines = [] ↔ b.type = "function_def" ∨ b.isSilent s := by
  rw [type_eq_functionDef_iff]
  rcases kind_cases b with h | h | h
  · have none : (b.emit s false).lines = [] := by
      cases name : functionName? b with
      | none => rw [emit_anonymous s h name]
      | some name' => rw [emit_functionDef s h name]
    simp [none, h]
  · rw [emit_ifCondition s h, isSilent_of_builtin h]
    simp [h]
  · have isDef : b.builtin? ≠ some .functionDef := fun isDef => h (takesBody_iff.mpr (Or.inl isDef))
    rw [emit_leaf h (Or.inr loop), ownLines_eq_nil_iff h loop]
    simp [isDef]

/-- The same for the blocks of the loop together. -/
theorem lines_emitAll_loop_eq_nil_iff {blocks : List Block}
    (loop : ∀ b ∈ blocks, s.isSetup b = false) :
    (emitAll s false blocks).lines = [] ↔
      ∀ b ∈ blocks, b.type = "function_def" ∨ b.isSilent s := by
  rw [emitAll_eq_flatMap, List.flatMap_eq_nil_iff]
  exact forall₂_congr fun b hb => lines_emit_loop_eq_nil_iff (loop b hb)

end Block

/-- **When the loop is empty**: the loop ends with one heartbeat if all of its blocks are
definitions of functions. They contribute no line if each of them is one or is silent. The two
conditions say the same, unless nothing is contributed and a silent block is in the loop. Just then
the loop is empty. -/
theorem loop_is_empty_iff_silent (s : Snapshot) (heartbeat : Nat) (projectName : String)
    (blocks : List Block) (modules : List String) :
    let p := Program.generate s heartbeat projectName blocks modules
    let loop := s.loopBlocks blocks
    let examples := if blocks = [] then (knownModules modules).flatMap BoardModule.exampleLoop else []
    let contributed := (Block.emitAll s false loop).lines
    let beats := ∀ b ∈ loop, b.type = "function_def"
    p.loopLines = examples ++ contributed ++ (if beats then [idleStatement heartbeat] else []) ∧
    (contributed = [] ↔ ∀ b ∈ loop, b.type = "function_def" ∨ b.isSilent s) ∧
    ((beats ↔ contributed = []) ↔ ¬ (contributed = [] ∧ ∃ b ∈ loop, b.isSilent s)) ∧
    (p.loopLines = [] ↔ contributed = [] ∧ ∃ b ∈ loop, b.isSilent s) := by
  intro p loop examples contributed beats
  have loopLines : p.loopLines =
      examples ++ contributed ++ (if beats then [idleStatement heartbeat] else []) := by
    rw [loopLines_generate]
    simp only [contributed, Block.emitAll_eq_flatMap]
    rfl
  have nothing : contributed = [] ↔ ∀ b ∈ loop, b.type = "function_def" ∨ b.isSilent s :=
    Block.lines_emitAll_loop_eq_nil_iff fun _ => Snapshot.isSetup_of_mem_loopBlocks
  -- A silent block is no definition of a function, so it keeps the heartbeat out.
  have notSilent : beats ↔ contributed = [] ∧ ¬ ∃ b ∈ loop, b.isSilent s := by
    rw [nothing]
    constructor
    · intro defines
      refine ⟨fun b hb => Or.inl (defines b hb), ?_⟩
      rintro ⟨b, hb, silent⟩
      rw [Block.isSilent_of_functionDef (defines b hb)] at silent
      cases silent
    · rintro ⟨each, noneSilent⟩ b hb
      exact (each b hb).resolve_right fun silent => noneSilent ⟨b, hb, silent⟩
  refine ⟨loopLines, nothing, ?_, ?_⟩
  · rw [notSilent]
    by_cases none : contributed = [] <;> simp [none]
  · rw [loopLines]
    constructor
    · intro empty
      obtain ⟨front, noBeat⟩ := List.append_eq_nil_iff.mp empty
      have none : contributed = [] := (List.append_eq_nil_iff.mp front).2
      have idle : ¬ beats := fun h => by simp [h] at noBeat
      exact ⟨none, by_contra fun noneSilent => idle (notSilent.mpr ⟨none, noneSilent⟩)⟩
    · rintro ⟨none, silent⟩
      have idle : ¬ beats := fun h => (notSilent.mp h).2 silent
      -- There is a block, so the examples of the modules are not shown.
      have someBlock : blocks ≠ [] := by
        rintro rfl
        obtain ⟨b, hb, -⟩ := silent
        exact absurd hb List.not_mem_nil
      simp [examples, none, idle, someBlock]

/-- A loop that holds a block of a definition without code: no block contributes a line to it, and
yet the heartbeat is left out. -/
theorem marker_leaves_loop_empty :
    let marker : Definition :=
      { id := "marker", label := "Marker", category := .loop, color := "", description := none
        inputs := [], code := { headers := ["marker.h"] } }
    let s := Snapshot.ofDefinitions [marker]
    let blocks : List Block := [⟨"m", "marker", [], []⟩]
    let p := Program.generate s defaultHeartbeat "demo" blocks []
    s.loopBlocks blocks = blocks ∧ (Block.emitAll s false blocks).lines = [] ∧
    p.loopLines = [] := by
  intro marker s blocks p
  exact ⟨rfl, by decide, by decide⟩

end Blockware
