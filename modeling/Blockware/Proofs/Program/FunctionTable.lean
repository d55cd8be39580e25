import Blockware.Proofs.Keyed
import Blockware.Proofs.Program.Visits

/-!
# The table of functions

Functions of one name are defined again and again, by modules and by blocks at any depth, and a
program has one of them.

- `Block.completed`: the blocks of which code is generated, each after those in its body.
- `Block.routine?`: the function that a block defines.
- `Block.functions_emitAll`: these functions are lifted out in the order in which their blocks are
  complete.
- `function_table`: which of all definitions a program has, and in which order.
-/

namespace Blockware

namespace Block

/-- The name under which a block defines a function. -/
def definedName? (b : Block) : Option String :=
  if b.builtin? = some .functionDef then functionName? b else none

/-- Whether a block defines a function but gives it no name. -/
def isAnonymous (b : Block) : Bool := b.builtin? = some .functionDef && (functionName? b).isNone

mutual

/-- The blocks in the body of a block of which code is generated, and then the block. -/
def completedOf : Block → List Block
  | ⟨id, type, params, inner⟩ =>
    let b : Block := ⟨id, type, params, inner⟩
    (if b.takesBody && !b.isAnonymous then completed inner else []) ++ [b]

/-- The blocks of which code is generated, each when its body is complete. Nothing is in the body
of a function without a name, or of a block that is no container. -/
def completed : List Block → List Block
  | [] => []
  | b :: rest => completedOf b ++ completed rest

end

/-- The function that a block defines under its name: the lines that its body emits, or the comment
in their place. -/
def routine? (s : Snapshot) (b : Block) : Option Routine :=
  b.definedName?.map fun name => ⟨name, functionBody (emitAll s true b.inner).lines, .block⟩

theorem definedName?_functionDef {b : Block} (h : b.builtin? = some .functionDef) :
    b.definedName? = functionName? b := if_pos h

theorem definedName?_of_ne {b : Block} (h : b.builtin? ≠ some .functionDef) :
    b.definedName? = none := if_neg h

/-- A definition of a function has a name or is anonymous. -/
theorem isAnonymous_iff {b : Block} :
    b.isAnonymous ↔ b.builtin? = some .functionDef ∧ functionName? b = none := by
  rw [isAnonymous, Bool.and_eq_true, decide_eq_true_iff, Option.isNone_iff_eq_none]

/-- What a block defines has the name under which the block defines it. -/
theorem map_name_routine? (s : Snapshot) (b : Block) :
    (b.routine? s).map Routine.name = b.definedName? := by
  rw [routine?, Option.map_map]
  exact Option.map_id'

theorem routine?_of_definedName? (s : Snapshot) {b : Block} (h : b.definedName? = none) :
    b.routine? s = none := by
  rw [routine?, h, Option.map_none]

theorem completed_cons (b : Block) (rest : List Block) :
    completed (b :: rest) =
      (if b.takesBody && !b.isAnonymous then completed b.inner else []) ++ b :: completed rest := by
  obtain ⟨id, type, params, inner⟩ := b
  rw [completed, completedOf, List.append_assoc, List.singleton_append]

/-- Functions are lifted out in the order in which the blocks that define them are complete. -/
theorem functions_emitAll (s : Snapshot) (nested : Bool) (blocks : List Block) :
    (emitAll s nested blocks).functions = (completed blocks).filterMap (routine? s) := by
  induction blocks using program_induction generalizing nested with
  | nil => rfl
  | cons b rest ihInner ihRest =>
    rw [emitAll, Emission.functions_append, completed_cons, List.filterMap_append,
      List.filterMap_cons, ihRest]
    rcases kind_cases b with h | h | h
    · cases name : functionName? b with
      | none =>
        have anonymous : b.isAnonymous := isAnonymous_iff.mpr ⟨h, name⟩
        have nothing : b.routine? s = none :=
          routine?_of_definedName? s ((definedName?_functionDef h).trans name)
        rw [emit_anonymous s h name, nothing, if_neg (by simp [anonymous])]
        rfl
      | some name' =>
        -- The body is complete before the function, and so are the functions in it.
        have body : (b.takesBody && !b.isAnonymous) = true := by
          simp [takesBody_iff.mpr (Or.inl h), isAnonymous, name]
        have own : b.routine? s =
            some ⟨name', functionBody (emitAll s true b.inner).lines, .block⟩ := by
          rw [routine?, definedName?_functionDef h, name, Option.map_some]
        rw [emit_functionDef s h name, own, if_pos body, ← ihInner true, List.append_assoc]
        rfl
    · have isDef : b.builtin? ≠ some .functionDef := by rw [h]; decide
      have body : (b.takesBody && !b.isAnonymous) = true := by
        simp [takesBody_iff.mpr (Or.inr h), isAnonymous, isDef]
      have nothing : b.routine? s = none := routine?_of_definedName? s (definedName?_of_ne isDef)
      rw [emit_ifCondition s h, nothing, if_pos body, ← ihInner true]
    · have isDef : b.builtin? ≠ some .functionDef := fun isDef =>
        h (takesBody_iff.mpr (Or.inl isDef))
      have nothing : b.routine? s = none := routine?_of_definedName? s (definedName?_of_ne isDef)
      rw [functions_emit_leaf s h, nothing, if_neg (by simp [h])]
      rfl

end Block

/-- **The table of functions**: among all definitions, those of the known modules in their order
and then those of blocks in the loop in the order in which they are complete, each name has the
place of its first definition and the origin and body of its last. -/
theorem function_table (s : Snapshot) (heartbeat : Nat) (projectName : String)
    (blocks : List Block) (modules : List String) :
    let functions := (Program.generate s heartbeat projectName blocks modules).functions
    let definitions := moduleFunctions (knownModules modules) ++
      (Block.completed (s.loopBlocks blocks)).filterMap (Block.routine? s)
    (functions.map Routine.name).Nodup ∧
    functions.map Routine.name = (definitions.map Routine.name).eraseDups ∧
    (∀ f, f ∈ functions ↔ ∃ before after, definitions = before ++ f :: after ∧
      ∀ g ∈ after, g.name ≠ f.name) := by
  intro functions definitions
  have collected : functions = Keyed.collect Routine.name definitions := by
    show Routine.collect (_ ++ (Block.emitAll s false (s.loopBlocks blocks)).functions) = _
    rw [Block.functions_emitAll, Routine.collect]
  rw [collected]
  exact ⟨Keyed.nodup_map_key_collect definitions, Keyed.map_key_collect definitions,
    fun f => Keyed.mem_collect_iff⟩

/-- A function in the body of another comes before it, and keeps its place when it is defined
again. -/
example :
    let inner : Block := ⟨"a", "function_def", [("name", .string "inner")], []⟩
    let call : Block := ⟨"b", "function_call", [("ref", .string "outer")], []⟩
    let outer : Block := ⟨"c", "function_def", [("name", .string "outer")], [inner]⟩
    (Program.generate .bare defaultHeartbeat "demo" [outer, { inner with inner := [call] }]
      []).functions =
      [⟨"inner", ["outer();"], .block⟩, ⟨"outer", ["// Empty function"], .block⟩] := by
  decide

end Blockware
