import Blockware.Builtin.Statement
import Blockware.Keyed
import Blockware.Program
import Blockware.Snapshot

/-!
# What blocks emit

The code of a tree of blocks. A block in the loop emits lines where it stands, and functions that are
lifted out of it; what it emits depends on the block and the snapshot alone.

- `Emission`: lines and lifted functions.
- `Block.emit`, `Block.emitAll`: the emission of a block and of a list. A conditional wraps the lines
  of its body; a definition of a function turns them into a function, after the functions lifted out
  of its own body; an unknown type leaves a comment.
- `Block.setupCode`: the lines of a block in the part that runs once.
- `Routine.collect`: of several functions of one name, the last one in the place of the first.
-/

namespace Blockware

/-- What blocks in the loop emit. -/
structure Emission where
  lines : List String := []
  /-- The functions lifted out, in the order in which they are complete. -/
  functions : List Routine := []
  deriving DecidableEq

/-- The emission of blocks that follow one another. -/
def Emission.append (a b : Emission) : Emission := ⟨a.lines ++ b.lines, a.functions ++ b.functions⟩

instance : Append Emission := ⟨Emission.append⟩

@[simp] theorem Emission.lines_append (a b : Emission) : (a ++ b).lines = a.lines ++ b.lines := rfl

@[simp] theorem Emission.functions_append (a b : Emission) :
    (a ++ b).functions = a.functions ++ b.functions := rfl

/-- The functions of a program: a later one replaces an earlier one of its name in its place. -/
def Routine.collect (fs : List Routine) : List Routine :=
  Keyed.collect Routine.name fs

/-- The comment in place of a block of an unknown type. -/
def unknownComment (type : String) : String := s!"// Unknown block type: {type}"

/-- The comment in place of a setup block in a body. -/
def ignoredSetupComment (type : String) : String :=
  s!"// Setup block '{type}' ignored inside a nested body"

/-- The lines of a filled-in template, without blanks at their ends. -/
def codeLines (text : String) : List String := (Text.lines text).map Text.trimEnd

/-- The body of a function, which is never empty. -/
def functionBody (lines : List String) : List String :=
  if lines.isEmpty then ["// Empty function"] else lines

namespace Block

mutual

/-- The emission of a block in the loop, at its top or `nested` in a body. -/
def emit (s : Snapshot) (nested : Bool) : Block → Emission
  | ⟨id, type, params, inner⟩ =>
    let b : Block := ⟨id, type, params, inner⟩
    match s.contract? type with
    | none => { lines := [unknownComment type] }
    | some contract =>
      if nested && contract.category = .setup then { lines := [ignoredSetupComment type] }
      else
        match contract with
        | .builtin .functionDef =>
          match functionName? b with
          | none => {}
          | some name =>
            let body := emitAll s true inner
            { functions := body.functions ++ [⟨name, functionBody body.lines, .block⟩] }
        | .builtin .ifCondition =>
          let body := emitAll s true inner
          { lines := (Condition.ofBlock b).guardLine :: body.lines.map (indent 1) ++ ["\x7d"]
            functions := body.functions }
        | .builtin kind => { lines := b.loopLinesAs kind }
        | .custom d => { lines := ((d.codeText? params).map codeLines).getD [] }

/-- The emission of the blocks of a list, one after the other. -/
def emitAll (s : Snapshot) (nested : Bool) : List Block → Emission
  | [] => {}
  | b :: rest => emit s nested b ++ emitAll s nested rest

end

/-- The lines of a top-level block in the part that runs once. -/
def setupCode (s : Snapshot) (b : Block) : List String :=
  match s.contract? b.type with
  | none => [unknownComment b.type]
  | some (.builtin kind) => b.setupLinesAs kind
  | some (.custom d) =>
    ((d.setupText? b.params).map codeLines).getD [] ++
      ((d.codeText? b.params).map codeLines).getD []

end Block
end Blockware
