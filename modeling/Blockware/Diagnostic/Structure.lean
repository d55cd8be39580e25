import Blockware.Diagnostic
import Blockware.Snapshot

/-!
# Diagnostics on the tree of blocks

- `duplicateIds`: blocks whose id an earlier block has.
- `Snapshot.typeDiagnostics`: blocks of unknown types, and definitions of which a part is never used.
- `Snapshot.nestingDiagnostics`: bodies of blocks that are no containers, and setup blocks in bodies.
- `Snapshot.inputDiagnostics`: parameters that do not fit the inputs of a definition.
-/

namespace Blockware

/-- The blocks whose id is among those seen before, in order. -/
def repeatedIds (seen : List String) : List Block → List Diagnostic
  | [] => []
  | b :: rest =>
    if seen.contains b.id then .about b (.duplicateId b.id) :: repeatedIds seen rest
    else repeatedIds (b.id :: seen) rest

/-- Every block of a program must have an id of its own. -/
def duplicateIds (blocks : List Block) : List Diagnostic := repeatedIds [] (walk blocks)

namespace Snapshot

/-- What is wrong with the type of a block: it is unknown, or means a definition for the loop that has
code to run once. -/
def typeFindings (s : Snapshot) (b : Block) : List Finding :=
  match s.contract? b.type with
  | none => [.unknownType b.type]
  | some (.builtin _) => []
  | some (.custom d) =>
    if d.category = .loop && d.code.setupTemplate.isSome then [.unusedSetup d.id] else []

/-- What is wrong with the types of the blocks of a program. -/
def typeDiagnostics (s : Snapshot) (blocks : List Block) : List Diagnostic :=
  (walk blocks).flatMap fun b => (s.typeFindings b).map (.about b)

/-- What is wrong with the body of a block: only a container may have one, and nothing in it may
configure hardware. -/
def bodyDiagnostics (s : Snapshot) (b : Block) : List Diagnostic :=
  if b.takesBody then
    (b.inner.filter fun inner => s.categoryOfType inner.type = .setup).map fun inner =>
      .about inner (.nestedSetup inner.type)
  else if b.inner.isEmpty then []
  else [.about b (.ignoredBody b.type)]

/-- What is wrong with the bodies of a program. -/
def nestingDiagnostics (s : Snapshot) (blocks : List Block) : List Diagnostic :=
  (walk blocks).flatMap s.bodyDiagnostics

/-- What is wrong with the parameters of a block that a definition stands for. -/
def inputFindings (s : Snapshot) (b : Block) : List InputFinding :=
  match s.contract? b.type with
  | some (.custom d) => d.check b.params
  | _ => []

/-- What is wrong with the parameters of the custom blocks of a program. -/
def inputDiagnostics (s : Snapshot) (blocks : List Block) : List Diagnostic :=
  (walk blocks).flatMap fun b => (s.inputFindings b).map fun f => .about b (.input f)

end Snapshot
end Blockware
