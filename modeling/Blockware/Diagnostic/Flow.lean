import Blockware.Builtin.Flow
import Blockware.Diagnostic
import Blockware.BoardModule

/-!
# Diagnostics on functions and conditions

- `functionDiagnostics`: definitions of functions without a name of their own that C allows, and calls
  of functions that nothing defines.
- `conditionDiagnostics`: conditions that are incomplete, or compare by something unknown.
- `moduleDiagnostics`: modules that are not known.
-/

namespace Blockware

/-- The names of the functions that known modules bring, each once. -/
def moduleFunctionNames (modules : List String) : List String :=
  ((knownModules modules).flatMap fun m => m.functions.map Prod.fst).eraseDups

/-- The blocks of a program that define functions. -/
def functionDefs (blocks : List Block) : List Block :=
  (walk blocks).filter fun b => b.builtin? = some .functionDef

/-- The names of the functions of a program: those of modules and those that blocks define. -/
def definedNames (blocks : List Block) (modules : List String) : List String :=
  moduleFunctionNames modules ++ (functionDefs blocks).filterMap functionName?

/-- What is wrong with a function of a name, given the names defined before. That a name is taken is
said once, at its second definition. -/
def nameFindings (earlier : List String) (name : String) : List Finding :=
  (if isCName name then [] else [.badFunctionName name]) ++
    if earlier.count name = 1 then [.repeatedFunction name] else []

/-- What is wrong with definitions of functions, given the names defined before. -/
def definitionDiagnostics (earlier : List String) : List Block → List Diagnostic
  | [] => []
  | b :: rest =>
    match functionName? b with
    | none => .about b .unnamedFunction :: definitionDiagnostics earlier rest
    | some name =>
      (nameFindings earlier name).map (.about b) ++ definitionDiagnostics (name :: earlier) rest

/-- The calls of functions that are not among the defined names. -/
def callDiagnostics (defined : List String) (blocks : List Block) : List Diagnostic :=
  let calls := (walk blocks).filter fun b => b.builtin? = some .functionCall
  (calls.filter fun b => !defined.contains (callTarget b)).map fun b =>
    .about b (.undefinedFunction (callTarget b))

/-- What is wrong with the functions of a program. -/
def functionDiagnostics (blocks : List Block) (modules : List String) : List Diagnostic :=
  definitionDiagnostics (moduleFunctionNames modules) (functionDefs blocks) ++
    callDiagnostics (definedNames blocks modules) blocks

namespace Condition

/-- What is wrong with a condition. -/
def findings (c : Condition) : List Finding :=
  (match c.op with
    | .other op => [.unsupportedComparison op]
    | _ => []) ++
  if c.left.isPresent && c.right.isPresent then [] else [.missingOperand]

end Condition

/-- What is wrong with the conditions of a program. -/
def conditionDiagnostics (blocks : List Block) : List Diagnostic :=
  ((walk blocks).filter fun b => b.builtin? = some .ifCondition).flatMap fun b =>
    (Condition.ofBlock b).findings.map (.about b)

/-- The module names that are not known. -/
def moduleDiagnostics (modules : List String) : List Diagnostic :=
  (modules.filter fun name => (BoardModule.ofName? name).isNone).map fun name =>
    ⟨none, .unknownModule name⟩

end Blockware
