import Blockware.Diagnostic.Flow
import Blockware.Diagnostic.Hardware
import Blockware.Diagnostic.Structure

/-!
# Reports

All diagnostics of a program against a snapshot.

- `diagnostics`: the diagnostics in the order of the checks.
- `Report`, `Report.ofProgram`: the same with errors and warnings apart, each in that order.
-/

namespace Blockware

/-- The diagnostics of some blocks and modules. -/
def diagnostics (s : Snapshot) (blocks : List Block) (modules : List String) : List Diagnostic :=
  duplicateIds blocks ++ s.typeDiagnostics blocks ++ s.nestingDiagnostics blocks ++
    pinDiagnostics blocks ++ routingDiagnostics blocks ++ speedDiagnostics blocks ++
    unconfiguredDiagnostics blocks ++ functionDiagnostics blocks modules ++
    conditionDiagnostics blocks ++ s.inputDiagnostics blocks ++ moduleDiagnostics modules

/-- All diagnostics of a program. -/
structure Report where
  errors : List Diagnostic
  warnings : List Diagnostic
  deriving DecidableEq

namespace Report

/-- The report of some diagnostics. -/
def ofList (ds : List Diagnostic) : Report where
  errors := ds.filter Diagnostic.isError
  warnings := ds.filter fun d => !d.isError

/-- The report on some blocks and modules. -/
def ofProgram (s : Snapshot) (blocks : List Block) (modules : List String) : Report :=
  ofList (diagnostics s blocks modules)

/-- Whether there are no errors. -/
def isValid (r : Report) : Bool := r.errors.isEmpty

/-- The report as JSON. -/
def toJson (r : Report) : Json :=
  .obj [("valid", .bool r.isValid), ("errors", .arr (r.errors.map Diagnostic.toJson)),
    ("warnings", .arr (r.warnings.map Diagnostic.toJson))]

end Report

end Blockware
