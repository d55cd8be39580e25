import Blockware.Diagnostic.Report
import Blockware.Manifest
import Blockware.Ownership
import Blockware.Program.Generate
import Blockware.Project
import Blockware.Settings

/-!
# Generating a project

- `Artifacts.generate`: everything that is made of a project, all of it against one snapshot.
- `Generator.generate`: the same from the current snapshot of a registry. Under the strict policy a
  project with conflicts is refused before the registry is asked.
-/

namespace Blockware

/-- Everything that is made of a project. -/
structure Artifacts where
  /-- The source text. -/
  source : String
  manifest : Manifest
  conflicts : Ownership
  report : Report
  /-- Why definitions were missing. -/
  warning : Option LoadWarning
  deriving DecidableEq

namespace Artifacts

/-- The artifacts of a project against a snapshot. -/
def generate (s : Snapshot) (heartbeat : Nat) (name : String) (p : Project) : Artifacts where
  source := (Program.generate s heartbeat name p.blocks p.modules).source
  manifest := .build s name p.blocks p.modules
  conflicts := Blockware.conflicts p.blocks
  report := .ofProgram s p.blocks p.modules
  warning := s.warning

/-- The text of the build file. -/
def manifestText (a : Artifacts) : String := a.manifest.cmake

/-- The files to write: their names and contents. -/
def files (a : Artifacts) : List (String × String) :=
  [("main.cpp", a.source), ("CMakeLists.txt", a.manifestText)]

/-- The artifacts as JSON. -/
def toJson (a : Artifacts) : Json :=
  .obj ([("source", .str a.source), ("manifest", a.manifest.toJson),
    ("manifest_text", .str a.manifestText), ("conflicts", a.conflicts.toJson),
    ("validation", a.report.toJson)] ++
    Json.optionalMember "registry_warning" (a.warning.map fun w => .str w.message))

end Artifacts

/-- Why a project is refused. -/
inductive Refusal where
  /-- Several blocks claim the same resources. -/
  | conflict (resources : List Resource)
  deriving DecidableEq

/-- The wording. -/
def Refusal.message : Refusal → String
  | .conflict resources =>
    "Resource conflict on " ++ ", ".intercalate (resources.map Resource.display)

/-- A generator: a clone of a registry, how long the idle loop waits, and what conflicts do. -/
structure Generator where
  registry : Registry
  clone : Nat := 0
  heartbeat : Nat := defaultHeartbeat
  policy : Policy := .advisory

namespace Generator

/-- The generator that settings describe. -/
def ofSettings (s : Settings) : Generator where
  registry := s.registry
  heartbeat := s.heartbeat
  policy := s.policy

/-- The current snapshot, and the generator after it has been asked for. -/
def snapshot (g : Generator) (files : Files) (now : Nat) : Snapshot × Generator :=
  let (s, registry) := g.registry.snapshot g.clone files now
  (s, { g with registry })

/-- The artifacts of a project, or why it is refused. -/
def generate (g : Generator) (files : Files) (now : Nat) (name : String) (p : Project) :
    Except Refusal Artifacts × Generator :=
  let contested := conflicts p.blocks
  if g.policy = .strict && !contested.isEmpty then (.error (.conflict contested.resources), g)
  else
    let (s, g) := g.snapshot files now
    (.ok (.generate s g.heartbeat name p), g)

end Generator
end Blockware
