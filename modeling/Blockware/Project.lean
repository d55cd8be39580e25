import Blockware.Block.Stored

/-!
# Projects

What the user has built: blocks, modules, and options for the build that are passed on as they are.

- `Project.toJson`, `Project.read`: projects in stored data. The oldest projects were a bare list of
  module names. A text that is JSON but no project has one fault, whatever does not fit.
-/

namespace Blockware

/-- A project. -/
structure Project where
  /-- The names of board modules. -/
  modules : List String := []
  blocks : List Block := []
  buildOptions : Dict Json := []
  deriving BEq

namespace Project

/-- A project as JSON. -/
def toJson (p : Project) : Json :=
  .obj [("modules", .ofStrings p.modules), ("blocks", .arr (Block.listToJson p.blocks)),
    ("build_options", .obj p.buildOptions)]

/-- What has been read of a project. -/
structure Draft where
  modules : Option (List String) := none
  blocks : Option (List Block) := none
  buildOptions : Option (Dict Json) := none

/-- The members of a project; missing ids of blocks are numbered from `fresh` on. -/
def record (fresh : Nat) : Json.Record Draft where
  name := "Project"
  fields := [
    { name := "modules"
      isSet := fun d => d.modules.isSome
      set := fun d n => do return { d with modules := some (← n.readList Json.Node.readString) } },
    { name := "blocks"
      isSet := fun d => d.blocks.isSome
      set := fun d n => do return { d with blocks := some (← Block.readList n fresh) } },
    { name := "build_options"
      isSet := fun d => d.buildOptions.isSome
      set := fun d n => do
        return { d with buildOptions := some (← n.readDict Json.Node.toJson) } }]

/-- Reads a project that is an object. -/
def readObject (n : Json.Node) (fresh : Nat := 0) : Except Json.Fault Project := do
  let d ← (record fresh).read {} n
  return {
    modules := d.modules.getD []
    blocks := d.blocks.getD []
    buildOptions := d.buildOptions.getD [] }

/-- Reads a project that is a list of modules. -/
def readModules (n : Json.Node) : Except Json.Fault Project := do
  return { modules := ← n.readList Json.Node.readString }

/-- Reads a project; missing ids of blocks are numbered from `fresh` on. -/
def read (n : Json.Node) (fresh : Nat := 0) : Except Json.Fault Project := do
  let _ ← n.toJson
  let result :=
    match n with
    | .object .. => readObject n fresh
    | _ => readModules n
  result.mapError fun _ => ⟨.noVariant "RawProjectConfig", none⟩

end Project
end Blockware
