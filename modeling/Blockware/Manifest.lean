import Blockware.BoardModule
import Blockware.Snapshot

/-!
# Build manifests

Which libraries a program links against, and the build file that says so.

- `Manifest.build`: the libraries of some blocks and modules, each once, in the order in which they are
  first needed.
- `Manifest.cmake`: the build file.
-/

namespace Blockware

/-- The libraries of a project. -/
structure Manifest where
  projectName : String
  libraries : List String
  deriving DecidableEq

namespace Manifest

/-- The library of every program. -/
def baseline : String := "pico_stdlib"

/-- The libraries that a block needs: that of its peripheral and those its contract declares. -/
def blockLibraries (s : Snapshot) (b : Block) : List String :=
  ((Peripheral.ofType? b.type).map Peripheral.library).toList ++ s.librariesOf b.type

/-- The manifest of some blocks and modules. -/
def build (s : Snapshot) (projectName : String) (blocks : List Block) (modules : List String) :
    Manifest where
  projectName := projectName
  libraries :=
    (baseline :: modules.map BoardModule.library ++ (walk blocks).flatMap (blockLibraries s)).eraseDups

/-- Whether a library is linked. -/
def contains (m : Manifest) (library : String) : Bool := m.libraries.contains library

/-- The manifest as JSON. -/
def toJson (m : Manifest) : Json :=
  .obj [("project_name", .str m.projectName), ("libraries", .ofStrings m.libraries)]

/-- The build file. -/
def cmake (m : Manifest) : String :=
  let name := m.projectName
  let libraries := "\n    ".intercalate m.libraries
  "cmake_minimum_required(VERSION 3.12)\n" ++
  "include($ENV\x7bPICO_SDK_PATH\x7d/external/pico_sdk_import.cmake)\n\n" ++
  s!"project({name} C CXX ASM)\n" ++
  "set(CMAKE_C_STANDARD 11)\n" ++
  "set(CMAKE_CXX_STANDARD 17)\n\n" ++
  "pico_sdk_init()\n\n" ++
  s!"add_executable({name}\n    main.cpp\n)\n\n" ++
  s!"target_link_libraries({name}\n    {libraries}\n)\n\n" ++
  s!"pico_add_extra_outputs({name})\n"

end Manifest
end Blockware
