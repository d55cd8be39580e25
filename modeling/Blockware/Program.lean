import Blockware.Text.Literal

/-!
# Programs

A generated program before and after it is set out as one source text.

- `Routine`, `Program`: the parts, statement by statement and without indentation.
- `Routine.text`, `Program.source`: the source text. It is made of lines: headers, functions, and
  `main` with the statements that run once and the main loop.
-/

namespace Blockware

/-- Where a function comes from. -/
inductive Routine.Origin where
  /-- A block that defines it. -/
  | block
  /-- A board module that needs it. -/
  | module
  deriving DecidableEq

/-- A function without parameters and result. -/
structure Routine where
  name : String
  body : List String
  origin : Routine.Origin
  deriving DecidableEq

/-- A generated program. -/
structure Program where
  projectName : String
  /-- The header lines beyond those of every program. -/
  headers : List String
  functions : List Routine
  /-- The statements that run once. -/
  setupLines : List String
  /-- The statements of the main loop. -/
  loopLines : List String
  /-- Whether the program was built from blocks. -/
  hasBlocks : Bool
  deriving DecidableEq

/-- The origins by their names in stored data. -/
def Routine.Origin.tag : Routine.Origin → String
  | .block => "block"
  | .module => "module"

/-- What the comment over a function calls it. -/
def Routine.Origin.title : Routine.Origin → String
  | .block => "User-defined function"
  | .module => "Module function"

/-! ### Lines -/

/-- A line with four blanks for each level before it; an empty line stays empty. -/
def indent (level : Nat) (line : String) : String :=
  if line.isEmpty then "" else String.ofList (List.replicate (4 * level) ' ') ++ line

/-- A text of lines, each with its line end. -/
def unlines (lines : List String) : String := String.join (lines.map (· ++ "\n"))

theorem unlines_cons (line : String) (lines : List String) :
    unlines (line :: lines) = line ++ "\n" ++ unlines lines := by
  rw [unlines, List.map_cons, String.join_cons]
  rfl

namespace Routine

/-- The lines of a function, a comment first. -/
def lines (f : Routine) : List String :=
  [s!"// {f.origin.title}: {f.name}", s!"void {f.name}() \x7b"] ++ f.body.map (indent 1) ++ ["\x7d"]

/-- The text of a function. -/
def text (f : Routine) : String := unlines f.lines

end Routine

namespace Program

/-- The headers of every program. -/
def commonHeaders : List String := ["#include <stdio.h>", "#include \"pico/stdlib.h\""]

/-- The first line of a loop that was built from blocks. -/
def loopBanner : String := "// --- Visual Builder Sequence ---"

/-- The function of a name. -/
def routine? (p : Program) (name : String) : Option Routine :=
  p.functions.find? fun f => f.name == name

/-- The header lines, each once. -/
def headerLines (p : Program) : List String := (commonHeaders ++ p.headers).eraseDups

/-- The statement that prints the project's name. -/
def bannerLine (p : Program) : String :=
  let name := Text.literal p.projectName
  s!"printf(\"Project: {name} Initialized\\n\");"

/-- The lines of `main`. -/
def mainLines (p : Program) : List String :=
  ["int main() \x7b", indent 1 "stdio_init_all();", indent 1 p.bannerLine, ""] ++
  (if p.setupLines.isEmpty then [] else p.setupLines.map (indent 1) ++ [""]) ++
  [indent 1 "while (true) \x7b"] ++
  (if p.hasBlocks then [indent 2 loopBanner] else []) ++
  p.loopLines.map (indent 2) ++
  [indent 1 "\x7d", indent 1 "return 0;", "\x7d"]

/-- The lines of the source text. -/
def lines (p : Program) : List String :=
  p.headerLines ++ [""] ++ (p.functions.flatMap fun f => f.lines ++ [""]) ++ p.mainLines

/-- The source text. -/
def source (p : Program) : String := unlines p.lines

end Program
end Blockware
