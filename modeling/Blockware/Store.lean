import Blockware.Catalog
import Blockware.Files

/-!
# Stores of definitions

A store is where definitions are kept. It is only ever read, and reading may fail; what is read depends
on the store and on the files there are.

- `Store`: a file, a fixed catalog, or a script of texts for successive loads.
- `Store.load`: the catalog now, and the store after the load.
- `StoreFault`: why a load failed.
-/

namespace Blockware

/-- Why a store has no catalog. -/
inductive StoreFault where
  /-- It cannot be read. -/
  | unreadable (path : String) (fault : FileFault)
  /-- What it holds is no catalog. -/
  | malformed (origin : String) (fault : Json.Fault)
  deriving DecidableEq

/-- The wording. -/
def StoreFault.message : StoreFault → String
  | .unreadable path fault => s!"Cannot read definition store {path}: {fault.message}"
  | .malformed origin fault => s!"Malformed definition store {origin}: {fault.message}"

/-- The catalog in a text that comes from `origin`. -/
def Catalog.ofText (text origin : String) : Except StoreFault Catalog :=
  (Json.readText text Catalog.read).mapError (.malformed origin)

/-- A store of definitions. -/
inductive Store where
  /-- A file with a catalog. -/
  | file (path : String)
  /-- A catalog in memory. -/
  | fixed (catalog : Catalog)
  /-- Texts for one load after the other, of which the last one stays; nothing stands for a store that
  is gone. `played` counts the loads. -/
  | scripted (script : List (Option String)) (played : Nat)

namespace Store

/-- The store that has no definitions. -/
def empty : Store := .fixed {}

/-- Loads the catalog of a file. -/
def loadFile (files : Files) (path : String) : Except StoreFault Catalog := do
  let text ← (files.read path).mapError (.unreadable path)
  Catalog.ofText text path

/-- Plays an entry of a script. -/
def play : Option String → Except StoreFault Catalog
  | some text => Catalog.ofText text "scripted"
  | none => .error (.unreadable "scripted" (.other "gone"))

/-- The entry of a script after some loads. -/
def scriptEntry (script : List (Option String)) (played : Nat) : Option String :=
  (script[min played (script.length - 1)]?).join

/-- Loads the catalog. -/
def load (files : Files) : Store → Except StoreFault Catalog × Store
  | .file path => (loadFile files path, .file path)
  | .fixed catalog => (.ok catalog, .fixed catalog)
  | .scripted script played => (play (scriptEntry script played), .scripted script (played + 1))

/-- How many entries of a script have been played. -/
def played : Store → Nat
  | .scripted _ n => n
  | _ => 0

end Store
end Blockware
