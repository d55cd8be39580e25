import Blockware.Definition.Stored
import Blockware.Keyed

/-!
# Catalogs

A catalog is what a store of definitions holds. Its entries are read one by one: an entry that is no
definition is left out and noted, and the rest still count.

- `Catalog.ofEntries`: the catalog of some entries.
- `Catalog.read`: reading a catalog.
- `Definition.collect`: of several definitions of one type, the last one in the place of the first.
-/

namespace Blockware

open Json (Record Node Fault)

/-- How an entry that was left out is named: by its id if it has one, else by its position. -/
inductive EntryName where
  | id (s : String)
  | position (n : Nat)
  deriving DecidableEq

/-- The name in a message. -/
def EntryName.display : EntryName → String
  | .id s => s!"'{s}'"
  | .position n => s!"#{n}"

/-- An entry that was left out, and why. -/
structure Skipped where
  entry : EntryName
  fault : Fault
  deriving DecidableEq

/-- The reason in words. -/
def Skipped.reason (s : Skipped) : String :=
  s!"definition {s.entry.display} skipped: {s.fault.message}"

/-- The contents of a store. -/
structure Catalog where
  version : Option String := none
  blocks : List Definition := []
  skipped : List Skipped := []

/-- The definitions without repeated ids: a later definition replaces an earlier one in its place. -/
def Definition.collect (ds : List Definition) : List Definition := Keyed.collect Definition.id ds

namespace Catalog

/-- The name of the entry at a position. -/
def nameOf (position : Nat) (entry : Json) : EntryName :=
  match entry.member? "id" with
  | some (.str id) => .id id
  | _ => .position position

/-- The definitions among the entries from a position on, and the entries left out. -/
def sift (position : Nat) : List Json → List Definition × List Skipped
  | [] => ([], [])
  | entry :: rest =>
    let (blocks, skipped) := sift (position + 1) rest
    match Json.read entry Definition.read with
    | .ok d => (d :: blocks, skipped)
    | .error fault => (blocks, ⟨nameOf position entry, fault⟩ :: skipped)

/-- The catalog of some entries. -/
def ofEntries (version : Option String) (entries : List Json) : Catalog :=
  let (blocks, skipped) := sift 0 entries
  { version, blocks, skipped }

/-- What has been read of a catalog. -/
structure Draft where
  version : Option (Option String) := none
  entries : Option (List Json) := none

/-- The members of a catalog. -/
def record : Record Draft where
  name := "RawCatalog"
  fields := [
    { name := "version"
      isSet := fun d => d.version.isSome
      set := fun d n => do return { d with version := some (← n.readOption Node.readString) } },
    { name := "blocks"
      isSet := fun d => d.entries.isSome
      set := fun d n => do return { d with entries := some (← n.readList Node.toJson) } }]

/-- Reads a catalog. -/
def read (n : Node) : Except Fault Catalog := do
  let d ← record.read {} n
  return ofEntries (d.version.getD none) (d.entries.getD [])

/-- The catalog as JSON. -/
def toJson (c : Catalog) : Json :=
  .obj (Json.optionalMember "version" (c.version.map .str) ++
    [("blocks", .arr (c.blocks.map Definition.toJson))])

end Catalog
end Blockware
