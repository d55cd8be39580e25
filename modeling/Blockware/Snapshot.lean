import Blockware.Block
import Blockware.Store

/-!
# Snapshots of the registry

What the block types mean at one moment. A program is generated against one snapshot, so nothing that
changes meanwhile can change its parts differently.

- `Contract`: what generates the code of a type, a built-in or a definition.
- `Snapshot.contract?`: the contract of a type; built-in types come first and cannot be redefined.
- `Snapshot.categoryOfType`: the category of a type, by its name if the type is unknown.
- `Snapshot.ofCatalog`, `Snapshot.withoutCatalog`: the snapshot after a load, and after one that failed.
-/

namespace Blockware

/-- What generates the code of a block type. -/
inductive Contract where
  | builtin (kind : Builtin)
  | custom (definition : Definition)

namespace Contract

/-- The category. -/
def category : Contract → Category
  | .builtin k => k.category
  | .custom d => d.category

/-- The declared libraries. -/
def libraries : Contract → List String
  | .builtin k => k.libraries
  | .custom d => d.code.libraries

/-- Whether it is a definition. -/
def isUserDefined : Contract → Bool
  | .builtin _ => false
  | .custom _ => true

/-- The type name. -/
def name : Contract → String
  | .builtin k => k.typeName
  | .custom d => d.id

end Contract

/-- Why definitions are missing. -/
inductive LoadWarning where
  /-- Entries of the catalog were left out. -/
  | skipped (entries : List Skipped)
  /-- There was no catalog. -/
  | unavailable (fault : StoreFault)
  deriving DecidableEq

/-- The wording. -/
def LoadWarning.message : LoadWarning → String
  | .skipped entries => "; ".intercalate (entries.map Skipped.reason)
  | .unavailable fault => fault.message

/-- The meaning of block types at one moment. -/
structure Snapshot where
  /-- The definitions, each id once. -/
  custom : List Definition := []
  warning : Option LoadWarning := none

namespace Snapshot

/-- The snapshot without definitions. -/
def bare : Snapshot := {}

/-- The snapshot of some definitions. -/
def ofDefinitions (ds : List Definition) : Snapshot := { custom := Definition.collect ds }

/-- The snapshot of a catalog. -/
def ofCatalog (c : Catalog) : Snapshot where
  custom := Definition.collect c.blocks
  warning := if c.skipped.isEmpty then none else some (.skipped c.skipped)

/-- The snapshot in place of a catalog that could not be loaded. -/
def withoutCatalog (fault : StoreFault) : Snapshot := { warning := some (.unavailable fault) }

/-- The definition of an id, be it hidden by a built-in type or not. -/
def definition? (s : Snapshot) (id : String) : Option Definition :=
  Keyed.find? Definition.id id s.custom

/-- What generates the code of a type. -/
def contract? (s : Snapshot) (type : String) : Option Contract :=
  match Builtin.ofType? type with
  | some k => some (.builtin k)
  | none => (s.definition? type).map .custom

/-- The category of a type. -/
def categoryOfType (s : Snapshot) (type : String) : Category :=
  match s.contract? type with
  | some c => c.category
  | none => Category.ofTypeName type

/-- Whether a type means a definition. -/
def isUserDefined (s : Snapshot) (type : String) : Bool :=
  (Builtin.ofType? type).isNone && (s.definition? type).isSome

/-- The libraries that the contract of a type declares; an unknown type needs none. -/
def librariesOf (s : Snapshot) (type : String) : List String :=
  ((s.contract? type).map Contract.libraries).getD []

/-- The declared libraries of a program, each once, in the order in which they are first needed. -/
def neededLibraries (s : Snapshot) (blocks : List Block) : List String :=
  ((walk blocks).flatMap fun b => s.librariesOf b.type).eraseDups

end Snapshot
end Blockware
