import Blockware.Builtin.Statement

/-!
# Ownership of resources

Which blocks own which resources. Only top-level blocks count: a body runs in a scope whose resources
are set up already.

- `Ownership`: resources in order, each with the ids of its owners in order.
- `ownership`: the owners of every claimed resource.
- `conflicts`: the resources with more than one owner. Blocks of one id are one owner.
-/

namespace Blockware

/-- Resources with the ids of their owners: pins first, each resource once, ids in order. -/
abbrev Ownership := List (Resource × List String)

namespace Ownership

/-- Adds an id to a set of ids in order. -/
def addId (id : String) : List String → List String
  | [] => [id]
  | other :: rest =>
    if id < other then id :: other :: rest
    else if id = other then other :: rest
    else other :: addId id rest

/-- Adds an owner of a resource. -/
def add (o : Ownership) (r : Resource) (id : String) : Ownership :=
  match o with
  | [] => [(r, [id])]
  | (other, ids) :: rest =>
    if r.before other then (r, [id]) :: (other, ids) :: rest
    else if r = other then (other, addId id ids) :: rest
    else (other, ids) :: add rest r id

/-- Adds a block as the owner of what it claims. -/
def addBlock (o : Ownership) (b : Block) : Ownership := b.claims.foldl (fun o r => o.add r b.id) o

/-- The owners of a resource. -/
def owners? (o : Ownership) (r : Resource) : Option (List String) :=
  (o.find? fun entry => entry.1 = r).map Prod.snd

/-- The resources, in order. -/
def resources (o : Ownership) : List Resource := o.map Prod.fst

/-- The owners by the names of the resources. A pin and an instance may have the same name here. -/
def toJson (o : Ownership) : Json := .obj (o.map fun entry => (entry.1.toKey, .ofStrings entry.2))

end Ownership

/-- The owners of every resource that top-level blocks claim. -/
def ownership (blocks : List Block) : Ownership := blocks.foldl Ownership.addBlock []

/-- The resources with more than one owner. -/
def conflicts (blocks : List Block) : Ownership :=
  (ownership blocks).filter fun entry => 1 < entry.2.length

end Blockware
