import Blockware.Snapshot

/-!
# The registry

The registry answers what block types mean now. It keeps the snapshot of the last good load for a
while and loads again when that is over.

- `Registry`: the store, the kept snapshot, and for each clone of the registry how long a snapshot
  stays fresh for it. Clones share the store and the kept snapshot.
- `Registry.snapshot`: the current snapshot, kept or loaded.
- `Registry.reload`, `Registry.forget`: loading at once, and forgetting what is kept. A load that
  fails is not kept and leaves alone what is: the next call tries again.
- `Registry.loadWarning`: what the current snapshot warns of.

Times are in milliseconds. The caller says what time it is and which files there are.
-/

namespace Blockware

/-- A kept snapshot. -/
structure Cached where
  snapshot : Snapshot
  loadedAt : Nat

/-- A registry with its clones. -/
structure Registry where
  store : Store
  cached : Option Cached := none
  /-- How long a snapshot stays fresh, for each clone. -/
  lifetimes : List Nat

namespace Registry

/-- How long a snapshot stays fresh where nothing else is said. -/
def defaultLifetime : Nat := 5000

/-- The registry of a store, which has loaded nothing yet. -/
def ofStore (store : Store) (lifetime : Nat := defaultLifetime) : Registry where
  store := store
  lifetimes := [lifetime]

/-- The registry that knows only the built-in types. -/
def bare : Registry := ofStore .empty

/-- The lifetime for a clone. -/
def lifetime (r : Registry) (clone : Nat) : Nat := r.lifetimes[clone]?.getD defaultLifetime

/-- Adds a clone of a clone; its number is the count of those before it. -/
def addClone (r : Registry) (clone : Nat) : Registry :=
  { r with lifetimes := r.lifetimes ++ [r.lifetime clone] }

/-- Sets the lifetime for a clone alone. -/
def setLifetime (r : Registry) (clone lifetime : Nat) : Registry :=
  { r with lifetimes := r.lifetimes.set clone lifetime }

/-- Loads the store now. -/
def reload (r : Registry) (files : Files) (now : Nat) : Snapshot × Registry :=
  match r.store.load files with
  | (.ok catalog, store) =>
    let snapshot := Snapshot.ofCatalog catalog
    (snapshot, { r with store, cached := some ⟨snapshot, now⟩ })
  | (.error fault, store) => (.withoutCatalog fault, { r with store })

/-- Forgets the kept snapshot. -/
def forget (r : Registry) : Registry := { r with cached := none }

/-- Whether a kept snapshot is older than its lifetime for a clone. -/
def isExpired (r : Registry) (clone now : Nat) (c : Cached) : Bool :=
  r.lifetime clone < now - c.loadedAt

/-- The current snapshot for a clone: the kept one while it is fresh, else that of a new load. -/
def snapshot (r : Registry) (clone : Nat) (files : Files) (now : Nat) : Snapshot × Registry :=
  match r.cached with
  | some c => if r.isExpired clone now c then r.reload files now else (c.snapshot, r)
  | none => r.reload files now

/-- Why definitions are missing from the current snapshot for a clone, in words. -/
def loadWarning (r : Registry) (clone : Nat) (files : Files) (now : Nat) :
    Option String × Registry :=
  let (snapshot, r) := r.snapshot clone files now
  (snapshot.warning.map LoadWarning.message, r)

end Registry
end Blockware
