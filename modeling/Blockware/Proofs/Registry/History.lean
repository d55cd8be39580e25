import Blockware.Registry

/-!
# The history of a registry

A registry keeps the snapshot of a load for all its clones, and each clone has its own idea of
how long that is good. What it keeps after a run depends on every load, on every failure and on
what was forgotten meanwhile. Here that is told without anything kept: a history is the plain
list of what happened.

- `RegistryEvent`, `RegistryWorld.run`: lookups through clones, reloads, forgetting, and changes
  of the store, in any order.
- `History.run`: the loads that these events cause.
- `RegistryWorld.Agrees`: what a registry keeps is the latest good load of the history. Every
  event preserves this.
- `registry_follows_history`: so it holds after every run, together with what the next event
  does.
-/

namespace Blockware

/-- What happens to a registry: calls through its clones, and changes from outside. -/
inductive RegistryEvent where
  /-- A clone asks for the current snapshot, as it does first whatever is looked up. -/
  | lookup (clone : Nat)
  /-- Any clone loads the store at once. -/
  | reload
  /-- Any clone forgets what is kept. -/
  | forget
  /-- The store has other contents, or none that can be loaded. -/
  | change (store : Store) (files : Files)

/-- A registry, and the files that its store may read. -/
structure RegistryWorld where
  registry : Registry
  files : Files

namespace RegistryWorld

/-- The snapshot that answers an event, if any, and the world after it. -/
def step (w : RegistryWorld) (now : Nat) : RegistryEvent → Option Snapshot × RegistryWorld
  | .lookup clone =>
    let (snapshot, registry) := w.registry.snapshot clone w.files now
    (some snapshot, { w with registry })
  | .reload =>
    let (snapshot, registry) := w.registry.reload w.files now
    (some snapshot, { w with registry })
  | .forget => (none, { w with registry := w.registry.forget })
  | .change store files => (none, ⟨{ w.registry with store }, files⟩)

/-- The world after some events, each with its time. -/
def run (w : RegistryWorld) : List (Nat × RegistryEvent) → RegistryWorld
  | [] => w
  | (now, event) :: rest => (w.step now event).2.run rest

end RegistryWorld

/-! ### Histories -/

/-- What matters of the past. -/
inductive Happening where
  /-- A load at some time. -/
  | load (time : Nat) (result : Except StoreFault Catalog)
  | forget

/-- The time of a load. -/
def Happening.loadTime? : Happening → Option Nat
  | .load time _ => some time
  | .forget => none

/-- A store with its files and its past. -/
structure History where
  store : Store
  files : Files
  /-- What happened so far, the latest first. -/
  past : List Happening := []

namespace History

/-- The catalog of the latest good load, if nothing was forgotten since. -/
def latest? : List Happening → Option Catalog
  | [] => none
  | .load _ (.ok catalog) :: _ => some catalog
  | .load _ (.error _) :: earlier => latest? earlier
  | .forget :: _ => none

/-- The times of the loads. -/
def loadTimes (h : History) : List Nat := h.past.filterMap Happening.loadTime?

/-- The history after one more load. -/
def load (h : History) (now : Nat) : History :=
  let (result, store) := h.store.load h.files
  { h with store, past := .load now result :: h.past }

/-- The history after an event. A lookup loads unless its clone lets loads last and there is a
good one. -/
def step (lasting : Nat → Bool) (h : History) (now : Nat) : RegistryEvent → History
  | .lookup clone => if lasting clone && (latest? h.past).isSome then h else h.load now
  | .reload => h.load now
  | .forget => { h with past := .forget :: h.past }
  | .change store files => { h with store, files }

/-- The history after some events, each with its time. -/
def run (lasting : Nat → Bool) (h : History) : List (Nat × RegistryEvent) → History
  | [] => h
  | (now, event) :: rest => (h.step lasting now event).run lasting rest

/-- For a clone that lets loads last no load is ever too old, for any other one every load is.
The time since a load has to fit, where a clone looks up. -/
def Suits (lifetime : Nat → Nat) (lasting : Nat → Bool) (h : History) (now : Nat) :
    RegistryEvent → Prop
  | .lookup clone => ∀ time ∈ h.loadTimes, lifetime clone < now - time ↔ lasting clone = false
  | _ => True

instance (lifetime : Nat → Nat) (lasting : Nat → Bool) (h : History) (now : Nat)
    (event : RegistryEvent) : Decidable (h.Suits lifetime lasting now event) :=
  match event with
  | .lookup clone =>
    inferInstanceAs
      (Decidable (∀ time ∈ h.loadTimes, lifetime clone < now - time ↔ lasting clone = false))
  | .reload | .forget | .change _ _ => isTrue trivial

/-- Every event of a run suits the loads before it. -/
def Timely (lifetime : Nat → Nat) (lasting : Nat → Bool) (h : History) :
    List (Nat × RegistryEvent) → Prop
  | [] => True
  | (now, event) :: rest =>
    h.Suits lifetime lasting now event ∧ (h.step lasting now event).Timely lifetime lasting rest

instance decidableTimely (lifetime : Nat → Nat) (lasting : Nat → Bool) (h : History) :
    (events : List (Nat × RegistryEvent)) → Decidable (h.Timely lifetime lasting events)
  | [] => isTrue trivial
  | (now, event) :: rest =>
    have := decidableTimely lifetime lasting (h.step lasting now event) rest
    inferInstanceAs (Decidable (_ ∧ _))

theorem step_of_latest {lasting : Nat → Bool} {h : History} {now clone : Nat}
    (lasts : lasting clone) (known : (latest? h.past).isSome) :
    h.step lasting now (.lookup clone) = h :=
  if_pos (by rw [lasts, known]; rfl)

theorem step_of_not_latest {lasting : Nat → Bool} {h : History} {now clone : Nat}
    (other : lasting clone → latest? h.past = none) :
    h.step lasting now (.lookup clone) = h.load now := by
  refine if_neg ?_
  rintro both
  obtain ⟨lasts, known⟩ := Bool.and_eq_true_iff.mp both
  rw [other lasts] at known
  cases known

/-- There is a latest good load to remember if there is one after which nothing was forgotten. -/
theorem latest?_isSome_iff {past : List Happening} :
    (latest? past).isSome ↔ ∃ later time catalog earlier,
      past = later ++ .load time (.ok catalog) :: earlier ∧ Happening.forget ∉ later := by
  induction past with
  | nil => simp [latest?]
  | cons x rest ih =>
    constructor
    · intro h
      match x with
      | .load time (.ok catalog) => exact ⟨[], time, catalog, rest, rfl, by simp⟩
      | .load time (.error fault) =>
        obtain ⟨later, time', catalog, earlier, split, kept⟩ := ih.mp h
        exact ⟨.load time (.error fault) :: later, time', catalog, earlier, by rw [split]; rfl,
          by simp [kept]⟩
      | .forget => cases h
    · rintro ⟨later, time, catalog, earlier, split, kept⟩
      cases later with
      | nil =>
        obtain ⟨rfl, rfl⟩ := List.cons.inj split
        rfl
      | cons y later =>
        obtain ⟨rfl, rfl⟩ := List.cons.inj split
        rw [List.mem_cons, not_or] at kept
        match x with
        | .load _ (.ok _) => rfl
        | .load _ (.error _) => exact ih.mpr ⟨later, time, catalog, earlier, rfl, kept.2⟩
        | .forget => exact absurd rfl kept.1

/-- Only loads that failed are later than the latest good one. -/
theorem exists_of_latest? {past : List Happening} {catalog : Catalog}
    (h : latest? past = some catalog) :
    ∃ later time earlier, past = later ++ .load time (.ok catalog) :: earlier ∧
      ∀ x ∈ later, ∃ t fault, x = .load t (.error fault) := by
  induction past with
  | nil => cases h
  | cons x rest ih =>
    match x with
    | .load time (.ok found) =>
      cases h
      exact ⟨[], time, rest, rfl, by simp⟩
    | .load time (.error fault) =>
      obtain ⟨later, time', earlier, split, failed⟩ := ih h
      refine ⟨.load time (.error fault) :: later, time', earlier, by rw [split]; rfl, ?_⟩
      rintro y (_ | ⟨_, hy⟩)
      · exact ⟨time, fault, rfl⟩
      · exact failed y hy
    | .forget => cases h

/-- A run of some events and one more suits if the events do and the last one does. -/
theorem timely_append_singleton {lifetime : Nat → Nat} {lasting : Nat → Bool} {h : History}
    {events : List (Nat × RegistryEvent)} {now : Nat} {event : RegistryEvent} :
    h.Timely lifetime lasting (events ++ [(now, event)]) ↔
      h.Timely lifetime lasting events ∧
        (h.run lasting events).Suits lifetime lasting now event := by
  induction events generalizing h with
  | nil => simp [Timely, run]
  | cons e rest ih => rw [List.cons_append, Timely, Timely, ih, run, and_assoc]

end History

/-! ### What the registry does -/

namespace Registry

variable {r : Registry} {files : Files} {now : Nat}

/-- A good load is the answer and is kept. -/
theorem reload_of_ok {catalog : Catalog} {next : Store}
    (h : r.store.load files = (.ok catalog, next)) :
    r.reload files now = (.ofCatalog catalog,
      { r with store := next, cached := some ⟨.ofCatalog catalog, now⟩ }) := by
  rw [reload, h]

/-- A load that failed is answered without definitions, and what is kept stays. -/
theorem reload_of_error {fault : StoreFault} {next : Store}
    (h : r.store.load files = (.error fault, next)) :
    r.reload files now = (.withoutCatalog fault, { r with store := next }) := by
  rw [reload, h]

theorem snapshot_of_fresh {clone : Nat} {c : Cached} (kept : r.cached = some c)
    (fresh : ¬ r.lifetime clone < now - c.loadedAt) :
    r.snapshot clone files now = (c.snapshot, r) := by
  rw [snapshot, kept]
  exact if_neg (by simpa [isExpired] using fresh)

theorem snapshot_of_expired {clone : Nat}
    (expired : ∀ c, r.cached = some c → r.lifetime clone < now - c.loadedAt) :
    r.snapshot clone files now = r.reload files now := by
  rw [snapshot]
  split
  · rename_i c kept
    exact if_pos (by simpa [isExpired] using expired c kept)
  · rfl

/-- A lookup is answered with what is kept and changes nothing, or it loads the store once. -/
theorem snapshot_cases (r : Registry) (clone : Nat) (files : Files) (now : Nat) :
    (∃ c, r.cached = some c ∧ r.snapshot clone files now = (c.snapshot, r)) ∨
      r.snapshot clone files now = r.reload files now := by
  cases kept : r.cached with
  | none =>
    refine Or.inr (snapshot_of_expired fun c other => ?_)
    rw [kept] at other
    cases other
  | some c =>
    by_cases expired : r.lifetime clone < now - c.loadedAt
    · refine Or.inr (snapshot_of_expired fun c' same => ?_)
      rw [kept] at same
      cases same
      exact expired
    · exact Or.inl ⟨c, rfl, snapshot_of_fresh kept expired⟩

/-- A load moves a script on by one entry. -/
theorem store_reload_of_scripted {r : Registry} {script : List (Option String)}
    {played : Nat} (h : r.store = .scripted script played) (files : Files) (now : Nat) :
    (r.reload files now).2.store = .scripted script (played + 1) := by
  cases loaded : Store.play (Store.scriptEntry script played) with
  | ok catalog =>
    have load : r.store.load files = (.ok catalog, .scripted script (played + 1)) := by
      rw [h, Store.load, loaded]
    rw [reload_of_ok load]
  | error fault =>
    have load : r.store.load files = (.error fault, .scripted script (played + 1)) := by
      rw [h, Store.load, loaded]
    rw [reload_of_error load]

end Registry

/-! ### The invariant -/

namespace RegistryWorld

/-- A registry has the store of the history, and it keeps the latest good load with its time. -/
structure Agrees (lifetime : Nat → Nat) (w : RegistryWorld) (h : History) : Prop where
  store : w.registry.store = h.store
  files : w.files = h.files
  lifetime : w.registry.lifetime = lifetime
  snapshot : w.registry.cached.map Cached.snapshot =
    (History.latest? h.past).map Snapshot.ofCatalog
  loadedAt : ∀ c, w.registry.cached = some c → c.loadedAt ∈ h.loadTimes

variable {lifetime : Nat → Nat} {lasting : Nat → Bool} {w : RegistryWorld} {h : History}

/-- Something is kept exactly if there is a latest good load. -/
theorem Agrees.isSome_cached (agrees : Agrees lifetime w h) :
    w.registry.cached.isSome = (History.latest? h.past).isSome := by
  have same := congrArg Option.isSome agrees.snapshot
  rwa [Option.isSome_map, Option.isSome_map] at same

theorem Agrees.cached_eq_none (agrees : Agrees lifetime w h) :
    w.registry.cached = none ↔ History.latest? h.past = none := by
  rw [← Option.isNone_iff_eq_none, ← Option.isNone_iff_eq_none, ← Option.not_isSome,
    ← Option.not_isSome, agrees.isSome_cached]

/-- A load at once is a load of the history, whether it fails or not. -/
theorem Agrees.reload (agrees : Agrees lifetime w h) (now : Nat) :
    Agrees lifetime { w with registry := (w.registry.reload w.files now).2 } (h.load now) := by
  -- Both sides load the same store with the same files.
  obtain ⟨result, next, loaded⟩ : ∃ result next, w.registry.store.load w.files = (result, next) :=
    ⟨_, _, rfl⟩
  have inHistory : h.store.load h.files = (result, next) := by
    rw [← agrees.store, ← agrees.files]
    exact loaded
  cases result with
  | ok catalog =>
    rw [Registry.reload_of_ok loaded, History.load, inHistory]
    refine ⟨rfl, agrees.files, agrees.lifetime, rfl, ?_⟩
    rintro c ⟨⟩
    exact List.mem_cons_self
  | error fault =>
    rw [Registry.reload_of_error loaded, History.load, inHistory]
    refine ⟨rfl, agrees.files, agrees.lifetime, agrees.snapshot, ?_⟩
    intro c kept
    exact List.mem_cons_of_mem now (agrees.loadedAt c kept)

/-- A clone that lets loads last is answered with what is kept, and nothing is loaded. -/
theorem Agrees.lookup_of_kept (agrees : Agrees lifetime w h) {now clone : Nat} {c : Cached}
    (suits : h.Suits lifetime lasting now (.lookup clone)) (lasts : lasting clone)
    (kept : w.registry.cached = some c) :
    w.registry.snapshot clone w.files now = (c.snapshot, w.registry) := by
  refine Registry.snapshot_of_fresh kept ?_
  rw [agrees.lifetime, suits c.loadedAt (agrees.loadedAt c kept), lasts]
  simp

/-- Any other lookup is a load. -/
theorem Agrees.lookup_of_not_kept (agrees : Agrees lifetime w h) {now clone : Nat}
    (suits : h.Suits lifetime lasting now (.lookup clone))
    (other : lasting clone → w.registry.cached = none) :
    w.registry.snapshot clone w.files now = w.registry.reload w.files now := by
  refine Registry.snapshot_of_expired fun c kept => ?_
  rw [agrees.lifetime, suits c.loadedAt (agrees.loadedAt c kept)]
  rw [kept] at other
  simpa using other

/-- **One event.** A registry that agrees with a history does so after any event too. -/
theorem Agrees.step (agrees : Agrees lifetime w h) {now : Nat} {event : RegistryEvent}
    (suits : h.Suits lifetime lasting now event) :
    Agrees lifetime (w.step now event).2 (h.step lasting now event) := by
  cases event with
  | lookup clone =>
    rw [RegistryWorld.step]
    -- The history asks for a latest good load, the registry for something kept: that is the same.
    by_cases answered : lasting clone ∧ w.registry.cached.isSome
    · obtain ⟨lasts, isKept⟩ := answered
      obtain ⟨c, kept⟩ := Option.isSome_iff_exists.mp isKept
      rw [agrees.isSome_cached] at isKept
      rw [agrees.lookup_of_kept suits lasts kept, History.step_of_latest lasts isKept]
      exact agrees
    · have other : lasting clone → w.registry.cached = none := by
        intro lasts
        simpa [lasts] using answered
      rw [agrees.lookup_of_not_kept suits other,
        History.step_of_not_latest fun lasts => agrees.cached_eq_none.mp (other lasts)]
      exact agrees.reload now
  | reload => exact agrees.reload now
  | forget =>
    refine ⟨agrees.store, agrees.files, agrees.lifetime, rfl, ?_⟩
    rintro c ⟨⟩
  | change store files =>
    exact ⟨rfl, rfl, agrees.lifetime, agrees.snapshot, agrees.loadedAt⟩

/-- **A whole run.** The registry follows the history, event by event. -/
theorem Agrees.run (agrees : Agrees lifetime w h) {events : List (Nat × RegistryEvent)}
    (timely : h.Timely lifetime lasting events) :
    Agrees lifetime (w.run events) (h.run lasting events) := by
  induction events generalizing w h with
  | nil => exact agrees
  | cons e rest ih => exact ih (agrees.step timely.1) timely.2

/-- A registry that has loaded nothing agrees with the empty history. -/
theorem agrees_start (store : Store) (files : Files) (lifetimes : List Nat) :
    Agrees (Registry.lifetime { store, lifetimes }) ⟨{ store, lifetimes }, files⟩
      { store, files } := by
  refine ⟨rfl, rfl, rfl, rfl, ?_⟩
  rintro c ⟨⟩

end RegistryWorld

/-- **What a registry keeps and answers**, after any run of lookups through its clones, reloads,
forgetting and changes of the store, where each clone lets loads last for ever or not at all.

The registry keeps the snapshot of the latest good load, and it keeps one exactly if there is a
good load after which nothing was forgotten. The next event of the run does as follows. A lookup
through a clone that lets loads last is answered with what is kept, if anything is; nothing is
loaded then. Any other lookup and any reload loads the store as it is now, once: a good load is
answered and kept, and one that fails is answered without definitions and with a warning, while
what is kept stays. -/
theorem registry_follows_history (store : Store) (files : Files) (lifetimes : List Nat)
    (lasting : Nat → Bool) (past : List (Nat × RegistryEvent)) (now : Nat) (event : RegistryEvent)
    (timely : History.Timely (Registry.lifetime { store, lifetimes }) lasting { store, files }
      (past ++ [(now, event)])) :
    let w := RegistryWorld.run ⟨{ store, lifetimes }, files⟩ past
    let h := History.run lasting { store, files } past
    (w.registry.store = h.store ∧ w.files = h.files) ∧
    (∀ c, w.registry.cached = some c → ∃ later time catalog earlier,
      h.past = later ++ .load time (.ok catalog) :: earlier ∧
      (∀ x ∈ later, ∃ t fault, x = .load t (.error fault)) ∧ c.snapshot = .ofCatalog catalog) ∧
    (w.registry.cached.isSome ↔ ∃ later time catalog earlier,
      h.past = later ++ .load time (.ok catalog) :: earlier ∧ Happening.forget ∉ later) ∧
    (∀ clone c, event = .lookup clone → lasting clone → w.registry.cached = some c →
      w.step now event = (some c.snapshot, w) ∧ h.step lasting now event = h) ∧
    (event = .reload ∨ (∃ clone, event = .lookup clone ∧
        (lasting clone → w.registry.cached = none)) →
      (h.step lasting now event).past =
        .load now (w.registry.store.load w.files).1 :: h.past ∧
      (∀ catalog next, w.registry.store.load w.files = (.ok catalog, next) →
        w.step now event = (some (.ofCatalog catalog),
          ⟨{ w.registry with store := next, cached := some ⟨.ofCatalog catalog, now⟩ }, w.files⟩)) ∧
      (∀ fault next, w.registry.store.load w.files = (.error fault, next) →
        ∃ s, s.custom = [] ∧ s.warning.isSome ∧
          w.step now event = (some s, ⟨{ w.registry with store := next }, w.files⟩))) := by
  intro w h
  obtain ⟨timelyPast, suits⟩ := History.timely_append_singleton.mp timely
  have agrees : RegistryWorld.Agrees (Registry.lifetime { store, lifetimes }) w h :=
    (RegistryWorld.agrees_start store files lifetimes).run timelyPast
  refine ⟨⟨agrees.store, agrees.files⟩, ?_, ?_, ?_, ?_⟩
  · intro c kept
    have found := agrees.snapshot
    rw [kept] at found
    obtain ⟨catalog, latest, same⟩ := Option.map_eq_some_iff.mp found.symm
    obtain ⟨later, time, earlier, split, failed⟩ := History.exists_of_latest? latest
    exact ⟨later, time, catalog, earlier, split, failed, same.symm⟩
  · rw [agrees.isSome_cached]
    exact History.latest?_isSome_iff
  · rintro clone c rfl lasts kept
    have isKept : w.registry.cached.isSome := by rw [kept]; rfl
    rw [agrees.isSome_cached] at isKept
    refine ⟨?_, History.step_of_latest lasts isKept⟩
    rw [RegistryWorld.step, agrees.lookup_of_kept suits lasts kept]
  · intro loads
    have answer : w.step now event = (some (w.registry.reload w.files now).1,
        { w with registry := (w.registry.reload w.files now).2 }) := by
      rcases loads with rfl | ⟨clone, rfl, other⟩
      · rfl
      · rw [RegistryWorld.step, agrees.lookup_of_not_kept suits other]
    have inHistory : h.step lasting now event = h.load now := by
      rcases loads with rfl | ⟨clone, rfl, other⟩
      · rfl
      · exact History.step_of_not_latest fun lasts => agrees.cached_eq_none.mp (other lasts)
    refine ⟨?_, ?_, ?_⟩
    · rw [inHistory, agrees.store, agrees.files]
      rfl
    · intro catalog next loaded
      rw [answer, Registry.reload_of_ok loaded]
    · intro fault next loaded
      rw [answer, Registry.reload_of_error loaded]
      exact ⟨.withoutCatalog fault, rfl, rfl, rfl⟩

/-- The store breaks after a load through the first clone. The second clone finds that out, and
the first one goes on with what is kept. -/
theorem kept_snapshot_survives_broken_store :
    let registry : Registry := { store := .fixed {}, lifetimes := [3600000, 0] }
    let past : List (Nat × RegistryEvent) :=
      [(1, .lookup 0), (2, .change (.scripted [none] 0) {}), (3, .lookup 1)]
    let lasting : Nat → Bool := fun clone => clone = 0
    let w := RegistryWorld.run ⟨registry, {}⟩ past
    History.Timely registry.lifetime lasting { store := .fixed {}, files := {} }
      (past ++ [(4, .lookup 0)]) ∧
    w.registry.store.played = 1 ∧
    w.step 4 (.lookup 0) = (some (.ofCatalog {}), w) := by
  intro registry past lasting w
  have timely : History.Timely registry.lifetime lasting { store := .fixed {}, files := {} }
      (past ++ [(4, .lookup 0)]) := by
    decide
  refine ⟨timely, rfl, ?_⟩
  exact (registry_follows_history (.fixed {}) {} [3600000, 0] lasting past 4 (.lookup 0)
    timely).2.2.2.1 0 ⟨.ofCatalog {}, 1⟩ rfl rfl rfl |>.1

end Blockware
