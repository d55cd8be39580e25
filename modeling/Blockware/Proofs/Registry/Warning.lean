import Blockware.Proofs.Registry.History

/-!
# What a registry warns of

A registry warns of what was wrong with the load of its current snapshot. A load that fails leaves no
snapshot behind, so the current one may be that of an earlier load, which knows nothing of the
failure. Here lifetimes may be of any length, and clones may have different ones.

- `History.next`, `History.after`: the loads that events cause, as in `History.run`, but by the times
  of the loads.
- `RegistryWorld.Follows`: what a registry keeps is the latest good load of such a history, with its
  time. Every event preserves this.
- `attemptWarning`: what there is to say about a load.
- `load_warning_is_current_iff`: so the warning of a registry is that of its latest load, unless this
  one failed and an earlier one is still fresh.
-/

namespace Blockware

/-! ### Histories by time -/

/-- What came of a load. -/
def Happening.result? : Happening → Option (Except StoreFault Catalog)
  | .load _ result => some result
  | .forget => none

namespace History

/-- The latest good load with its time, if nothing was forgotten since. -/
def latestLoad? : List Happening → Option (Nat × Catalog)
  | [] => none
  | .load time (.ok catalog) :: _ => some (time, catalog)
  | .load _ (.error _) :: earlier => latestLoad? earlier
  | .forget :: _ => none

/-- What came of the loads, the latest one first. -/
def attempts (h : History) : List (Except StoreFault Catalog) := h.past.filterMap Happening.result?

/-- Whether the latest good load is still fresh for a clone. -/
def isFresh (lifetime : Nat → Nat) (h : History) (clone now : Nat) : Bool :=
  (latestLoad? h.past).any fun load => now - load.1 ≤ lifetime clone

/-- The history after an event. A lookup loads unless there is a load that is fresh for its clone. -/
def next (lifetime : Nat → Nat) (h : History) (now : Nat) : RegistryEvent → History
  | .lookup clone => if h.isFresh lifetime clone now then h else h.load now
  | .reload => h.load now
  | .forget => { h with past := .forget :: h.past }
  | .change store files => { h with store, files }

/-- The history after some events, each with its time. -/
def after (lifetime : Nat → Nat) (h : History) : List (Nat × RegistryEvent) → History
  | [] => h
  | (now, event) :: rest => (h.next lifetime now event).after lifetime rest

theorem latest?_eq (past : List Happening) : latest? past = (latestLoad? past).map Prod.snd := by
  induction past with
  | nil => rfl
  | cons x earlier ih =>
    match x with
    | .load _ (.ok _) => rfl
    | .load _ (.error _) => exact ih
    | .forget => rfl

theorem attempts_load (h : History) (now : Nat) :
    (h.load now).attempts = (h.store.load h.files).1 :: h.attempts := rfl

/-- Of the loads that were made, only ones that failed are later than the latest good one. -/
theorem attempts_of_latestLoad? {h : History} {load : Nat × Catalog}
    (latest : latestLoad? h.past = some load) :
    ∃ failed earlier, h.attempts = failed ++ .ok load.2 :: earlier ∧
      ∀ x ∈ failed, ∃ fault, x = .error fault := by
  have known : latest? h.past = some load.2 := by rw [latest?_eq, latest]; rfl
  obtain ⟨later, time, earlier, split, failed⟩ := exists_of_latest? known
  refine ⟨later.filterMap Happening.result?, earlier.filterMap Happening.result?, ?_, ?_⟩
  · rw [attempts, split, List.filterMap_append]
    rfl
  · intro x hx
    obtain ⟨y, hy, result⟩ := List.mem_filterMap.mp hx
    obtain ⟨_, fault, rfl⟩ := failed y hy
    exact ⟨fault, (Option.some.inj result).symm⟩

end History

/-! ### The invariant -/

namespace RegistryWorld

/-- A registry has the store of the history, and keeps the latest good load with its time. -/
structure Follows (lifetime : Nat → Nat) (w : RegistryWorld) (h : History) : Prop where
  store : w.registry.store = h.store
  files : w.files = h.files
  lifetime : w.registry.lifetime = lifetime
  cached : w.registry.cached =
    (History.latestLoad? h.past).map fun load => ⟨.ofCatalog load.2, load.1⟩

namespace Follows

variable {lifetime : Nat → Nat} {w : RegistryWorld} {h : History} {now clone : Nat}

/-- A load at once is a load of the history, whether it fails or not. -/
theorem reload (follows : Follows lifetime w h) (now : Nat) :
    Follows lifetime { w with registry := (w.registry.reload w.files now).2 } (h.load now) := by
  -- Both sides load the same store with the same files.
  obtain ⟨result, next, loaded⟩ : ∃ result next, w.registry.store.load w.files = (result, next) :=
    ⟨_, _, rfl⟩
  have inHistory : h.store.load h.files = (result, next) := by
    rw [← follows.store, ← follows.files]
    exact loaded
  rw [History.load, inHistory]
  cases result with
  | ok catalog =>
    rw [Registry.reload_of_ok loaded]
    exact ⟨rfl, follows.files, follows.lifetime, rfl⟩
  | error fault =>
    rw [Registry.reload_of_error loaded]
    exact ⟨rfl, follows.files, follows.lifetime, follows.cached⟩

/-- While the latest good load is fresh, its snapshot is the current one, and nothing is loaded. -/
theorem snapshot_of_fresh (follows : Follows lifetime w h) (fresh : h.isFresh lifetime clone now) :
    ∃ load, History.latestLoad? h.past = some load ∧
      w.registry.snapshot clone w.files now = (.ofCatalog load.2, w.registry) := by
  obtain ⟨load, latest, young⟩ := (Option.any_eq_true _ _).mp fresh
  have kept : w.registry.cached = some ⟨.ofCatalog load.2, load.1⟩ := by
    rw [follows.cached, latest]
    rfl
  refine ⟨load, latest, Registry.snapshot_of_fresh kept ?_⟩
  rw [follows.lifetime]
  show ¬ lifetime clone < now - load.1
  have := of_decide_eq_true young
  omega

/-- Otherwise the current snapshot is that of a load. -/
theorem snapshot_of_not_fresh (follows : Follows lifetime w h)
    (stale : ¬ h.isFresh lifetime clone now) :
    w.registry.snapshot clone w.files now = w.registry.reload w.files now := by
  refine Registry.snapshot_of_expired ?_
  intro c kept
  rw [follows.cached] at kept
  obtain ⟨load, latest, rfl⟩ := Option.map_eq_some_iff.mp kept
  have old := (Option.any_eq_false _ _).mp (Bool.not_eq_true _ ▸ stale) load latest
  have := of_decide_eq_false old
  rw [follows.lifetime]
  show lifetime clone < now - load.1
  omega

/-- **One event.** A registry that follows a history does so after any event too. -/
theorem step (follows : Follows lifetime w h) (now : Nat) (event : RegistryEvent) :
    Follows lifetime (w.step now event).2 (h.next lifetime now event) := by
  cases event with
  | lookup clone =>
    rw [RegistryWorld.step, History.next]
    by_cases fresh : h.isFresh lifetime clone now
    · obtain ⟨load, -, answer⟩ := follows.snapshot_of_fresh fresh
      rw [answer, if_pos fresh]
      exact follows
    · rw [follows.snapshot_of_not_fresh fresh, if_neg fresh]
      exact follows.reload now
  | reload => exact follows.reload now
  | forget => exact ⟨follows.store, follows.files, follows.lifetime, rfl⟩
  | change store files => exact ⟨rfl, rfl, follows.lifetime, follows.cached⟩

/-- **A whole run.** The registry follows the history, event by event. -/
theorem run (follows : Follows lifetime w h) (events : List (Nat × RegistryEvent)) :
    Follows lifetime (w.run events) (h.after lifetime events) := by
  induction events generalizing w h with
  | nil => exact follows
  | cons e rest ih => exact ih (follows.step e.1 e.2)

end Follows

/-- A registry that has loaded nothing follows the empty history. -/
theorem follows_start (store : Store) (files : Files) (lifetimes : List Nat) :
    Follows (Registry.lifetime { store, lifetimes }) ⟨{ store, lifetimes }, files⟩
      { store, files } := ⟨rfl, rfl, rfl, rfl⟩

end RegistryWorld

/-! ### Warnings -/

/-- What there is to say about a load: why it failed, or which entries it left out. -/
def attemptWarning : Except StoreFault Catalog → Option String
  | .ok catalog =>
    if catalog.skipped = [] then none
    else some ("; ".intercalate (catalog.skipped.map Skipped.reason))
  | .error fault => some fault.message

theorem message_warning_ofCatalog (catalog : Catalog) :
    (Snapshot.ofCatalog catalog).warning.map LoadWarning.message = attemptWarning (.ok catalog) := by
  rw [Snapshot.ofCatalog, attemptWarning]
  by_cases complete : catalog.skipped = []
  · simp [complete]
  · simp [complete, LoadWarning.message]

/-- A text begins as its first part does. -/
theorem head?_toList_append {a b : String} {c : Char} (h : a.toList.head? = some c) :
    (a ++ b).toList.head? = some c := by
  rw [String.toList_append, List.head?_append, h]
  rfl

theorem head?_message_storeFault (fault : StoreFault) :
    fault.message.toList.head? = some 'C' ∨ fault.message.toList.head? = some 'M' := by
  cases fault with
  | unreadable path fault =>
    left
    iterate 3 refine head?_toList_append ?_
    decide
  | malformed origin fault =>
    right
    iterate 3 refine head?_toList_append ?_
    decide

theorem head?_reason (entry : Skipped) : entry.reason.toList.head? = some 'd' := by
  iterate 3 refine head?_toList_append ?_
  decide

/-- The words about a failure begin with another letter than those about an entry. -/
theorem attemptWarning_ok_ne_error (catalog : Catalog) (fault : StoreFault) :
    attemptWarning (.ok catalog) ≠ attemptWarning (.error fault) := by
  rw [attemptWarning, attemptWarning]
  cases catalog.skipped with
  | nil => simp
  | cons first rest =>
    have entries : ("; ".intercalate ((first :: rest).map Skipped.reason)).toList.head? =
        some 'd' := by
      cases rest with
      | nil => exact head?_reason first
      | cons second rest =>
        rw [List.map_cons, List.map_cons, String.intercalate_cons_cons, String.append_assoc]
        exact head?_toList_append (head?_reason first)
    intro same
    rw [if_neg (List.cons_ne_nil _ _), Option.some.injEq] at same
    rw [same] at entries
    rcases head?_message_storeFault fault with h | h
    · rw [h] at entries
      cases entries
    · rw [h] at entries
      cases entries

/-- **When the warning of a registry is current**, after any run of lookups through its clones,
reloads, forgetting and changes of the store, whatever the lifetimes. To ask for the warning is a
lookup: it loads the store unless the latest good load is fresh for the clone. Of all loads up to
then, the one that it makes included, the answer is about the latest one exactly if this did not
fail or the asking itself made it. Otherwise only failures are later than the latest good load, and
the answer is about that. -/
theorem load_warning_is_current_iff (store : Store) (files : Files) (lifetimes : List Nat)
    (past : List (Nat × RegistryEvent)) (clone now : Nat) :
    let w := RegistryWorld.run ⟨{ store, lifetimes }, files⟩ past
    let lifetime := Registry.lifetime { store, lifetimes }
    let h := History.after lifetime { store, files } past
    let asked := h.next lifetime now (.lookup clone)
    let answer := w.registry.loadWarning clone w.files now
    answer.2.store = asked.store ∧
    ∃ attempt before, asked.attempts = attempt :: before ∧
      (answer.1 = attemptWarning attempt ↔
        ¬ (h.isFresh lifetime clone now ∧ ∃ fault, attempt = .error fault)) ∧
      (¬ h.isFresh lifetime clone now →
        attempt = (h.store.load h.files).1 ∧ before = h.attempts) ∧
      (h.isFresh lifetime clone now → asked = h ∧
        ∃ failed catalog earlier, h.attempts = failed ++ .ok catalog :: earlier ∧
          (∀ x ∈ failed, ∃ fault, x = .error fault) ∧
          answer.1 = attemptWarning (.ok catalog)) := by
  intro w lifetime h asked answer
  have follows : RegistryWorld.Follows lifetime w h :=
    (RegistryWorld.follows_start store files lifetimes).run past
  have counted : answer.2.store = asked.store := (follows.step now (.lookup clone)).store
  refine ⟨counted, ?_⟩
  by_cases fresh : h.isFresh lifetime clone now
  · obtain ⟨load, latest, current⟩ := follows.snapshot_of_fresh fresh
    obtain ⟨failed, earlier, split, failures⟩ := History.attempts_of_latestLoad? latest
    have kept : asked = h := if_pos fresh
    have about : answer.1 = attemptWarning (.ok load.2) := by
      rw [← message_warning_ofCatalog]
      show (w.registry.snapshot clone w.files now).1.warning.map _ = _
      rw [current]
    have answered : h.isFresh lifetime clone now → asked = h ∧
        ∃ failed catalog earlier, h.attempts = failed ++ .ok catalog :: earlier ∧
          (∀ x ∈ failed, ∃ fault, x = .error fault) ∧ answer.1 = attemptWarning (.ok catalog) :=
      fun _ => ⟨kept, failed, load.2, earlier, split, failures, about⟩
    cases failed with
    | nil =>
      refine ⟨.ok load.2, earlier, by rw [kept, split]; rfl, ?_, fun stale => absurd fresh stale,
        answered⟩
      simp [about]
    | cons last failed =>
      -- The latest attempt failed, and the answer does not tell.
      obtain ⟨fault, rfl⟩ := failures last List.mem_cons_self
      refine ⟨.error fault, failed ++ .ok load.2 :: earlier, by rw [kept, split]; rfl, ?_,
        fun stale => absurd fresh stale, answered⟩
      rw [about]
      simp [attemptWarning_ok_ne_error, fresh]
  · have loads : asked = h.load now := if_neg fresh
    have about : answer.1 = attemptWarning (h.store.load h.files).1 := by
      show (w.registry.snapshot clone w.files now).1.warning.map _ = _
      rw [follows.snapshot_of_not_fresh fresh, ← follows.store, ← follows.files]
      cases loaded : w.registry.store.load w.files with
      | mk result next =>
        cases result with
        | ok catalog =>
          rw [Registry.reload_of_ok loaded]
          exact message_warning_ofCatalog catalog
        | error fault =>
          rw [Registry.reload_of_error loaded]
          rfl
    refine ⟨(h.store.load h.files).1, h.attempts, by rw [loads, History.attempts_load], ?_,
      fun _ => ⟨rfl, rfl⟩, fun young => absurd young fresh⟩
    simp [about, fresh]

/-- A store that breaks after the first load, and a reload that finds it broken: the registry still
answers for the first load, and there is no warning. -/
theorem failed_reload_is_not_warned_of :
    let store : Store := .scripted [some "\x7b\x7d", none] 0
    let past : List (Nat × RegistryEvent) := [(1, .lookup 0), (2, .reload)]
    let w := RegistryWorld.run ⟨.ofStore store 3600000, {}⟩ past
    let h := History.after (Registry.lifetime (.ofStore store 3600000)) { store, files := {} } past
    let gone : StoreFault := .unreadable "scripted" (.other "gone")
    h.attempts.head? = some (.error gone) ∧
    attemptWarning (.error gone) = some "Cannot read definition store scripted: gone" ∧
    (w.registry.loadWarning 0 {} 3).1 = none := by
  intro store past w h gone
  exact ⟨rfl, rfl, rfl⟩

end Blockware
