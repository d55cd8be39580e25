import Blockware.Generator
import Blockware.Proofs.Conflicts
import Blockware.Proofs.Registry.History

/-!
# Policies

The strict policy and the advisory one, from the same state. They differ in what becomes of a
project with conflicts, and in nothing else.

- `Generator.generate_of_contested`, `Generator.generate_of_not_refused`: what a generator does.
- `Generator.generate_eq_error_iff`: what it is that it refuses.
- `Generator.of_generate_eq_ok`: what it is that it generates.
- `Generator.lookup_loads_at_most_once`: how often the store is loaded for it.
- `strict_refuses_what_advisory_reports`: the two policies side by side.
-/

namespace Blockware

namespace Generator

variable {g : Generator} {files : Files} {now : Nat} {name : String} {p : Project}

/-- Under the strict policy a project with conflicts is refused, and nothing else happens. -/
theorem generate_of_contested (strict : g.policy = .strict) (contested : conflicts p.blocks ≠ []) :
    g.generate files now name p = (.error (.conflict (conflicts p.blocks).resources), g) := by
  rw [generate]
  exact if_pos (by simp [strict, contested])

/-- Any other project is generated from the current snapshot. -/
theorem generate_of_not_refused (accepted : g.policy = .strict → conflicts p.blocks = []) :
    g.generate files now name p =
      (.ok (.generate (g.snapshot files now).1 g.heartbeat name p),
        { g with registry := (g.registry.snapshot g.clone files now).2 }) := by
  rw [generate]
  exact if_neg (by simpa using accepted)

/-- Only the conflicts of a project decide whether it is refused. -/
theorem generate_eq_error_iff {refusal : Refusal} :
    (g.generate files now name p).1 = .error refusal ↔
      g.policy = .strict ∧ conflicts p.blocks ≠ [] ∧
        refusal = .conflict (conflicts p.blocks).resources := by
  by_cases refused : g.policy = .strict ∧ conflicts p.blocks ≠ []
  · rw [generate_of_contested refused.1 refused.2]
    simp [refused, eq_comm]
  · rw [generate_of_not_refused (by simpa using refused)]
    simp only [reduceCtorEq, false_iff]
    rintro ⟨strict, contested, -⟩
    exact refused ⟨strict, contested⟩

/-- What is generated is made against the current snapshot. -/
theorem of_generate_eq_ok {a : Artifacts} {after : Generator}
    (h : g.generate files now name p = (.ok a, after)) :
    a = .generate (g.snapshot files now).1 g.heartbeat name p ∧
      after.registry = (g.registry.snapshot g.clone files now).2 := by
  have accepted : g.policy = .strict → conflicts p.blocks = [] := by
    intro strict
    by_contra contested
    rw [generate_of_contested strict contested] at h
    cases h
  rw [generate_of_not_refused accepted] at h
  cases h
  exact ⟨rfl, rfl⟩

/-- A lookup loads the store once, or it finds something kept and loads nothing. A store that is
played from a script shows how often it was loaded. -/
theorem lookup_loads_at_most_once (g : Generator) (files : Files) (now : Nat) :
    ∃ loads ≤ 1,
      (∀ script played, g.registry.store = .scripted script played →
        (g.registry.snapshot g.clone files now).2.store = .scripted script (played + loads)) ∧
      (loads = 0 → ∃ c, g.registry.cached = some c ∧
        g.registry.snapshot g.clone files now = (c.snapshot, g.registry)) ∧
      (loads = 1 →
        g.registry.snapshot g.clone files now = g.registry.reload files now) := by
  rcases g.registry.snapshot_cases g.clone files now with ⟨c, kept, answer⟩ | loaded
  · refine ⟨0, Nat.zero_le 1, ?_, fun _ => ⟨c, kept, answer⟩, fun one => absurd one (by decide)⟩
    intro script played store
    rw [answer]
    exact store
  · refine ⟨1, Nat.le_refl 1, ?_, fun zero => absurd zero (by decide), fun _ => loaded⟩
    intro script played store
    rw [loaded]
    exact Registry.store_reload_of_scripted store files now

end Generator

/-- **The strict policy refuses what the advisory one reports**, and else they do the same. From
the same state, the advisory policy always generates. Without conflicts the strict policy generates
the same and leaves the same behind. With conflicts it refuses and names the contested resources,
pins by number and then instances by name, and the store is not loaded nor what is kept touched.
Whatever is generated, all of it is made against one snapshot, for which the store is loaded once
or not at all. -/
theorem strict_refuses_what_advisory_reports (g : Generator) (files : Files) (now : Nat)
    (name : String) (p : Project) :
    let run := fun policy => Generator.generate { g with policy } files now name p
    ∃ a, (run .advisory).1 = .ok a ∧
      (a.conflicts = [] →
        (run .strict).1 = .ok a ∧ (run .strict).2.registry = (run .advisory).2.registry) ∧
      (a.conflicts ≠ [] → ∃ (pins : List Nat) (names : List String),
        let contested := pins.map Resource.pin ++ names.map Resource.bus
        run .strict = (.error (.conflict contested), { g with policy := .strict }) ∧
        contested ≠ [] ∧ pins.Pairwise (· < ·) ∧ names.Pairwise (· < ·) ∧
        ∀ r, r ∈ contested ↔ (a.conflicts.owners? r).isSome) ∧
      ∀ policy b after, run policy = (.ok b, after) → ∃ s : Snapshot,
        b = { source := (Program.generate s g.heartbeat name p.blocks p.modules).source
              manifest := .build s name p.blocks p.modules
              conflicts := conflicts p.blocks
              report := .ofProgram s p.blocks p.modules
              warning := s.warning } ∧
        ∃ loads ≤ 1,
          (∀ script played, g.registry.store = .scripted script played →
            after.registry.store = .scripted script (played + loads)) ∧
          (loads = 0 → (∃ c, g.registry.cached = some c ∧ s = c.snapshot) ∧
            after.registry = g.registry) ∧
          (loads = 1 → (s, after.registry) = g.registry.reload files now) := by
  intro run
  have advisory : run .advisory =
      (.ok (.generate (g.snapshot files now).1 g.heartbeat name p),
        { g with policy := .advisory, registry := (g.registry.snapshot g.clone files now).2 }) :=
    Generator.generate_of_not_refused fun strict => by cases strict
  refine ⟨.generate (g.snapshot files now).1 g.heartbeat name p, by rw [advisory], ?_, ?_, ?_⟩
  · intro (none : conflicts p.blocks = [])
    have strict : run .strict =
        (.ok (.generate (g.snapshot files now).1 g.heartbeat name p),
          { g with policy := .strict, registry := (g.registry.snapshot g.clone files now).2 }) :=
      Generator.generate_of_not_refused fun _ => none
    rw [strict, advisory]
    exact ⟨rfl, rfl⟩
  · intro (contested : conflicts p.blocks ≠ [])
    have refused : run .strict =
        (.error (.conflict (conflicts p.blocks).resources), { g with policy := .strict }) :=
      Generator.generate_of_contested rfl contested
    obtain ⟨pins, names, split, pinsSorted, namesSorted⟩ :=
      (ordered_conflicts p.blocks).resources_eq_append
    refine ⟨pins, names, ?_, ?_, pinsSorted, namesSorted, ?_⟩
    · rw [refused, split]
    · rw [← split]
      exact fun none => contested (List.map_eq_nil_iff.mp none)
    · intro r
      rw [← split]
      exact Ownership.isSome_owners?_iff.symm
  · intro policy b after generated
    obtain ⟨rfl, registry⟩ := Generator.of_generate_eq_ok generated
    rw [registry]
    obtain ⟨loads, once, counted, kept, loaded⟩ := Generator.lookup_loads_at_most_once g files now
    refine ⟨(g.snapshot files now).1, rfl, loads, once, counted, ?_, loaded⟩
    intro zero
    obtain ⟨c, isKept, same⟩ := kept zero
    refine ⟨⟨c, isKept, ?_⟩, ?_⟩
    · show (g.registry.snapshot g.clone files now).1 = _
      rw [same]
    · show (g.registry.snapshot g.clone files now).2 = _
      rw [same]

/-- A sensor and a lamp on one pin, with a store that is gone. The advisory policy generates all the
same and has to load the store for that; the strict one names the pin and loads nothing. -/
theorem contested_pin_is_refused_without_load :
    let g : Generator := { registry := .ofStore (.scripted [none] 0) }
    let p : Project :=
      { blocks := [⟨"sensor", "adc_config", [("pin", .integer 26)], []⟩,
          ⟨"lamp", "gpio_set", [("pin", .integer 26)], []⟩] }
    let run := fun policy => Generator.generate { g with policy } {} 0 "demo" p
    (∃ a, (run .advisory).1 = .ok a ∧ a.conflicts ≠ [] ∧
      (run .advisory).2.registry.store.played = 1) ∧
    ∃ contested, (run .strict).1 = .error (.conflict contested) ∧ .pin 26 ∈ contested ∧
      (run .strict).2.registry.store.played = 0 := by
  intro g p run
  obtain ⟨a, advisory, -, refuses, made⟩ := strict_refuses_what_advisory_reports g {} 0 "demo" p
  have same : a.conflicts = conflicts p.blocks := by
    obtain ⟨s, rfl, -⟩ := made .advisory a _ (Prod.ext advisory rfl)
    rfl
  have contested : a.conflicts ≠ [] := by
    rw [same]
    decide
  obtain ⟨pins, names, strict, -, -, -, owned⟩ := refuses contested
  refine ⟨⟨a, advisory, contested, rfl⟩, _, congrArg Prod.fst strict, ?_, ?_⟩
  · refine (owned (.pin 26)).mpr ?_
    rw [same]
    decide
  · exact congrArg (fun result => result.2.registry.store.played) strict

end Blockware
