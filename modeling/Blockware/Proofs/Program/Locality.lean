import Blockware.Generator
import Blockware.Proofs.Keyed
import Blockware.Proofs.Program.Visits
import Mathlib.Data.List.Basic

/-!
# Only visited types matter

A program is made against a snapshot, and asks it in many places what a type means. All of them
ask for types of visited blocks only.

- `Snapshot.AgreesOn`: two snapshots that mean the same by every type that a walk visits.
- `generate_congr`, `build_congr`, `diagnostics_congr`: what is made against them is the same.
- `Definition.isVisited`: whether a definition can be asked for at all: a walk visits its type,
  and no built-in type has its name.
- `visited_types_determine_artifacts`: so nothing else in a snapshot or in a catalog matters.
-/

namespace Blockware

/-- Two snapshots mean the same by every type that a walk over some blocks visits. -/
def Snapshot.AgreesOn (s t : Snapshot) (blocks : List Block) : Prop :=
  ∀ b ∈ walk blocks, s.contract? b.type = t.contract? b.type

/-- Whether a definition gives a meaning to the type of a visited block. -/
def Definition.isVisited (blocks : List Block) (d : Definition) : Bool :=
  (Builtin.ofType? d.id).isNone && (walk blocks).any fun b => b.type = d.id

namespace Snapshot.AgreesOn

variable {s t : Snapshot} {blocks : List Block}

/-- Snapshots that agree on some blocks agree on fewer. -/
theorem mono {others : List Block} (agree : s.AgreesOn t blocks)
    (fewer : ∀ b ∈ walk others, b ∈ walk blocks) : s.AgreesOn t others :=
  fun b hb => agree b (fewer b hb)

/-- Top-level blocks are visited. -/
theorem top (agree : s.AgreesOn t blocks) {b : Block} (hb : b ∈ blocks) :
    s.contract? b.type = t.contract? b.type := by
  refine agree b ?_
  rw [walk_eq_preorder]
  exact (Block.sublist_preorder blocks).subset hb

/-- The blocks in the body of a visited container are visited. -/
theorem inner (agree : s.AgreesOn t blocks) {b : Block} (hb : b ∈ walk blocks)
    (container : b.takesBody) : s.AgreesOn t b.inner := by
  refine agree.mono fun c hc => ?_
  rw [walk_eq_preorder] at hb hc ⊢
  exact Block.mem_preorder_trans hb container hc

end Snapshot.AgreesOn

variable {s t : Snapshot} {blocks : List Block}

/-! ### The parts of a program -/

theorem Snapshot.isSetup_congr {b : Block} (same : s.contract? b.type = t.contract? b.type) :
    s.isSetup b = t.isSetup b := by
  rw [isSetup, isSetup, categoryOfType, categoryOfType, same]

theorem setupBlocks_congr (agree : s.AgreesOn t blocks) :
    s.setupBlocks blocks = t.setupBlocks blocks :=
  List.filter_congr fun _ hb => Snapshot.isSetup_congr (agree.top hb)

theorem loopBlocks_congr (agree : s.AgreesOn t blocks) :
    s.loopBlocks blocks = t.loopBlocks blocks :=
  List.filter_congr fun _ hb => congrArg not (Snapshot.isSetup_congr (agree.top hb))

/-- Blocks emit the same code, wherever they stand. -/
theorem emitAll_congr {nested : Bool} (agree : s.AgreesOn t blocks) :
    Block.emitAll s nested blocks = Block.emitAll t nested blocks := by
  induction blocks using Block.program_induction generalizing nested with
  | nil => rfl
  | cons b rest ihInner ihRest =>
    have visited : b ∈ walk (b :: rest) := by
      rw [walk_eq_preorder]
      exact Block.mem_preorder_cons.mpr (Or.inl rfl)
    -- Only a container asks what the types in its body mean, and then a walk visits them.
    have first : b.emit s nested = b.emit t nested :=
      Block.emit_congr rfl rfl (agree b visited) fun container =>
        ihInner (agree.inner visited container)
    have later : s.AgreesOn t rest := by
      refine agree.mono fun c hc => ?_
      rw [walk_eq_preorder] at hc ⊢
      exact Block.mem_preorder_cons.mpr (Or.inr (Or.inr hc))
    rw [Block.emitAll, Block.emitAll, first, ihRest later]

theorem programHeaders_congr (agree : s.AgreesOn t blocks) (modules : List BoardModule) :
    programHeaders s blocks modules = programHeaders t blocks modules := by
  have custom : (walk blocks).flatMap (fun b => s.customHeaders b.type) =
      (walk blocks).flatMap fun b => t.customHeaders b.type :=
    List.flatMap_congr fun b hb => by
      rw [Snapshot.customHeaders, Snapshot.customHeaders, agree b hb]
  rw [programHeaders, programHeaders, custom]

theorem setupPart_congr (agree : s.AgreesOn t blocks) (modules : List BoardModule) :
    setupPart s blocks modules = setupPart t blocks modules := by
  have code : (t.setupBlocks blocks).flatMap (Block.setupCode s) =
      (t.setupBlocks blocks).flatMap (Block.setupCode t) :=
    List.flatMap_congr fun b hb => by
      rw [Block.setupCode, Block.setupCode, agree.top (List.mem_filter.mp hb).1]
  rw [setupPart, setupPart, setupBlocks_congr agree, code]

theorem loopPart_congr (agree : s.AgreesOn t blocks) (heartbeat : Nat)
    (modules : List BoardModule) (emission : Emission) :
    loopPart s heartbeat blocks modules emission =
      loopPart t heartbeat blocks modules emission := by
  have idle : (t.loopBlocks blocks).all (fun b => s.isFunctionDef b.type) =
      (t.loopBlocks blocks).all fun b => t.isFunctionDef b.type := by
    rw [Bool.eq_iff_iff, List.all_eq_true, List.all_eq_true]
    refine forall₂_congr fun b hb => ?_
    rw [Snapshot.isFunctionDef, Snapshot.isFunctionDef, agree.top (List.mem_filter.mp hb).1]
  rw [loopPart, loopPart, loopBlocks_congr agree, idle]

/-! ### Everything that is made -/

/-- The program is the same. -/
theorem generate_congr (agree : s.AgreesOn t blocks) (heartbeat : Nat) (name : String)
    (modules : List String) :
    Program.generate s heartbeat name blocks modules =
      Program.generate t heartbeat name blocks modules := by
  have loop : s.AgreesOn t (t.loopBlocks blocks) := by
    refine agree.mono fun b hb => ?_
    rw [walk_eq_preorder] at hb ⊢
    exact Block.mem_preorder_of_filter hb
  rw [Program.generate, Program.generate, programHeaders_congr agree, setupPart_congr agree,
    loopPart_congr agree, loopBlocks_congr agree, emitAll_congr loop]

/-- The libraries are the same. -/
theorem build_congr (agree : s.AgreesOn t blocks) (name : String) (modules : List String) :
    Manifest.build s name blocks modules = Manifest.build t name blocks modules := by
  have libraries : (walk blocks).flatMap (Manifest.blockLibraries s) =
      (walk blocks).flatMap (Manifest.blockLibraries t) :=
    List.flatMap_congr fun b hb => by
      rw [Manifest.blockLibraries, Manifest.blockLibraries, Snapshot.librariesOf,
        Snapshot.librariesOf, agree b hb]
  rw [Manifest.build, Manifest.build, libraries]

theorem bodyDiagnostics_congr {b : Block} (body : b.takesBody → s.AgreesOn t b.inner) :
    s.bodyDiagnostics b = t.bodyDiagnostics b := by
  rw [Snapshot.bodyDiagnostics, Snapshot.bodyDiagnostics]
  by_cases container : b.takesBody
  · have nested := setupBlocks_congr (body container)
    rw [Snapshot.setupBlocks, Snapshot.setupBlocks] at nested
    rw [if_pos container, if_pos container]
    exact congrArg _ nested
  · rw [if_neg container, if_neg container]

/-- The same is found to be wrong. -/
theorem diagnostics_congr (agree : s.AgreesOn t blocks) (modules : List String) :
    diagnostics s blocks modules = diagnostics t blocks modules := by
  have types : s.typeDiagnostics blocks = t.typeDiagnostics blocks :=
    List.flatMap_congr fun b hb => by
      rw [Snapshot.typeFindings, Snapshot.typeFindings, agree b hb]
  have bodies : s.nestingDiagnostics blocks = t.nestingDiagnostics blocks :=
    List.flatMap_congr fun b hb => bodyDiagnostics_congr (agree.inner hb)
  have inputs : s.inputDiagnostics blocks = t.inputDiagnostics blocks :=
    List.flatMap_congr fun b hb => by
      rw [Snapshot.inputFindings, Snapshot.inputFindings, agree b hb]
  rw [diagnostics, diagnostics, types, bodies, inputs]

/-! ### Catalogs -/

/-- The definition of a visited type is looked up among the visited definitions. -/
theorem definition?_ofCatalog {b : Block} (hb : b ∈ walk blocks)
    (own : Builtin.ofType? b.type = none) (c : Catalog) :
    (Snapshot.ofCatalog c).definition? b.type =
      (c.blocks.filter (·.isVisited blocks)).reverse.find? fun d => d.id = b.type := by
  have visited : ∀ d : Definition, d.id = b.type → d.isVisited blocks := by
    intro d hd
    rw [Definition.isVisited, hd, own, Option.isNone_none, Bool.true_and, List.any_eq_true]
    exact ⟨b, hb, decide_eq_true rfl⟩
  have found : (Snapshot.ofCatalog c).definition? b.type =
      c.blocks.reverse.find? fun d => d.id = b.type := Keyed.find?_collect
  -- Every definition of this type is visited, so leaving the others out changes no answer.
  rw [found, ← List.filter_reverse, List.find?_filter]
  congr 1
  funext d
  by_cases hd : d.id = b.type
  · simp [hd, visited d hd]
  · simp [hd]

/-- What a catalog means by visited types depends on its visited definitions. -/
theorem agreesOn_ofCatalog {c c' : Catalog}
    (same : c.blocks.filter (·.isVisited blocks) = c'.blocks.filter (·.isVisited blocks)) :
    (Snapshot.ofCatalog c).AgreesOn (.ofCatalog c') blocks := by
  intro b hb
  rw [Snapshot.contract?, Snapshot.contract?]
  cases own : Builtin.ofType? b.type with
  | some kind => rfl
  | none => rw [definition?_ofCatalog hb own, definition?_ofCatalog hb own, same]

/-- **Only visited types matter**: against two snapshots that mean the same by every type that
the walk over a project visits, the project has the same program, the same libraries and the same
report. Of a catalog only the definitions of such types count that no built-in type hides: those
of other types may be added, changed, moved or taken away. With the same entries left out as
unreadable, nothing at all that is made of the project changes. -/
theorem visited_types_determine_artifacts (heartbeat : Nat) (name : String) (p : Project) :
    let made := fun s : Snapshot => (Program.generate s heartbeat name p.blocks p.modules,
      Manifest.build s name p.blocks p.modules, Report.ofProgram s p.blocks p.modules)
    (∀ s t : Snapshot, s.AgreesOn t p.blocks → made s = made t) ∧
    (∀ c c' : Catalog,
      c.blocks.filter (·.isVisited p.blocks) = c'.blocks.filter (·.isVisited p.blocks) →
      made (.ofCatalog c) = made (.ofCatalog c') ∧
      (c.skipped = c'.skipped → Artifacts.generate (.ofCatalog c) heartbeat name p =
        Artifacts.generate (.ofCatalog c') heartbeat name p)) := by
  intro made
  have sameMade : ∀ s t : Snapshot, s.AgreesOn t p.blocks → made s = made t := by
    intro s t agree
    show (Program.generate s _ _ _ _, _, Report.ofList _) = _
    rw [generate_congr agree, build_congr agree, diagnostics_congr agree]
    rfl
  refine ⟨sameMade, fun c c' same => ⟨sameMade _ _ (agreesOn_ofCatalog same), fun skipped => ?_⟩⟩
  have agree := agreesOn_ofCatalog same
  have warning : (Snapshot.ofCatalog c).warning = (Snapshot.ofCatalog c').warning := by
    rw [Snapshot.ofCatalog, Snapshot.ofCatalog, skipped]
  rw [Artifacts.generate, Artifacts.generate, Report.ofProgram, Report.ofProgram,
    generate_congr agree, build_congr agree, diagnostics_congr agree, warning]

/-- Beside the definition of `beep`, one of a type that no block has and one that a built-in type
hides are no part of what a project with `beep` means. -/
theorem unvisited_and_hidden_definitions_do_not_matter :
    let beep : Definition := ⟨"beep", "Beep", .loop, "#e05a00", none, [],
      { codeTemplate := some "beep();", libraries := ["buzzer"] }⟩
    let few : Catalog := { blocks := [beep] }
    let many : Catalog :=
      { blocks := [{ beep with id := "honk" }, beep, { beep with id := "gpio_set" }] }
    let p : Project := { blocks := [⟨"a", "beep", [], []⟩, ⟨"b", "gpio_set", [], []⟩] }
    few.blocks.filter (·.isVisited p.blocks) = many.blocks.filter (·.isVisited p.blocks) ∧
    few.skipped = many.skipped ∧ (Snapshot.ofCatalog few).AgreesOn (.ofCatalog many) p.blocks ∧
    Program.generate (.ofCatalog few) defaultHeartbeat "demo" p.blocks p.modules =
      Program.generate (.ofCatalog many) defaultHeartbeat "demo" p.blocks p.modules ∧
    Artifacts.generate (.ofCatalog few) defaultHeartbeat "demo" p =
      Artifacts.generate (.ofCatalog many) defaultHeartbeat "demo" p := by
  intro beep few many p
  have same : few.blocks.filter (·.isVisited p.blocks) =
      many.blocks.filter (·.isVisited p.blocks) := by
    simp only [Definition.isVisited, walk_eq_preorder]
    rfl
  have agree : (Snapshot.ofCatalog few).AgreesOn (.ofCatalog many) p.blocks :=
    agreesOn_ofCatalog same
  obtain ⟨sameMade, sameArtifacts⟩ := visited_types_determine_artifacts defaultHeartbeat "demo" p
  exact ⟨same, rfl, agree, congrArg Prod.fst (sameMade _ _ agree),
    (sameArtifacts few many same).2 rfl⟩

end Blockware
