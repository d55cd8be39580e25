import Blockware.Diagnostic.Report
import Blockware.Manifest
import Blockware.Proofs.Conflicts
import Blockware.Proofs.Program.Visits

/-!
# Ids and dead bodies do not matter

No code is generated for the body of a block that is no container, and no code shows an id.

- `SameCode`: programs that differ in ids and in such bodies only.
- `Block.pruneAll`: a program without such bodies, and with other ids. Of two programs with the same
  code this leaves the same.
- `walk_pruneAll`, `Block.emitAll_pruneAll`: pruning changes no visited block in anything that is
  read of it, and no code.
- `diagnostics_pruneAll`: with the ids kept, pruning stops the complaints about bodies where none
  may be, and no others.
- `ids_and_dead_bodies_do_not_matter`: what follows for everything that is made of a program.
-/

namespace Blockware

/-- Programs that differ in ids and in the bodies of blocks that are no containers, at any depth,
and in nothing else. -/
inductive SameCode : List Block → List Block → Prop where
  | nil : SameCode [] []
  | container {a b : Block} {rest others : List Block} (type : a.type = b.type)
      (params : a.params = b.params) (body : a.takesBody) (inner : SameCode a.inner b.inner)
      (later : SameCode rest others) : SameCode (a :: rest) (b :: others)
  | leaf {a b : Block} {rest others : List Block} (type : a.type = b.type)
      (params : a.params = b.params) (dead : ¬ a.takesBody) (later : SameCode rest others) :
      SameCode (a :: rest) (b :: others)

namespace Block

mutual

/-- A block with another id, and the same of the blocks in its body if it is a container. Any other
block loses its body. -/
def prune (rename : String → String) : Block → Block
  | ⟨id, type, params, inner⟩ =>
    let b : Block := ⟨id, type, params, inner⟩
    ⟨rename id, type, params, if b.takesBody then pruneAll rename inner else []⟩

/-- A program with other ids and without the bodies of blocks that are no containers. -/
def pruneAll (rename : String → String) : List Block → List Block
  | [] => []
  | b :: rest => prune rename b :: pruneAll rename rest

end

end Block

/-- Whether a finding is that a body stands where none may be. -/
def Finding.isIgnoredBody : Finding → Bool
  | .ignoredBody _ => true
  | _ => false

/-- Whether a diagnostic is about anything else. -/
def Diagnostic.isOther (d : Diagnostic) : Bool := !d.finding.isIgnoredBody

namespace Block

variable (rename : String → String)

/-! ### Pruned blocks -/

theorem prune_eq (b : Block) :
    b.prune rename = ⟨rename b.id, b.type, b.params, pruneAll rename b.visibleInner⟩ := by
  obtain ⟨id, type, params, inner⟩ := b
  simp only [prune, visibleInner]
  split <;> rfl

theorem pruneAll_eq_map (blocks : List Block) :
    pruneAll rename blocks = blocks.map (prune rename) := by
  induction blocks with
  | nil => rfl
  | cons b rest ih => rw [pruneAll, ih, List.map_cons]

@[simp] theorem id_prune (b : Block) : (b.prune rename).id = rename b.id := by rw [prune_eq]

@[simp] theorem type_prune (b : Block) : (b.prune rename).type = b.type := by rw [prune_eq]

@[simp] theorem params_prune (b : Block) : (b.prune rename).params = b.params := by rw [prune_eq]

@[simp] theorem inner_prune (b : Block) :
    (b.prune rename).inner = pruneAll rename b.visibleInner := by rw [prune_eq]

@[simp] theorem builtin?_prune (b : Block) : (b.prune rename).builtin? = b.builtin? := by
  rw [builtin?, builtin?, type_prune]

@[simp] theorem slot_prune (b : Block) (key : String) :
    (b.prune rename).slot key = b.slot key := by
  rw [slot, slot, params_prune]

@[simp] theorem takesBody_prune (b : Block) : (b.prune rename).takesBody = b.takesBody := by
  rw [takesBody, takesBody, builtin?_prune]

theorem visibleInner_prune (b : Block) :
    (b.prune rename).visibleInner = pruneAll rename b.visibleInner := by
  by_cases container : b.takesBody
  · rw [visibleInner_of_takesBody (by simpa using container), inner_prune]
  · rw [visibleInner_of_not_takesBody (by simpa using container),
      visibleInner_of_not_takesBody container]
    rfl

theorem preorder_pruneAll (blocks : List Block) :
    preorder (pruneAll rename blocks) = (preorder blocks).map (prune rename) := by
  induction blocks using program_induction with
  | nil => rfl
  | cons b rest ihInner ihRest =>
    -- The hypothesis is about the whole body, the walk goes into the part that counts.
    have inner : preorder (pruneAll rename b.visibleInner) =
        (preorder b.visibleInner).map (prune rename) := by
      by_cases container : b.takesBody
      · rw [visibleInner_of_takesBody container, ihInner]
      · rw [visibleInner_of_not_takesBody container]
        rfl
    rw [pruneAll, preorder_cons, preorder_cons, visibleInner_prune, inner, ihRest, List.map_cons,
      List.map_append]

/-- A walk visits the same blocks, pruned. -/
theorem walk_pruneAll (blocks : List Block) :
    walk (pruneAll rename blocks) = (walk blocks).map (prune rename) := by
  rw [walk_eq_preorder, walk_eq_preorder, preorder_pruneAll]

/-- Programs with the same code are one program after pruning. -/
theorem pruneAll_eq_of_sameCode {blocks others : List Block} (same : SameCode blocks others) :
    pruneAll (fun _ => "") blocks = pruneAll (fun _ => "") others := by
  induction same with
  | nil => rfl
  | @container a b _ _ type params body _ _ ihInner ihLater =>
    have body' : b.takesBody := by rwa [takesBody, builtin?, ← type]
    rw [pruneAll, pruneAll, ihLater, prune_eq, prune_eq, visibleInner_of_takesBody body,
      visibleInner_of_takesBody body', ihInner, type, params]
  | @leaf a b _ _ type params dead _ ihLater =>
    have dead' : ¬ b.takesBody := by rwa [takesBody, builtin?, ← type]
    rw [pruneAll, pruneAll, ihLater, prune_eq, prune_eq, visibleInner_of_not_takesBody dead,
      visibleInner_of_not_takesBody dead', type, params]

/-! ### Code -/

/-- Pruned blocks emit the same code. -/
theorem emitAll_pruneAll (s : Snapshot) (nested : Bool) (blocks : List Block) :
    emitAll s nested (pruneAll rename blocks) = emitAll s nested blocks := by
  induction blocks using program_induction generalizing nested with
  | nil => rfl
  | cons b rest ihInner ihRest =>
    have first : (b.prune rename).emit s nested = b.emit s nested := by
      refine emit_congr (type_prune rename b) (params_prune rename b) rfl fun container => ?_
      rw [takesBody_prune] at container
      rw [inner_prune, visibleInner_of_takesBody container, ihInner]
    rw [pruneAll, emitAll, emitAll, first, ihRest]

theorem setupCode_prune (s : Snapshot) (b : Block) :
    (b.prune rename).setupCode s = b.setupCode s := by
  rw [prune_eq]
  rfl

theorem flag?_prune (b : Block) : (b.prune rename).flag? = b.flag? := by
  rw [flag?, flag?, builtin?_prune, type_prune]

theorem isSetup_prune (s : Snapshot) (b : Block) : s.isSetup (b.prune rename) = s.isSetup b := by
  rw [Snapshot.isSetup, Snapshot.isSetup, type_prune]

theorem setupBlocks_pruneAll (s : Snapshot) (blocks : List Block) :
    s.setupBlocks (pruneAll rename blocks) = pruneAll rename (s.setupBlocks blocks) := by
  rw [pruneAll_eq_map, pruneAll_eq_map, Snapshot.setupBlocks, Snapshot.setupBlocks,
    List.filter_map]
  simp only [Function.comp_def, isSetup_prune]

theorem loopBlocks_pruneAll (s : Snapshot) (blocks : List Block) :
    s.loopBlocks (pruneAll rename blocks) = pruneAll rename (s.loopBlocks blocks) := by
  rw [pruneAll_eq_map, pruneAll_eq_map, Snapshot.loopBlocks, Snapshot.loopBlocks, List.filter_map]
  simp only [Function.comp_def, isSetup_prune]

theorem isEmpty_pruneAll (blocks : List Block) :
    (pruneAll rename blocks).isEmpty = blocks.isEmpty := by
  rw [pruneAll_eq_map, List.isEmpty_map]

theorem programHeaders_pruneAll (s : Snapshot) (blocks : List Block) (modules : List BoardModule) :
    programHeaders s (pruneAll rename blocks) modules = programHeaders s blocks modules := by
  rw [programHeaders, programHeaders, walk_pruneAll]
  simp only [List.filterMap_map, List.flatMap_map, Function.comp_def, type_prune]

theorem drivenPins_pruneAll (blocks : List Block) :
    drivenPins (pruneAll rename blocks) = drivenPins blocks := by
  rw [drivenPins, drivenPins, walk_pruneAll]
  simp only [List.filterMap_map, Function.comp_def, builtin?_prune, slot_prune]

theorem setupPart_pruneAll (s : Snapshot) (blocks : List Block) (modules : List BoardModule) :
    setupPart s (pruneAll rename blocks) modules = setupPart s blocks modules := by
  rw [setupPart, setupPart, setupBlocks_pruneAll, pruneAll_eq_map, gpioInitPart, gpioInitPart,
    drivenPins_pruneAll]
  simp only [List.filterMap_map, List.flatMap_map, Function.comp_def, flag?_prune, setupCode_prune]

theorem loopPart_pruneAll (s : Snapshot) (heartbeat : Nat) (blocks : List Block)
    (modules : List BoardModule) (emission : Emission) :
    loopPart s heartbeat (pruneAll rename blocks) modules emission =
      loopPart s heartbeat blocks modules emission := by
  rw [loopPart, loopPart, isEmpty_pruneAll, loopBlocks_pruneAll, pruneAll_eq_map]
  simp only [List.all_map, Function.comp_def, type_prune]

/-- Pruning a program changes nothing in what is generated. -/
theorem generate_pruneAll (s : Snapshot) (heartbeat : Nat) (name : String) (blocks : List Block)
    (modules : List String) :
    Program.generate s heartbeat name (pruneAll rename blocks) modules =
      Program.generate s heartbeat name blocks modules := by
  rw [Program.generate, Program.generate, programHeaders_pruneAll, setupPart_pruneAll,
    loopPart_pruneAll, loopBlocks_pruneAll, emitAll_pruneAll, isEmpty_pruneAll]

/-- Pruning a program changes nothing in what it is linked against. -/
theorem build_pruneAll (s : Snapshot) (name : String) (blocks : List Block)
    (modules : List String) :
    Manifest.build s name (pruneAll rename blocks) modules =
      Manifest.build s name blocks modules := by
  have libraries (b : Block) :
      Manifest.blockLibraries s (b.prune rename) = Manifest.blockLibraries s b := by
    rw [Manifest.blockLibraries, Manifest.blockLibraries, type_prune]
  rw [Manifest.build, Manifest.build, walk_pruneAll, List.flatMap_map]
  simp only [libraries]

end Block

/-! ### Reports -/

/-- With the ids kept, pruned blocks claim the same under the same ids. -/
theorem conflicts_pruneAll (blocks : List Block) :
    conflicts (Block.pruneAll id blocks) = conflicts blocks := by
  have same : (Block.pruneAll id blocks).map (fun b => (b.id, b.type, b.params)) =
      blocks.map fun b => (b.id, b.type, b.params) := by
    rw [Block.pruneAll_eq_map, List.map_map]
    simp only [Function.comp_def, Block.id_prune, Block.type_prune, Block.params_prune, id]
  exact conflicts_congr fun name r =>
    ⟨exists_claims_of_map_eq same, exists_claims_of_map_eq same.symm⟩

theorem about_prune (b : Block) : Diagnostic.about (b.prune id) = Diagnostic.about b := by
  funext f
  rw [Diagnostic.about, Diagnostic.about, Block.id_prune, id]

theorem isIgnoredBody_of_mem_singleton {f g : Finding} (other : g.isIgnoredBody = false)
    (h : f ∈ [g]) : f.isIgnoredBody = false := by
  rwa [List.mem_singleton.mp h]

theorem isOther_of_mem_map_about {fs : List Finding} {b : Block} {d : Diagnostic}
    (other : ∀ f ∈ fs, f.isIgnoredBody = false) (h : d ∈ fs.map (.about b)) : d.isOther := by
  obtain ⟨f, hf, rfl⟩ := List.mem_map.mp h
  exact congrArg not (other f hf)

/-- A check of block after block that looks at types and parameters, and does not complain about
bodies, finds the same after pruning. -/
theorem flatMap_about_prune {findings : Block → List Finding}
    (same : ∀ b, findings (b.prune id) = findings b)
    (other : ∀ b, ∀ f ∈ findings b, f.isIgnoredBody = false) (blocks : List Block) :
    ((blocks.map (Block.prune id)).flatMap fun b => (findings b).map (.about b)) =
      (blocks.flatMap fun b => (findings b).map (.about b)).filter Diagnostic.isOther := by
  rw [List.flatMap_map, List.filter_eq_self.mpr]
  · simp only [same, about_prune]
  · intro d hd
    obtain ⟨b, hb, hd⟩ := List.mem_flatMap.mp hd
    exact isOther_of_mem_map_about (other b) hd

theorem repeatedIds_prune (seen : List String) (blocks : List Block) :
    repeatedIds seen (blocks.map (Block.prune id)) =
      (repeatedIds seen blocks).filter Diagnostic.isOther := by
  induction blocks generalizing seen with
  | nil => rfl
  | cons b rest ih =>
    rw [List.map_cons, repeatedIds, repeatedIds, Block.id_prune, id, about_prune, ih, ih]
    split
    · exact (List.filter_cons_of_pos rfl).symm
    · rfl

/-! Of the parts of the diagnostics, only the one about bodies looks at what is pruned. -/

theorem typeDiagnostics_pruneAll (s : Snapshot) (blocks : List Block) :
    s.typeDiagnostics (Block.pruneAll id blocks) =
      (s.typeDiagnostics blocks).filter Diagnostic.isOther := by
  rw [Snapshot.typeDiagnostics, Block.walk_pruneAll]
  refine flatMap_about_prune (fun b => ?_) (fun b f hf => ?_) (walk blocks)
  · rw [Snapshot.typeFindings, Snapshot.typeFindings, Block.type_prune]
  · rw [Snapshot.typeFindings] at hf
    split at hf
    · exact isIgnoredBody_of_mem_singleton rfl hf
    · simp at hf
    · split at hf
      · exact isIgnoredBody_of_mem_singleton rfl hf
      · simp at hf

theorem bodyDiagnostics_prune (s : Snapshot) (b : Block) :
    s.bodyDiagnostics (b.prune id) = (s.bodyDiagnostics b).filter Diagnostic.isOther := by
  by_cases container : b.takesBody
  · have nested : ∀ d ∈ s.bodyDiagnostics b, d.isOther := by
      intro d hd
      rw [Snapshot.bodyDiagnostics, if_pos container] at hd
      obtain ⟨c, -, rfl⟩ := List.mem_map.mp hd
      rfl
    rw [List.filter_eq_self.mpr nested, Snapshot.bodyDiagnostics, Snapshot.bodyDiagnostics,
      Block.takesBody_prune, if_pos container, if_pos container, Block.inner_prune,
      Block.visibleInner_of_takesBody container, Block.pruneAll_eq_map, List.filter_map,
      List.map_map]
    simp only [Function.comp_def, Block.type_prune, about_prune]
  · -- The block loses its body, and with it the complaint.
    have lost : s.bodyDiagnostics (b.prune id) = [] := by
      rw [Snapshot.bodyDiagnostics, Block.takesBody_prune, if_neg container, Block.inner_prune,
        Block.visibleInner_of_not_takesBody container]
      rfl
    rw [lost, Snapshot.bodyDiagnostics, if_neg container]
    split <;> rfl

theorem nestingDiagnostics_pruneAll (s : Snapshot) (blocks : List Block) :
    s.nestingDiagnostics (Block.pruneAll id blocks) =
      (s.nestingDiagnostics blocks).filter Diagnostic.isOther := by
  rw [Snapshot.nestingDiagnostics, Snapshot.nestingDiagnostics, Block.walk_pruneAll,
    List.flatMap_map, List.filter_flatMap]
  simp only [bodyDiagnostics_prune]

theorem isIgnoredBody_of_mem_slotFindings {kind : Builtin} {slot : String} {pin : Int}
    {f : Finding} (h : f ∈ slotFindings kind slot pin) : f.isIgnoredBody = false := by
  rw [slotFindings] at h
  split at h
  · exact isIgnoredBody_of_mem_singleton rfl h
  · split at h
    · exact isIgnoredBody_of_mem_singleton rfl h
    · simp at h

theorem pinDiagnostics_pruneAll (blocks : List Block) :
    pinDiagnostics (Block.pruneAll id blocks) =
      (pinDiagnostics blocks).filter Diagnostic.isOther := by
  rw [pinDiagnostics, Block.walk_pruneAll]
  refine flatMap_about_prune (fun b => ?_) (fun b f hf => ?_) (walk blocks)
  · rw [Block.pinFindings, Block.pinFindings, Block.builtin?_prune, Block.params_prune]
  · rw [Block.pinFindings] at hf
    split at hf
    · simp at hf
    · obtain ⟨slot, -, hf⟩ := List.mem_flatMap.mp hf
      split at hf
      · simp at hf
      · exact isIgnoredBody_of_mem_slotFindings hf

theorem isIgnoredBody_of_mem_roleFindings {bus role : String} {slot : Slot} {allowed : List Nat}
    {f : Finding} (h : f ∈ roleFindings bus role slot allowed) : f.isIgnoredBody = false := by
  rw [roleFindings] at h
  split at h
  · simp at h
  · split at h
    · simp at h
    · exact isIgnoredBody_of_mem_singleton rfl h

theorem isIgnoredBody_of_mem_routingFindings {b : Block} {f : Finding}
    (h : f ∈ b.routingFindings) : f.isIgnoredBody = false := by
  rw [Block.routingFindings] at h
  split at h
  · rw [SpiConfig.routingFindings] at h
    split at h
    · exact isIgnoredBody_of_mem_singleton rfl h
    · simp only [List.mem_append] at h
      rcases h with ((h | h) | h) | h <;> exact isIgnoredBody_of_mem_roleFindings h
  · rw [I2cConfig.routingFindings] at h
    split at h
    · exact isIgnoredBody_of_mem_singleton rfl h
    · rcases List.mem_append.mp h with h | h <;> exact isIgnoredBody_of_mem_roleFindings h
  · simp at h

theorem routingDiagnostics_pruneAll (blocks : List Block) :
    routingDiagnostics (Block.pruneAll id blocks) =
      (routingDiagnostics blocks).filter Diagnostic.isOther := by
  rw [routingDiagnostics, Block.pruneAll_eq_map]
  refine flatMap_about_prune (fun b => ?_) (fun _ _ => isIgnoredBody_of_mem_routingFindings) blocks
  rw [Block.prune_eq]
  rfl

theorem isIgnoredBody_of_mem_speedFindings {b : Block} {f : Finding}
    (h : f ∈ b.speedFindings) : f.isIgnoredBody = false := by
  rw [Block.speedFindings] at h
  split at h
  · obtain ⟨baud, -, rfl⟩ := Option.map_eq_some_iff.mp (Option.mem_toList.mp h)
    rfl
  · obtain ⟨baud, -, rfl⟩ := Option.map_eq_some_iff.mp (Option.mem_toList.mp h)
    rfl
  · simp at h

theorem speedDiagnostics_pruneAll (blocks : List Block) :
    speedDiagnostics (Block.pruneAll id blocks) =
      (speedDiagnostics blocks).filter Diagnostic.isOther := by
  rw [speedDiagnostics, Block.pruneAll_eq_map]
  refine flatMap_about_prune (fun b => ?_) (fun _ _ => isIgnoredBody_of_mem_speedFindings) blocks
  rw [Block.prune_eq]
  rfl

theorem inputDiagnostics_pruneAll (s : Snapshot) (blocks : List Block) :
    s.inputDiagnostics (Block.pruneAll id blocks) =
      (s.inputDiagnostics blocks).filter Diagnostic.isOther := by
  have asFindings (b : Block) : ((s.inputFindings b).map fun f => Diagnostic.about b (.input f)) =
      ((s.inputFindings b).map Finding.input).map (.about b) := by
    rw [List.map_map]
    rfl
  rw [Snapshot.inputDiagnostics, Snapshot.inputDiagnostics, Block.walk_pruneAll]
  simp only [asFindings]
  refine flatMap_about_prune (fun b => ?_) (fun b f hf => ?_) (walk blocks)
  · rw [Snapshot.inputFindings, Snapshot.inputFindings, Block.type_prune, Block.params_prune]
  · obtain ⟨g, -, rfl⟩ := List.mem_map.mp hf
    rfl

theorem conditionDiagnostics_pruneAll (blocks : List Block) :
    conditionDiagnostics (Block.pruneAll id blocks) =
      (conditionDiagnostics blocks).filter Diagnostic.isOther := by
  rw [conditionDiagnostics, Block.walk_pruneAll, List.filter_map]
  simp only [Function.comp_def, Block.builtin?_prune]
  refine flatMap_about_prune (fun b => ?_) (fun b f hf => ?_) _
  · rw [Block.prune_eq]
    rfl
  · rcases List.mem_append.mp hf with hf | hf
    · split at hf
      · exact isIgnoredBody_of_mem_singleton rfl hf
      · simp at hf
    · split at hf
      · simp at hf
      · exact isIgnoredBody_of_mem_singleton rfl hf

theorem unconfiguredDiagnostics_pruneAll (blocks : List Block) :
    unconfiguredDiagnostics (Block.pruneAll id blocks) =
      (unconfiguredDiagnostics blocks).filter Diagnostic.isOther := by
  have configured : configuredUnits (Block.pruneAll id blocks) = configuredUnits blocks := by
    rw [configuredUnits, configuredUnits, Block.pruneAll_eq_map, List.filterMap_map]
    congr 1
    funext b
    rw [Function.comp_apply, Block.prune_eq]
    rfl
  have used (b : Block) : (b.prune id).usedUnit? = b.usedUnit? := by
    rw [Block.prune_eq]
    rfl
  rw [unconfiguredDiagnostics, configured, Block.walk_pruneAll, List.filterMap_map,
    List.filter_eq_self.mpr]
  · simp only [unconfiguredDiagnostics, Function.comp_def, unconfiguredUnit?, used, about_prune,
      Block.type_prune]
  · intro d hd
    obtain ⟨b, -, hd⟩ := List.mem_filterMap.mp hd
    obtain ⟨u, -, rfl⟩ := Option.map_eq_some_iff.mp hd
    rfl

theorem functionName?_prune (b : Block) : functionName? (b.prune id) = functionName? b := by
  rw [functionName?, functionName?, Block.slot_prune]

theorem functionDefs_pruneAll (blocks : List Block) :
    functionDefs (Block.pruneAll id blocks) = (functionDefs blocks).map (Block.prune id) := by
  rw [functionDefs, functionDefs, Block.walk_pruneAll, List.filter_map]
  simp only [Function.comp_def, Block.builtin?_prune]

theorem isIgnoredBody_of_mem_nameFindings {earlier : List String} {name : String} {f : Finding}
    (h : f ∈ nameFindings earlier name) : f.isIgnoredBody = false := by
  rcases List.mem_append.mp h with h | h
  · split at h
    · simp at h
    · exact isIgnoredBody_of_mem_singleton rfl h
  · split at h
    · exact isIgnoredBody_of_mem_singleton rfl h
    · simp at h

theorem definitionDiagnostics_prune (earlier : List String) (blocks : List Block) :
    definitionDiagnostics earlier (blocks.map (Block.prune id)) =
      (definitionDiagnostics earlier blocks).filter Diagnostic.isOther := by
  induction blocks generalizing earlier with
  | nil => rfl
  | cons b rest ih =>
    rw [List.map_cons, definitionDiagnostics, definitionDiagnostics, functionName?_prune,
      about_prune]
    cases functionName? b with
    | none => rw [ih, List.filter_cons_of_pos rfl]
    | some name =>
      have own : ∀ d ∈ (nameFindings earlier name).map (Diagnostic.about b), d.isOther := fun _ =>
        isOther_of_mem_map_about fun _ => isIgnoredBody_of_mem_nameFindings
      simp only [ih, List.filter_append, List.filter_eq_self.mpr own]

theorem callDiagnostics_pruneAll (defined : List String) (blocks : List Block) :
    callDiagnostics defined (Block.pruneAll id blocks) =
      (callDiagnostics defined blocks).filter Diagnostic.isOther := by
  have target (b : Block) : callTarget (b.prune id) = callTarget b := by
    rw [callTarget, callTarget, Block.slot_prune]
  have own : ∀ d ∈ callDiagnostics defined blocks, d.isOther := by
    intro d hd
    obtain ⟨b, -, rfl⟩ := List.mem_map.mp hd
    rfl
  rw [List.filter_eq_self.mpr own, callDiagnostics, Block.walk_pruneAll]
  simp only [callDiagnostics, List.filter_map, List.map_map, Function.comp_def, target,
    about_prune, Block.builtin?_prune]

theorem functionDiagnostics_pruneAll (blocks : List Block) (modules : List String) :
    functionDiagnostics (Block.pruneAll id blocks) modules =
      (functionDiagnostics blocks modules).filter Diagnostic.isOther := by
  have names : definedNames (Block.pruneAll id blocks) modules = definedNames blocks modules := by
    rw [definedNames, definedNames, functionDefs_pruneAll, List.filterMap_map]
    simp only [Function.comp_def, functionName?_prune]
  rw [functionDiagnostics, functionDiagnostics, names, functionDefs_pruneAll,
    definitionDiagnostics_prune, callDiagnostics_pruneAll, List.filter_append]

theorem moduleDiagnostics_eq_filter (modules : List String) :
    moduleDiagnostics modules = (moduleDiagnostics modules).filter Diagnostic.isOther := by
  refine (List.filter_eq_self.mpr fun d hd => ?_).symm
  obtain ⟨name, -, rfl⟩ := List.mem_map.mp hd
  rfl

/-- With the ids kept, pruning takes the complaints about bodies where none may be out of the
diagnostics, and changes nothing else in them. -/
theorem diagnostics_pruneAll (s : Snapshot) (blocks : List Block) (modules : List String) :
    diagnostics s (Block.pruneAll id blocks) modules =
      (diagnostics s blocks modules).filter Diagnostic.isOther := by
  have ids : duplicateIds (Block.pruneAll id blocks) =
      (duplicateIds blocks).filter Diagnostic.isOther := by
    rw [duplicateIds, Block.walk_pruneAll, repeatedIds_prune, duplicateIds]
  rw [diagnostics, ids, typeDiagnostics_pruneAll, nestingDiagnostics_pruneAll,
    pinDiagnostics_pruneAll, routingDiagnostics_pruneAll, speedDiagnostics_pruneAll,
    unconfiguredDiagnostics_pruneAll, functionDiagnostics_pruneAll, conditionDiagnostics_pruneAll,
    inputDiagnostics_pruneAll, moduleDiagnostics_eq_filter, diagnostics]
  simp only [List.filter_append]

/-- A complaint about a body where none may be is no error. -/
theorem isError_and_isOther (d : Diagnostic) : (d.isError && d.isOther) = d.isError := by
  rw [Diagnostic.isError, Diagnostic.isOther]
  cases d.finding <;> simp [Finding.isError, Finding.isIgnoredBody]

/-- **Ids and dead bodies do not matter**: blocks may get any other ids, and blocks that are no
containers any other bodies, at any depth; the program and its libraries stay the same. With the
ids kept and such bodies emptied, the conflicts stay the same too, and of the report the warnings
about such bodies go away, and nothing else. -/
theorem ids_and_dead_bodies_do_not_matter (s : Snapshot) (blocks : List Block)
    (modules : List String) :
    (∀ (others : List Block) (heartbeat : Nat) (name : String), SameCode blocks others →
      Program.generate s heartbeat name others modules =
          Program.generate s heartbeat name blocks modules ∧
        Manifest.build s name others modules = Manifest.build s name blocks modules) ∧
    conflicts (Block.pruneAll id blocks) = conflicts blocks ∧
    Report.ofProgram s (Block.pruneAll id blocks) modules =
      { errors := (Report.ofProgram s blocks modules).errors
        warnings := (Report.ofProgram s blocks modules).warnings.filter fun d =>
          !d.finding.isIgnoredBody } := by
  refine ⟨fun others heartbeat name same => ?_, conflicts_pruneAll blocks, ?_⟩
  · -- Without ids and dead bodies the two programs are one, and nothing that is made of it changes.
    have pruned := Block.pruneAll_eq_of_sameCode same
    constructor
    · rw [← Block.generate_pruneAll (fun _ => "") s heartbeat name others, ← pruned,
        Block.generate_pruneAll]
    · rw [← Block.build_pruneAll (fun _ => "") s name others, ← pruned, Block.build_pruneAll]
  · rw [Report.ofProgram, Report.ofProgram, diagnostics_pruneAll]
    simp only [Report.ofList, List.filter_filter, isError_and_isOther, Report.mk.injEq, true_and]
    exact List.filter_congr fun d _ => Bool.and_comm _ _

/-- A pause is the same pause under another id and without the block in its body. -/
theorem pause_is_the_same_without_body :
    let pin : Block := ⟨"on", "gpio_set", [("pin", .integer 15)], []⟩
    let blocks : List Block :=
      [⟨"guard", "if_condition", [], [⟨"pause", "sleep", [("ms", .integer 20)], [pin]⟩, pin]⟩]
    let others : List Block :=
      [⟨"", "if_condition", [],
        [⟨"", "sleep", [("ms", .integer 20)], []⟩, { pin with inner := [pin] }]⟩]
    SameCode blocks others ∧
    Program.generate .bare defaultHeartbeat "demo" others [] =
      Program.generate .bare defaultHeartbeat "demo" blocks [] ∧
    Manifest.build .bare "demo" others [] = Manifest.build .bare "demo" blocks [] := by
  intro pin blocks others
  have same : SameCode blocks others :=
    .container rfl rfl (by decide)
      (.leaf rfl rfl (by decide) (.leaf rfl rfl (by decide) .nil)) .nil
  exact ⟨same, (ids_and_dead_bodies_do_not_matter .bare blocks []).1 others _ _ same⟩

end Blockware
