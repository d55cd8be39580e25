import Blockware.Proofs.PinRanges
import Blockware.Proofs.Program.Declarations
import Blockware.Proofs.Program.UnknownTypes
import Blockware.Proofs.Stored.Conflicts
import Mathlib.Data.List.TakeWhile

/-!
# Locals and their scopes

A program without modules has a scope for the part that runs once, for its loop, for the body of each
function and for the body of each conditional. The blocks of a scope are rendered one by one, so
whether a local is declared once in a scope depends on the blocks that stand in it side by side.

- `Scope`: the blocks that stand directly in the loop, in a function or in a conditional.
- `Block.directIn`: the lines of a scope that are in no deeper one.
- `Block.filterMap_directIn`, `filterMap_setupLines`: the locals that are declared in a scope.
- `locals_are_declared_once_iff`: a scope declares each local once exactly if no two of its blocks
  share one.
-/

namespace Blockware

/-! ### Scopes -/

/-- The blocks whose lines stand directly in one scope of a program, with the level of the scope's
outermost lines, whether the blocks stand in a body, and how many conditionals stand around them. -/
inductive Scope (s : Snapshot) (blocks : List Block) (p : Program) :
    Nat → Bool → Nat → List Block → Prop
  | loop : Scope s blocks p 2 false 0 (s.loopBlocks blocks)
  | function {f : Routine} {d : Block} (kept : f ∈ p.functions) (alive : d ∈ Block.live blocks)
    (own : d.routine? s = some f) : Scope s blocks p 1 true 0 d.inner
  | conditional {level : Nat} {nested : Bool} {depth : Nat} {bs : List Block} {c : Block}
    (outer : Scope s blocks p level nested depth bs) (there : c ∈ bs)
    (guard : c.builtin? = some .ifCondition) : Scope s blocks p level true (depth + 1) c.inner

namespace Block

variable {s : Snapshot} {nested : Bool} {depth : Nat} {blocks : List Block}

/-- The lines that stand directly in a scope: those of no deeper one. -/
def directIn (s : Snapshot) (nested : Bool) (depth : Nat) (blocks : List Block) : List PlacedLine :=
  (placedIn s nested depth blocks).filter fun q => q.visit.depth = depth

theorem le_depth_of_mem_placedIn {q : PlacedLine} (hq : q ∈ placedIn s nested depth blocks) :
    depth ≤ q.visit.depth := by
  induction blocks using program_induction generalizing nested depth with
  | nil => simp [placedIn] at hq
  | cons b rest ihInner ihRest =>
    rw [placedIn, List.mem_append] at hq
    rcases hq with first | later
    · rcases kind_cases b with h | h | h
      · simp [placedOf_functionDef h] at first
      · rw [placedOf_ifCondition h, List.cons_append, List.mem_cons, List.mem_append,
          List.mem_singleton] at first
        rcases first with rfl | inner | rfl
        · exact Nat.le_refl depth
        · exact Nat.le_of_succ_le (ihInner inner)
        · exact Nat.le_refl depth
      · rw [placedOf_leaf h, List.mem_map] at first
        obtain ⟨own, -, rfl⟩ := first
        exact Nat.le_refl depth
    · exact ihRest later

theorem directIn_cons (b : Block) (rest : List Block) :
    directIn s nested depth (b :: rest) =
      (b.ownLines s nested).map (fun own => ⟨⟨b, nested, depth⟩, own⟩) ++
        directIn s nested depth rest := by
  rw [directIn, placedIn, List.filter_append, directIn]
  congr 1
  rcases kind_cases b with h | h | h
  · rw [placedOf_functionDef h, ownLines_functionDef s h]
    rfl
  · -- Of a conditional only the guard and the closing brace stand in the scope itself.
    have deeper :
        (placedIn s true (depth + 1) b.inner).filter (fun q => q.visit.depth = depth) = [] := by
      refine List.filter_eq_nil_iff.mpr fun q hq => ?_
      have := le_depth_of_mem_placedIn hq
      simp only [decide_eq_true_eq]
      omega
    rw [placedOf_ifCondition h, ownLines_ifCondition s h, List.cons_append,
      List.filter_cons_of_pos (by simp), List.filter_append, deeper]
    simp
  · rw [placedOf_leaf h]
    exact List.filter_eq_self.mpr fun q hq => by
      obtain ⟨own, -, rfl⟩ := List.mem_map.mp hq
      simp

/-- The body of a conditional stands together among the lines around it. -/
theorem infix_placedIn {c : Block} (there : c ∈ blocks) (guard : c.builtin? = some .ifCondition) :
    placedIn s true (depth + 1) c.inner <:+: placedIn s nested depth blocks := by
  induction blocks with
  | nil => cases there
  | cons b rest ih =>
    rw [placedIn]
    rcases List.mem_cons.mp there with rfl | later
    · rw [placedOf_ifCondition guard]
      exact ⟨[⟨⟨c, nested, depth⟩, (Condition.ofBlock c).guardLine⟩],
        ⟨⟨c, nested, depth⟩, "\x7d"⟩ :: placedIn s nested depth rest, by simp⟩
    · exact (ih later).trans (List.suffix_append _ _).isInfix

/-- A line that is not of a conditional's body stands directly among the others. -/
theorem mem_directIn_or_inner {q : PlacedLine} (hq : q ∈ placedIn s nested depth blocks) :
    q ∈ directIn s nested depth blocks ∨
      ∃ c ∈ blocks, c.builtin? = some .ifCondition ∧ q ∈ placedIn s true (depth + 1) c.inner := by
  induction blocks with
  | nil => simp [placedIn] at hq
  | cons b rest ih =>
    rw [directIn_cons, List.mem_append]
    rw [placedIn, List.mem_append] at hq
    rcases hq with first | later
    · rcases kind_cases b with h | h | h
      · simp [placedOf_functionDef h] at first
      · rw [placedOf_ifCondition h, List.cons_append, List.mem_cons, List.mem_append,
          List.mem_singleton] at first
        rw [ownLines_ifCondition s h]
        rcases first with rfl | inner | rfl
        · exact Or.inl (Or.inl List.mem_cons_self)
        · exact Or.inr ⟨b, List.mem_cons_self, h, inner⟩
        · exact Or.inl (Or.inl (List.mem_cons_of_mem _ List.mem_cons_self))
      · rw [placedOf_leaf h] at first
        exact Or.inl (Or.inl first)
    · rcases ih later with direct | ⟨c, hc, guard, inner⟩
      · exact Or.inl (Or.inr direct)
      · exact Or.inr ⟨c, List.mem_cons_of_mem b hc, guard, inner⟩

end Block

namespace Scope

variable {s : Snapshot} {blocks bs : List Block} {p : Program} {level depth : Nat} {nested : Bool}

/-- The lines of a scope are part of the program. -/
theorem infix_lines {heartbeat : Nat} {projectName : String} {modules : List String}
    (h : Scope s blocks (Program.generate s heartbeat projectName blocks modules)
      level nested depth bs) :
    (Block.placedIn s nested depth bs).map (PlacedLine.text level) <:+:
      (Program.generate s heartbeat projectName blocks modules).lines := by
  induction h with
  | loop => exact Stretch.loop.infix_lines
  | function kept alive own => exact (Stretch.function kept alive own).infix_lines
  | conditional outer there guard ih =>
    exact ((Block.infix_placedIn there guard).map _).trans ih

/-- The blocks of a scope are visited. -/
theorem mem_walk (h : Scope s blocks p level nested depth bs) : ∀ b ∈ bs, b ∈ walk blocks := by
  rw [walk_eq_preorder]
  induction h with
  | loop =>
    intro b hb
    exact (Block.sublist_preorder blocks).subset (List.mem_filter.mp hb).1
  | @function f d kept alive own =>
    intro b hb
    have body := Block.takesBody_of_definedName? (Block.routine?_eq_some own).1
    exact Block.mem_preorder_trans (Block.mem_preorder_of_mem_live alive) body
      ((Block.sublist_preorder d.inner).subset hb)
  | @conditional level nested depth bs c outer there guard ih =>
    intro b hb
    have body : c.takesBody := Block.takesBody_iff.mpr (Or.inr guard)
    exact Block.mem_preorder_trans (ih c there) body ((Block.sublist_preorder c.inner).subset hb)

/-- At the top stand blocks of the loop. -/
theorem nested_or_loop (h : Scope s blocks p level nested depth bs) :
    nested = true ∨ ∀ b ∈ bs, s.isSetup b = false := by
  cases h with
  | loop => exact Or.inr fun b hb => Snapshot.isSetup_of_mem_loopBlocks hb
  | function | conditional => exact Or.inl rfl

/-- Each line of a scope stands directly in the scope, or in one inside of it. -/
theorem exists_direct {q : PlacedLine} (h : Scope s blocks p level nested depth bs)
    (hq : q ∈ Block.placedIn s nested depth bs) : ∃ nested' depth' bs',
      Scope s blocks p level nested' depth' bs' ∧ q ∈ Block.directIn s nested' depth' bs' := by
  obtain ⟨further, deep⟩ := Nat.exists_eq_add_of_le (Block.le_depth_of_mem_placedIn hq)
  -- How much further in the line stands decreases with each conditional around it.
  induction further generalizing nested depth bs with
  | zero => exact ⟨nested, depth, bs, h, List.mem_filter.mpr ⟨hq, by simp [deep]⟩⟩
  | succ n ih =>
    rcases Block.mem_directIn_or_inner hq with direct | ⟨c, hc, guard, inner⟩
    · exact ⟨nested, depth, bs, h, direct⟩
    · exact ih (h.conditional hc guard) inner (by omega)

end Scope

/-! ### What lines declare -/

/-- Indentation hides no declaration. -/
theorem filterMap_declaredLocal?_map_text (level : Nat) (placed : List PlacedLine) :
    (placed.map (PlacedLine.text level)).filterMap declaredLocal? =
      (placed.map PlacedLine.own).filterMap declaredLocal? := by
  induction placed with
  | nil => rfl
  | cons q rest ih =>
    rw [List.map_cons, List.map_cons, List.filterMap_cons, List.filterMap_cons, ih, PlacedLine.text,
      declaredLocal?_indent]

/-- The lines of blocks declare one local for each block that declares one. -/
theorem filterMap_flatMap_lines {bs : List Block} {lines : Block → List String}
    {name? : Block → Option String}
    (own : ∀ b ∈ bs, (lines b).filterMap declaredLocal? = (name? b).toList) :
    (bs.flatMap lines).filterMap declaredLocal? = bs.filterMap name? := by
  induction bs with
  | nil => rfl
  | cons b rest ih =>
    rw [List.flatMap_cons, List.filterMap_append, own b List.mem_cons_self,
      ih fun c hc => own c (List.mem_cons_of_mem b hc)]
    cases shown : name? b with
    | none => rw [List.filterMap_cons_none shown]; rfl
    | some x => rw [List.filterMap_cons_some shown]; rfl

/-- The lines directly in a scope are those that its blocks add by themselves. -/
theorem Block.map_own_directIn (s : Snapshot) (nested : Bool) (depth : Nat) (bs : List Block) :
    (directIn s nested depth bs).map PlacedLine.own = bs.flatMap (ownLines s nested) := by
  induction bs with
  | nil => rfl
  | cons b rest ih =>
    rw [directIn_cons, List.map_append, ih, List.flatMap_cons, List.map_map]
    congr 1
    exact List.map_id _

/-- The lines directly in a scope declare the locals of its blocks. -/
theorem Block.filterMap_directIn {nested : Bool} {bs : List Block} (level depth : Nat)
    (place : nested = true ∨ ∀ b ∈ bs, Snapshot.bare.isSetup b = false)
    (calls : ∀ b ∈ bs, b.builtin? = some .functionCall → isCName (callTarget b)) :
    ((directIn .bare nested depth bs).map (PlacedLine.text level)).filterMap declaredLocal? =
      bs.filterMap scopeLocal? := by
  rw [filterMap_declaredLocal?_map_text, map_own_directIn]
  refine filterMap_flatMap_lines fun b hb => ?_
  rw [filterMap_ownLines nested (calls b hb), scopeLocal?]
  rcases place with rfl | loop
  · cases Snapshot.bare.isSetup b <;> rfl
  · rw [loop b hb, Bool.and_false]
    rfl

/-- The code of a block that runs once declares its local, if it has one. -/
theorem Block.filterMap_setupCode {b : Block} (setup : Snapshot.bare.isSetup b) :
    (b.setupCode .bare).filterMap declaredLocal? = b.local?.toList := by
  have noCall : b.builtin? ≠ some .functionCall := fun call =>
    b.type_ne_of_isSetup setup .functionCall (by decide) (builtin?_eq_some_iff.mp call)
  rw [← ownLines_of_isSetup setup]
  exact filterMap_ownLines false fun call => absurd call noCall

/-- The pins that are set up as outputs declare nothing. -/
theorem filterMap_gpioInitPart (blocks : List Block) :
    (gpioInitPart blocks).filterMap declaredLocal? = [] := by
  refine Block.filterMap_of_beginsOther fun l hl => ?_
  rw [gpioInitPart] at hl
  split at hl
  · cases hl
  · rcases List.mem_cons.mp hl with rfl | init
    · decide
    · obtain ⟨pin, -, rfl⟩ := List.mem_map.mp init
      rw [Action.gpioInit]
      repeat apply BeginsOther.append
      decide

/-- The part that runs once declares the flag of the converter, if that is configured, and then the
slices of the configured pins. -/
theorem filterMap_setupLines (heartbeat : Nat) (projectName : String) (blocks : List Block) :
    (Program.generate .bare heartbeat projectName blocks []).setupLines.filterMap declaredLocal? =
      (if ∃ b ∈ blocks, b.type = "adc_config" then ["adc_initialized"] else []) ++
        (Snapshot.bare.setupBlocks blocks).filterMap Block.local? := by
  have flag : declaredLocal? "bool adc_initialized = false;" = some "adc_initialized" := by decide
  have none : knownModules [] = [] := rfl
  have code : ((Snapshot.bare.setupBlocks blocks).flatMap (Block.setupCode .bare)).filterMap
      declaredLocal? = (Snapshot.bare.setupBlocks blocks).filterMap Block.local? :=
    filterMap_flatMap_lines fun b hb => Block.filterMap_setupCode (List.mem_filter.mp hb).2
  rw [setupLines_generate, none, List.flatMap_nil, List.append_nil, List.filterMap_append,
    List.filterMap_append, filterMap_gpioInitPart, List.append_nil, code]
  congr 1
  split
  · rw [List.filterMap_cons_some flag]
    rfl
  · rfl

/-! ### What a valid program has -/

section Valid

variable {blocks : List Block} {modules : List String}

theorem not_isError_of_isValid {s : Snapshot} (valid : (Report.ofProgram s blocks modules).isValid) :
    ∀ d ∈ diagnostics s blocks modules, ¬ d.isError :=
  List.filter_eq_nil_iff.mp (List.isEmpty_iff.mp valid)

/-- A function whose name is no name in C is reported. -/
theorem badFunctionName_mem_definitionDiagnostics {earlier : List String} {defs : List Block}
    {b : Block} {name : String} (hb : b ∈ defs) (named : functionName? b = some name)
    (bad : ¬ isCName name) :
    Diagnostic.about b (.badFunctionName name) ∈ definitionDiagnostics earlier defs := by
  induction defs generalizing earlier with
  | nil => cases hb
  | cons c rest ih =>
    rw [definitionDiagnostics]
    rcases List.mem_cons.mp hb with rfl | later
    · rw [named]
      refine List.mem_append_left _ (List.mem_map.mpr ⟨_, ?_, rfl⟩)
      rw [nameFindings, if_neg bad]
      exact List.mem_append_left _ (List.mem_singleton_self _)
    · cases functionName? c with
      | none => exact List.mem_cons_of_mem _ (ih later)
      | some other => exact List.mem_append_right _ (ih later)

/-- Without modules, what a valid program calls has a name in C. -/
theorem isCName_of_isValid {s : Snapshot} (valid : (Report.ofProgram s blocks []).isValid) {b : Block}
    (visited : b ∈ walk blocks) (call : b.builtin? = some .functionCall) : isCName (callTarget b) := by
  have inFunctions (d : Diagnostic) (hd : d ∈ functionDiagnostics blocks []) : ¬ d.isError := by
    refine not_isError_of_isValid valid d ?_
    simp only [diagnostics, List.mem_append]
    tauto
  have known : callTarget b ∈ definedNames blocks [] := by
    by_contra missing
    exact inFunctions _ ((undefinedFunction_mem_functionDiagnostics visited call).mpr missing) rfl
  have none : moduleFunctionNames [] = [] := rfl
  rw [definedNames, none, List.nil_append, List.mem_filterMap] at known
  obtain ⟨f, hf, named⟩ := known
  -- The name of a known function is not checked at the call but at the definition.
  by_contra bad
  refine inFunctions (.about f (.badFunctionName (callTarget b))) ?_ rfl
  exact List.mem_append_left _ (badFunctionName_mem_definitionDiagnostics hf named bad)

/-- The top-level blocks of a valid program have different ids. -/
theorem pairwise_id_ne_of_isValid {s : Snapshot}
    (valid : (Report.ofProgram s blocks modules).isValid) :
    blocks.Pairwise fun a b => a.id ≠ b.id := by
  refine List.pairwise_iff_getElem.mpr fun i j hi hj apart same => ?_
  have twice := duplicateId_mem_of_getElem? apart (List.getElem?_eq_getElem hi)
    (List.getElem?_eq_getElem hj) same
  have reported : ⟨some blocks[i].id, .duplicateId blocks[i].id⟩ ∈ diagnostics s blocks modules := by
    simp only [diagnostics, List.mem_append]
    tauto
  exact not_isError_of_isValid valid _ reported rfl

/-- A number may stand in a name as a whole. -/
theorem nameAtStart_natural (n : Nat) : nameAtStart (toString n) = toString n := by
  have digits : ∀ c ∈ (toString n).toList, isNameChar c := by
    intro c hc
    have digit : c.isDigit := Nat.isDigit_of_mem_toDigits (by decide) (by decide) (Nat.toList_repr ▸ hc)
    rw [isNameChar, digit, Bool.or_true]
  rw [nameAtStart, List.takeWhile_eq_self_iff.mpr digits, String.ofList_toList]

/-- Where nothing is in conflict, configured pins that are numbers have slices of their own. -/
theorem pairwise_slices {s : Snapshot} (valid : (Report.ofProgram s blocks modules).isValid)
    (peaceful : conflicts blocks = []) :
    blocks.Pairwise fun a b => a.SharesSlice b →
      (a.slot "pin").pin? = none ∨ (b.slot "pin").pin? = none := by
  refine (pairwise_id_ne_of_isValid valid).imp_of_mem ?_
  rintro a b ha hb apart ⟨typeA, typeB, same⟩
  cases pinA : (a.slot "pin").pin? with
  | none => exact Or.inl rfl
  | some m =>
    cases pinB : (b.slot "pin").pin? with
    | none => exact Or.inr rfl
    | some n =>
      have claimed {c : Block} (type : c.type = "pwm_config") {p : Nat}
          (pin : (c.slot "pin").pin? = some p) : .pin p ∈ c.claims :=
        Block.pin_mem_claims_iff.mpr ⟨.pwmConfig, Block.builtin?_eq_some_iff.mpr type, rfl, "pin",
          List.mem_singleton_self _, pin⟩
      -- The texts of numbers tell the pins apart, so the slice is shared by two claims of one pin.
      rw [Slot.text_of_pin? pinA, Slot.text_of_pin? pinB, nameAtStart_natural, nameAtStart_natural]
        at same
      obtain rfl : m = n := Resource.toString_inj same
      have contested : .pin m ∈ (conflicts blocks).resources :=
        mem_resources_conflicts.mpr ⟨a, ha, b, hb, apart, claimed typeA pinA, claimed typeB pinB⟩
      rw [peaceful] at contested
      cases contested

end Valid

/-! ### Once or more -/

/-- A slice has another name than the flag of the converter. -/
theorem flag_not_mem_slices (blocks : List Block) :
    "adc_initialized" ∉ (Snapshot.bare.setupBlocks blocks).filterMap Block.local? := by
  intro there
  obtain ⟨b, hb, declared⟩ := List.mem_filterMap.mp there
  have name := ((Block.local?_eq_some_iff_of_isSetup (List.mem_filter.mp hb).2).mp declared).2
  exact Block.pinLocal_ne (by decide) (by decide) name.symm

/-- The part that runs once declares each local once exactly if no two blocks share a slice. -/
theorem nodup_setupLocals_iff (heartbeat : Nat) (projectName : String) (blocks : List Block) :
    ((Program.generate .bare heartbeat projectName blocks []).setupLines.filterMap
        declaredLocal?).Nodup ↔ blocks.Pairwise fun a b => ¬ a.SharesSlice b := by
  have runsOnce {b : Block} (type : b.type = "pwm_config") : Snapshot.bare.isSetup b := by
    have kind : b.builtin? = some .pwmConfig := Block.builtin?_eq_some_iff.mpr type
    exact (Snapshot.bare.isSetup_of_builtin kind).trans (by decide)
  have slices : ((Snapshot.bare.setupBlocks blocks).filterMap Block.local?).Nodup ↔
      blocks.Pairwise fun a b => ¬ a.SharesSlice b := by
    rw [nodup_filterMap_iff, Snapshot.setupBlocks, List.pairwise_filter]
    refine List.Pairwise.iff fun a b => ?_
    constructor
    · intro apart shared
      -- Blocks that share a slice run once, so the filter keeps both of them.
      exact apart (runsOnce shared.1) (runsOnce shared.2.1)
        ((Block.sharesSlice_iff (runsOnce shared.1) (runsOnce shared.2.1)).mp shared)
    · intro apart setupA setupB shared
      exact apart ((Block.sharesSlice_iff setupA setupB).mpr shared)
  rw [filterMap_setupLines, ← slices]
  split
  · rw [List.singleton_append, List.nodup_cons]
    exact and_iff_right (flag_not_mem_slices blocks)
  · rw [List.nil_append]

/-- Without modules, the functions of a program are those of live blocks. -/
theorem exists_live_of_mem_functions {s : Snapshot} {heartbeat : Nat} {projectName : String}
    {blocks : List Block} {f : Routine}
    (hf : f ∈ (Program.generate s heartbeat projectName blocks []).functions) :
    ∃ d ∈ Block.live blocks, d.routine? s = some f := by
  rw [functions_generate_eq_collect] at hf
  obtain ⟨d, complete, own⟩ := List.mem_filterMap.mp (Keyed.mem_of_mem_collect hf)
  exact ⟨d, (Block.completed_perm_live blocks).subset complete, own⟩

/-- **A local is declared once in a scope if and only if no two blocks of the scope share it.** In a
program without modules that has no errors and no conflicts:
- The part that runs once declares the flag of the converter at most once, and it declares each local
  once exactly if no two configurations share a slice; those at pins that are numbers never do.
- The loop and the body of each function consist of the lines of a scope, but for the heartbeat, which
  declares nothing. Each of the lines stands directly in the scope or directly in a conditional inside.
- Of the lines that stand directly in a scope, none declares a local again exactly if no two blocks
  of the scope read from buses of one kind or measure at one pin.

Blocks are rendered without regard to the ones beside them. Only the flag is declared ahead of all
configurations, for as many channels as there are. -/
theorem locals_are_declared_once_iff (heartbeat : Nat) (projectName : String) (blocks : List Block)
    (valid : (Report.ofProgram .bare blocks []).isValid) (peaceful : conflicts blocks = []) :
    let p := Program.generate .bare heartbeat projectName blocks []
    let loop := Block.placedIn .bare false 0 (Snapshot.bare.loopBlocks blocks)
    let beats := if ∀ b ∈ Snapshot.bare.loopBlocks blocks, b.type = "function_def" then
      [idleStatement heartbeat] else []
    (p.setupLines.map (indent 1) <:+: p.lines ∧
      (p.setupLines.filterMap declaredLocal?).count "adc_initialized" ≤ 1 ∧
      ((p.setupLines.filterMap declaredLocal?).Nodup ↔
        blocks.Pairwise fun a b => ¬ a.SharesSlice b) ∧
      blocks.Pairwise fun a b => a.SharesSlice b →
        (a.slot "pin").pin? = none ∨ (b.slot "pin").pin? = none) ∧
    (p.loopLines = loop.map (PlacedLine.text 0) ++ beats ∧
      beats.filterMap declaredLocal? = []) ∧
    (∀ f ∈ p.functions, ∃ d : Block, d.definedName? = some f.name ∧
      f.body = functionBody ((Block.placedIn .bare true 0 d.inner).map (PlacedLine.text 0)) ∧
      Scope .bare blocks p 1 true 0 d.inner) ∧
    ∀ level nested depth bs, Scope .bare blocks p level nested depth bs →
      let placed := Block.placedIn .bare nested depth bs
      let direct := Block.directIn .bare nested depth bs
      placed.map (PlacedLine.text level) <:+: p.lines ∧
      (∀ q ∈ placed, ∃ nested' depth' bs', Scope .bare blocks p level nested' depth' bs' ∧
        q ∈ Block.directIn .bare nested' depth' bs') ∧
      (((direct.map (PlacedLine.text level)).filterMap declaredLocal?).Nodup ↔
        bs.Pairwise fun a b => ¬ a.SharesReading b) := by
  intro p loop beats
  refine ⟨⟨p.infix_lines_setupLines, ?_, ?_, pairwise_slices valid peaceful⟩, ⟨?_, ?_⟩, ?_, ?_⟩
  · have slices := List.count_eq_zero.mpr (flag_not_mem_slices blocks)
    rw [filterMap_setupLines, List.count_append, slices]
    split <;> simp
  · exact nodup_setupLocals_iff heartbeat projectName blocks
  · have examples : (if blocks = [] then (knownModules []).flatMap BoardModule.exampleLoop else []) =
        [] := ite_self []
    have loopLines := loopLines_eq_placed .bare heartbeat projectName blocks []
    rw [examples, List.nil_append] at loopLines
    exact loopLines
  · have idle : BeginsOther (idleStatement heartbeat) := by
      rw [idleStatement]
      repeat apply BeginsOther.append
      decide
    refine Block.filterMap_of_beginsOther fun l hl => ?_
    rcases List.mem_ite_nil_right.mp hl with ⟨-, there⟩
    rw [List.mem_singleton.mp there]
    exact idle
  · intro f hf
    obtain ⟨d, alive, own⟩ := exists_live_of_mem_functions hf
    obtain ⟨defined, body⟩ := Block.routine?_eq_some own
    exact ⟨d, defined, body, .function hf alive own⟩
  · intro level nested depth bs scope placed direct
    -- Were the target of a call no name in C, the call might read like a declaration.
    refine ⟨scope.infix_lines, fun q hq => scope.exists_direct hq, ?_⟩
    have calls : ∀ b ∈ bs, b.builtin? = some .functionCall → isCName (callTarget b) := fun b hb =>
      isCName_of_isValid valid (scope.mem_walk b hb)
    rw [Block.filterMap_directIn level depth scope.nested_or_loop calls, nodup_filterMap_iff]
    simp only [Block.sharesReading_iff]

/-- A program that configures two pins, and reads into a buffer in the loop and in a conditional. -/
theorem readings_of_two_scopes_are_declared_once :
    let reading : Block := ⟨"inner", "spi_read", [], []⟩
    let guard : Block := ⟨"guard", "if_condition", [], [reading]⟩
    let loop : List Block := [⟨"outer", "spi_read", [], []⟩, guard]
    let blocks : List Block :=
      ⟨"left", "pwm_config", [("pin", .integer 2)], []⟩ ::
        ⟨"right", "pwm_config", [("pin", .integer 3)], []⟩ :: loop
    let p := Program.generate .bare defaultHeartbeat "demo" blocks []
    (Report.ofProgram .bare blocks []).isValid ∧ conflicts blocks = [] ∧
      (p.setupLines.filterMap declaredLocal?).Nodup ∧
      (((Block.directIn .bare false 0 loop).map (PlacedLine.text 2)).filterMap
        declaredLocal?).Nodup ∧
      (((Block.directIn .bare true 1 [reading]).map (PlacedLine.text 2)).filterMap
        declaredLocal?).Nodup := by
  intro reading guard loop blocks p
  have valid : (Report.ofProgram .bare blocks []).isValid := by decide +kernel
  have peaceful : conflicts blocks = [] := by decide +kernel
  have inLoop : Scope .bare blocks p 2 false 0 loop := .loop
  have inGuard : Scope .bare blocks p 2 true 1 guard.inner :=
    inLoop.conditional (List.mem_cons_of_mem _ (List.mem_singleton_self _)) rfl
  obtain ⟨⟨-, -, setup, -⟩, -, -, scopes⟩ :=
    locals_are_declared_once_iff defaultHeartbeat "demo" blocks valid peaceful
  refine ⟨valid, peaceful, setup.mpr ?_, (scopes 2 false 0 loop inLoop).2.2.mpr ?_,
    (scopes 2 true 1 [reading] inGuard).2.2.mpr ?_⟩ <;> decide

/-- Two readings side by side declare their buffer twice, in a program without errors and without
conflicts. -/
theorem two_readings_redeclare_their_buffer :
    let blocks : List Block := [⟨"a", "spi_read", [], []⟩, ⟨"b", "spi_read", [], []⟩]
    let p := Program.generate .bare defaultHeartbeat "demo" blocks []
    (Report.ofProgram .bare blocks []).isValid ∧ conflicts blocks = [] ∧
      p.loopLines.filterMap declaredLocal? = ["spi_rx_buf", "spi_rx_buf"] ∧
      p.lines.count "        uint8_t spi_rx_buf[1];" = 2 := by
  decide +kernel

end Blockware
