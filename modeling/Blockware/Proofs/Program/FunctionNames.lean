import Blockware.Diagnostic.Flow
import Blockware.Proofs.Program.FunctionTable

/-!
# Which functions exist

The names that a program defines, as the generator and as the diagnostics see them. The
generator leaves out a definition without a name together with its body. The diagnostics walk
into that body, and count a definition there like any other.

- `Block.live`: the blocks of which code is generated.
- `map_name_functions_emitAll_perm`: the functions lifted out are those that live blocks define.
- `mem_map_name_functions_generate`, `mem_definedNames`: the names on both sides.
- `OnlyHidden`: a name that is defined only where nothing is generated.
- `definedNames_agree_iff_not_onlyHidden`: on every other name the two sides agree, and on these
  they do not; what is said about calls follows.
-/

namespace Blockware

namespace Block

mutual

/-- A block and the blocks in its body of which code is generated. -/
def liveOf : Block → List Block
  | ⟨id, type, params, inner⟩ =>
    let b : Block := ⟨id, type, params, inner⟩
    b :: if b.takesBody && !b.isAnonymous then live inner else []

/-- The blocks of which code is generated: those of a walk that does not go into a function
without a name. -/
def live : List Block → List Block
  | [] => []
  | b :: rest => liveOf b ++ live rest

end

theorem live_cons (b : Block) (rest : List Block) :
    live (b :: rest) =
      b :: ((if b.takesBody && !b.isAnonymous then live b.inner else []) ++ live rest) := by
  obtain ⟨id, type, params, inner⟩ := b
  rw [live, liveOf, List.cons_append]

theorem takesBody_of_isAnonymous {b : Block} (h : b.isAnonymous) : b.takesBody :=
  takesBody_iff.mpr (Or.inl (isAnonymous_iff.mp h).1)

/-! ### Live blocks and hidden blocks -/

/-- The first block is live, and so are those in its body unless it is anonymous. -/
theorem mem_live_cons {b c : Block} {rest : List Block} :
    c ∈ live (b :: rest) ↔
      c = b ∨ (b.takesBody ∧ ¬ b.isAnonymous ∧ c ∈ live b.inner) ∨ c ∈ live rest := by
  rw [live_cons, List.mem_cons, List.mem_append]
  by_cases opens : b.takesBody && !b.isAnonymous
  · rw [if_pos opens]
    have both : b.takesBody ∧ ¬ b.isAnonymous := by simpa using opens
    simp [both.1, both.2]
  · rw [if_neg opens]
    have shut : b.takesBody → b.isAnonymous := by simpa using opens
    constructor
    · rintro (rfl | inner | later)
      · exact Or.inl rfl
      · cases inner
      · exact Or.inr (Or.inr later)
    · rintro (rfl | ⟨container, named, -⟩ | later)
      · exact Or.inl rfl
      · exact absurd (shut container) named
      · exact Or.inr (Or.inr later)

theorem mem_preorder_of_mem_live {f : Block} {blocks : List Block} (alive : f ∈ live blocks) :
    f ∈ preorder blocks := by
  induction blocks using program_induction with
  | nil => simp [live] at alive
  | cons b rest ihInner ihRest =>
    rw [mem_live_cons] at alive
    rw [mem_preorder_cons]
    rcases alive with rfl | ⟨container, -, inner⟩ | later
    · exact Or.inl rfl
    · exact Or.inr (Or.inl ⟨container, ihInner inner⟩)
    · exact Or.inr (Or.inr (ihRest later))

/-- A visited block is live, or it stands in the body of a function without a name. -/
theorem mem_live_or_hidden {f : Block} {blocks : List Block} (hf : f ∈ preorder blocks) :
    f ∈ live blocks ∨ ∃ u ∈ preorder blocks, u.isAnonymous ∧ f ∈ preorder u.inner := by
  induction blocks using program_induction with
  | nil => simp [preorder] at hf
  | cons b rest ihInner ihRest =>
    rw [mem_live_cons]
    rcases mem_preorder_cons.mp hf with rfl | ⟨container, inner⟩ | later
    · exact Or.inl (Or.inl rfl)
    · -- A function without a name hides all of its body, whatever is in there.
      by_cases h : b.isAnonymous
      · exact Or.inr ⟨b, mem_preorder_cons.mpr (Or.inl rfl), h, inner⟩
      · rcases ihInner inner with alive | ⟨u, hu, anonymous, hidden⟩
        · exact Or.inl (Or.inr (Or.inl ⟨container, h, alive⟩))
        · refine Or.inr ⟨u, ?_, anonymous, hidden⟩
          exact mem_preorder_cons.mpr (Or.inr (Or.inl ⟨container, hu⟩))
    · rcases ihRest later with alive | ⟨u, hu, anonymous, hidden⟩
      · exact Or.inl (Or.inr (Or.inr alive))
      · refine Or.inr ⟨u, ?_, anonymous, hidden⟩
        exact mem_preorder_cons.mpr (Or.inr (Or.inr hu))

/-- A walk visits the live blocks and those in the bodies of functions without a name. -/
theorem mem_preorder_iff_live {f : Block} {blocks : List Block} :
    f ∈ preorder blocks ↔
      f ∈ live blocks ∨ ∃ u ∈ preorder blocks, u.isAnonymous ∧ f ∈ preorder u.inner := by
  constructor
  · exact mem_live_or_hidden
  · rintro (alive | ⟨u, hu, anonymous, hidden⟩)
    · exact mem_preorder_of_mem_live alive
    · exact mem_preorder_trans hu (takesBody_of_isAnonymous anonymous) hidden

/-- Without functions that have no name, a walk visits live blocks only. -/
theorem live_eq_preorder {blocks : List Block}
    (named : ∀ b ∈ preorder blocks, ¬ b.isAnonymous) : live blocks = preorder blocks := by
  induction blocks using program_induction with
  | nil => rfl
  | cons b rest ihInner ihRest =>
    have first : ¬ b.isAnonymous := named b (mem_preorder_cons.mpr (Or.inl rfl))
    have later : live rest = preorder rest :=
      ihRest fun c hc => named c (mem_preorder_cons.mpr (Or.inr (Or.inr hc)))
    rw [live_cons, preorder_cons, later]
    by_cases container : b.takesBody
    · have inner : live b.inner = preorder b.inner :=
        ihInner fun c hc => named c (mem_preorder_cons.mpr (Or.inr (Or.inl ⟨container, hc⟩)))
      rw [visibleInner_of_takesBody container, if_pos (by simp [container, first]), inner]
    · rw [visibleInner_of_not_takesBody container, if_neg (by simp [container])]
      rfl

/-! ### The generator's side -/

/-- A block is live exactly if it is completed, only that a walk visits it before its body. -/
theorem completed_perm_live (blocks : List Block) : (completed blocks).Perm (live blocks) := by
  induction blocks using program_induction with
  | nil => exact List.Perm.refl []
  | cons b rest ihInner ihRest =>
    rw [completed_cons, live_cons]
    refine List.perm_middle.trans (List.Perm.cons b (List.Perm.append ?_ ihRest))
    split
    · exact ihInner
    · exact List.Perm.refl []

/-- The functions that blocks emit are those that live blocks define, each once. -/
theorem map_name_functions_emitAll_perm (s : Snapshot) (nested : Bool) (blocks : List Block) :
    ((emitAll s nested blocks).functions.map Routine.name).Perm
      ((live blocks).filterMap definedName?) := by
  rw [functions_emitAll, List.map_filterMap]
  simp only [map_name_routine?]
  exact (completed_perm_live blocks).filterMap definedName?

/-- The blocks that run once lift no function out. -/
theorem functions_emitAll_loopBlocks (s : Snapshot) (blocks : List Block) :
    (emitAll s false (s.loopBlocks blocks)).functions = (emitAll s false blocks).functions := by
  induction blocks with
  | nil => rfl
  | cons b rest ih =>
    rw [Snapshot.loopBlocks] at ih ⊢
    by_cases setup : s.isSetup b
    · have leaf : ¬ b.takesBody := not_takesBody_of_isSetup setup
      rw [List.filter_cons_of_neg (by simp [setup]), emitAll, Emission.functions_append,
        functions_emit_leaf s leaf, List.nil_append]
      exact ih
    · rw [List.filter_cons_of_pos (by simp [setup]), emitAll, emitAll, Emission.functions_append,
        Emission.functions_append, ih]

end Block

/-- The names of functions that modules bring are known to both sides. -/
theorem mem_map_name_moduleFunctions {name : String} {modules : List String} :
    name ∈ (moduleFunctions (knownModules modules)).map Routine.name ↔
      name ∈ moduleFunctionNames modules := by
  rw [moduleFunctionNames, List.mem_eraseDups, moduleFunctions, List.map_flatMap]
  simp [Function.comp_def]

/-- The generated functions are those of modules and those that live blocks define. -/
theorem mem_map_name_functions_generate (s : Snapshot) (heartbeat : Nat) (projectName : String)
    {blocks : List Block} {modules : List String} {name : String} :
    name ∈ (Program.generate s heartbeat projectName blocks modules).functions.map Routine.name ↔
      name ∈ moduleFunctionNames modules ∨
        ∃ f ∈ Block.live blocks, f.definedName? = some name := by
  have functions : (Program.generate s heartbeat projectName blocks modules).functions =
      Routine.collect (moduleFunctions (knownModules modules) ++
        (Block.emitAll s false (s.loopBlocks blocks)).functions) := rfl
  rw [functions, Routine.collect, Keyed.mem_map_key_collect, List.map_append, List.mem_append,
    mem_map_name_moduleFunctions, Block.functions_emitAll_loopBlocks,
    (Block.map_name_functions_emitAll_perm s false blocks).mem_iff, List.mem_filterMap]

/-! ### The diagnostics' side -/

theorem filterMap_functionDefs (blocks : List Block) :
    (functionDefs blocks).filterMap functionName? = (walk blocks).filterMap Block.definedName? := by
  rw [functionDefs, List.filterMap_filter]
  congr 1
  funext b
  rw [Block.definedName?]
  simp

/-- The diagnostics know the names of modules' functions and those that visited blocks define. -/
theorem mem_definedNames {blocks : List Block} {modules : List String} {name : String} :
    name ∈ definedNames blocks modules ↔
      name ∈ moduleFunctionNames modules ∨ ∃ f ∈ walk blocks, f.definedName? = some name := by
  rw [definedNames, List.mem_append, filterMap_functionDefs, List.mem_filterMap]

/-- What is wrong with definitions of functions is never that a function is missing. -/
theorem undefinedFunction_not_mem_definitionDiagnostics {earlier : List String}
    {blocks : List Block} {block : Option String} {name : String} :
    ⟨block, .undefinedFunction name⟩ ∉ definitionDiagnostics earlier blocks := by
  induction blocks generalizing earlier with
  | nil => simp [definitionDiagnostics]
  | cons b rest ih =>
    rw [definitionDiagnostics]
    cases functionName? b with
    | none => simp [Diagnostic.about, ih]
    | some name' =>
      have own : Finding.undefinedFunction name ∉ nameFindings earlier name' := by
        rw [nameFindings]
        split <;> split <;> simp
      simp [Diagnostic.about, ih, own]

/-- A visited call is reported exactly if its function is not among the known names. -/
theorem undefinedFunction_mem_functionDiagnostics {blocks : List Block} {modules : List String}
    {call : Block} (visited : call ∈ walk blocks) (isCall : call.builtin? = some .functionCall) :
    Diagnostic.about call (.undefinedFunction (callTarget call)) ∈
        functionDiagnostics blocks modules ↔
      callTarget call ∉ definedNames blocks modules := by
  rw [functionDiagnostics, List.mem_append, callDiagnostics]
  constructor
  · rintro (h | h)
    · exact absurd h undefinedFunction_not_mem_definitionDiagnostics
    · obtain ⟨other, hother, same⟩ := List.mem_map.mp h
      have target : callTarget other = callTarget call := by
        simp only [Diagnostic.about, Diagnostic.mk.injEq, Finding.undefinedFunction.injEq] at same
        exact same.2
      have missing := (List.mem_filter.mp hother).2
      rw [target] at missing
      simpa using missing
  · intro missing
    refine Or.inr (List.mem_map.mpr ⟨call, ?_, rfl⟩)
    rw [List.mem_filter, List.mem_filter]
    exact ⟨⟨visited, by simp [isCall]⟩, by simpa using missing⟩

/-! ### Agreement -/

/-- A name is defined only in bodies of functions without a name, which are not generated. -/
def OnlyHidden (blocks : List Block) (modules : List String) (name : String) : Prop :=
  (∃ u ∈ walk blocks, u.isAnonymous ∧ ∃ f ∈ walk u.inner, f.definedName? = some name) ∧
  name ∉ moduleFunctionNames modules ∧ ∀ f ∈ Block.live blocks, f.definedName? ≠ some name

/-- A name known to the diagnostics is generated or defined only where nothing is. -/
theorem mem_definedNames_iff_or_onlyHidden (s : Snapshot) (heartbeat : Nat) (projectName : String)
    {blocks : List Block} {modules : List String} {name : String} :
    name ∈ definedNames blocks modules ↔
      name ∈ (Program.generate s heartbeat projectName blocks modules).functions.map Routine.name ∨
        OnlyHidden blocks modules name := by
  rw [mem_definedNames, mem_map_name_functions_generate, OnlyHidden, walk_eq_preorder]
  constructor
  · rintro (ofModule | ⟨f, hf, defines⟩)
    · exact Or.inl (Or.inl ofModule)
    · by_cases generated : name ∈ moduleFunctionNames modules ∨
          ∃ g ∈ Block.live blocks, g.definedName? = some name
      · exact Or.inl generated
      · rw [not_or] at generated
        refine Or.inr ⟨?_, generated.1, fun g hg same => generated.2 ⟨g, hg, same⟩⟩
        rcases Block.mem_preorder_iff_live.mp hf with alive | ⟨u, hu, anonymous, hidden⟩
        · exact absurd ⟨f, alive, defines⟩ generated.2
        · refine ⟨u, hu, anonymous, f, ?_, defines⟩
          rw [walk_eq_preorder]
          exact hidden
  · rintro ((ofModule | ⟨f, alive, defines⟩) | ⟨⟨u, hu, anonymous, f, hidden, defines⟩, -, -⟩)
    · exact Or.inl ofModule
    · exact Or.inr ⟨f, Block.mem_preorder_iff_live.mpr (Or.inl alive), defines⟩
    · rw [walk_eq_preorder] at hidden
      exact Or.inr ⟨f, Block.mem_preorder_iff_live.mpr (Or.inr ⟨u, hu, anonymous, hidden⟩), defines⟩

/-- A name that is defined only where nothing is generated is not generated. -/
theorem not_mem_functions_of_onlyHidden (s : Snapshot) (heartbeat : Nat) (projectName : String)
    {blocks : List Block} {modules : List String} {name : String}
    (h : OnlyHidden blocks modules name) :
    name ∉
      (Program.generate s heartbeat projectName blocks modules).functions.map Routine.name := by
  rw [mem_map_name_functions_generate]
  rintro (ofModule | ⟨f, alive, defines⟩)
  · exact h.2.1 ofModule
  · exact h.2.2 f alive defines

/-- **Which functions exist**: the diagnostics know every generated function, and they agree
with the generator on a name exactly if it is not defined only in bodies of functions without a
name. For just these a call is not reported although no function of the name is generated. -/
theorem definedNames_agree_iff_not_onlyHidden (s : Snapshot) (heartbeat : Nat)
    (projectName : String) (blocks : List Block) (modules : List String) :
    let generated :=
      (Program.generate s heartbeat projectName blocks modules).functions.map Routine.name
    (∀ name ∈ generated, name ∈ definedNames blocks modules) ∧
    (∀ name, (name ∈ definedNames blocks modules ↔ name ∈ generated) ↔
      ¬ OnlyHidden blocks modules name) ∧
    (∀ call ∈ walk blocks, call.builtin? = some .functionCall →
      ((Diagnostic.about call (.undefinedFunction (callTarget call)) ∈
          functionDiagnostics blocks modules ↔ callTarget call ∉ generated) ↔
        ¬ OnlyHidden blocks modules (callTarget call))) := by
  intro generated
  have agree : ∀ name, (name ∈ definedNames blocks modules ↔ name ∈ generated) ↔
      ¬ OnlyHidden blocks modules name := by
    intro name
    rw [mem_definedNames_iff_or_onlyHidden s heartbeat projectName]
    constructor
    · intro same hidden
      exact not_mem_functions_of_onlyHidden s heartbeat projectName hidden (same.mp (Or.inr hidden))
    · intro notHidden
      exact or_iff_left notHidden
  refine ⟨fun name h => ?_, agree, fun call visited isCall => ?_⟩
  · exact (mem_definedNames_iff_or_onlyHidden s heartbeat projectName).mpr (Or.inl h)
  · rw [undefinedFunction_mem_functionDiagnostics visited isCall, ← agree]
    exact Decidable.not_iff_not

/-- On a function that a conditional holds the two sides agree. -/
theorem call_of_function_in_conditional_agrees :
    let call : Block := ⟨"call", "function_call", [("ref", .string "blink")], []⟩
    let blocks : List Block :=
      [⟨"guard", "if_condition", [],
        [⟨"blink", "function_def", [("name", .string "blink")], []⟩]⟩, call]
    call ∈ walk blocks ∧ call.builtin? = some .functionCall ∧
    (Diagnostic.about call (.undefinedFunction (callTarget call)) ∈
        functionDiagnostics blocks [] ↔
      callTarget call ∉ (Program.generate .bare defaultHeartbeat "demo" blocks []).functions.map
        Routine.name) := by
  intro call blocks
  have visited : call ∈ walk blocks := by
    rw [walk_eq_preorder]
    exact Block.mem_preorder_cons.mpr (Or.inr (Or.inr (Block.mem_preorder_cons.mpr (Or.inl rfl))))
  have alive : (⟨"blink", "function_def", [("name", .string "blink")], []⟩ : Block) ∈
      Block.live blocks :=
    Block.mem_live_cons.mpr (Or.inr (Or.inl
      ⟨by decide, by decide, Block.mem_live_cons.mpr (Or.inl rfl)⟩))
  have notHidden : ¬ OnlyHidden blocks [] (callTarget call) := by
    intro hidden
    exact hidden.2.2 _ alive (by decide)
  refine ⟨visited, by decide, ?_⟩
  exact ((definedNames_agree_iff_not_onlyHidden .bare defaultHeartbeat "demo" blocks []).2.2
    call visited (by decide)).mpr notHidden

/-- A function in the body of one without a name is known to the diagnostics, so a call of it is
not reported; but it is not generated. -/
theorem hidden_function_known_but_not_generated :
    let blocks : List Block :=
      [⟨"outer", "function_def", [],
        [⟨"inner", "function_def", [("name", .string "blink")], []⟩]⟩,
      ⟨"call", "function_call", [("ref", .string "blink")], []⟩]
    "blink" ∈ definedNames blocks [] ∧
    "blink" ∉
      (Program.generate .bare defaultHeartbeat "demo" blocks []).functions.map Routine.name ∧
    ⟨some "call", .undefinedFunction "blink"⟩ ∉ functionDiagnostics blocks [] := by
  simp only [functionDiagnostics, definedNames, callDiagnostics, functionDefs, walk_eq_preorder]
  decide

end Blockware
