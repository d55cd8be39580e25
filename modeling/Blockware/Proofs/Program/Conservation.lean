import Blockware.Proofs.Program.FunctionNames

/-!
# No block is lost or duplicated

A program is made of three streams: the part that runs once, the main loop, and the functions
lifted out of it. Together they hold what the visited blocks add by themselves, line by line and
each once.

- `Emission.Accounts`: an emission holds exactly the lines of some visits. This is what the
  induction over a program carries.
- `Emission.accounts_emitAll`: what blocks emit accounts for the visits to them.
- `generate_conserves_blocks`: the same for whole programs. Beyond the lines of the visits there
  are only the examples of modules, the heartbeat, and the placeholders of empty functions.

Definitions of one name replace one another and a definition without a name is left out, so both
are ruled out there.
-/

namespace Blockware

/-! ### Indentation -/

theorem indent_zero (line : String) : indent 0 line = line := by
  rw [indent]
  split
  · rename_i blank
    exact (String.isEmpty_iff.mp blank).symm
  · simp

theorem map_indent_zero (lines : List String) : lines.map (indent 0) = lines := by
  rw [List.map_congr_left fun line _ => indent_zero line, List.map_id']

/-- Indenting twice adds up. -/
theorem indent_indent (outer inner : Nat) (line : String) :
    indent outer (indent inner line) = indent (outer + inner) line := by
  by_cases blank : line.isEmpty
  · simp [indent, blank]
  · have shown : (String.ofList (List.replicate (4 * inner) ' ') ++ line).isEmpty = false := by
      rw [String.isEmpty_iff] at blank
      simp [blank]
    rw [indent, indent, if_neg blank, shown, indent, if_neg blank, ← String.append_assoc,
      ← String.ofList_append, List.replicate_append_replicate, ← Nat.mul_add]
    rfl

theorem map_indent_indent (outer inner : Nat) (lines : List String) :
    (lines.map (indent inner)).map (indent outer) = lines.map (indent (outer + inner)) := by
  rw [List.map_map]
  exact List.map_congr_left fun line _ => indent_indent outer inner line

/-- The body of a function has its lines, or a placeholder if there are none. -/
theorem count_functionBody (line : String) (lines : List String) :
    (functionBody lines).count line =
      lines.count line + (if lines.isEmpty then ["// Empty function"] else []).count line := by
  rw [functionBody]
  cases lines with
  | nil => simp
  | cons first rest => simp

/-! ### Hollow functions -/

namespace Block

/-- A block in a body emits a line where it stands exactly if it has one of its own. -/
theorem lines_emit_eq_nil_iff (s : Snapshot) (b : Block) :
    (b.emit s true).lines = [] ↔ b.ownLines s true = [] := by
  rcases kind_cases b with h | h | h
  · rw [ownLines_functionDef s h]
    cases name : functionName? b with
    | none => rw [emit_anonymous s h name]
    | some name' => rw [emit_functionDef s h name]
  · rw [ownLines_ifCondition s h, emit_ifCondition s h]
    simp
  · rw [emit_leaf h (Or.inl rfl)]

/-- A body emits no line exactly if none of its blocks has a line of its own. -/
theorem lines_emitAll_eq_nil_iff (s : Snapshot) (blocks : List Block) :
    (emitAll s true blocks).lines = [] ↔ ∀ c ∈ blocks, c.ownLines s true = [] := by
  induction blocks with
  | nil => simp [emitAll]
  | cons b rest ih =>
    rw [emitAll, Emission.lines_append, List.append_eq_nil_iff, ih, lines_emit_eq_nil_iff,
      List.forall_mem_cons]

theorem isHollow_functionDef (s : Snapshot) {b : Block} (h : b.builtin? = some .functionDef) :
    b.isHollow s = (emitAll s true b.inner).lines.isEmpty := by
  rw [Bool.eq_iff_iff, List.isEmpty_iff, lines_emitAll_eq_nil_iff, isHollow, h]
  simp

theorem isHollow_of_ne {s : Snapshot} {b : Block} (h : b.builtin? ≠ some .functionDef) :
    b.isHollow s = false := by
  rw [isHollow, decide_eq_false h, Bool.false_and]

end Block

/-! ### The invariant -/

namespace Emission

/-- An emission whose lines stand at some depth holds what some visits add, and nothing else. -/
def Accounts (s : Snapshot) (depth : Nat) (e : Emission) (vs : List Visit) : Prop :=
  (e.lines.map (indent depth) ++ e.functions.flatMap Routine.body).Perm
    (vs.flatMap (Visit.lines s) ++ vs.flatMap (Visit.placeholder s))

variable {s : Snapshot} {depth : Nat}

theorem accounts_nil : Accounts s depth {} [] := List.Perm.refl []

/-- Emissions that follow one another account for the visits to both. -/
theorem Accounts.append {e f : Emission} {vs ws : List Visit} (he : Accounts s depth e vs)
    (hf : Accounts s depth f ws) : Accounts s depth (e ++ f) (vs ++ ws) := by
  rw [Accounts, List.perm_iff_count] at he hf ⊢
  intro line
  have left := he line
  have right := hf line
  simp only [lines_append, functions_append, List.map_append, List.flatMap_append,
    List.count_append] at left right ⊢
  omega

/-- The function made of a body accounts for its definition and for the visits to the body. -/
theorem accounts_functionDef {b : Block} {name : String} {vs : List Visit} {nested : Bool}
    (h : b.builtin? = some .functionDef) (named : functionName? b = some name)
    (body : Accounts s 0 (Block.emitAll s true b.inner) vs) :
    Accounts s depth (b.emit s nested) (⟨b, nested, depth⟩ :: vs) := by
  rw [Accounts, List.perm_iff_count] at body ⊢
  intro line
  have inner := body line
  -- The lines move into the function, so its definition adds at most the placeholder.
  have placed : Visit.placeholder s ⟨b, nested, depth⟩ =
      if (Block.emitAll s true b.inner).lines.isEmpty then ["// Empty function"] else [] := by
    rw [Visit.placeholder, Block.isHollow_functionDef s h]
  have own : Visit.lines s ⟨b, nested, depth⟩ = [] := by
    rw [Visit.lines, Block.ownLines_functionDef s h, List.map_nil]
  simp only [Block.emit_functionDef s h named, List.map_nil, List.nil_append,
    List.flatMap_append, List.flatMap_cons, List.flatMap_nil, List.append_nil, own, placed,
    List.count_append, count_functionBody, map_indent_zero] at inner ⊢
  omega

/-- A conditional accounts for itself and, one level further in, for the visits to its body. -/
theorem accounts_ifCondition {b : Block} {vs : List Visit} {nested : Bool}
    (h : b.builtin? = some .ifCondition)
    (body : Accounts s (depth + 1) (Block.emitAll s true b.inner) vs) :
    Accounts s depth (b.emit s nested) (⟨b, nested, depth⟩ :: vs) := by
  rw [Accounts, List.perm_iff_count] at body ⊢
  intro line
  have inner := body line
  have placed : Visit.placeholder s ⟨b, nested, depth⟩ = [] := by
    rw [Visit.placeholder, Block.isHollow_of_ne (by rw [h]; decide)]
    rfl
  have own : Visit.lines s ⟨b, nested, depth⟩ =
      [indent depth (Condition.ofBlock b).guardLine, indent depth "\x7d"] := by
    rw [Visit.lines, Block.ownLines_ifCondition s h]
    rfl
  simp only [Block.emit_ifCondition s h, List.map_append, List.map_cons, List.map_nil,
    map_indent_indent, List.flatMap_cons, own, placed, List.nil_append, List.count_append,
    List.count_cons, List.count_nil, List.cons_append] at inner ⊢
  omega

/-- Any other block accounts for itself. -/
theorem accounts_leaf {b : Block} {nested : Bool} (h : ¬ b.takesBody)
    (place : nested = true ∨ s.isSetup b = false) :
    Accounts s depth (b.emit s nested) [⟨b, nested, depth⟩] := by
  have placed : Visit.placeholder s ⟨b, nested, depth⟩ = [] := by
    rw [Visit.placeholder,
      Block.isHollow_of_ne fun isDef => h (Block.takesBody_iff.mpr (Or.inl isDef))]
    rfl
  rw [Accounts, Block.emit_leaf h place]
  simp [Visit.lines, placed]

/-- What blocks emit accounts for the visits to them, in a body or in the main loop. -/
theorem accounts_emitAll {blocks : List Block} {nested : Bool}
    (named : ∀ b ∈ Block.preorder blocks, b.builtin? = some .functionDef →
      (functionName? b).isSome)
    (place : nested = true ∨ ∀ b ∈ blocks, s.isSetup b = false) :
    Accounts s depth (Block.emitAll s nested blocks) (Block.visitsIn nested depth blocks) := by
  -- The depth changes on the way into a body: one more in a conditional, none in a function.
  induction blocks using Block.program_induction generalizing nested depth with
  | nil => exact accounts_nil
  | cons b rest ihInner ihRest =>
    rw [Block.emitAll, Block.visitsIn]
    have namedRest : ∀ c ∈ Block.preorder rest, c.builtin? = some .functionDef →
        (functionName? c).isSome := fun c hc =>
      named c (Block.mem_preorder_cons.mpr (Or.inr (Or.inr hc)))
    have namedInner : b.takesBody → ∀ c ∈ Block.preorder b.inner,
        c.builtin? = some .functionDef → (functionName? c).isSome := fun body c hc =>
      named c (Block.mem_preorder_cons.mpr (Or.inr (Or.inl ⟨body, hc⟩)))
    have placeRest : nested = true ∨ ∀ c ∈ rest, s.isSetup c = false :=
      place.imp_right fun loop c hc => loop c (List.mem_cons_of_mem b hc)
    refine Accounts.append ?_ (ihRest namedRest placeRest)
    rcases Block.kind_cases b with h | h | h
    · have isNamed := named b (Block.mem_preorder_cons.mpr (Or.inl rfl)) h
      obtain ⟨name, hname⟩ := Option.isSome_iff_exists.mp isNamed
      rw [Block.visitsOf_functionDef h]
      exact accounts_functionDef h hname
        (ihInner (namedInner (Block.takesBody_iff.mpr (Or.inl h))) (Or.inl rfl))
    · rw [Block.visitsOf_ifCondition h]
      exact accounts_ifCondition h
        (ihInner (namedInner (Block.takesBody_iff.mpr (Or.inr h))) (Or.inl rfl))
    · rw [Block.visitsOf_leaf h]
      exact accounts_leaf h (place.imp_right fun loop => loop b List.mem_cons_self)

end Emission

/-! ### Functions that stay -/

/-- Whether a function was lifted out of blocks. -/
def Routine.isLifted (f : Routine) : Bool := f.origin = .block

namespace Block

theorem isLifted_of_mem_functions_emitAll {s : Snapshot} {nested : Bool} {blocks : List Block}
    {f : Routine} (h : f ∈ (emitAll s nested blocks).functions) : f.isLifted := by
  induction blocks using program_induction generalizing nested with
  | nil => simp [emitAll] at h
  | cons b rest ihInner ihRest =>
    rw [emitAll, Emission.functions_append, List.mem_append] at h
    rcases h with own | later
    · rcases kind_cases b with kind | kind | kind
      · cases name : functionName? b with
        | none =>
          rw [emit_anonymous s kind name] at own
          simp at own
        | some name' =>
          rw [emit_functionDef s kind name, List.mem_append] at own
          rcases own with inner | last
          · exact ihInner inner
          · rw [List.mem_singleton.mp last]
            rfl
      · rw [emit_ifCondition s kind] at own
        exact ihInner own
      · rw [functions_emit_leaf s kind] at own
        simp at own
    · exact ihRest later

end Block

theorem not_isLifted_of_mem_moduleFunctions {modules : List BoardModule} {f : Routine}
    (h : f ∈ moduleFunctions modules) : f.isLifted = false := by
  rw [moduleFunctions] at h
  obtain ⟨m, -, hf⟩ := List.mem_flatMap.mp h
  obtain ⟨g, -, rfl⟩ := List.mem_map.mp hf
  rfl

/-- Functions with names of their own all stay in the program, whatever the modules bring. -/
theorem filter_isLifted_collect_perm {modules : List BoardModule} {fs : List Routine}
    (lifted : ∀ f ∈ fs, f.isLifted) (distinct : (fs.map Routine.name).Nodup) :
    ((Routine.collect (moduleFunctions modules ++ fs)).filter Routine.isLifted).Perm fs := by
  -- What a function from the blocks replaces is one of a module, which fails the test.
  have ofModules : ∀ f ∈ Keyed.collect Routine.name (moduleFunctions modules),
      f.isLifted = false := fun f hf =>
    not_isLifted_of_mem_moduleFunctions (Keyed.mem_of_mem_collect hf)
  have kept := Keyed.filter_foldl_put_perm lifted distinct
    fun f hf isLifted => by
      rw [ofModules f hf] at isLifted
      cases isLifted
  have none : (Keyed.collect Routine.name (moduleFunctions modules)).filter Routine.isLifted = [] :=
    List.filter_eq_nil_iff.mpr fun f hf => by simp [ofModules f hf]
  rw [none, List.nil_append] at kept
  rw [Routine.collect, Keyed.collect, List.foldl_append]
  exact kept

/-- The top-level blocks are those that run once and those of the loop. -/
theorem visits_perm (s : Snapshot) (blocks : List Block) :
    (Block.visits blocks).Perm
      (Block.visitsIn false 0 (s.setupBlocks blocks) ++
        Block.visitsIn false 0 (s.loopBlocks blocks)) := by
  rw [Block.visits, Block.visitsIn_eq_flatMap, Block.visitsIn_eq_flatMap,
    Block.visitsIn_eq_flatMap, ← List.flatMap_append]
  exact (List.filter_append_perm s.isSetup blocks).symm.flatMap_right _

/-- The blocks that run once add the code of that part, and no placeholder. -/
theorem visitsIn_setup {s : Snapshot} {blocks : List Block} (h : ∀ b ∈ blocks, s.isSetup b) :
    (Block.visitsIn false 0 blocks).flatMap (Visit.lines s) =
        blocks.flatMap (Block.setupCode s) ∧
      (Block.visitsIn false 0 blocks).flatMap (Visit.placeholder s) = [] := by
  induction blocks with
  | nil => exact ⟨rfl, rfl⟩
  | cons b rest ih =>
    obtain ⟨lines, placeholders⟩ := ih fun c hc => h c (List.mem_cons_of_mem b hc)
    have setup := h b List.mem_cons_self
    have leaf : ¬ b.takesBody := Block.not_takesBody_of_isSetup setup
    have isDef : b.builtin? ≠ some .functionDef := fun isDef =>
      leaf (Block.takesBody_iff.mpr (Or.inl isDef))
    rw [Block.visitsIn, Block.visitsOf_leaf leaf]
    constructor
    · rw [List.flatMap_append, lines, List.flatMap_singleton, List.flatMap_cons, Visit.lines,
        Block.ownLines_of_isSetup setup, map_indent_zero]
    · rw [List.flatMap_append, placeholders, List.flatMap_singleton, Visit.placeholder,
        Block.isHollow_of_ne isDef]
      rfl

/-! ### The streams of a program -/

section Streams

variable (s : Snapshot) {blocks : List Block}

/-- With names for all definitions, each of them is lifted out of the loop under its name. -/
theorem map_name_functions_loopBlocks_perm
    (named : ∀ b ∈ functionDefs blocks, (functionName? b).isSome) :
    ((Block.emitAll s false (s.loopBlocks blocks)).functions.map Routine.name).Perm
      ((functionDefs blocks).filterMap functionName?) := by
  have live : Block.live blocks = Block.preorder blocks := by
    refine Block.live_eq_preorder fun b hb anonymous => ?_
    obtain ⟨isDef, noName⟩ := Block.isAnonymous_iff.mp anonymous
    have isNamed := named b (List.mem_filter.mpr ⟨by rwa [walk_eq_preorder], by simp [isDef]⟩)
    rw [noName] at isNamed
    cases isNamed
  rw [Block.functions_emitAll_loopBlocks, filterMap_functionDefs, walk_eq_preorder, ← live]
  exact Block.map_name_functions_emitAll_perm s false blocks

/-- The code of the part that runs once, the lines in the loop and the functions lifted out of
it hold what the visits to all blocks add. -/
theorem streams_perm (named : ∀ b ∈ functionDefs blocks, (functionName? b).isSome) :
    ((s.setupBlocks blocks).flatMap (Block.setupCode s) ++
        (Block.emitAll s false (s.loopBlocks blocks)).lines ++
        (Block.emitAll s false (s.loopBlocks blocks)).functions.flatMap Routine.body).Perm
      ((Block.visits blocks).flatMap (Visit.lines s) ++
        (Block.visits blocks).flatMap (Visit.placeholder s)) := by
  have loop : Emission.Accounts s 0 (Block.emitAll s false (s.loopBlocks blocks))
      (Block.visitsIn false 0 (s.loopBlocks blocks)) := by
    refine Emission.accounts_emitAll ?_ (Or.inr fun b hb => ?_)
    · intro b hb isDef
      have visited : b ∈ walk blocks := by
        rw [walk_eq_preorder]
        exact Block.mem_preorder_of_filter hb
      exact named b (List.mem_filter.mpr ⟨visited, by simp [isDef]⟩)
    · simpa using (List.mem_filter.mp hb).2
  have setup : ∀ b ∈ s.setupBlocks blocks, s.isSetup b := fun b hb => (List.mem_filter.mp hb).2
  obtain ⟨setupLines, setupPlaceholders⟩ := visitsIn_setup setup
  -- The visits split as the top-level blocks do; the rest is counting one line on both sides.
  rw [Emission.Accounts, map_indent_zero, List.perm_iff_count] at loop
  rw [List.perm_iff_count]
  intro line
  have lines := ((visits_perm s blocks).flatMap_right (Visit.lines s)).count_eq line
  have placeholders := ((visits_perm s blocks).flatMap_right (Visit.placeholder s)).count_eq line
  have inLoop := loop line
  rw [List.flatMap_append, setupLines] at lines
  rw [List.flatMap_append, setupPlaceholders] at placeholders
  simp only [List.count_append, List.count_nil] at lines placeholders inLoop ⊢
  omega

end Streams

/-! ### Whole programs -/

/-- **No block is lost or duplicated**: if every definition of a function has a name, and no two
of them the same one, then the code of the blocks in the part that runs once, the main loop and
the bodies of the functions lifted out of blocks hold together exactly the lines of the visited
blocks, each behind the indentation of its place. Besides, there are only placeholders of empty
functions, the examples of modules, and the heartbeat. Each definition has exactly one function
of its name. -/
theorem generate_conserves_blocks (s : Snapshot) (heartbeat : Nat) (projectName : String)
    (blocks : List Block) (modules : List String)
    (named : ∀ b ∈ functionDefs blocks, (functionName? b).isSome)
    (distinct : ((functionDefs blocks).filterMap functionName?).Nodup) :
    let p := Program.generate s heartbeat projectName blocks modules
    let known := knownModules modules
    let setup := (s.setupBlocks blocks).flatMap (Block.setupCode s)
    let lifted := p.functions.filter Routine.isLifted
    (Block.visits blocks).map Visit.block = walk blocks ∧
    p.setupLines = ((s.setupBlocks blocks).filterMap Block.flag?).eraseDups ++
      known.flatMap BoardModule.setup ++ setup ++ gpioInitPart blocks ∧
    (setup ++ p.loopLines ++ lifted.flatMap Routine.body).Perm
      ((Block.visits blocks).flatMap (Visit.lines s) ++
        (Block.visits blocks).flatMap (Visit.placeholder s) ++
        (if blocks.isEmpty then known.flatMap BoardModule.exampleLoop else []) ++
        (if (s.loopBlocks blocks).all fun b => s.isFunctionDef b.type then
          [idleStatement heartbeat] else [])) ∧
    (lifted.map Routine.name).Perm ((functionDefs blocks).filterMap functionName?) ∧
    (p.functions.map Routine.name).Nodup := by
  intro p known setup lifted
  have names := map_name_functions_loopBlocks_perm s named
  have kept : lifted.Perm (Block.emitAll s false (s.loopBlocks blocks)).functions :=
    filter_isLifted_collect_perm (fun _ => Block.isLifted_of_mem_functions_emitAll)
      (names.nodup_iff.mpr distinct)
  refine ⟨Block.map_block_visits blocks, rfl, ?_, (kept.map _).trans names, ?_⟩
  · have loopLines : p.loopLines =
        (if blocks.isEmpty then known.flatMap BoardModule.exampleLoop else []) ++
          (Block.emitAll s false (s.loopBlocks blocks)).lines ++
          (if (s.loopBlocks blocks).all fun b => s.isFunctionDef b.type then
            [idleStatement heartbeat] else []) := rfl
    rw [List.perm_iff_count]
    intro line
    have streams := (streams_perm s named).count_eq line
    have bodies := (kept.flatMap_right Routine.body).count_eq line
    rw [loopLines]
    simp only [List.count_append] at streams ⊢
    rw [bodies]
    show List.count line ((s.setupBlocks blocks).flatMap (Block.setupCode s)) + _ + _ = _
    omega
  · exact Keyed.nodup_map_key_collect _

/-- A function in the body of another one, with blocks of every kind in their bodies. -/
theorem blink_program_conserves_blocks :
    let blocks : List Block :=
      [⟨"blink", "function_def", [("name", .string "blink")],
        [⟨"wait", "sleep", [], []⟩, ⟨"pins", "spi_config", [], []⟩,
          ⟨"guard", "if_condition", [],
            [⟨"rest", "function_def", [("name", .string "rest")], []⟩, ⟨"lamp", "lamp", [], []⟩]⟩]⟩]
    let p := Program.generate .bare defaultHeartbeat "demo" blocks []
    (∀ b ∈ functionDefs blocks, (functionName? b).isSome) ∧
    ((functionDefs blocks).filterMap functionName?).Nodup ∧
    (p.loopLines ++ (p.functions.filter Routine.isLifted).flatMap Routine.body).Perm
      ["sleep_ms(undefined);", ignoredSetupComment "spi_config",
        "if (undefined == undefined) \x7b", "\x7d", "    // Unknown block type: lamp",
        "// Empty function", idleStatement defaultHeartbeat] := by
  intro blocks p
  have named : ∀ b ∈ functionDefs blocks, (functionName? b).isSome := by
    rw [functionDefs, walk_eq_preorder]
    decide
  have distinct : ((functionDefs blocks).filterMap functionName?).Nodup := by
    rw [functionDefs, walk_eq_preorder]
    decide
  refine ⟨named, distinct, ?_⟩
  exact (generate_conserves_blocks .bare defaultHeartbeat "demo" blocks [] named distinct).2.2.1

end Blockware
