import Blockware.Proofs.Program.CallOrder
import Mathlib.Data.List.Nodup

/-!
# Functions that are defined again

Of several definitions of a name a program has one function. The diagnostics count definitions in the
order of a walk, in which a block comes before its body, and say that the last one wins. A function
is complete only after its body, so what wins is the definition that ends last: the last one in the
order of a walk, unless it stands in the body of another definition of its name.

- `Block.outermost`: the definitions of a name that stand in no other one of it.
- `Block.getLast?_completed`, `Block.getLast?_live`: the last of them is the one that is complete last,
  and the last definition in the order of a walk is that one or stands in its body.
- `exists_repeatedFunction`: that a name is defined again is reported.
- `last_definition_wins_iff_not_nested`: which definition wins.
-/

namespace Blockware

namespace Block

/-- Whether a block defines a function of a name. -/
def defines (name : String) (b : Block) : Bool := b.definedName? = some name

theorem defines_iff {name : String} {b : Block} : b.defines name ↔ b.definedName? = some name :=
  decide_eq_true_iff

theorem liveOf_eq (b : Block) :
    liveOf b = b :: if b.takesBody && !b.isAnonymous then live b.inner else [] := by
  obtain ⟨id, type, params, inner⟩ := b
  rw [liveOf]

mutual

/-- A block if it defines a name, and else the outermost definitions of the name in its body. -/
def outermostOf (name : String) : Block → List Block
  | ⟨id, type, params, inner⟩ =>
    let b : Block := ⟨id, type, params, inner⟩
    if b.defines name then [b]
    else if b.takesBody && !b.isAnonymous then outermost name inner else []

/-- The definitions of a name of which code is generated, without those in the bodies of others. -/
def outermost (name : String) : List Block → List Block
  | [] => []
  | b :: rest => outermostOf name b ++ outermost name rest

end

theorem outermostOf_of_defines {name : String} {b : Block} (h : b.defines name) :
    outermostOf name b = [b] := by
  obtain ⟨id, type, params, inner⟩ := b
  rw [outermostOf]
  exact if_pos h

theorem outermostOf_of_not_defines {name : String} {b : Block} (h : ¬ b.defines name) :
    outermostOf name b = if b.takesBody && !b.isAnonymous then outermost name b.inner else [] := by
  obtain ⟨id, type, params, inner⟩ := b
  rw [outermostOf]
  exact if_neg h

theorem takesBody_of_defines {name : String} {b : Block} (h : b.defines name) : b.takesBody :=
  takesBody_of_definedName? (defines_iff.mp h)

/-- The outermost definitions of a name are live definitions of it. -/
theorem mem_outermost {name : String} {w : Block} {blocks : List Block}
    (h : w ∈ outermost name blocks) : w.defines name ∧ w ∈ live blocks := by
  induction blocks using program_induction with
  | nil => cases h
  | cons b rest ihInner ihRest =>
    rw [mem_live_cons]
    rcases List.mem_append.mp h with first | later
    · by_cases own : b.defines name
      · rw [outermostOf_of_defines own, List.mem_singleton] at first
        rw [first]
        exact ⟨own, Or.inl rfl⟩
      · rw [outermostOf_of_not_defines own] at first
        split at first
        · rename_i opens
          have both : b.takesBody ∧ ¬ b.isAnonymous := by simpa using opens
          obtain ⟨defines, alive⟩ := ihInner first
          exact ⟨defines, Or.inr (Or.inl ⟨both.1, both.2, alive⟩)⟩
        · cases first
    · obtain ⟨defines, alive⟩ := ihRest later
      exact ⟨defines, Or.inr (Or.inr alive)⟩

/-! ### The last definition -/

/-- Where a name is defined there is a last definition of it. -/
theorem exists_getLast?_of_mem {name : String} {b : Block} {blocks : List Block} (hb : b ∈ blocks)
    (h : b.defines name) : ∃ d, (blocks.filter (defines name)).getLast? = some d := by
  have there : b ∈ blocks.filter (defines name) := List.mem_filter.mpr ⟨hb, h⟩
  exact ⟨_, List.getLast?_eq_some_getLast (List.ne_nil_of_mem there)⟩

/-- The definition of a name that is complete last is the last one that stands in no other. -/
theorem getLast?_completed (name : String) (blocks : List Block) :
    ((completed blocks).filter (defines name)).getLast? = (outermost name blocks).getLast? := by
  induction blocks using program_induction with
  | nil => rfl
  | cons b rest ihInner ihRest =>
    rw [completed_cons, outermost, List.append_cons, List.filter_append, List.getLast?_append,
      List.getLast?_append, ihRest]
    congr 1
    by_cases own : b.defines name
    · -- What the body defines is complete before the block.
      rw [outermostOf_of_defines own, List.filter_append, List.filter_cons_of_pos own,
        List.getLast?_append]
      rfl
    · rw [outermostOf_of_not_defines own, List.filter_append, List.filter_cons_of_neg own,
        List.filter_nil, List.append_nil]
      split
      · exact ihInner
      · rfl

/-- The last definition of a name in the order of a walk is the last one that stands in no other, or
the last one in the body of that. -/
theorem getLast?_live (name : String) (blocks : List Block) :
    ((live blocks).filter (defines name)).getLast? =
      (outermost name blocks).getLast?.bind fun w => ((live [w]).filter (defines name)).getLast? := by
  induction blocks using program_induction with
  | nil => rfl
  | cons b rest ihInner ihRest =>
    rw [live, outermost, List.filter_append, List.getLast?_append, List.getLast?_append, ihRest]
    cases last : (outermost name rest).getLast? with
    | some w =>
      have defined : w.defines name := (mem_outermost (List.mem_of_getLast? last)).1
      obtain ⟨d, hd⟩ := exists_getLast?_of_mem (mem_live_cons.mpr (Or.inl rfl)) defined
      rw [Option.bind_some, Option.some_or, Option.bind_some, hd, Option.some_or]
    | none =>
      rw [Option.bind_none, Option.none_or, Option.none_or]
      by_cases own : b.defines name
      · rw [outermostOf_of_defines own, List.getLast?_singleton, Option.bind_some, live, live,
          List.append_nil]
      · rw [outermostOf_of_not_defines own, liveOf_eq, List.filter_cons_of_neg own]
        split
        · exact ihInner
        · rfl

/-- Without functions that have no name, the same holds of the definitions that a walk visits. -/
theorem getLast?_walk {name : String} {blocks : List Block} {w : Block}
    (named : ∀ b ∈ walk blocks, ¬ b.isAnonymous)
    (winner : (outermost name blocks).getLast? = some w) :
    ((walk blocks).filter (defines name)).getLast? =
      ((walk [w]).filter (defines name)).getLast? := by
  rw [walk_eq_preorder] at named ⊢
  obtain ⟨defined, alive⟩ := mem_outermost (List.mem_of_getLast? winner)
  have inTree : ∀ b ∈ preorder [w], ¬ b.isAnonymous := by
    intro b hb
    rcases mem_preorder_cons.mp hb with rfl | ⟨container, inner⟩ | later
    · exact named b (mem_preorder_of_mem_live alive)
    · exact named b (mem_preorder_trans (mem_preorder_of_mem_live alive) container inner)
    · cases later
  rw [walk_eq_preorder, ← live_eq_preorder named, ← live_eq_preorder inTree, getLast?_live, winner,
    Option.bind_some]

theorem size_le_of_mem_preorder {c : Block} {blocks : List Block} (h : c ∈ preorder blocks) :
    c.size ≤ sizes blocks := by
  induction blocks using program_induction with
  | nil => cases h
  | cons b rest ihInner ihRest =>
    rw [sizes]
    rcases mem_preorder_cons.mp h with rfl | ⟨-, inner⟩ | later
    · omega
    · have := ihInner inner
      have := b.size_eq
      omega
    · have := ihRest later
      omega

/-- The last definition in a definition is that one itself exactly if no other one is in its body. -/
theorem eq_getLast?_walk_iff {name : String} {w last : Block} (defined : w.defines name)
    (h : ((walk [w]).filter (defines name)).getLast? = some last) :
    w = last ↔ (walk w.inner).filter (defines name) = [] := by
  have tree : preorder [w] = w :: preorder w.inner := by
    rw [preorder_cons, visibleInner_of_takesBody (takesBody_of_defines defined), preorder,
      List.append_nil]
  rw [walk_eq_preorder, tree, List.filter_cons_of_pos defined, List.getLast?_cons] at h
  rw [walk_eq_preorder]
  constructor
  · rintro rfl
    by_contra further
    -- A definition in the body is smaller than the one around it.
    rw [List.getLast?_eq_some_getLast further, Option.getD_some, Option.some.injEq] at h
    have inner := List.getLast_mem further
    rw [h] at inner
    have := size_le_of_mem_preorder (List.mem_filter.mp inner).1
    have := w.size_eq
    omega
  · intro nothing
    rw [nothing, List.getLast?_nil, Option.getD_none] at h
    exact Option.some.inj h

end Block

/-! ### The report -/

/-- That a name is defined again is reported at its second definition. -/
theorem exists_repeatedFunction {name : String} {earlier : List String} {defs : List Block}
    (once : earlier.count name ≤ 1)
    (twice : 2 ≤ earlier.count name + (defs.filterMap functionName?).count name) :
    ∃ b ∈ defs, functionName? b = some name ∧
      Diagnostic.about b (.repeatedFunction name) ∈ definitionDiagnostics earlier defs := by
  induction defs generalizing earlier with
  | nil =>
    rw [List.filterMap_nil, List.count_nil] at twice
    omega
  | cons b rest ih =>
    rw [definitionDiagnostics]
    cases own : functionName? b with
    | none =>
      rw [List.filterMap_cons_none own] at twice
      obtain ⟨c, hc, named, reported⟩ := ih once twice
      exact ⟨c, List.mem_cons_of_mem b hc, named, List.mem_cons_of_mem _ reported⟩
    | some name' =>
      rw [List.filterMap_cons_some own] at twice
      by_cases second : name' = name ∧ earlier.count name = 1
      · refine ⟨b, List.mem_cons_self, by rw [own, second.1], List.mem_append_left _ ?_⟩
        have found : Finding.repeatedFunction name ∈ nameFindings earlier name' := by
          rw [nameFindings, second.1, if_pos second.2]
          exact List.mem_append_right _ List.mem_cons_self
        exact List.mem_map_of_mem found
      · -- The definition is the first of its name, or one of another name.
        have notYet : (name' :: earlier).count name ≤ 1 := by
          rw [List.count_cons]
          by_cases same : name' = name
          · have notOne : earlier.count name ≠ 1 := fun one => second ⟨same, one⟩
            rw [if_pos (beq_iff_eq.mpr same)]
            omega
          · rw [if_neg (by simpa using same)]
            exact once
        have still : 2 ≤ (name' :: earlier).count name +
            (rest.filterMap functionName?).count name := by
          rw [List.count_cons] at twice ⊢
          omega
        obtain ⟨c, hc, named, reported⟩ := ih notYet still
        exact ⟨c, List.mem_cons_of_mem b hc, named, List.mem_append_right _ reported⟩

/-- A name that two visited blocks define is reported. -/
theorem exists_repeatedFunction_mem_functionDiagnostics {name : String} {blocks : List Block}
    (modules : List String) (twice : 2 ≤ ((walk blocks).filter (Block.defines name)).length) :
    ∃ b ∈ (walk blocks).filter (Block.defines name),
      Diagnostic.about b (.repeatedFunction name) ∈ functionDiagnostics blocks modules := by
  have once : (moduleFunctionNames modules).count name ≤ 1 :=
    List.nodup_iff_count_le_one.mp (Keyed.nodup_eraseDups _) name
  have many : ((functionDefs blocks).filterMap functionName?).count name =
      ((walk blocks).filter (Block.defines name)).length := by
    rw [filterMap_functionDefs, List.count, List.countP_filterMap, List.countP_eq_length_filter]
    congr 2
    funext b
    rw [Block.defines]
    cases b.definedName? with
    | none => rfl
    | some other => simp [beq_eq_decide]
  have defined : 2 ≤ (moduleFunctionNames modules).count name +
      ((functionDefs blocks).filterMap functionName?).count name := by omega
  obtain ⟨b, hb, named, reported⟩ := exists_repeatedFunction once defined
  obtain ⟨visited, isDef⟩ := List.mem_filter.mp hb
  refine ⟨b, List.mem_filter.mpr ⟨visited, ?_⟩, List.mem_append_left _ reported⟩
  rw [Block.defines_iff, Block.definedName?_functionDef (of_decide_eq_true isDef), named]

/-! ### The winner -/

/-- The function of a name is that of the definition of it that is complete last. -/
theorem mem_functions_iff_of_getLast?_completed (s : Snapshot) (heartbeat : Nat)
    (projectName : String) {blocks : List Block} (modules : List String) {name : String} {w : Block}
    (last : ((Block.completed blocks).filter (Block.defines name)).getLast? = some w) (f : Routine) :
    f ∈ (Program.generate s heartbeat projectName blocks modules).functions ∧ f.name = name ↔
      f = ⟨name, functionBody (Block.emitAll s true w.inner).lines, .block⟩ := by
  rw [functions_generate_eq_collect]
  rw [List.getLast?_filter, Keyed.find?_reverse_eq_some_iff, Block.defines_iff] at last
  obtain ⟨defined, before, after, split, others⟩ := last
  let winner : Routine := ⟨name, functionBody (Block.emitAll s true w.inner).lines, .block⟩
  have own : w.routine? s = some winner := by rw [Block.routine?, defined, Option.map_some]
  have kept : winner ∈ Keyed.collect Routine.name (moduleFunctions (knownModules modules) ++
      (Block.completed blocks).filterMap (Block.routine? s)) := by
    rw [Keyed.mem_collect_iff, split, List.filterMap_append, List.filterMap_cons_some own,
      ← List.append_assoc]
    refine ⟨_, _, rfl, ?_⟩
    intro g hg same
    obtain ⟨b, hb, ofBlock⟩ := List.mem_filterMap.mp hg
    refine others b hb ?_
    rw [Block.defines_iff, ← Block.map_name_routine? s b, ofBlock, Option.map_some, same]
  have distinct : ((Keyed.collect Routine.name (moduleFunctions (knownModules modules) ++
      (Block.completed blocks).filterMap (Block.routine? s))).map Routine.name).Nodup :=
    Keyed.nodup_map_key_collect _
  constructor
  · rintro ⟨there, same⟩
    rw [Keyed.mem_iff_find?_eq_some distinct] at there kept
    rw [same] at there
    exact Option.some.inj (there.symm.trans kept)
  · rintro rfl
    exact ⟨kept, rfl⟩

/-- **Functions that are defined again**: if no function is without a name, a name that two or more
definitions have is reported, and the program has one function of it. Its body is the code of the
last of the definitions that stand in no other one of this name. The last definition in the order of
a walk is that one or stands in its body. So the last one wins exactly if the winner has no further
definition of the name in its body. -/
theorem last_definition_wins_iff_not_nested (s : Snapshot) (heartbeat : Nat) (projectName : String)
    (blocks : List Block) (modules : List String) (name : String)
    (named : ∀ b ∈ walk blocks, ¬ b.isAnonymous)
    (twice : 2 ≤ ((walk blocks).filter (Block.defines name)).length) :
    let functions := (Program.generate s heartbeat projectName blocks modules).functions
    let definitions := fun bs : List Block => (walk bs).filter (Block.defines name)
    (∃ b ∈ definitions blocks,
      Diagnostic.about b (.repeatedFunction name) ∈ functionDiagnostics blocks modules) ∧
    ∃ winner last, (Block.outermost name blocks).getLast? = some winner ∧
      (∀ f, f ∈ functions ∧ f.name = name ↔
        f = ⟨name, functionBody (Block.emitAll s true winner.inner).lines, .block⟩) ∧
      (definitions blocks).getLast? = some last ∧ (definitions [winner]).getLast? = some last ∧
      (winner = last ↔ definitions winner.inner = []) := by
  intro functions definitions
  obtain ⟨last, hlast⟩ : ∃ last, (definitions blocks).getLast? = some last :=
    ⟨_, List.getLast?_eq_some_getLast (List.ne_nil_of_length_pos (Nat.zero_lt_of_lt twice))⟩
  have alive : Block.live blocks = walk blocks := by
    rw [walk_eq_preorder] at named ⊢
    exact Block.live_eq_preorder named
  obtain ⟨winner, hwinner, -⟩ : ∃ w, (Block.outermost name blocks).getLast? = some w ∧ _ := by
    rw [← Option.bind_eq_some_iff, ← Block.getLast?_live, alive]
    exact hlast
  have inWinner : (definitions [winner]).getLast? = some last :=
    (Block.getLast?_walk named hwinner).symm.trans hlast
  refine ⟨exists_repeatedFunction_mem_functionDiagnostics modules twice, winner, last, hwinner, ?_,
    hlast, inWinner, ?_⟩
  · exact mem_functions_iff_of_getLast?_completed s heartbeat projectName modules
      ((Block.getLast?_completed name blocks).trans hwinner)
  · have defined := (Block.mem_outermost (List.mem_of_getLast? hwinner)).1
    exact Block.eq_getLast?_walk_iff defined inWinner

/-- Of two definitions, one of them in a conditional, the later one wins. -/
theorem later_blink_wins :
    let early : Block := ⟨"early", "function_def", [("name", .string "blink")],
      [⟨"s1", "sleep", [("ms", .integer 1)], []⟩]⟩
    let late : Block := ⟨"late", "function_def", [("name", .string "blink")],
      [⟨"s2", "sleep", [("ms", .integer 2)], []⟩]⟩
    let blocks : List Block := [early, ⟨"guard", "if_condition", [], [late]⟩]
    (∀ b ∈ walk blocks, ¬ b.isAnonymous) ∧
    2 ≤ ((walk blocks).filter (Block.defines "blink")).length ∧
    ((walk blocks).filter (Block.defines "blink")).getLast? = some late ∧
    ∀ f, f ∈ (Program.generate .bare defaultHeartbeat "demo" blocks []).functions ∧
      f.name = "blink" ↔ f = ⟨"blink", ["sleep_ms(2);"], .block⟩ := by
  intro early late blocks
  have named : ∀ b ∈ walk blocks, ¬ b.isAnonymous := by
    rw [walk_eq_preorder]
    decide
  have visited : (walk blocks).filter (Block.defines "blink") = [early, late] := by
    rw [walk_eq_preorder]
    rfl
  have twice : 2 ≤ ((walk blocks).filter (Block.defines "blink")).length := by
    rw [visited]
    decide
  obtain ⟨-, winner, last, hwinner, functions, -⟩ :=
    last_definition_wins_iff_not_nested .bare defaultHeartbeat "demo" blocks [] "blink" named twice
  have same : some late = some winner := hwinner
  cases same
  refine ⟨named, twice, ?_, functions⟩
  rw [visited]
  rfl

/-- A definition in the body of another one of its name comes later in the order of a walk, and is
reported as the repeated one. But the one around it wins. -/
theorem enclosing_blink_wins :
    let inner : Block := ⟨"inner", "function_def", [("name", .string "blink")],
      [⟨"s2", "sleep", [("ms", .integer 2)], []⟩]⟩
    let outer : Block := ⟨"outer", "function_def", [("name", .string "blink")],
      [⟨"s1", "sleep", [("ms", .integer 1)], []⟩, inner]⟩
    (∀ b ∈ walk [outer], ¬ b.isAnonymous) ∧
    (walk [outer]).filter (Block.defines "blink") = [outer, inner] ∧
    functionDiagnostics [outer] [] = [.about inner (.repeatedFunction "blink")] ∧
    (Program.generate .bare defaultHeartbeat "demo" [outer] []).functions =
      [⟨"blink", ["sleep_ms(1);"], .block⟩] ∧
    functionBody (Block.emitAll .bare true inner.inner).lines = ["sleep_ms(2);"] := by
  simp only [functionDiagnostics, definedNames, callDiagnostics, functionDefs, walk_eq_preorder]
  refine ⟨by decide, rfl, by decide, by decide, by decide⟩

end Blockware
