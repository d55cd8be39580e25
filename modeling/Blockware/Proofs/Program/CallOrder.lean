import Blockware.Proofs.Program.Placement

/-!
# Which calls look back

A program prints its functions one after the other and declares none of them beforehand. A call in
the body of a function looks back if the function that it calls has been printed by then. This is no
matter of the calls: functions stand in the order of their first definitions, and these decide.

- `firstDefinitions`: the names of functions in the order in which they are defined.
- `calls_look_back_iff_defined_first`: a call looks back, or calls its own function, exactly if the
  called name is first defined no later than that of the function around it.
- `call_of_later_function_looks_ahead`: nothing is wrong with a call of a function that comes later.
-/

namespace Blockware

/-- The names of the functions that modules bring and blocks define, in the order in which they are
defined; a name stands there for each of its definitions. -/
def firstDefinitions (blocks : List Block) (modules : List String) : List String :=
  (moduleFunctions (knownModules modules)).map Routine.name ++
    (Block.completed blocks).filterMap Block.definedName?

/-- What is printed above a function and below it. -/
theorem Program.lines_split (p : Program) {before after : List Routine} {f : Routine}
    (split : p.functions = before ++ f :: after) :
    let print := fun fs : List Routine => fs.flatMap fun g => g.lines ++ [""]
    p.lines = p.headerLines ++ [""] ++ print before ++ f.lines ++ [""] ++ print after ++
      p.mainLines := by
  intro print
  show p.headerLines ++ [""] ++ print p.functions ++ p.mainLines = _
  rw [split]
  simp [print, List.flatMap_append]

section Whole

variable (s : Snapshot) (heartbeat : Nat) (projectName : String) {blocks : List Block}
  {modules : List String} {f : Routine}

theorem functions_generate_eq_collect (blocks : List Block) (modules : List String) :
    (Program.generate s heartbeat projectName blocks modules).functions =
      Keyed.collect Routine.name (moduleFunctions (knownModules modules) ++
        (Block.completed blocks).filterMap (Block.routine? s)) := by
  show Routine.collect (_ ++ (Block.emitAll s false (s.loopBlocks blocks)).functions) = _
  rw [Block.functions_emitAll_loopBlocks, Block.functions_emitAll, Routine.collect]

/-- The names of the functions stand in the order of their first definitions. -/
theorem map_name_functions_generate (blocks : List Block) (modules : List String) :
    (Program.generate s heartbeat projectName blocks modules).functions.map Routine.name =
      (firstDefinitions blocks modules).eraseDups := by
  rw [functions_generate_eq_collect, Keyed.map_key_collect, List.map_append, List.map_filterMap]
  simp only [Block.map_name_routine?]
  rfl

/-- A function that was lifted out of blocks is that of a live block. -/
theorem exists_live_of_isLifted
    (hf : f ∈ (Program.generate s heartbeat projectName blocks modules).functions)
    (lifted : f.isLifted) : ∃ d ∈ Block.live blocks, d.routine? s = some f := by
  rw [functions_generate_eq_collect] at hf
  rcases List.mem_append.mp (Keyed.mem_of_mem_collect hf) with ofModule | ofBlock
  · rw [not_isLifted_of_mem_moduleFunctions ofModule] at lifted
    cases lifted
  · obtain ⟨d, hd, own⟩ := List.mem_filterMap.mp ofBlock
    exact ⟨d, (Block.completed_perm_live blocks).subset hd, own⟩

end Whole

namespace Block

/-- What the function of a block is: the block defines its name, and its body has the lines of the
blocks in there. -/
theorem routine?_eq_some {s : Snapshot} {d : Block} {f : Routine} (h : d.routine? s = some f) :
    d.definedName? = some f.name ∧
      f.body = functionBody ((placedIn s true 0 d.inner).map (PlacedLine.text 0)) := by
  obtain ⟨name, defined, rfl⟩ := Option.map_eq_some_iff.mp h
  exact ⟨defined, functionBody_placedIn s d.inner⟩

theorem takesBody_of_definedName? {d : Block} {name : String} (h : d.definedName? = some name) :
    d.takesBody := by
  by_cases isDef : d.builtin? = some .functionDef
  · exact takesBody_iff.mpr (Or.inl isDef)
  · rw [definedName?_of_ne isDef] at h
    cases h

/-- A live block in the body of a live definition is visited. -/
theorem mem_walk_of_mem_live_inner {blocks : List Block} {d c : Block} {name : String}
    (hd : d ∈ live blocks) (defined : d.definedName? = some name) (hc : c ∈ live d.inner) :
    c ∈ walk blocks := by
  rw [walk_eq_preorder]
  exact mem_preorder_trans (mem_preorder_of_mem_live hd) (takesBody_of_definedName? defined)
    (mem_preorder_of_mem_live hc)

end Block

/-- A call of a name that no function has is reported, unless bodies that are not generated define
the name. -/
theorem called_function_exists (s : Snapshot) (heartbeat : Nat) (projectName : String)
    {blocks : List Block} {modules : List String} {call : Block}
    (noError : ∀ x ∈ functionDiagnostics blocks modules, ¬ x.isError) (visited : call ∈ walk blocks)
    (isCall : call.builtin? = some .functionCall)
    (notHidden : ¬ OnlyHidden blocks modules (callTarget call)) :
    callTarget call ∈
      (Program.generate s heartbeat projectName blocks modules).functions.map Routine.name := by
  have defined : callTarget call ∈ definedNames blocks modules := by
    by_contra missing
    exact noError _ ((undefinedFunction_mem_functionDiagnostics visited isCall).mpr missing) rfl
  rcases (mem_definedNames_iff_or_onlyHidden s heartbeat projectName).mp defined with
    generated | hidden
  · exact generated
  · exact absurd hidden notHidden

/-- **Which calls look back**: functions are printed in the order of their first definitions, and
one after the other. So a call in the body of a function calls that function or one printed above
it exactly if the called name is first defined no later than the name of the function around the
call. If it is defined later, and no error is reported, then its function is printed below. -/
theorem calls_look_back_iff_defined_first (s : Snapshot) (heartbeat : Nat) (projectName : String)
    (blocks : List Block) (modules : List String)
    (noError : ∀ x ∈ functionDiagnostics blocks modules, ¬ x.isError) :
    let p := Program.generate s heartbeat projectName blocks modules
    let names := firstDefinitions blocks modules
    let print := fun fs : List Routine => fs.flatMap fun g => g.lines ++ [""]
    ∀ before f after, p.functions = before ++ f :: after →
      p.lines = p.headerLines ++ [""] ++ print before ++ f.lines ++ [""] ++ print after ++
        p.mainLines ∧
      (f.isLifted → ∃ d ∈ Block.live blocks, d.definedName? = some f.name ∧
        let placed := Block.placedIn s true 0 d.inner
        f.body = functionBody (placed.map (PlacedLine.text 0)) ∧
        ∀ q ∈ placed, q.visit.block.builtin? = some .functionCall →
          let target := callTarget q.visit.block
          q.own = target ++ "();" ∧
          (target ∈ (before ++ [f]).map Routine.name ↔ names.idxOf target ≤ names.idxOf f.name) ∧
          (names.idxOf f.name < names.idxOf target → ¬ OnlyHidden blocks modules target →
            target ∈ after.map Routine.name)) := by
  intro p names print before f after split
  refine ⟨p.lines_split split, ?_⟩
  intro lifted
  have hf : f ∈ p.functions := by simp [split]
  obtain ⟨d, alive, own⟩ := exists_live_of_isLifted s heartbeat projectName hf lifted
  obtain ⟨defined, body⟩ := Block.routine?_eq_some own
  refine ⟨d, alive, defined, body, ?_⟩
  intro q hq isCall target
  obtain ⟨-, inBody, line⟩ := Block.mem_placedIn hq
  have order : names.eraseDups =
      before.map Routine.name ++ f.name :: after.map Routine.name := by
    rw [← map_name_functions_generate s heartbeat projectName blocks modules]
    show p.functions.map Routine.name = _
    rw [split, List.map_append, List.map_cons]
  have looksBack : target ∈ (before ++ [f]).map Routine.name ↔
      names.idxOf target ≤ names.idxOf f.name := by
    rw [List.map_append, List.map_singleton]
    exact Keyed.mem_eraseDups_split_iff order
  refine ⟨?_, looksBack, ?_⟩
  · rw [Block.ownLines_functionCall s isCall, List.mem_singleton] at line
    exact line
  · intro later notHidden
    have visited := Block.mem_walk_of_mem_live_inner alive defined inBody
    have generated : target ∈ p.functions.map Routine.name :=
      called_function_exists s heartbeat projectName noError visited isCall notHidden
    have notYet : target ∉ (before ++ [f]).map Routine.name := fun h => by
      have := looksBack.mp h
      omega
    rw [split, List.append_cons, List.map_append, List.mem_append] at generated
    exact generated.resolve_left notYet

/-- A function that calls the one defined before it. -/
theorem work_may_call_wait :
    let wait : Block := ⟨"w", "function_def", [("name", .string "wait")],
      [⟨"s", "sleep", [("ms", .integer 10)], []⟩]⟩
    let work : Block := ⟨"f", "function_def", [("name", .string "work")],
      [⟨"c", "function_call", [("ref", .string "wait")], []⟩]⟩
    let blocks := [wait, work]
    let names := firstDefinitions blocks []
    (∀ x ∈ functionDiagnostics blocks [], ¬ x.isError) ∧
    (Program.generate .bare defaultHeartbeat "demo" blocks []).functions =
      [⟨"wait", ["sleep_ms(10);"], .block⟩] ++ ⟨"work", ["wait();"], .block⟩ :: [] ∧
    ∃ d ∈ Block.live blocks, d.definedName? = some "work" ∧
      ∀ q ∈ Block.placedIn .bare true 0 d.inner, q.visit.block.builtin? = some .functionCall →
        (callTarget q.visit.block ∈ ["wait", "work"] ↔
          names.idxOf (callTarget q.visit.block) ≤ names.idxOf "work") := by
  intro wait work blocks names
  have noError : ∀ x ∈ functionDiagnostics blocks [], ¬ x.isError := by
    simp only [functionDiagnostics, definedNames, callDiagnostics, functionDefs, walk_eq_preorder]
    decide
  have functions : (Program.generate .bare defaultHeartbeat "demo" blocks []).functions =
      [⟨"wait", ["sleep_ms(10);"], .block⟩] ++ ⟨"work", ["wait();"], .block⟩ :: [] := by decide
  obtain ⟨-, lifted⟩ := calls_look_back_iff_defined_first .bare defaultHeartbeat "demo" blocks []
    noError _ _ _ functions
  obtain ⟨d, alive, defined, -, calls⟩ := lifted rfl
  exact ⟨noError, functions, d, alive, defined, fun q hq isCall => (calls q hq isCall).2.1⟩

/-- A function that calls the one defined after it: no error is reported, and the call is printed
above the function that it calls. -/
theorem call_of_later_function_looks_ahead :
    let blocks : List Block :=
      [⟨"f", "function_def", [("name", .string "first")],
        [⟨"c", "function_call", [("ref", .string "second")], []⟩]⟩,
      ⟨"g", "function_def", [("name", .string "second")],
        [⟨"w", "sleep", [("ms", .integer 10)], []⟩]⟩]
    (∀ x ∈ functionDiagnostics blocks [], ¬ x.isError) ∧
    (Program.generate .bare defaultHeartbeat "demo" blocks []).functions =
      [⟨"first", ["second();"], .block⟩, ⟨"second", ["sleep_ms(10);"], .block⟩] := by
  intro blocks
  simp only [functionDiagnostics, definedNames, callDiagnostics, functionDefs, walk_eq_preorder]
  decide

end Blockware
