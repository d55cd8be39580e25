import Blockware.Proofs.Program.CallOrder
import Blockware.Proofs.Program.Levels
import Blockware.Proofs.Program.Partition

/-!
# Scopes of a program

A source text has scopes in its functions, in `main` and its loop, and around the bodies of
conditionals.

- `BringsNoScope`: the texts from outside that a program shows bring no brace into it.
- `Routine.nested_lines`, `Program.nested_mainInner`: then scopes match in each part.
- `scopes_are_nested`: so they match over the whole source, and the indentation of the lines of
  blocks tells how deep they are.
-/

namespace Blockware

open Text (Plain Unbraced Nested NestedLines bracesOf braceLevel scopeLevel)

/-- No text from outside that a program shows opens or closes a scope. -/
structure BringsNoScope (s : Snapshot) (projectName : String) (blocks : List Block) : Prop where
  name : Unbraced projectName
  tame : Block.AreTame s false 0 blocks
  headers : ∀ b ∈ walk blocks, ∀ d, s.contract? b.type = some (.custom d) →
    ∀ header ∈ d.code.headers, Unbraced header
  pins : ∀ pin ∈ drivenPins blocks, Unbraced pin

/-! ### Headers -/

theorem unbraced_includeLine {header : String} (h : Unbraced header) :
    Unbraced (includeLine header) := by
  have trimmed : Unbraced (Text.trim header) := fun c hc => h c (Text.mem_trim hc)
  unfold includeLine
  simp only
  split
  · exact trimmed
  · split <;> simp only [Text.lacks_append, trimmed, and_true] <;> and_intros <;>
      exact Text.lacks_ofList (by decide)

theorem BoardModule.unbraced_headers (m : BoardModule) : ∀ l ∈ m.headers, Unbraced l := by
  cases m <;> exact List.forall_mem_singleton.mpr (Text.lacks_ofList (by decide))

theorem Peripheral.unbraced_header (p : Peripheral) : Unbraced p.header := by
  cases p <;> exact Text.lacks_ofList (by decide)

theorem unbraced_headerLines {s : Snapshot} {heartbeat : Nat} {projectName : String}
    {blocks : List Block} {modules : List String} (quiet : BringsNoScope s projectName blocks) :
    ∀ l ∈ (Program.generate s heartbeat projectName blocks modules).headerLines, Unbraced l := by
  intro l hl
  rw [Program.headerLines, List.mem_eraseDups, List.mem_append] at hl
  rcases hl with common | own
  · have fixed : ∀ l ∈ Program.commonHeaders, Unbraced l := by
      simp only [Program.commonHeaders, List.forall_mem_cons, List.not_mem_nil, false_imp_iff,
      implies_true, and_true]
      exact ⟨Text.lacks_ofList (by decide), Text.lacks_ofList (by decide)⟩
    exact fixed l common
  · have own : l ∈ programHeaders s blocks (knownModules modules) := own
    rw [programHeaders, List.mem_eraseDups, List.mem_append, List.mem_append] at own
    rcases own with (ofModule | ofPeripheral) | ofDefinition
    · obtain ⟨m, -, hl⟩ := List.mem_flatMap.mp ofModule
      exact m.unbraced_headers l hl
    · obtain ⟨b, -, hl⟩ := List.mem_filterMap.mp ofPeripheral
      obtain ⟨p, -, rfl⟩ := Option.map_eq_some_iff.mp hl
      exact p.unbraced_header
    · obtain ⟨b, visited, hl⟩ := List.mem_flatMap.mp ofDefinition
      rw [Snapshot.customHeaders] at hl
      split at hl
      · rename_i d meaning
        obtain ⟨header, hheader, rfl⟩ := List.mem_map.mp hl
        exact unbraced_includeLine (quiet.headers b visited d meaning header hheader)
      · cases hl

/-! ### Modules -/

namespace BoardModule

theorem unbraced_setup (m : BoardModule) : ∀ l ∈ m.setup, Unbraced l := by
  cases m <;> simp only [setup, List.forall_mem_cons, List.not_mem_nil, false_imp_iff,
      implies_true, and_true] <;>
    and_intros <;> exact Text.lacks_ofList (by decide)

/-- Only the example of the serial line has a scope, which stands in a comment. -/
theorem nested_exampleLoop (m : BoardModule) : NestedLines m.exampleLoop := by
  cases m with
  | uart =>
    have title : bracesOf "// UART Example" = [] := (Text.bracesOf_ofList _).trans (by decide)
    have opening : bracesOf "// if (uart_is_readable(uart0)) \x7b" = ['\x7b'] :=
      (Text.bracesOf_ofList _).trans (by decide)
    have first : bracesOf "//     char c = uart_getc(uart0);" = [] :=
      (Text.bracesOf_ofList _).trans (by decide)
    have second : bracesOf "//     uart_putc(uart0, c);" = [] :=
      (Text.bracesOf_ofList _).trans (by decide)
    have closing : bracesOf "// \x7d" = ['\x7d'] := (Text.bracesOf_ofList _).trans (by decide)
    rw [Text.nestedLines_iff]
    simp only [exampleLoop, List.flatMap_cons, title, opening, first, second, closing]
    exact Text.nested_nil.enclose
  | i2c | spi | multicore => exact Text.nestedLines_nil
  | adc | pwm | gpio =>
    refine Text.nestedLines_of_unbraced ?_
    simp only [exampleLoop, List.forall_mem_cons, List.not_mem_nil, false_imp_iff,
      implies_true, and_true]
    and_intros <;> exact Text.lacks_ofList (by decide)

theorem nested_functions (m : BoardModule) :
    ∀ f ∈ m.functions, Unbraced f.1 ∧ NestedLines f.2 := by
  cases m with
  | multicore =>
    refine List.forall_mem_singleton.mpr ⟨Text.lacks_ofList (by decide), ?_⟩
    have opening : bracesOf "while (1) \x7b" = ['\x7b'] := (Text.bracesOf_ofList _).trans (by decide)
    have sleep : bracesOf "    sleep_ms(500);" = [] := (Text.bracesOf_ofList _).trans (by decide)
    have closing : bracesOf "\x7d" = ['\x7d'] := (Text.bracesOf_ofList _).trans (by decide)
    rw [Text.nestedLines_iff]
    simp only [List.flatMap_cons, opening, sleep, closing]
    exact Text.nested_nil.enclose
  | _ => exact List.forall_mem_nil _

end BoardModule

/-! ### Functions -/

namespace Routine

variable {f : Routine}

theorem unbraced_head (name : Unbraced f.name) : Unbraced s!"void {f.name}() " :=
  Text.lacks_interpolated name (by decide)

theorem unbraced_comment (name : Unbraced f.name) :
    Unbraced s!"// {f.origin.title}: {f.name}" := by
  have title : Unbraced f.origin.title := by
    cases f.origin <;> exact Text.lacks_ofList (by decide)
  simp only [toString, Text.lacks_append, name, title, and_true]
  exact ⟨Text.lacks_ofList (by decide), Text.lacks_ofList (by decide)⟩

/-- The scope of a function is around its body. -/
theorem lines_eq (f : Routine) :
    f.lines = s!"// {f.origin.title}: {f.name}" ::
      (indent 0 (s!"void {f.name}() " ++ "\x7b") :: f.body.map (indent 1) ++ [indent 0 "\x7d"]) := by
  rw [indent_zero, indent_zero]
  simp [lines, toString, String.append_assoc]

theorem nested_lines (name : Unbraced f.name) (body : NestedLines f.body) :
    NestedLines f.lines := by
  rw [lines_eq]
  exact (Text.nestedLines_singleton (unbraced_comment name)).append ((body.map_indent 1).scope 0 (unbraced_head name))

end Routine

/-- Placed lines that are indented further. -/
theorem map_indent_text (outer level : Nat) (placed : List PlacedLine) :
    (placed.map (PlacedLine.text level)).map (indent outer) =
      placed.map (PlacedLine.text (outer + level)) := by
  rw [List.map_map]
  refine List.map_congr_left fun q _ => ?_
  show indent outer (indent _ q.own) = indent _ q.own
  rw [indent_indent, Nat.add_assoc]

theorem nestedLines_map_text {level : Nat} {placed : List PlacedLine}
    (h : NestedLines (placed.map PlacedLine.own)) :
    NestedLines (placed.map (PlacedLine.text level)) := by
  rw [Text.nestedLines_iff, List.flatMap_map] at h ⊢
  rw [List.flatMap_congr fun q _ => Text.bracesOf_indent _ q.own]
  exact h

theorem nestedLines_functionBody {lines : List String} (h : NestedLines lines) :
    NestedLines (functionBody lines) := by
  rw [functionBody]
  split
  · exact Text.nestedLines_singleton (by decide)
  · exact h

/-- The lines of a function's body stand in its scope. -/
theorem Routine.holdsAt {f : Routine} {placed : List PlacedLine} (name : Unbraced f.name)
    (body : f.body = functionBody (placed.map (PlacedLine.text 0)))
    (sits : SitFrom (0 : Nat) placed) : HoldsAt 1 f.lines placed := by
  let comment := s!"// {f.origin.title}: {f.name}"
  let opening := indent 0 (s!"void {f.name}() " ++ "\x7b")
  have scope : scopeLevel [comment, opening] = (1 : Nat) := by
    have silent : scopeLevel [comment] = 0 :=
      (Text.nestedLines_singleton (unbraced_comment name)).settled
    rw [Text.scopeLevel_cons, silent, Text.scopeLevel_opening 0 (unbraced_head name)]
    rfl
  by_cases empty : placed = []
  · subst empty
    refine ⟨[comment, opening], f.body.map (indent 1) ++ [indent 0 "\x7d"], lines_eq f, ?_⟩
    intro earlier q later split
    simp at split
  · have held := sits.holdsAt scope [indent 0 "\x7d"]
    have shown : f.body.map (indent 1) = placed.map (PlacedLine.text 1) := by
      rw [body, functionBody, if_neg (by simpa using empty), map_indent_text]
    rw [← shown] at held
    rw [lines_eq]
    exact held

/-! ### The main function -/

namespace Program

/-- The lines of `main` before its loop. -/
def startLines (p : Program) : List String :=
  [indent 1 "stdio_init_all();", indent 1 p.bannerLine, ""] ++
    if p.setupLines.isEmpty then [] else p.setupLines.map (indent 1) ++ [""]

/-- The lines in the loop of `main`. -/
def roundLines (p : Program) : List String :=
  (if p.hasBlocks then [indent 2 loopBanner] else []) ++ p.loopLines.map (indent 2)

/-- The lines in the scope of `main`. -/
def mainInner (p : Program) : List String :=
  p.startLines ++ (indent 1 ("while (true) " ++ "\x7b") :: p.roundLines ++ [indent 1 "\x7d"]) ++
    [indent 1 "return 0;"]

theorem mainLines_eq (p : Program) :
    p.mainLines = "int main() \x7b" :: p.mainInner ++ ["\x7d"] := by
  simp [mainLines, mainInner, startLines, roundLines]

variable {p : Program}

theorem nested_startLines (name : Unbraced p.projectName) (setup : NestedLines p.setupLines) :
    NestedLines p.startLines := by
  have banner : Unbraced p.bannerLine :=
    Text.lacks_interpolated (Text.unbraced_literal name) (by decide)
  refine Text.NestedLines.append ?_ ?_
  · refine Text.nestedLines_of_forall fun l hl => ?_
    simp only [List.mem_cons, List.not_mem_nil, or_false] at hl
    rcases hl with rfl | rfl | rfl
    · exact Text.nested_of_unbraced (by decide)
    · rw [Text.bracesOf_indent]
      exact Text.nested_of_unbraced banner
    · exact Text.nested_nil
  · split
    · exact Text.nestedLines_nil
    · exact (setup.map_indent 1).append (Text.nestedLines_singleton (by decide))

theorem nested_roundLines (loop : NestedLines p.loopLines) : NestedLines p.roundLines := by
  refine Text.NestedLines.append ?_ (loop.map_indent 2)
  split
  · exact Text.nestedLines_singleton (by decide)
  · exact Text.nestedLines_nil

/-- The scopes in `main` match, the one of its loop among them. -/
theorem nested_mainInner (name : Unbraced p.projectName) (setup : NestedLines p.setupLines)
    (loop : NestedLines p.loopLines) : NestedLines p.mainInner :=
  ((nested_startLines name setup).append
    ((nested_roundLines loop).scope 1 (by decide))).append
      (Text.nestedLines_singleton (by decide))

theorem nested_mainLines (inner : NestedLines p.mainInner) : NestedLines p.mainLines := by
  have scope : NestedLines (indent 0 ("int main() " ++ "\x7b") :: p.mainInner ++ [indent 0 "\x7d"]) :=
    inner.scope 0 (by decide)
  rw [indent_zero, indent_zero] at scope
  rw [mainLines_eq]
  exact scope

/-- The lines of the loop's blocks stand in the scope of the loop. -/
theorem holdsAt_mainLines {placed : List PlacedLine} {examples beats : List String}
    (name : Unbraced p.projectName) (setup : NestedLines p.setupLines)
    (shown : NestedLines examples)
    (loop : p.loopLines = examples ++ placed.map (PlacedLine.text 0) ++ beats)
    (sits : SitFrom (0 : Nat) placed) : HoldsAt 2 p.mainLines placed := by
  let banner := if p.hasBlocks then [indent 2 loopBanner] else []
  let before := "int main() \x7b" :: p.startLines ++ [indent 1 ("while (true) " ++ "\x7b")] ++
    banner ++ examples.map (indent 2)
  have silent : scopeLevel banner = 0 := by
    have : NestedLines ({ p with loopLines := [] } : Program).roundLines :=
      nested_roundLines Text.nestedLines_nil
    simpa [roundLines] using this.settled
  have scope : scopeLevel before = (2 : Nat) := by
    have main : scopeLevel ["int main() \x7b"] = 1 := by decide
    have while' : scopeLevel [indent 1 ("while (true) " ++ "\x7b")] = 1 :=
      Text.scopeLevel_opening 1 (by decide)
    simp only [before, Text.scopeLevel_append]
    rw [Text.scopeLevel_cons, main, (nested_startLines name setup).settled, while', silent,
      (shown.map_indent 2).settled]
    rfl
  have held := sits.holdsAt scope
    (beats.map (indent 2) ++ [indent 1 "\x7d", indent 1 "return 0;", "\x7d"])
  have lines : p.mainLines = before ++ placed.map (PlacedLine.text 2) ++
      (beats.map (indent 2) ++ [indent 1 "\x7d", indent 1 "return 0;", "\x7d"]) := by
    have inner : (placed.map (PlacedLine.text 0)).map (indent 2) = placed.map (PlacedLine.text 2) :=
      map_indent_text 2 0 placed
    rw [mainLines_eq, mainInner, roundLines, loop, List.map_append, List.map_append, inner]
    simp [before, banner]
  rw [lines]
  exact held

end Program

/-! ### The parts of a program -/

section Parts

variable {s : Snapshot} {projectName : String} {blocks : List Block}

theorem nestedLines_gpioInitPart (pins : ∀ pin ∈ drivenPins blocks, Unbraced pin) :
    NestedLines (gpioInitPart blocks) := by
  refine Text.nestedLines_of_unbraced fun l hl => ?_
  rw [gpioInitPart] at hl
  split at hl
  · cases hl
  · rcases List.mem_cons.mp hl with rfl | init
    · exact Text.lacks_ofList (by decide)
    · obtain ⟨pin, hpin, rfl⟩ := List.mem_map.mp init
      unfold Action.gpioInit
      simp only [toString, Text.lacks_append, pins pin hpin, and_true]
      and_intros <;> exact Text.lacks_ofList (by decide)

theorem BringsNoScope.nested_setupLines (quiet : BringsNoScope s projectName blocks)
    (heartbeat : Nat) (modules : List String) :
    NestedLines (Program.generate s heartbeat projectName blocks modules).setupLines := by
  rw [setupLines_generate]
  refine ((Text.NestedLines.append ?_ ?_).append ?_).append (nestedLines_gpioInitPart quiet.pins)
  · split
    · exact Text.nestedLines_singleton (Text.lacks_ofList (by decide))
    · exact Text.nestedLines_nil
  · exact Text.nestedLines_flatMap fun m _ => Text.nestedLines_of_unbraced m.unbraced_setup
  · refine Text.nestedLines_flatMap fun b hb => Text.nestedLines_of_forall fun l hl => ?_
    obtain ⟨there, setup⟩ := List.mem_filter.mp hb
    exact Block.nested_of_mem_setupCode (quiet.tame.of_mem there) setup hl

/-- The lines of the loop's blocks are at their levels in the loop. -/
theorem BringsNoScope.sitFrom_loop (quiet : BringsNoScope s projectName blocks) :
    let placed := Block.placedIn s false 0 (s.loopBlocks blocks)
    SitFrom (0 : Nat) placed ∧ NestedLines (placed.map PlacedLine.own) := by
  have tame : Block.AreTame s false 0 (s.loopBlocks blocks) :=
    quiet.tame.of_subset fun b hb => (List.mem_filter.mp hb).1
  exact tame.sitFrom_placedIn (Or.inr fun _ => Snapshot.isSetup_of_mem_loopBlocks)

theorem loopLines_eq_placed (s : Snapshot) (heartbeat : Nat) (projectName : String)
    (blocks : List Block) (modules : List String) :
    (Program.generate s heartbeat projectName blocks modules).loopLines =
      (if blocks = [] then (knownModules modules).flatMap BoardModule.exampleLoop else []) ++
        (Block.placedIn s false 0 (s.loopBlocks blocks)).map (PlacedLine.text 0) ++
        (if ∀ b ∈ s.loopBlocks blocks, b.type = "function_def" then [idleStatement heartbeat]
          else []) := by
  rw [loopLines_generate,
    Block.map_text_placedIn 0 (Or.inr fun _ => Snapshot.isSetup_of_mem_loopBlocks), map_indent_zero,
    Block.emitAll_eq_flatMap]

theorem nestedLines_examples (modules : List String) :
    NestedLines (if blocks = [] then (knownModules modules).flatMap BoardModule.exampleLoop
      else []) := by
  split
  · exact Text.nestedLines_flatMap fun m _ => m.nested_exampleLoop
  · exact Text.nestedLines_nil

theorem BringsNoScope.nested_loopLines (quiet : BringsNoScope s projectName blocks)
    (heartbeat : Nat) (modules : List String) :
    NestedLines (Program.generate s heartbeat projectName blocks modules).loopLines := by
  rw [loopLines_eq_placed]
  refine ((nestedLines_examples modules).append (nestedLines_map_text quiet.sitFrom_loop.2)).append
    ?_
  split
  · refine Text.nestedLines_singleton ?_
    exact Text.lacks_interpolated (Text.plain_repr heartbeat).unbraced (by decide)
  · exact Text.nestedLines_nil

/-- The scopes of each function match, be it of a module or lifted out of blocks. -/
theorem BringsNoScope.nested_functions (quiet : BringsNoScope s projectName blocks)
    (heartbeat : Nat) (modules : List String) :
    ∀ f ∈ (Program.generate s heartbeat projectName blocks modules).functions,
      NestedLines f.lines := by
  intro f hf
  have origin := hf
  rw [functions_generate_eq_collect] at origin
  rcases List.mem_append.mp (Keyed.mem_of_mem_collect origin) with ofModule | ofBlock
  · obtain ⟨m, -, own⟩ := List.mem_flatMap.mp ofModule
    obtain ⟨g, hg, rfl⟩ := List.mem_map.mp own
    obtain ⟨name, body⟩ := m.nested_functions g hg
    exact Routine.nested_lines name body
  · obtain ⟨d, complete, own⟩ := List.mem_filterMap.mp ofBlock
    obtain ⟨defined, body⟩ := Block.routine?_eq_some own
    obtain ⟨name, inner⟩ :=
      quiet.tame.of_live ((Block.completed_perm_live blocks).subset complete) defined
    refine Routine.nested_lines name.unbraced ?_
    rw [body]
    exact nestedLines_functionBody
      (nestedLines_map_text (inner.sitFrom_placedIn (Or.inl rfl)).2)

end Parts

/-! ### The whole source -/

/-- **Scopes are well nested**: if the texts from outside bring no scope, then the source closes
what it opens, and nothing else. No scope is open before a function or before `main`, and the scope
of `main` is open up to the last line. In the loop, and in each function that was lifted out of a
block, the lines of blocks stand at the levels of their depths, with four blanks before them for
each level. -/
theorem scopes_are_nested (s : Snapshot) (heartbeat : Nat) (projectName : String)
    (blocks : List Block) (modules : List String) (quiet : BringsNoScope s projectName blocks) :
    let p := Program.generate s heartbeat projectName blocks modules
    let print := fun fs : List Routine => fs.flatMap fun g => g.lines ++ [""]
    let examples := if blocks = [] then (knownModules modules).flatMap BoardModule.exampleLoop else []
    let beats := if ∀ b ∈ s.loopBlocks blocks, b.type = "function_def" then
      [idleStatement heartbeat] else []
    let loop := Block.placedIn s false 0 (s.loopBlocks blocks)
    Nested p.source.toList ∧
    (∀ before f after, p.functions = before ++ f :: after →
      p.lines = p.headerLines ++ [""] ++ print before ++ f.lines ++ [""] ++ print after ++
        p.mainLines ∧
      scopeLevel (p.headerLines ++ [""] ++ print before) = 0) ∧
    p.lines = p.headerLines ++ [""] ++ print p.functions ++ p.mainLines ∧
    scopeLevel (p.headerLines ++ [""] ++ print p.functions) = 0 ∧
    p.mainLines = "int main() \x7b" :: p.mainInner ++ ["\x7d"] ∧
    (∀ front, front <+: (unlines p.mainInner).toList →
      1 ≤ braceLevel ("int main() \x7b\n".toList ++ front)) ∧
    p.loopLines = examples ++ loop.map (PlacedLine.text 0) ++ beats ∧
    HoldsAt 2 p.mainLines loop ∧
    (∀ f ∈ p.functions, f.isLifted → ∃ d ∈ Block.live blocks, d.definedName? = some f.name ∧
      let body := Block.placedIn s true 0 d.inner
      f.body = functionBody (body.map (PlacedLine.text 0)) ∧ HoldsAt 1 f.lines body) := by
  intro p print examples beats loop
  have blank : NestedLines [""] := Text.nestedLines_singleton (by decide)
  have headers : NestedLines (p.headerLines ++ [""]) :=
    (Text.nestedLines_of_unbraced (unbraced_headerLines quiet)).append blank
  have printed : ∀ fs, (∀ f ∈ fs, f ∈ p.functions) → NestedLines (print fs) := by
    intro fs sub
    refine Text.nestedLines_flatMap fun f hf => ?_
    exact (quiet.nested_functions heartbeat modules f (sub f hf)).append blank
  have setup : NestedLines p.setupLines := quiet.nested_setupLines heartbeat modules
  have inner : NestedLines p.mainInner :=
    Program.nested_mainInner quiet.name setup (quiet.nested_loopLines heartbeat modules)
  have loopLines : p.loopLines = examples ++ loop.map (PlacedLine.text 0) ++ beats :=
    loopLines_eq_placed s heartbeat projectName blocks modules
  refine ⟨?_, ?_, rfl, ?_, p.mainLines_eq, ?_, loopLines, ?_, ?_⟩
  · have source : NestedLines p.lines :=
      (headers.append (printed p.functions fun _ h => h)).append (Program.nested_mainLines inner)
    exact source
  · intro before f after split
    have sub : ∀ g ∈ before, g ∈ p.functions := fun g hg => by simp [split, hg]
    exact ⟨p.lines_split split, (headers.append (printed before sub)).settled⟩
  · exact (headers.append (printed p.functions fun _ h => h)).settled
  · intro front isPrefix
    have opened : braceLevel "int main() \x7b\n".toList = 1 := by decide
    have := inner.sane front isPrefix
    rw [Text.braceLevel_append, opened]
    omega
  · exact Program.holdsAt_mainLines quiet.name setup (nestedLines_examples modules) loopLines
      quiet.sitFrom_loop.1
  · intro f hf lifted
    obtain ⟨d, alive, own⟩ := exists_live_of_isLifted s heartbeat projectName hf lifted
    obtain ⟨defined, body⟩ := Block.routine?_eq_some own
    obtain ⟨name, tame⟩ := quiet.tame.of_live alive defined
    have sits := (tame.sitFrom_placedIn (Or.inl rfl)).1
    exact ⟨d, alive, defined, body, Routine.holdsAt name.unbraced body sits⟩

/-- A conditional that calls a function: its call is inside of one more scope than itself. -/
theorem guarded_call_is_inside :
    let blink : Block := ⟨"f", "function_def", [("name", .string "blink")],
      [⟨"w", "sleep", [("ms", .integer 10)], []⟩]⟩
    let guard : Block :=
      ⟨"g", "if_condition", [("left", .string "x"), ("op", .string "<"), ("right", .integer 1)],
        [⟨"c", "function_call", [("ref", .string "blink")], []⟩]⟩
    let blocks := [blink, guard]
    let p := Program.generate .bare defaultHeartbeat "demo" blocks []
    BringsNoScope .bare "demo" blocks ∧
    p.loopLines = ["if (x < 1) \x7b", "    blink();", "\x7d"] ∧
    Nested p.source.toList ∧
    HoldsAt 2 p.mainLines (Block.placedIn .bare false 0 (Snapshot.bare.loopBlocks blocks)) := by
  intro blink guard blocks p
  have quiet : BringsNoScope .bare "demo" blocks := by
    refine ⟨by decide, ?_, ?_, ?_⟩
    · have tame : ∀ v ∈ Block.visitsIn false 0 blocks, v.IsTame .bare := by decide
      exact fun v hv _ => tame v hv
    · intro b _ d custom
      rw [Snapshot.contract?] at custom
      split at custom <;> cases custom
    · rw [drivenPins, walk_eq_preorder]
      decide
  obtain ⟨source, -, -, -, -, -, -, main, -⟩ :=
    scopes_are_nested .bare defaultHeartbeat "demo" blocks [] quiet
  exact ⟨quiet, by decide, source, main⟩

end Blockware
