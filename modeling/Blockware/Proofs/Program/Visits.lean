import Blockware.Program.Generate
import Blockware.Proofs.Walk

/-!
# What a visited block adds

The code of a program told block by block, in the order of a walk and without the functions that
are lifted out on the way.

- `Visit`, `Block.visits`: the blocks of a walk, each with its place: whether it stands in a
  body, and how many conditionals stand around it.
- `Block.ownLines`: the lines that a block adds by itself. A definition of a function adds none:
  the lines of its body are those of other blocks.
- `Block.map_block_visits`: the visits are those of a walk, in its order.
- `Block.emit_functionDef`, `Block.emit_ifCondition`, `Block.emit_leaf`: what a block emits, in
  terms of its own lines and of what its body emits.
- `Block.emit_congr`: nothing else of a block and of the snapshot matters for that.
-/

namespace Blockware

/-- A block where a walk visits it. -/
structure Visit where
  block : Block
  /-- Whether the block stands in a body. -/
  nested : Bool
  /-- How many conditionals stand around the block in the main loop or in its function. -/
  depth : Nat

namespace Block

mutual

/-- A block at a place, and the blocks in its body at theirs. -/
def visitsOf (nested : Bool) (depth : Nat) : Block → List Visit
  | ⟨id, type, params, inner⟩ =>
    ⟨⟨id, type, params, inner⟩, nested, depth⟩ ::
      match Builtin.ofType? type with
      | some .functionDef => visitsIn true 0 inner
      | some .ifCondition => visitsIn true (depth + 1) inner
      | _ => []

/-- The blocks of a list at a place, each before those in its body. -/
def visitsIn (nested : Bool) (depth : Nat) : List Block → List Visit
  | [] => []
  | b :: rest => visitsOf nested depth b ++ visitsIn nested depth rest

end

/-- The visits of a walk over a program. -/
def visits (blocks : List Block) : List Visit := visitsIn false 0 blocks

/-- The lines that a block adds by itself, at the top of the program or `nested` in a body. -/
def ownLines (s : Snapshot) (nested : Bool) (b : Block) : List String :=
  match s.contract? b.type with
  | none => [unknownComment b.type]
  | some contract =>
    if contract.category = .setup then
      if nested then [ignoredSetupComment b.type] else b.setupCode s
    else
      match contract with
      | .builtin .functionDef => []
      | .builtin .ifCondition => [(Condition.ofBlock b).guardLine, "\x7d"]
      | .builtin kind => b.loopLinesAs kind
      | .custom d => ((d.codeText? b.params).map codeLines).getD []

/-- Whether a block defines a function to which no block adds a line. -/
def isHollow (s : Snapshot) (b : Block) : Bool :=
  b.builtin? = some .functionDef && b.inner.all fun c => (c.ownLines s true).isEmpty

end Block

namespace Visit

/-- The lines of a visited block, behind the indentation of its place. -/
def lines (s : Snapshot) (v : Visit) : List String :=
  (v.block.ownLines s v.nested).map (indent v.depth)

/-- The line that stands for the body of a function that has none. -/
def placeholder (s : Snapshot) (v : Visit) : List String :=
  if v.block.isHollow s then ["// Empty function"] else []

end Visit

/-! ### Kinds of blocks -/

namespace Snapshot

/-- A type means a built-in, or else the definition of its name. -/
theorem contract?_eq_some_iff {s : Snapshot} {type : String} {c : Contract} :
    s.contract? type = some c ↔
      (∃ kind, Builtin.ofType? type = some kind ∧ c = .builtin kind) ∨
        ∃ d, Builtin.ofType? type = none ∧ s.definition? type = some d ∧ c = .custom d := by
  rw [contract?]
  cases Builtin.ofType? type with
  | none => simp [Option.map_eq_some_iff, eq_comm (b := c)]
  | some kind => simp [eq_comm]

/-- A type means a built-in exactly if it names it. -/
theorem contract?_eq_builtin_iff {s : Snapshot} {b : Block} {kind : Builtin} :
    s.contract? b.type = some (.builtin kind) ↔ b.builtin? = some kind := by
  simp [contract?_eq_some_iff, Block.builtin?]

/-- A type means a definition exactly if it names no built-in and the definition has its name. -/
theorem contract?_eq_custom_iff {s : Snapshot} {type : String} {d : Definition} :
    s.contract? type = some (.custom d) ↔
      Builtin.ofType? type = none ∧ s.definition? type = some d := by
  simp [contract?_eq_some_iff]

/-- A built-in type means itself. -/
theorem contract?_of_builtin (s : Snapshot) {b : Block} {kind : Builtin}
    (h : b.builtin? = some kind) : s.contract? b.type = some (.builtin kind) :=
  contract?_eq_builtin_iff.mpr h

/-- The built-in that a type means has the type as its name. -/
theorem typeName_of_contract? {s : Snapshot} {b : Block} {kind : Builtin}
    (h : s.contract? b.type = some (.builtin kind)) : kind.typeName = b.type :=
  Builtin.typeName_of_ofType? (contract?_eq_builtin_iff.mp h)

/-- The category of a type that means something is that of its meaning. -/
theorem isSetup_of_contract {s : Snapshot} {b : Block} {c : Contract}
    (h : s.contract? b.type = some c) : s.isSetup b = decide (c.category = .setup) := by
  rw [isSetup, categoryOfType, h]

/-- The category of a built-in type is its own, whatever the definitions. -/
theorem isSetup_of_builtin (s : Snapshot) {b : Block} {kind : Builtin}
    (h : b.builtin? = some kind) : s.isSetup b = decide (kind.category = .setup) :=
  isSetup_of_contract (s.contract?_of_builtin h)

theorem isSetup_of_mem_loopBlocks {s : Snapshot} {blocks : List Block} {b : Block}
    (h : b ∈ s.loopBlocks blocks) : s.isSetup b = false := by
  simpa using (List.mem_filter.mp h).2

end Snapshot

@[simp] theorem Contract.category_functionDef :
    (Contract.builtin .functionDef).category = .loop := by decide

@[simp] theorem Contract.category_ifCondition :
    (Contract.builtin .ifCondition).category = .loop := by decide

namespace Block

/-- A block defines a function, is a conditional, or has no body that counts. -/
theorem kind_cases (b : Block) :
    b.builtin? = some .functionDef ∨ b.builtin? = some .ifCondition ∨ ¬ b.takesBody := by
  by_cases h : b.takesBody
  · rcases takesBody_iff.mp h with h | h
    · exact Or.inl h
    · exact Or.inr (Or.inl h)
  · exact Or.inr (Or.inr h)

/-- No container belongs to the part that runs once. -/
theorem isSetup_of_takesBody (s : Snapshot) {b : Block} (h : b.takesBody) :
    s.isSetup b = false := by
  rcases takesBody_iff.mp h with h | h
  · rw [s.isSetup_of_builtin h]
    decide
  · rw [s.isSetup_of_builtin h]
    decide

theorem not_takesBody_of_isSetup {s : Snapshot} {b : Block} (h : s.isSetup b) : ¬ b.takesBody := by
  intro body
  rw [isSetup_of_takesBody s body] at h
  cases h

/-! ### Visits by kinds -/

theorem visitsOf_functionDef {b : Block} (h : b.builtin? = some .functionDef) (nested : Bool)
    (depth : Nat) : visitsOf nested depth b = ⟨b, nested, depth⟩ :: visitsIn true 0 b.inner := by
  obtain ⟨id, type, params, inner⟩ := b
  have found : Builtin.ofType? type = some .functionDef := h
  rw [visitsOf, found]

theorem visitsOf_ifCondition {b : Block} (h : b.builtin? = some .ifCondition) (nested : Bool)
    (depth : Nat) :
    visitsOf nested depth b = ⟨b, nested, depth⟩ :: visitsIn true (depth + 1) b.inner := by
  obtain ⟨id, type, params, inner⟩ := b
  have found : Builtin.ofType? type = some .ifCondition := h
  rw [visitsOf, found]

theorem visitsOf_leaf {b : Block} (h : ¬ b.takesBody) (nested : Bool) (depth : Nat) :
    visitsOf nested depth b = [⟨b, nested, depth⟩] := by
  rw [takesBody_iff] at h
  obtain ⟨id, type, params, inner⟩ := b
  rw [visitsOf]
  split
  · exact absurd (Or.inl ‹_›) h
  · exact absurd (Or.inr ‹_›) h
  · rfl

/-- The visits in a list are those of its blocks, one after the other. -/
theorem visitsIn_eq_flatMap (nested : Bool) (depth : Nat) (blocks : List Block) :
    visitsIn nested depth blocks = blocks.flatMap (visitsOf nested depth) := by
  induction blocks with
  | nil => rfl
  | cons b rest ih => rw [visitsIn, ih, List.flatMap_cons]

/-- The visits are the blocks in preorder, wherever the list stands. -/
theorem map_block_visitsIn (nested : Bool) (depth : Nat) (blocks : List Block) :
    (visitsIn nested depth blocks).map Visit.block = preorder blocks := by
  induction blocks using program_induction generalizing nested depth with
  | nil => rfl
  | cons b rest inner ih =>
    rw [visitsIn, List.map_append, ih, preorder, reach_eq]
    congr 1
    rcases kind_cases b with h | h | h
    · rw [visitsOf_functionDef h, visibleInner_of_takesBody (takesBody_iff.mpr (Or.inl h)),
        List.map_cons, inner]
    · rw [visitsOf_ifCondition h, visibleInner_of_takesBody (takesBody_iff.mpr (Or.inr h)),
        List.map_cons, inner]
    · rw [visitsOf_leaf h, visibleInner_of_not_takesBody h]
      rfl

/-- The visits are those of a walk, in its order. -/
theorem map_block_visits (blocks : List Block) :
    (visits blocks).map Visit.block = walk blocks := by
  rw [walk_eq_preorder]
  exact map_block_visitsIn false 0 blocks

/-! ### Emissions by kinds -/

theorem ownLines_functionDef (s : Snapshot) {b : Block} (h : b.builtin? = some .functionDef)
    (nested : Bool) : b.ownLines s nested = [] := by
  rw [ownLines, s.contract?_of_builtin h]
  exact if_neg (by simp)

theorem ownLines_ifCondition (s : Snapshot) {b : Block} (h : b.builtin? = some .ifCondition)
    (nested : Bool) : b.ownLines s nested = [(Condition.ofBlock b).guardLine, "\x7d"] := by
  rw [ownLines, s.contract?_of_builtin h]
  exact if_neg (by simp)

/-- An action adds its statements, wherever it stands and whatever the snapshot. -/
theorem ownLines_action (s : Snapshot) {b : Block} {kind : Builtin} (h : b.builtin? = some kind)
    (leaf : kind.takesBody = false) (loop : kind.category = .loop) (nested : Bool) :
    b.ownLines s nested = b.loopLinesAs kind := by
  have notSetup : ¬ (Contract.builtin kind).category = .setup := by
    show ¬ kind.category = .setup
    simp [loop]
  rw [ownLines, s.contract?_of_builtin h]
  simp only [if_neg notSetup]
  cases kind with
  | functionDef | ifCondition => cases leaf
  | _ => rfl

/-- What a block for the part that runs once adds at the top is its code there. -/
theorem ownLines_of_isSetup {s : Snapshot} {b : Block} (h : s.isSetup b) :
    b.ownLines s false = b.setupCode s := by
  rw [ownLines]
  split
  · rename_i unknown
    rw [setupCode, unknown]
  · rename_i c known
    rw [Snapshot.isSetup_of_contract known, decide_eq_true_iff] at h
    rw [if_pos h]
    rfl

/-- The code of a built-in block is its statements, whatever the definitions. -/
theorem setupCode_of_builtin (s : Snapshot) {b : Block} {kind : Builtin}
    (h : b.builtin? = some kind) : b.setupCode s = b.setupLinesAs kind := by
  rw [setupCode, s.contract?_of_builtin h]

/-- A configuration adds its statements at the top of a program, whatever the snapshot. -/
theorem ownLines_config (s : Snapshot) {b : Block} {kind : Builtin} (h : b.builtin? = some kind)
    (setup : kind.category = .setup) : b.ownLines s false = b.setupLinesAs kind := by
  have isSetup : s.isSetup b := (s.isSetup_of_builtin h).trans (decide_eq_true setup)
  rw [ownLines_of_isSetup isSetup, b.setupCode_of_builtin s h]

/-- A definition of a function with a name emits the functions of its body and then its own. -/
theorem emit_functionDef (s : Snapshot) {b : Block} {name : String}
    (h : b.builtin? = some .functionDef) (named : functionName? b = some name) (nested : Bool) :
    b.emit s nested =
      { functions := (emitAll s true b.inner).functions ++
          [⟨name, functionBody (emitAll s true b.inner).lines, .block⟩] } := by
  have meaning := s.contract?_of_builtin h
  obtain ⟨id, type, params, inner⟩ := b
  rw [emit]
  simp only at meaning named ⊢
  rw [meaning, named]
  simp

/-- A definition of a function without a name emits nothing, whatever stands in its body. -/
theorem emit_anonymous (s : Snapshot) {b : Block} (h : b.builtin? = some .functionDef)
    (anonymous : functionName? b = none) (nested : Bool) : b.emit s nested = {} := by
  have meaning := s.contract?_of_builtin h
  obtain ⟨id, type, params, inner⟩ := b
  rw [emit]
  simp only at meaning anonymous ⊢
  rw [meaning, anonymous]
  simp

/-- A conditional emits its guard, the lines of its body one level further in, and a brace. -/
theorem emit_ifCondition (s : Snapshot) {b : Block} (h : b.builtin? = some .ifCondition)
    (nested : Bool) :
    b.emit s nested =
      { lines := (Condition.ofBlock b).guardLine ::
          (emitAll s true b.inner).lines.map (indent 1) ++ ["\x7d"]
        functions := (emitAll s true b.inner).functions } := by
  have meaning := s.contract?_of_builtin h
  obtain ⟨id, type, params, inner⟩ := b
  rw [emit]
  simp only at meaning ⊢
  rw [meaning]
  simp

/-- Any other block emits its own lines, in a body or in the loop. -/
theorem emit_leaf {s : Snapshot} {b : Block} {nested : Bool} (h : ¬ b.takesBody)
    (place : nested = true ∨ s.isSetup b = false) :
    b.emit s nested = { lines := b.ownLines s nested } := by
  rw [takesBody_iff, ← s.contract?_eq_builtin_iff, ← s.contract?_eq_builtin_iff] at h
  obtain ⟨id, type, params, inner⟩ := b
  rw [emit, ownLines]
  simp only at h ⊢
  cases meaning : s.contract? type with
  | none => rfl
  | some c =>
    rw [meaning] at h
    -- A block for the part that runs once is emitted in a body only, as a comment.
    by_cases setup : c.category = .setup
    · have inBody : nested = true := by
        rcases place with inBody | loop
        · exact inBody
        · rw [Snapshot.isSetup_of_contract meaning, decide_eq_false_iff_not] at loop
          exact absurd setup loop
      simp [setup, inBody]
    · simp only [setup, decide_false, Bool.and_false]
      rcases c with kind | d
      · cases kind with
        | functionDef => exact absurd (Or.inl rfl) h
        | ifCondition => exact absurd (Or.inr rfl) h
        | _ => rfl
      · rfl

/-- What a block emits depends on the meaning of its type, on its parameters, and, if it is a
container, on what its body emits. -/
theorem emit_congr {s t : Snapshot} {a b : Block} {nested : Bool} (type : a.type = b.type)
    (params : a.params = b.params) (meaning : s.contract? a.type = t.contract? a.type)
    (body : a.takesBody → emitAll s true a.inner = emitAll t true b.inner) :
    a.emit s nested = b.emit t nested := by
  have isBuiltin {kind : Builtin} : t.contract? a.type = some (.builtin kind) →
      a.builtin? = some kind := Snapshot.contract?_eq_builtin_iff.mp
  obtain ⟨id, type', params', inner⟩ := a
  obtain ⟨id', type'', params'', inner'⟩ := b
  cases type
  cases params
  rw [emit, emit]
  simp only at meaning isBuiltin body ⊢
  rw [meaning]
  cases found : t.contract? type' with
  | none => rfl
  | some c =>
    rcases c with kind | d
    · -- Only the two containers look into their bodies.
      cases kind with
      | functionDef =>
        rw [body (takesBody_iff.mpr (Or.inl (isBuiltin found)))]
        rfl
      | ifCondition =>
        rw [body (takesBody_iff.mpr (Or.inr (isBuiltin found)))]
        rfl
      | _ => rfl
    · rfl

/-- A block without a body that counts lifts no function out. -/
theorem functions_emit_leaf (s : Snapshot) {b : Block} (h : ¬ b.takesBody) (nested : Bool) :
    (b.emit s nested).functions = [] := by
  rw [takesBody_iff, ← s.contract?_eq_builtin_iff, ← s.contract?_eq_builtin_iff] at h
  obtain ⟨id, type, params, inner⟩ := b
  rw [emit]
  simp only at h ⊢
  split
  · rfl
  · rename_i c meaning
    rw [meaning] at h
    split
    · rfl
    · rcases c with kind | d
      · cases kind with
        | functionDef => exact absurd (Or.inl rfl) h
        | ifCondition => exact absurd (Or.inr rfl) h
        | _ => rfl
      · rfl

end Block
end Blockware
