import Blockware.Block

/-!
# The theory of walks

How programs are taken apart, and which blocks a walk over them visits.

- `Block.program_induction`: induction over a list of blocks, with a hypothesis for the body of
  the first block and one for the blocks after it.
- `Block.sublist_preorder`: the blocks of a list are visited in their order, with others between
  them.
- `Block.mem_preorder_trans`: what is visited in the body of a visited container is visited.
- `Walk.Runs`, `Walk.remaining`: the runs of a walk step by step, and what is left of a walk.
- `walk_follows_preorder`: every run follows the recursion over the blocks, and comes to its end.
-/

namespace Blockware.Block

/-- Induction over a list of blocks: its first block has a body, which is a list of blocks too.
Bodies of all blocks count here, also of those that are no containers. -/
@[elab_as_elim]
theorem program_induction {motive : List Block → Prop} (nil : motive [])
    (cons : ∀ b rest, motive b.inner → motive rest → motive (b :: rest)) :
    ∀ blocks, motive blocks
  | [] => nil
  | b :: rest =>
    cons b rest (program_induction nil cons b.inner) (program_induction nil cons rest)
termination_by blocks => sizes blocks
decreasing_by
  all_goals
    simp only [sizes, size_eq]
    omega

/-! ### Containers -/

/-- A type names a built-in if it has that name. -/
theorem builtin?_eq_some_iff {b : Block} {kind : Builtin} :
    b.builtin? = some kind ↔ b.type = kind.typeName := by
  constructor
  · intro found
    exact (Builtin.typeName_of_ofType? found).symm
  · intro type
    rw [builtin?, type]
    exact Builtin.ofType?_typeName kind

/-- Whether the body of a block of a built-in type counts is a matter of the type. -/
theorem takesBody_of_builtin {b : Block} {kind : Builtin} (h : b.builtin? = some kind) :
    b.takesBody = kind.takesBody := by
  rw [takesBody, h, Option.any_some]

/-- The containers are the definitions of functions and the conditionals. -/
theorem takesBody_iff {b : Block} :
    b.takesBody ↔ b.builtin? = some .functionDef ∨ b.builtin? = some .ifCondition := by
  rw [takesBody]
  cases b.builtin? with
  | none => simp
  | some kind => cases kind <;> simp [Builtin.takesBody]

/-! ### The preorder -/

theorem preorder_cons (b : Block) (rest : List Block) :
    preorder (b :: rest) = b :: (preorder b.visibleInner ++ preorder rest) := by
  rw [preorder, reach_eq, List.cons_append]

theorem preorder_eq_flatMap (blocks : List Block) : preorder blocks = blocks.flatMap reach := by
  induction blocks with
  | nil => rfl
  | cons b rest ih => rw [preorder, ih, List.flatMap_cons]

/-- Leaving blocks out of a list adds no block to its walk. -/
theorem mem_preorder_of_filter {p : Block → Bool} {b : Block} {blocks : List Block}
    (h : b ∈ preorder (blocks.filter p)) : b ∈ preorder blocks := by
  rw [preorder_eq_flatMap, List.mem_flatMap] at h ⊢
  obtain ⟨top, htop, hb⟩ := h
  exact ⟨top, (List.mem_filter.mp htop).1, hb⟩

theorem visibleInner_of_takesBody {b : Block} (h : b.takesBody) : b.visibleInner = b.inner :=
  if_pos h

theorem visibleInner_of_not_takesBody {b : Block} (h : ¬ b.takesBody) : b.visibleInner = [] :=
  if_neg h

/-- A walk visits the blocks of its list in their order. -/
theorem sublist_preorder (blocks : List Block) : blocks.Sublist (preorder blocks) := by
  induction blocks with
  | nil => exact List.Sublist.refl []
  | cons b rest ih =>
    rw [preorder_cons]
    exact (ih.trans (List.sublist_append_right _ _)).cons_cons b

/-- What a walk visits: the first block, what it visits in its body, and what it visits after
it. -/
theorem mem_preorder_cons {b c : Block} {rest : List Block} :
    c ∈ preorder (b :: rest) ↔
      c = b ∨ (b.takesBody ∧ c ∈ preorder b.inner) ∨ c ∈ preorder rest := by
  rw [preorder_cons, List.mem_cons, List.mem_append]
  by_cases body : b.takesBody
  · rw [visibleInner_of_takesBody body]
    simp [body]
  · rw [visibleInner_of_not_takesBody body]
    simp [body, preorder]

/-- A walk visits what a walk over the body of a visited container visits. -/
theorem mem_preorder_trans {u f : Block} {blocks : List Block} (hu : u ∈ preorder blocks)
    (body : u.takesBody) (hf : f ∈ preorder u.inner) : f ∈ preorder blocks := by
  induction blocks using program_induction with
  | nil => simp [preorder] at hu
  | cons b rest ihInner ihRest =>
    rw [mem_preorder_cons] at hu ⊢
    rcases hu with rfl | ⟨container, inner⟩ | later
    · exact Or.inr (Or.inl ⟨body, hf⟩)
    · exact Or.inr (Or.inl ⟨container, ihInner inner⟩)
    · exact Or.inr (Or.inr (ihRest later))

end Blockware.Block

/-! ### Runs of a walk -/

namespace Blockware.Walk

/-- What is left of a walk: what is reached from each block on the stack, from the top down. -/
def remaining (w : Walk) : List Block := w.pending.flatMap Block.reach

/-- A walk visits some blocks, one after the other, and leaves another walk to be done. -/
inductive Runs : Walk → List Block → Walk → Prop
  | stop (w : Walk) : Runs w [] w
  | next {w v u : Walk} {b : Block} {visited : List Block} (step : w.next? = some (b, v))
      (run : Runs v visited u) : Runs w (b :: visited) u

variable {w v : Walk} {b : Block} {visited : List Block}

/-- A step visits the first block of what is left, and leaves the others. Where it takes a container
off the stack it puts the whole body there, so it is this list that gets shorter, not the stack. -/
theorem remaining_of_next? (h : w.next? = some (b, v)) : w.remaining = b :: v.remaining := by
  obtain ⟨rest, before, after⟩ := pending_of_next? h
  rw [remaining, remaining, before, after, List.flatMap_cons, List.flatMap_append, Block.reach_eq,
    Block.preorder_eq_flatMap, List.cons_append]

/-- A walk is at its end exactly if nothing is left. -/
theorem remaining_eq_nil_iff : w.remaining = [] ↔ w.next? = none := by
  constructor
  · intro done
    cases h : w.next? with
    | none => rfl
    | some step =>
      rw [remaining_of_next? h] at done
      cases done
  · intro done
    rw [remaining, next?_eq_none_iff.mp done, List.flatMap_nil]

/-- What a run visits, and then what it leaves, is what was left before it. -/
theorem Runs.remaining_eq (h : Runs w visited v) : w.remaining = visited ++ v.remaining := by
  induction h with
  | stop w => rfl
  | next step _ ih => rw [remaining_of_next? step, ih, List.cons_append]

/-- A run from any stack comes to its end, and visits what is left on the way. -/
theorem exists_runs_remaining (w : Walk) : ∃ v, Runs w w.remaining v ∧ v.next? = none := by
  -- Each step leaves one block less, whatever it does to the stack.
  induction left : w.remaining generalizing w with
  | nil => exact ⟨w, .stop w, remaining_eq_nil_iff.mp left⟩
  | cons b rest ih =>
    cases h : w.next? with
    | none =>
      rw [remaining_eq_nil_iff.mpr h] at left
      cases left
    | some step =>
      obtain ⟨c, u⟩ := step
      rw [remaining_of_next? h] at left
      obtain ⟨rfl, rfl⟩ := List.cons.inj left
      obtain ⟨v, run, done⟩ := ih u rfl
      exact ⟨v, .next h run, done⟩

theorem toList_eq_remaining (w : Walk) : w.toList = w.remaining := by
  rw [toList_eq, Block.preorder_eq_flatMap, remaining]

theorem remaining_start (blocks : List Block) :
    (start blocks).remaining = Block.preorder blocks := by
  rw [remaining, pending_start, Block.preorder_eq_flatMap]

end Blockware.Walk

namespace Blockware

/-- **A walk follows the recursion over the blocks**, in which each block stands before its body, and
only definitions of functions and conditionals have one. A walk over any blocks comes to its end, and
then it has visited just these blocks in this order. Wherever it is on the way, what it has visited
and what is reached from the blocks on its stack, from the top down, are these blocks. And a walk with
any blocks on its stack still visits what is reached from them; each step takes one block of it. -/
theorem walk_follows_preorder (blocks : List Block) :
    (∀ b : Block, b.reach =
      b :: if b.type = "function_def" ∨ b.type = "if_condition" then Block.preorder b.inner else []) ∧
    (∀ bs : List Block, Block.preorder bs = bs.flatMap Block.reach) ∧
    walk blocks = Block.preorder blocks ∧
    (∃ v, (Walk.start blocks).Runs (Block.preorder blocks) v ∧ v.next? = none) ∧
    (∀ visited w, (Walk.start blocks).Runs visited w →
      Block.preorder blocks = visited ++ w.stack.toList.reverse.flatMap Block.reach ∧
      (w.next? = none → visited = Block.preorder blocks)) ∧
    ∀ w : Walk, let left := w.stack.toList.reverse.flatMap Block.reach
      w.toList = left ∧ (∃ v, w.Runs left v ∧ v.next? = none) ∧
      ∀ b v, w.next? = some (b, v) → left = b :: v.stack.toList.reverse.flatMap Block.reach := by
  refine ⟨?_, Block.preorder_eq_flatMap, walk_eq_preorder blocks, ?_, ?_, ?_⟩
  · intro b
    have container : b.takesBody ↔ b.type = "function_def" ∨ b.type = "if_condition" := by
      rw [Block.takesBody_iff, Block.builtin?_eq_some_iff, Block.builtin?_eq_some_iff]
      rfl
    rw [Block.reach_eq, Block.visibleInner]
    by_cases body : b.takesBody
    · rw [if_pos body, if_pos (container.mp body)]
    · rw [if_neg body, if_neg (mt container.mpr body), Block.preorder]
  · rw [← Walk.remaining_start]
    exact Walk.exists_runs_remaining _
  · intro visited w run
    have split : Block.preorder blocks = visited ++ w.remaining := by
      rw [← Walk.remaining_start, run.remaining_eq]
    refine ⟨split, fun done => ?_⟩
    rw [split, Walk.remaining_eq_nil_iff.mpr done, List.append_nil]
  · intro w left
    exact ⟨w.toList_eq_remaining, w.exists_runs_remaining, fun b v => Walk.remaining_of_next?⟩

/-- A function with a conditional in it, and a pause after it: while the body is walked the pause is
still on the stack, and it is visited last. -/
theorem pause_is_visited_last :
    let log : Block := ⟨"d", "log", [], [⟨"x", "sleep", [], []⟩]⟩
    let guard : Block := ⟨"c", "if_condition", [], [log]⟩
    let wait : Block := ⟨"b", "sleep", [], []⟩
    let blink : Block := ⟨"a", "function_def", [], [wait, guard]⟩
    let pause : Block := ⟨"e", "sleep", [], []⟩
    let w : Walk := ⟨#[pause, guard]⟩
    (Walk.start [blink, pause]).Runs [blink, wait] w ∧
    Block.preorder [blink, pause] = [blink, wait] ++ [guard, log, pause] ∧
    walk [blink, pause] = [blink, wait, guard, log, pause] := by
  intro log guard wait blink pause w
  have first : (Walk.start [blink, pause]).next? = some (blink, ⟨#[pause, guard, wait]⟩) := rfl
  have second : Walk.next? ⟨#[pause, guard, wait]⟩ = some (wait, w) := rfl
  have run : (Walk.start [blink, pause]).Runs [blink, wait] w := .next first (.next second (.stop w))
  obtain ⟨-, -, same, -, onTheWay, -⟩ := walk_follows_preorder [blink, pause]
  have split : Block.preorder [blink, pause] = [blink, wait] ++ [guard, log, pause] :=
    (onTheWay _ _ run).1
  exact ⟨run, split, same.trans split⟩

end Blockware
