import Blockware.Builtin.Kind
import Blockware.Param

/-!
# Blocks

A program is a list of blocks, and the two container types own a body of further blocks.

- `Block`: one block with its parameters and body.
- `Block.preorder`: every block of a list before its body, in order. The body of a block that is no
  container is never generated, so it is no part of the program and is left out.
- `Walk`: the same sequence one block at a time, from a stack of the blocks still to be visited.
- `walk_eq_preorder`: the walk visits exactly the preorder.
-/

namespace Blockware

/-- A block. Ids are opaque: only whether two are equal matters. -/
structure Block where
  id : String
  /-- The name of a built-in type or of a definition. -/
  type : String
  params : Params
  /-- The body; only that of a container is generated. -/
  inner : List Block
  deriving BEq

namespace Block

/-- A parameter slot. -/
def slot (b : Block) (key : String) : Slot := Slot.read b.params key

/-- The built-in type of the block. -/
def builtin? (b : Block) : Option Builtin := Builtin.ofType? b.type

/-- Whether code is generated for the body. -/
def takesBody (b : Block) : Bool := b.builtin?.any Builtin.takesBody

mutual

/-- How many blocks a tree has, whatever the types. -/
def size : Block → Nat
  | ⟨_, _, _, inner⟩ => sizes inner + 1

/-- How many blocks some trees have. -/
def sizes : List Block → Nat
  | [] => 0
  | b :: rest => size b + sizes rest

end

/-- The part of the body that belongs to the program. -/
def visibleInner (b : Block) : List Block := if b.takesBody then b.inner else []

mutual

/-- A block and the program in its body. -/
def reach : Block → List Block
  | ⟨id, type, params, inner⟩ =>
    let b : Block := ⟨id, type, params, inner⟩
    b :: if b.takesBody then preorder inner else []

/-- Every block of a program, each before its body. -/
def preorder : List Block → List Block
  | [] => []
  | b :: rest => reach b ++ preorder rest

end

theorem reach_eq (b : Block) : b.reach = b :: preorder b.visibleInner := by
  obtain ⟨id, type, params, inner⟩ := b
  simp only [reach, visibleInner]
  split <;> simp_all [preorder]

theorem preorder_append (xs ys : List Block) :
    preorder (xs ++ ys) = preorder xs ++ preorder ys := by
  induction xs with
  | nil => simp [preorder]
  | cons b rest ih => simp [preorder, ih]

theorem size_eq (b : Block) : b.size = sizes b.inner + 1 := by
  obtain ⟨id, type, params, inner⟩ := b
  simp [size]

theorem sizes_append (xs ys : List Block) : sizes (xs ++ ys) = sizes xs + sizes ys := by
  induction xs with
  | nil => simp [sizes]
  | cons b rest ih => simp [sizes, ih, Nat.add_assoc]

theorem sizes_visibleInner_lt (b : Block) : sizes b.visibleInner < b.size := by
  rw [size_eq]
  unfold visibleInner
  split
  · omega
  · simp [sizes]

end Block

/-- A walk over a program: the blocks still to be visited, the next one last. -/
structure Walk where
  stack : Array Block

namespace Walk

/-- The walk over a list of blocks. -/
def start (blocks : List Block) : Walk := ⟨blocks.reverse.toArray⟩

/-- The blocks on the stack, the next one first. -/
def pending (w : Walk) : List Block := w.stack.toList.reverse

/-- The next block, and the walk after it: the block is taken off the stack, and a container puts its
body there, the last block of it first. -/
def next? (w : Walk) : Option (Block × Walk) :=
  w.stack.back?.map fun b => (b, ⟨w.stack.pop ++ b.visibleInner.reverse⟩)

@[simp] theorem pending_start (blocks : List Block) : (start blocks).pending = blocks := by
  simp [start, pending]

theorem next?_eq_none_iff {w : Walk} : w.next? = none ↔ w.pending = [] := by
  simp [next?, pending]

/-- A step visits the first pending block, and then its body is pending before the others. -/
theorem pending_of_next? {w v : Walk} {b : Block} (h : w.next? = some (b, v)) :
    ∃ rest, w.pending = b :: rest ∧ v.pending = b.visibleInner ++ rest := by
  obtain ⟨top, last, same⟩ := Option.map_eq_some_iff.mp h
  cases same
  obtain ⟨rest, split⟩ := Array.back?_eq_some_iff.mp last
  refine ⟨rest.toList.reverse, ?_, ?_⟩
  · simp [pending, split]
  · simp [pending, split]

/-- All blocks that a walk still visits. -/
def toList (w : Walk) : List Block :=
  match _h : w.next? with
  | none => []
  | some (b, v) => b :: toList v
termination_by Block.sizes w.pending
decreasing_by
  obtain ⟨rest, before, after⟩ := pending_of_next? _h
  rw [before, after, Block.sizes_append, Block.sizes]
  have := Block.sizes_visibleInner_lt b
  omega

/-- A walk visits the preorder of the blocks on its stack, from the top down. -/
theorem toList_eq (w : Walk) : w.toList = Block.preorder w.pending := by
  fun_induction toList w with
  | case1 w h => rw [next?_eq_none_iff.mp h, Block.preorder]
  | case2 w b v h ih =>
    obtain ⟨rest, before, after⟩ := pending_of_next? h
    rw [ih, before, after, Block.preorder_append, Block.preorder, Block.reach_eq, List.cons_append]

end Walk

/-- Every block of a program, each before its body. -/
def walk (blocks : List Block) : List Block := (Walk.start blocks).toList

theorem walk_eq_preorder (blocks : List Block) : walk blocks = Block.preorder blocks := by
  rw [walk, Walk.toList_eq, Walk.pending_start]

end Blockware
