import Blockware.Proofs.Program.Conservation

/-!
# Which line comes from where

The lines that blocks emit, each with the visit that adds it. A conditional stands around the lines
of its body; the lines of a function's body are in the function, and none of them is here.

- `PlacedLine`, `Block.placedIn`: the lines of blocks in their order, without indentation.
- `Block.map_text_placedIn`: behind the indentation of their places they are what is emitted.
- `Block.mem_placedIn`: each comes from a visited live block, and is one of its own lines.
- `functionBody_placedIn`: the body of a function by its lines.
-/

namespace Blockware

/-- A line that a visited block adds by itself. -/
structure PlacedLine where
  visit : Visit
  /-- The line without the indentation of its place. -/
  own : String

/-- The line in a scope that stands at some level, behind the indentation of its place there. -/
def PlacedLine.text (level : Nat) (q : PlacedLine) : String := indent (level + q.visit.depth) q.own

namespace Block

mutual

/-- The lines of a block at a place. -/
def placedOf (s : Snapshot) (nested : Bool) (depth : Nat) : Block → List PlacedLine
  | ⟨id, type, params, inner⟩ =>
    let b : Block := ⟨id, type, params, inner⟩
    let place : String → PlacedLine := fun own => ⟨⟨b, nested, depth⟩, own⟩
    match b.builtin? with
    | some .functionDef => []
    | some .ifCondition =>
      place (Condition.ofBlock b).guardLine :: placedIn s true (depth + 1) inner ++ [place "\x7d"]
    | _ => (b.ownLines s nested).map place

/-- The lines of the blocks of a list, one after the other. -/
def placedIn (s : Snapshot) (nested : Bool) (depth : Nat) : List Block → List PlacedLine
  | [] => []
  | b :: rest => placedOf s nested depth b ++ placedIn s nested depth rest

end

variable {s : Snapshot} {b : Block} {blocks : List Block} {nested : Bool} {depth : Nat}

theorem placedOf_functionDef (h : b.builtin? = some .functionDef) :
    placedOf s nested depth b = [] := by
  obtain ⟨id, type, params, inner⟩ := b
  rw [placedOf]
  simp only at h ⊢
  rw [h]

theorem placedOf_ifCondition (h : b.builtin? = some .ifCondition) :
    placedOf s nested depth b =
      ⟨⟨b, nested, depth⟩, (Condition.ofBlock b).guardLine⟩ ::
        placedIn s true (depth + 1) b.inner ++ [⟨⟨b, nested, depth⟩, "\x7d"⟩] := by
  obtain ⟨id, type, params, inner⟩ := b
  rw [placedOf]
  simp only at h ⊢
  rw [h]

theorem placedOf_leaf (h : ¬ b.takesBody) :
    placedOf s nested depth b = (b.ownLines s nested).map fun own => ⟨⟨b, nested, depth⟩, own⟩ := by
  rw [takesBody_iff] at h
  obtain ⟨id, type, params, inner⟩ := b
  rw [placedOf]
  simp only
  split
  · exact absurd (Or.inl ‹_›) h
  · exact absurd (Or.inr ‹_›) h
  · rfl

/-- Behind the indentation of their places, the lines are those that the blocks emit. -/
theorem map_text_placedIn (level : Nat) (place : nested = true ∨ ∀ b ∈ blocks, s.isSetup b = false) :
    (placedIn s nested depth blocks).map (PlacedLine.text level) =
      (emitAll s nested blocks).lines.map (indent (level + depth)) := by
  induction blocks using program_induction generalizing nested depth with
  | nil => rfl
  | cons b rest ihInner ihRest =>
    rw [placedIn, emitAll, Emission.lines_append, List.map_append, List.map_append,
      ihRest (place.imp_right fun loop c hc => loop c (List.mem_cons_of_mem b hc))]
    congr 1
    rcases kind_cases b with h | h | h
    · rw [placedOf_functionDef h]
      cases name : functionName? b with
      | none => rw [emit_anonymous s h name]; rfl
      | some name' => rw [emit_functionDef s h name]; rfl
    · rw [placedOf_ifCondition h, emit_ifCondition s h]
      simp only [List.map_append, List.map_cons, List.map_nil, map_indent_indent, Nat.add_assoc,
        ihInner (Or.inl rfl)]
      rfl
    · rw [placedOf_leaf h, emit_leaf h (place.imp_right fun loop => loop b List.mem_cons_self),
        List.map_map]
      rfl

/-- Each line is one of its visit's own, and the visit is that of a live block. -/
theorem mem_placedIn {q : PlacedLine} (hq : q ∈ placedIn s nested depth blocks) :
    q.visit ∈ visitsIn nested depth blocks ∧ q.visit.block ∈ live blocks ∧
      q.own ∈ q.visit.block.ownLines s q.visit.nested := by
  induction blocks using program_induction generalizing nested depth with
  | nil => simp [placedIn] at hq
  | cons b rest ihInner ihRest =>
    rw [visitsIn, mem_live_cons]
    rw [placedIn, List.mem_append] at hq
    rcases hq with first | later
    · rcases kind_cases b with h | h | h
      · simp [placedOf_functionDef h] at first
      · have named : ¬ b.isAnonymous := by simp [isAnonymous, h]
        rw [placedOf_ifCondition h, List.cons_append, List.mem_cons, List.mem_append,
          List.mem_singleton] at first
        rw [visitsOf_ifCondition h]
        rcases first with rfl | inner | rfl
        · exact ⟨by simp, Or.inl rfl, by simp [ownLines_ifCondition s h]⟩
        · obtain ⟨visited, alive, own⟩ := ihInner inner
          refine ⟨by simp [visited], Or.inr (Or.inl ⟨?_, named, alive⟩), own⟩
          exact takesBody_iff.mpr (Or.inr h)
        · exact ⟨by simp, Or.inl rfl, by simp [ownLines_ifCondition s h]⟩
      · rw [placedOf_leaf h, List.mem_map] at first
        obtain ⟨own, hown, rfl⟩ := first
        exact ⟨by simp [visitsOf_leaf h], Or.inl rfl, hown⟩
    · obtain ⟨visited, alive, own⟩ := ihRest later
      exact ⟨List.mem_append_right _ visited, Or.inr (Or.inr alive), own⟩

/-- The one line of a call calls its function, whatever the snapshot. -/
theorem ownLines_functionCall (s : Snapshot) (h : b.builtin? = some .functionCall) (nested : Bool) :
    b.ownLines s nested = [s!"{callTarget b}();"] :=
  ownLines_action s h rfl (by decide) nested

end Block

/-- The body of a function has the lines of the blocks in it, or a comment in their place. -/
theorem functionBody_placedIn (s : Snapshot) (blocks : List Block) :
    functionBody (Block.emitAll s true blocks).lines =
      functionBody ((Block.placedIn s true 0 blocks).map (PlacedLine.text 0)) := by
  rw [Block.map_text_placedIn 0 (Or.inl rfl), map_indent_zero]

end Blockware
