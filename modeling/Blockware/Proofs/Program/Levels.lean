import Blockware.Proofs.Program.Placement
import Blockware.Proofs.Program.ShownTexts

/-!
# Levels of placed lines

The lines of a body are emitted without indentation and get one level at a time on their way out,
while the braces around them come one by one. Nevertheless each line is behind as many braces as
there are conditionals around its block.

- `SitFrom`: lines that stand at the levels of their depths.
- `Block.AreTame`: what live blocks show brings no scope of its own.
- `Block.AreTame.sitFrom_placedIn`: the lines of such blocks are at their levels, and the braces
  among them match. This is what the induction over blocks carries.
- `HoldsAt`, `SitFrom.holdsAt`: placed lines among other lines, indented to their levels.
-/

namespace Blockware

open Text (Plain Unbraced Nested NestedLines bracesOf braceLevel scopeLevel)

/-! ### Placed lines at their levels -/

/-- Each of the lines is a single one, and is at the level of its depth if so many scopes are open
before them all. A line that opens a scope is outside of it, and so is the one that closes it. -/
def SitFrom (level : Int) : List PlacedLine → Prop
  | [] => True
  | q :: rest =>
    '\n' ∉ q.own.toList ∧ min level (level + scopeLevel [q.own]) = q.visit.depth ∧
      SitFrom (level + scopeLevel [q.own]) rest

/-- How many scopes are open after placed lines. -/
def PlacedLine.levelAfter (placed : List PlacedLine) : Int := scopeLevel (placed.map PlacedLine.own)

variable {s : Snapshot} {blocks : List Block} {nested : Bool} {depth : Nat}

theorem sitFrom_append {level : Int} {placed more : List PlacedLine} :
    SitFrom level (placed ++ more) ↔
      SitFrom level placed ∧ SitFrom (level + PlacedLine.levelAfter placed) more := by
  induction placed generalizing level with
  | nil => simp [SitFrom, PlacedLine.levelAfter]
  | cons q rest ih =>
    have level' : level + PlacedLine.levelAfter (q :: rest) =
        level + scopeLevel [q.own] + PlacedLine.levelAfter rest := by
      simp only [PlacedLine.levelAfter, List.map_cons]
      rw [Text.scopeLevel_cons]
      omega
    rw [List.cons_append, SitFrom, SitFrom, ih, level', and_assoc, and_assoc]

/-- Plain lines of one depth change no level. -/
theorem sitFrom_of_plain {placed : List PlacedLine} (depths : ∀ q ∈ placed, q.visit.depth = depth)
    (plain : ∀ q ∈ placed, Plain q.own) : SitFrom depth placed := by
  induction placed with
  | nil => trivial
  | cons q rest ih =>
    have still : scopeLevel [q.own] = 0 :=
      (Text.nestedLines_singleton (plain q List.mem_cons_self).unbraced).settled
    rw [SitFrom, still, Int.add_zero, depths q List.mem_cons_self]
    refine ⟨Text.not_mem_lineFeed_of_plain (plain q List.mem_cons_self), Int.min_self _, ?_⟩
    refine ih (fun r hr => depths r (List.mem_cons_of_mem q hr)) fun r hr => ?_
    exact plain r (List.mem_cons_of_mem q hr)

/-- Wherever placed lines are split, the next one is at its level. -/
theorem SitFrom.split {level : Int} {placed earlier later : List PlacedLine} {q : PlacedLine}
    (h : SitFrom level placed) (split : placed = earlier ++ q :: later) :
    '\n' ∉ q.own.toList ∧ min (level + PlacedLine.levelAfter earlier)
      (level + PlacedLine.levelAfter earlier + scopeLevel [q.own]) = q.visit.depth := by
  rw [split, sitFrom_append, SitFrom] at h
  exact ⟨h.2.1, h.2.2.1⟩

/-- Among some lines there are placed lines, one after the other and each on a line of its own. Each
of them is at the level of its depth, in a scope that is at `level`, and is indented to its level. -/
def HoldsAt (level : Nat) (lines : List String) (placed : List PlacedLine) : Prop :=
  ∃ before after, lines = before ++ placed.map (PlacedLine.text level) ++ after ∧
    ∀ earlier q later, placed = earlier ++ q :: later →
      let upTo := before ++ earlier.map (PlacedLine.text level)
      '\n' ∉ q.own.toList ∧
      min (scopeLevel upTo) (scopeLevel (upTo ++ [q.text level])) = (level + q.visit.depth : Nat)

/-- Indentation hides no brace. -/
theorem scopeLevel_map_text (level : Nat) (placed : List PlacedLine) :
    scopeLevel (placed.map (PlacedLine.text level)) = PlacedLine.levelAfter placed := by
  rw [PlacedLine.levelAfter, Text.scopeLevel_eq, Text.scopeLevel_eq, List.flatMap_map,
    List.flatMap_map]
  congr 1
  exact List.flatMap_congr fun q _ => Text.bracesOf_indent _ q.own

/-- Lines that are at their levels where they are counted from zero are so in every scope. -/
theorem SitFrom.holdsAt {level : Nat} {before : List String} {placed : List PlacedLine}
    (h : SitFrom (0 : Nat) placed) (scope : scopeLevel before = level) (after : List String) :
    HoldsAt level (before ++ placed.map (PlacedLine.text level) ++ after) placed := by
  refine ⟨before, after, rfl, ?_⟩
  intro earlier q later split upTo
  obtain ⟨single, here⟩ := h.split split
  refine ⟨single, ?_⟩
  have own : scopeLevel [q.text level] = scopeLevel [q.own] := scopeLevel_map_text level [q]
  rw [Text.scopeLevel_append upTo, own, Text.scopeLevel_append before, scope, scopeLevel_map_text]
  push_cast at here ⊢
  omega

/-! ### Tame blocks -/

namespace Block

/-- What the blocks of a list and of their bodies show brings no scope. -/
def AreTame (s : Snapshot) (nested : Bool) (depth : Nat) (blocks : List Block) : Prop :=
  ∀ v ∈ visitsIn nested depth blocks, v.block ∈ live blocks → v.IsTame s

theorem live_eq_flatMap (blocks : List Block) : live blocks = blocks.flatMap liveOf := by
  induction blocks with
  | nil => rfl
  | cons b rest ih => rw [live, ih, List.flatMap_cons]

namespace AreTame

variable {b : Block} {rest : List Block}

theorem first (h : AreTame s nested depth (b :: rest)) : Visit.IsTame s ⟨b, nested, depth⟩ := by
  refine h _ ?_ (mem_live_cons.mpr (Or.inl rfl))
  obtain ⟨id, type, params, inner⟩ := b
  rw [visitsIn, visitsOf, List.cons_append]
  exact List.mem_cons_self

theorem later (h : AreTame s nested depth (b :: rest)) : AreTame s nested depth rest := by
  intro v hv alive
  exact h v (List.mem_append_right _ hv) (mem_live_cons.mpr (Or.inr (Or.inr alive)))

/-- Leaving blocks out leaves tame ones. -/
theorem of_subset {part : List Block} (h : AreTame s nested depth blocks)
    (sub : ∀ b ∈ part, b ∈ blocks) : AreTame s nested depth part := by
  intro v hv alive
  rw [visitsIn_eq_flatMap, List.mem_flatMap] at hv
  rw [live_eq_flatMap, List.mem_flatMap] at alive
  obtain ⟨top, htop, hv⟩ := hv
  obtain ⟨other, hother, alive⟩ := alive
  refine h v ?_ ?_
  · rw [visitsIn_eq_flatMap]
    exact List.mem_flatMap.mpr ⟨top, sub top htop, hv⟩
  · rw [live_eq_flatMap]
    exact List.mem_flatMap.mpr ⟨other, sub other hother, alive⟩

/-- A block at the top of a list is live, and stands where the list does. -/
theorem of_mem (h : AreTame s nested depth blocks) (hb : b ∈ blocks) :
    Visit.IsTame s ⟨b, nested, depth⟩ :=
  have alone : AreTame s nested depth [b] :=
    h.of_subset fun _ hc => List.mem_singleton.mp hc ▸ hb
  alone.first

theorem ofConditional (h : AreTame s nested depth (b :: rest))
    (kind : b.builtin? = some .ifCondition) : AreTame s true (depth + 1) b.inner := by
  intro v hv alive
  refine h v ?_ (mem_live_cons.mpr (Or.inr (Or.inl ⟨takesBody_iff.mpr (Or.inr kind), ?_, alive⟩)))
  · rw [visitsIn, visitsOf_ifCondition kind]
    exact List.mem_append_left _ (List.mem_cons_of_mem _ hv)
  · simp [isAnonymous, kind]

theorem ofFunction (h : AreTame s nested depth (b :: rest)) (kind : b.builtin? = some .functionDef)
    (named : ¬ b.isAnonymous) : AreTame s true 0 b.inner := by
  intro v hv alive
  refine h v ?_
    (mem_live_cons.mpr (Or.inr (Or.inl ⟨takesBody_iff.mpr (Or.inl kind), named, alive⟩)))
  rw [visitsIn, visitsOf_functionDef kind]
  exact List.mem_append_left _ (List.mem_cons_of_mem _ hv)

/-- In the body of a live function, depths begin anew. -/
theorem of_live (h : AreTame s nested depth blocks) {d : Block} {name : String}
    (alive : d ∈ live blocks) (defined : d.definedName? = some name) :
    Plain name ∧ AreTame s true 0 d.inner := by
  induction blocks using program_induction generalizing nested depth with
  | nil => simp [live] at alive
  | cons b rest ihInner ihRest =>
    rcases mem_live_cons.mp alive with rfl | ⟨body, named, inner⟩ | later
    · have kind : d.builtin? = some .functionDef := by
        by_contra other
        rw [definedName?_of_ne other] at defined
        cases defined
      have hasName : functionName? d = some name := by rwa [definedName?_functionDef kind] at defined
      refine ⟨h.first.plain_functionName kind hasName, h.ofFunction kind ?_⟩
      simp [isAnonymous, hasName]
    · rcases takesBody_iff.mp body with kind | kind
      · exact ihInner (h.ofFunction kind named) inner
      · exact ihInner (h.ofConditional kind) inner
    · exact ihRest h.later later

/-- **The invariant**: the lines of blocks stand at the levels of their depths, and their braces
match. -/
theorem sitFrom_placedIn (h : AreTame s nested depth blocks)
    (place : nested = true ∨ ∀ b ∈ blocks, s.isSetup b = false) :
    SitFrom depth (placedIn s nested depth blocks) ∧
      NestedLines ((placedIn s nested depth blocks).map PlacedLine.own) := by
  -- On the way into a conditional, one more scope is open and the depth is one more.
  induction blocks using program_induction generalizing nested depth with
  | nil => exact ⟨trivial, Text.nestedLines_nil⟩
  | cons b rest ihInner ihRest =>
    obtain ⟨restSits, restNested⟩ :=
      ihRest h.later (place.imp_right fun loop c hc => loop c (List.mem_cons_of_mem b hc))
    suffices own : SitFrom depth (placedOf s nested depth b) ∧
        NestedLines ((placedOf s nested depth b).map PlacedLine.own) by
      rw [placedIn, sitFrom_append, PlacedLine.levelAfter, own.2.settled, Int.add_zero,
        List.map_append]
      exact ⟨⟨own.1, restSits⟩, own.2.append restNested⟩
    rcases kind_cases b with kind | kind | kind
    · rw [placedOf_functionDef kind]
      exact ⟨trivial, Text.nestedLines_nil⟩
    · obtain ⟨innerSits, innerNested⟩ := ihInner (h.ofConditional kind) (Or.inl rfl)
      obtain ⟨head, plain, guard⟩ := h.first.exists_guardLine kind
      have opens : scopeLevel [(Condition.ofBlock b).guardLine] = 1 := by
        rw [guard, ← indent_zero (head ++ "\x7b")]
        exact Text.scopeLevel_opening 0 plain.unbraced
      have closes : scopeLevel ["\x7d"] = -1 := by decide
      rw [placedOf_ifCondition kind]
      constructor
      · have inside : PlacedLine.levelAfter (⟨⟨b, nested, depth⟩, (Condition.ofBlock b).guardLine⟩ ::
            placedIn s true (depth + 1) b.inner) = 1 := by
          rw [PlacedLine.levelAfter, List.map_cons, Text.scopeLevel_cons, innerNested.settled,
            Int.add_zero]
          exact opens
        rw [sitFrom_append, inside]
        simp only [SitFrom, opens, closes]
        have single : '\n' ∉ (Condition.ofBlock b).guardLine.toList := by
          have brace : '\n' ∉ "\x7b".toList := by decide
          have line : (Condition.ofBlock b).guardLine = head ++ "\x7b" := guard
          rw [line, String.toList_append, List.mem_append]
          exact not_or.mpr ⟨Text.not_mem_lineFeed_of_plain plain, brace⟩
        exact ⟨⟨single, by omega, innerSits⟩, by decide, by omega, trivial⟩
      · have scope := innerNested.scope 0 plain.unbraced
        rw [indent_zero, indent_zero, ← guard] at scope
        rw [List.map_append, List.map_cons, List.map_singleton]
        exact scope
    · have plain : ∀ q ∈ placedOf s nested depth b, Plain q.own := by
        intro q hq
        rw [placedOf_leaf kind] at hq
        obtain ⟨own, hown, rfl⟩ := List.mem_map.mp hq
        exact h.first.plain_of_mem_ownLines (place.imp_right fun loop => loop b List.mem_cons_self)
          (fun other => kind (takesBody_iff.mpr (Or.inr other))) hown
      refine ⟨sitFrom_of_plain (fun q hq => ?_) plain, ?_⟩
      · rw [placedOf_leaf kind] at hq
        obtain ⟨own, -, rfl⟩ := List.mem_map.mp hq
        rfl
      · refine Text.nestedLines_of_unbraced fun l hl => ?_
        obtain ⟨q, hq, rfl⟩ := List.mem_map.mp hl
        exact (plain q hq).unbraced

end AreTame
end Block
end Blockware
