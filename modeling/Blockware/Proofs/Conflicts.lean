import Blockware.Diagnostic.Structure
import Blockware.Proofs.Ownership
import Blockware.Proofs.Walk
import Mathlib.Data.List.Duplicate
import Mathlib.Data.List.NodupEquivFin

/-!
# Conflicts are exact

Two blocks must not own one resource. The report of conflicts tells owners apart by their ids,
so blocks of one id are no conflict; they are found as duplicates instead.

- `mem_resources_conflicts`: a resource is in conflict if blocks of different ids claim it, and
  only then.
- `duplicateId_mem_duplicateIds`: an id is reported exactly if the walk visits two blocks of it.
- `conflicts_exact`: what the report says and what it does not depend on. Of two blocks that
  claim one resource, the one report or the other tells.
-/

namespace Blockware

/-! ### The report of conflicts -/

/-- A list without duplicates has more than one element exactly if it has different ones. -/
theorem one_lt_length_iff {ids : List String} (h : ids.Nodup) :
    1 < ids.length ↔ ∃ x ∈ ids, ∃ y ∈ ids, x ≠ y := by
  match ids with
  | [] => simp
  | [x] => simp
  | x :: y :: rest =>
    have different : x ≠ y := by
      rintro rfl
      exact (List.nodup_cons.mp h).1 List.mem_cons_self
    constructor
    · intro _
      exact ⟨x, List.mem_cons_self, y, List.mem_cons_of_mem _ List.mem_cons_self, different⟩
    · intro _
      simp

theorem ordered_conflicts (blocks : List Block) : (conflicts blocks).Ordered := by
  have h := ordered_ownership blocks
  refine ⟨h.resources.filter _, ?_, ?_⟩
  · intro e he
    exact h.ids e (List.mem_filter.mp he).1
  · intro e he
    exact h.owned e (List.mem_filter.mp he).1

/-- The owners of a contested resource are all ids of blocks that claim it. -/
theorem mem_iff_of_mem_conflicts {blocks : List Block} {r : Resource} {ids : List String}
    (entry : (r, ids) ∈ conflicts blocks) (id : String) :
    id ∈ ids ↔ ∃ b ∈ blocks, b.id = id ∧ r ∈ b.claims := by
  rw [(ordered_ownership blocks).mem_iff_owns (List.mem_filter.mp entry).1, owns_ownership]

/-- A resource is in conflict exactly if blocks of different ids claim it. -/
theorem mem_resources_conflicts {blocks : List Block} {r : Resource} :
    r ∈ (conflicts blocks).resources ↔
      ∃ a ∈ blocks, ∃ b ∈ blocks, a.id ≠ b.id ∧ r ∈ a.claims ∧ r ∈ b.claims := by
  have ordered := ordered_ownership blocks
  have nodup : ∀ e ∈ ownership blocks, e.2.Nodup := fun e he => (ordered.ids e he).imp ne_of_lt
  constructor
  · intro contested
    obtain ⟨⟨_, ids⟩, entry, rfl⟩ := List.mem_map.mp contested
    obtain ⟨owned, several⟩ := List.mem_filter.mp entry
    obtain ⟨x, hx, y, hy, different⟩ :=
      (one_lt_length_iff (nodup _ owned)).mp (of_decide_eq_true several)
    obtain ⟨a, ha, rfl, claimsA⟩ := (mem_iff_of_mem_conflicts entry x).mp hx
    obtain ⟨b, hb, rfl, claimsB⟩ := (mem_iff_of_mem_conflicts entry y).mp hy
    exact ⟨a, ha, b, hb, different, claimsA, claimsB⟩
  · rintro ⟨a, ha, b, hb, different, claimsA, claimsB⟩
    obtain ⟨ids, owned, ownerA⟩ := owns_ownership.mpr ⟨a, ha, rfl, claimsA⟩
    have ownerB : b.id ∈ ids :=
      (ordered.mem_iff_owns owned).mpr (owns_ownership.mpr ⟨b, hb, rfl, claimsB⟩)
    have several := (one_lt_length_iff (nodup _ owned)).mpr ⟨_, ownerA, _, ownerB, different⟩
    exact List.mem_map.mpr ⟨(r, ids), List.mem_filter.mpr ⟨owned, decide_eq_true several⟩, rfl⟩

/-- The report depends only on which ids claim which resources. -/
theorem conflicts_congr {blocks others : List Block}
    (same : ∀ id r, (∃ b ∈ others, b.id = id ∧ r ∈ b.claims) ↔
      ∃ b ∈ blocks, b.id = id ∧ r ∈ b.claims) : conflicts others = conflicts blocks := by
  have equal : ownership others = ownership blocks :=
    Ownership.eq_of_owns_iff (ordered_ownership others) (ordered_ownership blocks) fun id r => by
      rw [owns_ownership, owns_ownership, same]
  rw [conflicts, conflicts, equal]

/-- What a block claims depends on its type and its parameters. -/
theorem Block.claims_congr {a b : Block} (type : a.type = b.type) (params : a.params = b.params) :
    a.claims = b.claims := by
  obtain ⟨id, type', params', inner⟩ := a
  obtain ⟨id', type'', params'', inner'⟩ := b
  cases type
  cases params
  rfl

/-- Blocks that differ in their bodies only claim the same. -/
theorem exists_claims_of_map_eq {blocks others : List Block} {id : String} {r : Resource}
    (same : others.map (fun b => (b.id, b.type, b.params)) =
      blocks.map (fun b => (b.id, b.type, b.params)))
    (h : ∃ b ∈ others, b.id = id ∧ r ∈ b.claims) : ∃ b ∈ blocks, b.id = id ∧ r ∈ b.claims := by
  obtain ⟨b, hb, rfl, claimed⟩ := h
  have atB : (b.id, b.type, b.params) ∈ blocks.map fun b => (b.id, b.type, b.params) := by
    rw [← same]
    exact List.mem_map.mpr ⟨b, hb, rfl⟩
  obtain ⟨c, hc, equal⟩ := List.mem_map.mp atB
  obtain ⟨sameId, rest⟩ := Prod.mk.inj equal
  obtain ⟨type, params⟩ := Prod.mk.inj rest
  exact ⟨c, hc, sameId, by rwa [Block.claims_congr type params]⟩

/-! ### The report of duplicates -/

/-- An id is reported if it occurs once more than may be: once, or never if it was seen before. -/
theorem duplicateId_mem_repeatedIds {seen : List String} {blocks : List Block} {id : String} :
    ⟨some id, .duplicateId id⟩ ∈ repeatedIds seen blocks ↔
      (if id ∈ seen then 1 else 2) ≤ (blocks.map Block.id).count id := by
  induction blocks generalizing seen with
  | nil =>
    rw [repeatedIds, List.map_nil, List.count_nil]
    split <;> simp
  | cons b rest ih =>
    rw [repeatedIds, List.map_cons, List.count_cons]
    -- The block itself is the occurrence by which the two bounds differ.
    by_cases known : b.id ∈ seen
    · rw [if_pos (by simpa using known), List.mem_cons, ih]
      by_cases same : b.id = id
      · subst same
        simp [Diagnostic.about, known]
      · simp [Diagnostic.about, same, Ne.symm same]
    · rw [if_neg (by simpa using known), ih]
      by_cases same : b.id = id
      · subst same
        simp [known]
      · simp [same, Ne.symm same]

/-- An id is reported exactly if the walk visits two blocks of it. -/
theorem duplicateId_mem_duplicateIds {blocks : List Block} {id : String} :
    ⟨some id, .duplicateId id⟩ ∈ duplicateIds blocks ↔
      2 ≤ ((walk blocks).map Block.id).count id := by
  rw [duplicateIds, duplicateId_mem_repeatedIds, if_neg List.not_mem_nil]

/-- Two top-level blocks of one id are reported. -/
theorem duplicateId_mem_of_getElem? {blocks : List Block} {i j : Nat} {a b : Block} (apart : i < j)
    (ha : blocks[i]? = some a) (hb : blocks[j]? = some b) (same : a.id = b.id) :
    ⟨some a.id, .duplicateId a.id⟩ ∈ duplicateIds blocks := by
  have idA : (blocks.map Block.id)[i]? = some a.id := by rw [List.getElem?_map, ha, Option.map_some]
  have idB : (blocks.map Block.id)[j]? = some a.id := by
    rw [List.getElem?_map, hb, Option.map_some, same]
  obtain ⟨hi, atI⟩ := List.getElem?_eq_some_iff.mp idA
  obtain ⟨hj, atJ⟩ := List.getElem?_eq_some_iff.mp idB
  have twice : 2 ≤ (blocks.map Block.id).count a.id :=
    List.duplicate_iff_two_le_count.mp <|
      List.duplicate_iff_exists_distinct_get.mpr ⟨⟨i, hi⟩, ⟨j, hj⟩, apart, atI.symm, atJ.symm⟩
  rw [duplicateId_mem_duplicateIds, walk_eq_preorder]
  exact twice.trans (((Block.sublist_preorder blocks).map Block.id).count_le a.id)

/-! ### Exactness -/

/-- **Conflicts are exact**: a resource is in the report exactly if top-level blocks of
different ids claim it, and then its owners are the ids of all top-level blocks that do. Neither
bodies nor the order of the blocks matter. And of two blocks at different places that claim one
resource, either the resource is in the report, or the blocks have one id and there is an error
about that. -/
theorem conflicts_exact (blocks : List Block) :
    (∀ r, r ∈ (conflicts blocks).resources ↔
      ∃ a ∈ blocks, ∃ b ∈ blocks, a.id ≠ b.id ∧ r ∈ a.claims ∧ r ∈ b.claims) ∧
    (∀ r ∈ (conflicts blocks).resources, ∃ ids, (conflicts blocks).owners? r = some ids ∧
      ids.Nodup ∧ ∀ id, id ∈ ids ↔ ∃ b ∈ blocks, b.id = id ∧ r ∈ b.claims) ∧
    (∀ others : List Block,
      others.map (fun b => (b.id, b.type, b.params)) =
        blocks.map (fun b => (b.id, b.type, b.params)) → conflicts others = conflicts blocks) ∧
    (∀ others : List Block, others.Perm blocks → conflicts others = conflicts blocks) ∧
    (∀ (i j : Nat) (a b : Block) (r : Resource), i ≠ j →
      blocks[i]? = some a → blocks[j]? = some b → r ∈ a.claims → r ∈ b.claims →
      r ∈ (conflicts blocks).resources ∨
        (a.id = b.id ∧ ∃ d ∈ duplicateIds blocks,
          d = ⟨some a.id, .duplicateId a.id⟩ ∧ d.isError)) := by
  refine ⟨fun r => mem_resources_conflicts, ?_, ?_, ?_, ?_⟩
  · intro r contested
    obtain ⟨⟨_, ids⟩, entry, rfl⟩ := List.mem_map.mp contested
    have ordered := ordered_conflicts blocks
    exact ⟨ids, ordered.owners?_eq_some entry, (ordered.ids _ entry).imp ne_of_lt,
      mem_iff_of_mem_conflicts entry⟩
  · intro others same
    exact conflicts_congr fun id r =>
      ⟨exists_claims_of_map_eq same, exists_claims_of_map_eq same.symm⟩
  · intro others perm
    refine conflicts_congr fun id r => ?_
    simp only [perm.mem_iff]
  · intro i j a b r apart ha hb claimsA claimsB
    by_cases same : a.id = b.id
    · have reported : ⟨some a.id, .duplicateId a.id⟩ ∈ duplicateIds blocks := by
        rcases Nat.lt_or_gt_of_ne apart with before | after
        · exact duplicateId_mem_of_getElem? before ha hb same
        · rw [same]
          exact duplicateId_mem_of_getElem? after hb ha same.symm
      exact Or.inr ⟨same, _, reported, rfl, rfl⟩
    · refine Or.inl (mem_resources_conflicts.mpr ?_)
      exact ⟨a, List.mem_of_getElem? ha, b, List.mem_of_getElem? hb, same, claimsA, claimsB⟩

/-- A sensor and two lamps of one id claim a pin. The sensor makes it a conflict, and the lamps are
found by one report or the other. -/
theorem contested_pin_has_its_owners :
    let sensor : Block := ⟨"sensor", "adc_config", [("pin", .integer 26)], []⟩
    let lamp : Block := ⟨"lamp", "gpio_set", [("pin", .integer 26)], []⟩
    let blocks : List Block := [sensor, lamp, lamp]
    (∃ ids, (conflicts blocks).owners? (.pin 26) = some ids ∧ ids.Nodup ∧
      ∀ id, id ∈ ids ↔ ∃ b ∈ blocks, b.id = id ∧ .pin 26 ∈ b.claims) ∧
    (.pin 26 ∈ (conflicts blocks).resources ∨
      (lamp.id = lamp.id ∧ ∃ d ∈ duplicateIds blocks,
        d = ⟨some lamp.id, .duplicateId lamp.id⟩ ∧ d.isError)) := by
  intro sensor lamp blocks
  have contested : .pin 26 ∈ (conflicts blocks).resources := by
    refine ((conflicts_exact blocks).1 (.pin 26)).mpr ⟨sensor, ?_, lamp, ?_, ?_, ?_, ?_⟩
    · exact List.mem_cons_self
    · exact List.mem_cons_of_mem sensor List.mem_cons_self
    · decide
    · decide
    · decide
  refine ⟨(conflicts_exact blocks).2.1 (.pin 26) contested, ?_⟩
  exact (conflicts_exact blocks).2.2.2.2 1 2 lamp lamp (.pin 26) (by decide) rfl rfl
    (by decide) (by decide)
end Blockware
