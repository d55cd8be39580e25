import Blockware.Ownership
import Mathlib.Data.List.Sort
import Mathlib.Data.String.Basic

/-!
# The theory of ownerships

An ownership is a list of resources with lists of owners, all in order. What it says is only who
owns what, and being in order it is the one way to say it.

- `Resource.before_trans`, `Resource.before_or_eq_or_before`: resources are in a strict order.
- `Ownership.Owns`: who owns what.
- `Ownership.Ordered`: the order that `Ownership.add` keeps.
- `Ownership.eq_of_owns_iff`: ownerships in order that say the same are equal.
- `owns_ownership`: a block owns what it claims, and nobody owns anything else.
-/

namespace Blockware

/-! ### The order of resources -/

namespace Resource

theorem before_irrefl (r : Resource) : r.before r = false := by
  cases r with
  | pin n => simp [before]
  | bus name => simp [before]

theorem before_trans {r s t : Resource} (h : r.before s) (h' : s.before t) : r.before t := by
  cases r with
  | pin m =>
    cases s with
    | pin n =>
      cases t with
      | pin k =>
        simp only [before, decide_eq_true_eq] at h h' ⊢
        omega
      | bus name => rfl
    | bus name =>
      cases t with
      | pin k => cases h'
      | bus name' => rfl
  | bus a =>
    cases s with
    | pin n => cases h
    | bus b =>
      cases t with
      | pin k => cases h'
      | bus c =>
        simp only [before, decide_eq_true_eq] at h h' ⊢
        exact String.lt_trans h h'

/-- Of two resources one comes first, or they are the same. -/
theorem before_or_eq_or_before (r s : Resource) : r.before s ∨ r = s ∨ s.before r := by
  cases r with
  | pin m =>
    cases s with
    | pin n =>
      simp only [before, decide_eq_true_eq, pin.injEq]
      omega
    | bus name => exact Or.inl rfl
  | bus a =>
    cases s with
    | pin n => exact Or.inr (Or.inr rfl)
    | bus b =>
      simp only [before, decide_eq_true_eq, bus.injEq]
      exact lt_trichotomy a b

theorem before_asymm {r s : Resource} (h : r.before s) : ¬ s.before r := by
  intro h'
  have loop := before_trans h h'
  rw [before_irrefl] at loop
  cases loop

theorem ne_of_before {r s : Resource} (h : r.before s) : r ≠ s := by
  rintro rfl
  rw [before_irrefl] at h
  cases h

/-- Resources in order are pins by number, and then instances by name. -/
theorem exists_pins_and_buses {rs : List Resource} (h : rs.Pairwise fun r s => r.before s) :
    ∃ (pins : List Nat) (names : List String), rs = pins.map pin ++ names.map bus ∧
      pins.Pairwise (· < ·) ∧ names.Pairwise (· < ·) := by
  induction rs with
  | nil => exact ⟨[], [], rfl, List.Pairwise.nil, List.Pairwise.nil⟩
  | cons r rest ih =>
    obtain ⟨first, later⟩ := List.pairwise_cons.mp h
    obtain ⟨pins, names, rfl, pinsSorted, namesSorted⟩ := ih later
    cases r with
    | pin n =>
      refine ⟨n :: pins, names, rfl, List.pairwise_cons.mpr ⟨?_, pinsSorted⟩, namesSorted⟩
      intro m hm
      have ordered := first (.pin m) (List.mem_append_left _ (List.mem_map_of_mem hm))
      simpa [before] using ordered
    | bus name =>
      -- No pin comes after an instance.
      have noPins : pins = [] := by
        refine List.eq_nil_iff_forall_not_mem.mpr fun m hm => ?_
        have ordered := first (.pin m) (List.mem_append_left _ (List.mem_map_of_mem hm))
        cases ordered
      refine ⟨[], name :: names, by rw [noPins]; rfl, List.Pairwise.nil,
        List.pairwise_cons.mpr ⟨?_, namesSorted⟩⟩
      intro other hother
      have ordered := first (.bus other) (List.mem_append_right _ (List.mem_map_of_mem hother))
      simpa [before] using ordered

end Resource

namespace Ownership

/-! ### Sets of ids -/

theorem mem_addId {id other : String} {ids : List String} :
    other ∈ addId id ids ↔ other = id ∨ other ∈ ids := by
  induction ids with
  | nil => simp [addId]
  | cons x rest ih =>
    rw [addId]
    split
    · exact List.mem_cons
    · split
      · rename_i same
        rw [same, List.mem_cons, ← or_assoc, or_self]
      · rw [List.mem_cons, ih, List.mem_cons, or_left_comm]

theorem pairwise_addId {id : String} {ids : List String} (h : ids.Pairwise (· < ·)) :
    (addId id ids).Pairwise (· < ·) := by
  induction ids with
  | nil => exact List.pairwise_singleton _ _
  | cons x rest ih =>
    obtain ⟨first, later⟩ := List.pairwise_cons.mp h
    rw [addId]
    split
    · rename_i least
      refine List.pairwise_cons.mpr ⟨?_, h⟩
      rintro y (_ | ⟨_, hy⟩)
      · exact least
      · exact least.trans (first y hy)
    · split
      · exact h
      · rename_i notLeast notSame
        refine List.pairwise_cons.mpr ⟨?_, ih later⟩
        intro y hy
        rcases mem_addId.mp hy with rfl | hy
        · exact lt_of_le_of_ne (not_lt.mp notLeast) (Ne.symm notSame)
        · exact first y hy

theorem addId_ne_nil (id : String) (ids : List String) : addId id ids ≠ [] := by
  intro empty
  have added : id ∈ addId id ids := mem_addId.mpr (Or.inl rfl)
  rw [empty] at added
  exact List.not_mem_nil added

/-! ### Who owns what -/

/-- An id is among the owners of a resource. -/
def Owns (o : Ownership) (id : String) (r : Resource) : Prop := ∃ ids, (r, ids) ∈ o ∧ id ∈ ids

theorem owns_cons {entry : Resource × List String} {rest : Ownership} {id : String}
    {r : Resource} : Owns (entry :: rest) id r ↔ (entry.1 = r ∧ id ∈ entry.2) ∨ Owns rest id r := by
  obtain ⟨other, ids⟩ := entry
  constructor
  · rintro ⟨ids', _ | ⟨_, later⟩, owner⟩
    · exact Or.inl ⟨rfl, owner⟩
    · exact Or.inr ⟨ids', later, owner⟩
  · rintro (⟨rfl, owner⟩ | ⟨ids', later, owner⟩)
    · exact ⟨ids, List.mem_cons_self, owner⟩
    · exact ⟨ids', List.mem_cons_of_mem _ later, owner⟩

/-- Adding an owner adds nothing else. -/
theorem owns_add {o : Ownership} {r s : Resource} {id other : String} :
    Owns (o.add r id) other s ↔ (r = s ∧ other = id) ∨ Owns o other s := by
  induction o with
  | nil =>
    rw [add, owns_cons]
    simp
  | cons entry rest ih =>
    obtain ⟨first, ids⟩ := entry
    rw [add]
    split
    · rw [owns_cons]
      simp
    · split
      · rename_i same
        rw [owns_cons, owns_cons, mem_addId, same, and_or_left, or_assoc]
      · rw [owns_cons, ih, owns_cons, or_left_comm]

/-- A block is added as an owner of just what it claims. -/
theorem owns_addBlock {o : Ownership} {b : Block} {id : String} {r : Resource} :
    Owns (o.addBlock b) id r ↔ (b.id = id ∧ r ∈ b.claims) ∨ Owns o id r := by
  rw [addBlock]
  induction b.claims generalizing o with
  | nil => simp
  | cons s rest ih =>
    rw [List.foldl_cons, ih, owns_add, List.mem_cons, and_or_left, or_assoc, or_left_comm,
      eq_comm (a := s), eq_comm (a := id), and_comm (a := r = s)]

/-! ### Order -/

/-- Every resource stands once, in order, with some ids, which are in order too. -/
structure Ordered (o : Ownership) : Prop where
  resources : o.Pairwise fun e f => e.1.before f.1
  ids : ∀ e ∈ o, e.2.Pairwise (· < ·)
  owned : ∀ e ∈ o, e.2 ≠ []

theorem ordered_nil : Ordered [] where
  resources := List.Pairwise.nil
  ids := fun _ he => absurd he List.not_mem_nil
  owned := fun _ he => absurd he List.not_mem_nil

theorem ordered_cons {e : Resource × List String} {rest : Ownership} :
    Ordered (e :: rest) ↔ (∀ f ∈ rest, e.1.before f.1) ∧ (e.2.Pairwise (· < ·) ∧ e.2 ≠ []) ∧
      Ordered rest := by
  constructor
  · intro h
    obtain ⟨first, later⟩ := List.pairwise_cons.mp h.resources
    exact ⟨first, ⟨h.ids e List.mem_cons_self, h.owned e List.mem_cons_self⟩, later,
      fun f hf => h.ids f (List.mem_cons_of_mem e hf),
      fun f hf => h.owned f (List.mem_cons_of_mem e hf)⟩
  · rintro ⟨first, ⟨ids, owned⟩, h⟩
    exact ⟨List.pairwise_cons.mpr ⟨first, h.resources⟩, List.forall_mem_cons.mpr ⟨ids, h.ids⟩,
      List.forall_mem_cons.mpr ⟨owned, h.owned⟩⟩

theorem eq_or_mem_of_mem_add {o : Ownership} {r : Resource} {id : String}
    {e : Resource × List String} (h : e ∈ o.add r id) : e.1 = r ∨ ∃ f ∈ o, f.1 = e.1 := by
  induction o with
  | nil =>
    rw [List.mem_singleton.mp h]
    exact Or.inl rfl
  | cons entry rest ih =>
    obtain ⟨first, ids⟩ := entry
    rw [add] at h
    split at h
    · rcases List.mem_cons.mp h with rfl | h
      · exact Or.inl rfl
      · exact Or.inr ⟨e, h, rfl⟩
    · split at h
      · rename_i same
        rcases List.mem_cons.mp h with rfl | h
        · exact Or.inl same.symm
        · exact Or.inr ⟨e, List.mem_cons_of_mem _ h, rfl⟩
      · rcases List.mem_cons.mp h with rfl | h
        · exact Or.inr ⟨(first, ids), List.mem_cons_self, rfl⟩
        · rcases ih h with same | ⟨f, hf, same⟩
          · exact Or.inl same
          · exact Or.inr ⟨f, List.mem_cons_of_mem _ hf, same⟩

/-- Adding an owner keeps the order. -/
theorem Ordered.add {o : Ownership} (h : Ordered o) (r : Resource) (id : String) :
    Ordered (o.add r id) := by
  induction o with
  | nil =>
    exact ordered_cons.mpr ⟨fun f hf => absurd hf List.not_mem_nil,
      ⟨List.pairwise_singleton _ _, List.cons_ne_nil _ _⟩, ordered_nil⟩
  | cons entry rest ih =>
    obtain ⟨other, ids⟩ := entry
    obtain ⟨first, ⟨sorted, owned⟩, later⟩ := ordered_cons.mp h
    rw [Ownership.add]
    split
    · rename_i least
      refine ordered_cons.mpr
        ⟨?_, ⟨List.pairwise_singleton _ _, List.cons_ne_nil _ _⟩, h⟩
      rintro f (_ | ⟨_, hf⟩)
      · exact least
      · exact Resource.before_trans least (first f hf)
    · split
      · exact ordered_cons.mpr ⟨first, ⟨pairwise_addId sorted, addId_ne_nil id ids⟩, later⟩
      · rename_i notLeast notSame
        -- Behind the first entry there is `r` now, which is neither before it nor the same.
        refine ordered_cons.mpr ⟨?_, ⟨sorted, owned⟩, ih later⟩
        intro f hf
        rcases eq_or_mem_of_mem_add hf with same | ⟨g, hg, same⟩
        · rw [same]
          rcases Resource.before_or_eq_or_before other r with h | h | h
          · exact h
          · exact absurd h.symm notSame
          · exact absurd h notLeast
        · rw [← same]
          exact first g hg

theorem Ordered.addBlock {o : Ownership} (h : Ordered o) (b : Block) : Ordered (o.addBlock b) := by
  rw [Ownership.addBlock]
  induction b.claims generalizing o with
  | nil => exact h
  | cons r rest ih => exact ih (h.add r b.id)

theorem Ordered.nodup_resources {o : Ownership} (h : Ordered o) : o.resources.Nodup :=
  List.pairwise_map.mpr (h.resources.imp Resource.ne_of_before)

/-- The resources are pins by number, and then instances by name. -/
theorem Ordered.resources_eq_append {o : Ownership} (h : Ordered o) :
    ∃ (pins : List Nat) (names : List String),
      o.resources = pins.map .pin ++ names.map .bus ∧
        pins.Pairwise (· < ·) ∧ names.Pairwise (· < ·) :=
  Resource.exists_pins_and_buses (List.pairwise_map.mpr h.resources)

/-- A resource has one entry. -/
theorem Ordered.entry_unique {o : Ownership} (h : Ordered o) {e f : Resource × List String}
    (he : e ∈ o) (hf : f ∈ o) (same : e.1 = f.1) : e = f :=
  List.inj_on_of_nodup_map h.nodup_resources he hf same

/-- The entry of a resource holds all of its owners. -/
theorem Ordered.mem_iff_owns {o : Ownership} (h : Ordered o) {r : Resource} {ids : List String}
    (entry : (r, ids) ∈ o) {id : String} : id ∈ ids ↔ Owns o id r := by
  constructor
  · intro owner
    exact ⟨ids, entry, owner⟩
  · rintro ⟨ids', entry', owner⟩
    cases h.entry_unique entry entry' rfl
    exact owner

/-- Looking a resource up finds its entry. -/
theorem Ordered.owners?_eq_some {o : Ownership} (h : Ordered o) {r : Resource}
    {ids : List String} (entry : (r, ids) ∈ o) : o.owners? r = some ids := by
  have found : (o.find? fun e => e.1 = r).isSome :=
    List.find?_isSome.mpr ⟨(r, ids), entry, by simp⟩
  obtain ⟨e, he⟩ := Option.isSome_iff_exists.mp found
  have same : e.1 = r := by simpa using List.find?_some he
  have unique := h.entry_unique (List.mem_of_find?_eq_some he) entry same
  rw [owners?, he, unique]
  rfl

/-- A resource has owners if it is there. -/
theorem isSome_owners?_iff {o : Ownership} {r : Resource} :
    (o.owners? r).isSome ↔ r ∈ o.resources := by
  rw [owners?, Option.isSome_map, List.find?_isSome, resources, List.mem_map]
  simp only [decide_eq_true_eq]

/-- An entry is known from the owners it holds, of which there is at least one. -/
theorem Ordered.mem_of_owns_iff {o p : Ownership} (ho : Ordered o) (hp : Ordered p)
    (same : ∀ id r, Owns o id r ↔ Owns p id r) {e : Resource × List String} (he : e ∈ o) :
    e ∈ p := by
  obtain ⟨r, ids⟩ := e
  obtain ⟨id, owner⟩ := List.exists_mem_of_ne_nil ids (ho.owned _ he)
  obtain ⟨ids', he', -⟩ := (same id r).mp ⟨ids, he, owner⟩
  have equal : ids = ids' :=
    (ho.ids _ he).eq_of_mem_iff (hp.ids _ he') fun other => by
      rw [ho.mem_iff_owns he, hp.mem_iff_owns he', same]
  rw [equal]
  exact he'

/-- Ownerships in order are equal if they have the same entries. -/
theorem eq_of_mem_iff {o p : Ownership} (ho : Ordered o) (hp : Ordered p)
    (same : ∀ e, e ∈ o ↔ e ∈ p) : o = p := by
  have : Std.Irrefl fun e f : Resource × List String => (e.1.before f.1 : Prop) :=
    ⟨fun e loop => Resource.ne_of_before loop rfl⟩
  have : Std.Antisymm fun e f : Resource × List String => (e.1.before f.1 : Prop) :=
    ⟨fun e f h h' => absurd h' (Resource.before_asymm h)⟩
  exact ho.resources.eq_of_mem_iff hp.resources fun e => same e

/-- Ownerships in order that say the same about every id are equal. -/
theorem eq_of_owns_iff {o p : Ownership} (ho : Ordered o) (hp : Ordered p)
    (same : ∀ id r, Owns o id r ↔ Owns p id r) : o = p :=
  eq_of_mem_iff ho hp fun _ =>
    ⟨ho.mem_of_owns_iff hp same, hp.mem_of_owns_iff ho fun id r => (same id r).symm⟩

/-! ### Whole programs -/

theorem Ordered.foldl_addBlock {o : Ownership} (h : Ordered o) (blocks : List Block) :
    Ordered (blocks.foldl Ownership.addBlock o) := by
  induction blocks generalizing o with
  | nil => exact h
  | cons b rest ih => exact ih (h.addBlock b)

theorem owns_foldl_addBlock {o : Ownership} {blocks : List Block} {id : String} {r : Resource} :
    Owns (blocks.foldl Ownership.addBlock o) id r ↔
      (∃ b ∈ blocks, b.id = id ∧ r ∈ b.claims) ∨ Owns o id r := by
  induction blocks generalizing o with
  | nil => simp
  | cons b rest ih =>
    rw [List.foldl_cons, ih, owns_addBlock, List.exists_mem_cons_iff, ← or_assoc,
      or_comm (a := b.id = id ∧ r ∈ b.claims)]

end Ownership

theorem ordered_ownership (blocks : List Block) : (ownership blocks).Ordered :=
  Ownership.ordered_nil.foldl_addBlock blocks

/-- A block owns what it claims, and nobody owns anything else. -/
theorem owns_ownership {blocks : List Block} {id : String} {r : Resource} :
    (ownership blocks).Owns id r ↔ ∃ b ∈ blocks, b.id = id ∧ r ∈ b.claims := by
  rw [ownership, Ownership.owns_foldl_addBlock]
  simp [Ownership.Owns]

end Blockware
