import Blockware.Proofs.Stored.Depth

/-!
# Bodies that were a parameter

An older body is no list of blocks at first but a parameter, which is written and read again. Whole
numbers that 64 bits do not hold with a sign come back as doubles. No reader of blocks can tell:
faults aside, it answers for a value what it answers for the value after that detour.

- `Json.IgnoresDetours`: such a reader. Readers of arrays and of records have the property if the
  readers of their parts have it.
- `Block.ignoresDetours_readWithin`: readers of blocks have it, to any depth.
- `Block.toOption_readList_detour`: so have readers of lists of blocks.
-/

namespace Blockware

open Json (Node Fault)

/-! ### Readers that cannot tell -/

namespace Json

/-- A reader that answers alike for a value and for the value after a detour, faults aside. -/
def IgnoresDetours {α : Type} (f : Node → Except Fault α) : Prop :=
  ∀ ⦃j after : Json⦄, Param.Detoured j after →
    (f (Node.ofSorted after)).toOption = (f (Node.ofSorted j)).toOption

section Readers

variable {α β σ : Type}

theorem IgnoresDetours.bind {f : Node → Except Fault α} (h : IgnoresDetours f)
    (g : α → Except Fault β) : IgnoresDetours fun n => f n >>= g := by
  intro j after hj
  rw [toOption_bind, toOption_bind, h hj]

theorem ignoresDetours_readString : IgnoresDetours Node.readString := by
  rintro j after (_ | _ | _ | _) <;> rfl

theorem Node.readOption_ofSorted {f : Node → Except Fault α} {j : Json} (h : j ≠ .null) :
    (Node.ofSorted j).readOption f = some <$> f (Node.ofSorted j) := by
  cases j <;> first | contradiction | rfl

theorem IgnoresDetours.readOption {f : Node → Except Fault α} (h : IgnoresDetours f) :
    IgnoresDetours (Node.readOption f) := by
  intro j after hj
  by_cases null : j = .null
  · subst null
    cases hj
    rfl
  · have other : after ≠ .null := by
      cases hj with
      | same j => exact null
      | _ => exact Json.noConfusion
    rw [Node.readOption_ofSorted null, Node.readOption_ofSorted other, toOption_map, toOption_map,
      h hj]

/-- Parameters are the same before and after. -/
theorem ignoresDetours_readDict : IgnoresDetours (Node.readDict Param.read) := by
  rintro j after (_ | _ | _ | @⟨members, after, parts⟩)
  · rfl
  · rfl
  · rfl
  · have same : (members.map fun m => (m.1, Param.ofJson (after m.2))) =
        members.map fun m => (m.1, Param.ofJson m.2) :=
      List.map_congr_left fun m hm => congrArg (Prod.mk m.1) (parts m hm).ofJson_eq
    rw [Param.readDict_ofSorted, Param.readDict_ofSorted, List.map_map]
    exact congrArg (fun entries => (Except.ok (Dict.ofList entries)).toOption) same

theorem Node.toOption_foldFrom (f : σ → Node → Except Fault σ) (span : Option Span)
    (stop : Option Break) (s : σ) (items : List Node) :
    (Node.foldFrom f span stop s items).toOption =
      items.foldlM (fun s n => (f s n).toOption) s := by
  induction items generalizing s with
  | nil => rfl
  | cons n rest ih =>
    rw [Node.foldFrom, toOption_bind, toOption_mapError, List.foldlM_cons]
    exact Option.bind_congr fun t _ => ih t

theorem IgnoresDetours.foldItems {f : σ → Node → Except Fault σ} (h : ∀ s, IgnoresDetours (f s))
    (init : σ) : IgnoresDetours (Node.foldItems f init) := by
  rintro j after (_ | _ | @⟨items, after, parts⟩ | _)
  · rfl
  · rfl
  · have run : (Node.foldFrom f none none init (Node.ofItems (items.map after))).toOption =
        (Node.foldFrom f none none init (Node.ofItems items)).toOption := by
      rw [Node.toOption_foldFrom, Node.toOption_foldFrom, Node.ofItems_eq_map,
        Node.ofItems_eq_map, List.map_map, List.foldlM_map, List.foldlM_map]
      exact foldlM_congr (fun j hj s => h s (parts j hj)) init
    show (Node.foldFrom f none none init _ >>= Except.ok).toOption =
      (Node.foldFrom f none none init _ >>= Except.ok).toOption
    rw [toOption_bind, toOption_bind, run]
  · rfl

end Readers

/-! ### Records -/

theorem Node.passed_ofSorted (j : Json) : (Node.ofSorted j).passed = none := by
  induction j using nested_induction with
  | arr items ih =>
    have none : Node.passedItems (Node.ofItems items) = none := by
      induction items with
      | nil => rfl
      | cons j rest later =>
        rw [Node.ofItems, Node.passedItems, ih j List.mem_cons_self, Option.none_or,
          later fun k hk => ih k (List.mem_cons_of_mem j hk)]
    rw [Node.ofSorted, Node.passed, none]
    rfl
  | obj members ih =>
    have none : Node.passedMembers (Node.ofMembers members) = none := by
      induction members with
      | nil => rfl
      | cons m rest later =>
        rw [Node.ofMembers, Node.passedMembers, ih m List.mem_cons_self, Option.none_or,
          later fun k hk => ih k (List.mem_cons_of_mem m hk)]
    rw [Node.ofSorted, Node.passed, none]
    rfl
  | _ => rfl

namespace Record

variable {δ : Type} {r : Record δ}

theorem toOption_readMember (h : ∀ f ∈ r.fields, ∀ d, IgnoresDetours (f.set d)) {j after : Json}
    (hj : Param.Detoured j after) (key : Key) (d : δ) :
    (r.readMember d (key, Node.ofSorted after)).toOption =
      (r.readMember d (key, Node.ofSorted j)).toOption := by
  unfold readMember
  dsimp only
  rw [toOption_bind, toOption_bind]
  refine Option.bind_congr fun name _ => ?_
  cases found : r.field? name with
  | none => rw [Node.passed_ofSorted, Node.passed_ofSorted]
  | some f =>
    dsimp only
    split
    · rfl
    · exact h f (List.mem_of_find?_eq_some found) d hj

theorem toOption_readItems {fields : List (Field δ)}
    (h : ∀ f ∈ fields, ∀ d, IgnoresDetours (f.set d)) {items : List Json} {after : Json → Json}
    (parts : ∀ j ∈ items, Param.Detoured j (after j)) (d : δ) (index : Nat) :
    (r.readItems none none d index fields (Node.ofItems (items.map after))).toOption =
      (r.readItems none none d index fields (Node.ofItems items)).toOption := by
  induction fields generalizing items d index with
  | nil => cases items <;> rfl
  | cons f fields ih =>
    cases items with
    | nil => rfl
    | cons j items =>
      obtain ⟨first, later⟩ := List.forall_mem_cons.mp parts
      rw [List.map_cons, Node.ofItems, Node.ofItems, readItems, readItems, toOption_bind,
        toOption_bind, h f List.mem_cons_self d first]
      exact Option.bind_congr fun next _ =>
        ih (fun g hg => h g (List.mem_cons_of_mem f hg)) later next (index + 1)

/-- A record is read alike if each of its fields is, be it written as an object or as an array. -/
theorem ignoresDetours_read (h : ∀ f ∈ r.fields, ∀ d, IgnoresDetours (f.set d)) (d : δ) :
    IgnoresDetours (r.read d) := by
  rintro j after (_ | _ | @⟨items, after, parts⟩ | @⟨members, after, parts⟩)
  · rfl
  · rfl
  · exact toOption_readItems h parts d 0
  · have run : ((Node.ofMembers (members.map fun m => (m.1, after m.2))).foldlM
          r.readMember d).toOption =
        ((Node.ofMembers members).foldlM r.readMember d).toOption := by
      rw [toOption_foldlM, toOption_foldlM, Node.ofMembers_eq_map, Node.ofMembers_eq_map,
        List.map_map, List.foldlM_map, List.foldlM_map]
      exact foldlM_congr (fun m hm d => toOption_readMember h (parts m hm) _ d) d
    -- What comes after the members is what comes of an object without any.
    let finish (draft : δ) : Except Fault δ := r.read draft (.object none none [] none)
    show ((Node.ofMembers _).foldlM r.readMember d >>= finish).toOption =
      ((Node.ofMembers _).foldlM r.readMember d >>= finish).toOption
    rw [toOption_bind, toOption_bind, run]

end Record
end Json

/-! ### Blocks -/

namespace Block

theorem ignoresDetours_record {body : Node → Except Fault (List Block)}
    (h : Json.IgnoresDetours body) (d : Draft) : Json.IgnoresDetours ((record body).read d) := by
  refine Json.Record.ignoresDetours_read (fun f hf d => ?_) d
  simp only [record, List.mem_cons, List.not_mem_nil, or_false] at hf
  rcases hf with rfl | rfl | rfl | rfl
  · exact Json.ignoresDetours_readString.bind _
  · exact Json.ignoresDetours_readString.bind _
  · exact Json.ignoresDetours_readDict.readOption.bind _
  · exact h.readOption.bind _

theorem ignoresDetours_readListBy {one : Nat → Node → Except Fault Block}
    (h : ∀ fresh, Json.IgnoresDetours (one fresh)) (fresh : Nat) :
    Json.IgnoresDetours (readListBy one fresh) :=
  Json.IgnoresDetours.bind (.foldItems (fun s => (h s.2).bind _) ([], fresh)) _

/-- A block is read alike. -/
theorem ignoresDetours_readWithin (bound fresh : Nat) :
    Json.IgnoresDetours (readWithin bound fresh) := by
  induction bound generalizing fresh with
  | zero => exact fun j after _ => rfl
  | succ bound ih =>
    exact (ignoresDetours_record (ignoresDetours_readListBy ih (fresh + 1)) {}).bind _

/-- A list of blocks is read alike before and after a detour, faults aside. -/
theorem toOption_readList_detour (j : Json) (fresh : Nat) :
    ((Param.detour j).read (readList · fresh)).toOption = (j.read (readList · fresh)).toOption := by
  have canonical : j.sorted.Canonical := Json.canonical_sorted j
  have same : Node.ofJson (Param.detour j) = Node.ofSorted (Param.detour j.sorted) := by
    rw [Node.ofJson_eq_ofSorted (Param.canonical_detour j), Param.detour, Param.detour,
      Param.ofJson_sorted]
  have bound : ∀ {n : Node}, n.height ≤ (Node.ofJson j).height →
      readList n fresh = readListBy (readWithin (Node.ofJson j).height) fresh n :=
    fun low => (readListBy_eq_readList (low.trans (Nat.le_succ _)) fresh).symm
  rw [Json.read, Json.read, same, bound (Param.detoured canonical).height_le, bound le_rfl]
  exact ignoresDetours_readListBy (ignoresDetours_readWithin _) fresh (Param.detoured canonical)

end Block
end Blockware
