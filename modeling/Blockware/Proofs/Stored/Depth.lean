import Blockware.Proofs.Stored.GivenIds
import Blockware.Proofs.Stored.Params

/-!
# The bound of the block reader

A block is read with a bound for the levels of its tree. The trees that are read along with a tree
are lower than it: the bodies in it, and the body among its parameters, although that one is a tree
of its own. So a bound that is not lower than the tree is never reached, and a block and its bodies
are read by one and the same reader.

- `Block.height_lt_of_draft`: the parameters of a block are lower than the block.
- `Block.readWithin_eq`: all bounds from the height of a tree on read it alike.
- `Block.read_eq`: the equation of the reader without a bound.
-/

namespace Blockware

open Json (Node Fault)

namespace Block

/-! ### Trees inside of a tree -/

theorem bodies_subset_parts (n : Node) : bodies n ⊆ n.parts := by
  cases n with
  | array span tooDeep items stop =>
    exact fun m hm => List.mem_of_getElem? (Option.mem_toList.mp hm)
  | object span tooDeep members stop =>
    exact Node.membersNamed_subset_parts [innerKey, "inner_blocks"] (.object span tooDeep members stop)
  | _ => exact List.nil_subset _

/-- The parameters of a block are lower than the block. -/
theorem height_lt_of_draft {body : Node → Except Fault (List Block)} {n : Node} {d : Draft}
    (h : (record body).read {} n = .ok d) :
    ∀ e ∈ (d.params.getD none).getD [], (Node.ofJson e.2.toJson).height < n.height := by
  let P (d : Draft) : Prop :=
    ∀ e ∈ (d.params.getD none).getD [], (Node.ofJson e.2.toJson).height < n.height
  refine Json.Record.read_invariant (P := P) ?_ (by simp [P]) h
  intro f hf m hm d d' hd h
  simp only [record, List.mem_cons, List.not_mem_nil, or_false] at hf
  rcases hf with rfl | rfl | rfl | rfl
  · obtain ⟨id, -, h⟩ := Json.bind_eq_ok.mp h
    cases h
    exact hd
  · obtain ⟨type, -, h⟩ := Json.bind_eq_ok.mp h
    cases h
    exact hd
  · obtain ⟨params, hparams, h⟩ := Json.bind_eq_ok.mp h
    cases h
    cases params with
    | none => simp [P]
    | some params =>
      -- A parameter is a part of a part of the block.
      let Q (p : Param) : Prop := (Node.ofJson p.toJson).height < n.height
      refine (Node.readDict_invariant (Q := Q) (fun m' hm' p hp => ?_)
        (Node.of_readOption hparams)).2
      exact (Param.height_le_of_read hp).trans_lt
        ((Node.height_lt_of_mem_parts hm').trans (Node.height_lt_of_mem_parts hm))
  · obtain ⟨inner, -, h⟩ := Json.bind_eq_ok.mp h
    cases h
    exact hd

/-! ### Bounds -/

/-- Lists are read alike by readers that agree on the items. -/
theorem readListBy_congr_reader {one one' : Nat → Node → Except Fault Block} {n : Node}
    (same : ∀ item ∈ n.items, ∀ f, one f item = one' f item) (f : Nat) :
    readListBy one f n = readListBy one' f n := by
  unfold readListBy
  rw [Node.foldItems_congr]
  rintro item hitem ⟨done, next⟩
  simp only [same item hitem]

/-- A block is read alike by readers of bodies that agree on all lower trees. -/
theorem ofDraft_read_congr {body body' : Node → Except Fault (List Block)} {n : Node}
    (same : ∀ m : Node, m.height < n.height → body m = body' m) (fresh : Nat) :
    ((record body).read {} n >>= fun draft =>
        .ok (ofDraft (fun value => (Json.read value body).toOption) fresh draft)) =
      ((record body').read {} n >>= fun draft =>
        .ok (ofDraft (fun value => (Json.read value body').toOption) fresh draft)) := by
  have drafts : (record body).read {} n = (record body').read {} n :=
    read_record_congr fun m hm =>
      readOption_congr (same m (Node.height_lt_of_mem_parts (bodies_subset_parts n hm)))
  rw [drafts]
  cases read : (record body').read {} n with
  | error fault => rfl
  | ok d =>
    refine congrArg Except.ok (ofDraft_congr (fun value _ found => ?_) fresh)
    have lower := height_lt_of_draft read _ (Dict.mem_of_get? found)
    rw [Json.read, Json.read, same _ lower]

/-- Bounds that are not lower than a tree read it alike. -/
theorem readWithin_eq {k l : Nat} {n : Node} (hk : n.height ≤ k) (hl : n.height ≤ l) (f : Nat) :
    readWithin k f n = readWithin l f n := by
  induction k generalizing l n f with
  | zero => exact absurd n.height_pos (Nat.not_lt.mpr hk)
  | succ k ih =>
    obtain ⟨l, rfl⟩ := Nat.exists_eq_add_one_of_ne_zero (n.height_pos.trans_le hl).ne'
    refine ofDraft_read_congr (fun m inside => ?_) f
    refine readListBy_congr_reader (fun item hitem f => ih ?_ ?_ f) (f + 1)
    all_goals
      have := Node.height_lt_of_mem_parts (Node.items_subset_parts m hitem)
      omega

/-- A list is read by the same reader, whatever the bound for its blocks. -/
theorem readListBy_eq_readList {k : Nat} {n : Node} (hk : n.height ≤ k + 1) (f : Nat) :
    readListBy (readWithin k) f n = readList n f := by
  refine readListBy_congr_reader (fun item hitem f => readWithin_eq ?_ ?_ f) f
  all_goals
    have := Node.height_lt_of_mem_parts (Node.items_subset_parts n hitem)
    omega

/-- **The reader of blocks**: the body of a block is read as a list of blocks, be it one of its own
or a parameter, and to whatever depth. -/
theorem read_eq (n : Node) (fresh : Nat) :
    read n fresh = (do
      let draft ← (record (readList · (fresh + 1))).read {} n
      return ofDraft (fun value => (Json.read value (readList · (fresh + 1))).toOption) fresh
        draft) := by
  obtain ⟨k, hk⟩ := Nat.exists_eq_add_one_of_ne_zero n.height_pos.ne'
  rw [read, hk]
  exact ofDraft_read_congr (fun m inside => readListBy_eq_readList (by omega) (fresh + 1)) fresh

end Block
end Blockware
