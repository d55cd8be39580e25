import Blockware.Proofs.Json.Canonical
import Blockware.Proofs.Json.Steps

/-!
# Parts of trees

The trees inside of a tree, how they bound its height, and what they say about its value.

- `Json.Node.items`, `Json.Node.membersNamed`: the items of an array, and the members of an object
  that have one of some names.
- `Json.Node.parts`: the items of an array or the members of an object.
- `Json.Node.height_lt_of_mem_parts`: a part is lower than the whole.
- `Json.Node.toJson_induction`: induction over a tree that has a value.
- `Json.Node.canonical_of_toJson`, `Json.Node.height_ofSorted_le_of_toJson`: the value of a tree is
  canonical, also that of a text, and it is not higher than the tree.
-/

namespace Blockware.Json.Node

/-- The items of an array. -/
def items : Node → List Node
  | .array _ _ items _ => items
  | _ => []

/-- The members of an object that have one of some names. -/
def membersNamed (names : List String) : Node → List Node
  | .object _ _ members _ =>
    (members.filter fun member => member.1.name.toOption.any names.contains).map Prod.snd
  | _ => []

/-- The items of an array, or the members of an object. -/
def parts : Node → List Node
  | .array _ _ items _ => items
  | .object _ _ members _ => members.map Prod.snd
  | _ => []

theorem mem_membersNamed {names : List String} {span : Option Span} {tooDeep : Option Fault}
    {members : List (Key × Node)} {stop : Option Break} {member : Key × Node} {name : String}
    (there : member ∈ members) (named : member.1.name = .ok name) (wanted : name ∈ names) :
    member.2 ∈ (Node.object span tooDeep members stop).membersNamed names := by
  refine List.mem_map.mpr ⟨member, List.mem_filter.mpr ⟨there, ?_⟩, rfl⟩
  rw [named]
  simpa [Except.toOption] using wanted

theorem items_subset_parts (n : Node) : n.items ⊆ n.parts := by
  cases n with
  | array span tooDeep items stop => exact List.Subset.refl items
  | _ => exact List.nil_subset _

theorem membersNamed_subset_parts (names : List String) (n : Node) :
    n.membersNamed names ⊆ n.parts := by
  cases n with
  | object span tooDeep members stop =>
    exact List.map_subset Prod.snd List.filter_sublist.subset
  | _ => exact List.nil_subset _

theorem ofMembers_eq_map (members : List (String × Json)) :
    ofMembers members = members.map fun m => ({ name := .ok m.1 }, ofSorted m.2) := by
  induction members with
  | nil => rfl
  | cons m rest ih => rw [ofMembers, ih, List.map_cons]

theorem parts_ofSorted_arr (items : List Json) :
    (ofSorted (.arr items)).parts = items.map ofSorted :=
  ofItems_eq_map items

theorem parts_ofSorted_obj (members : List (String × Json)) :
    (ofSorted (.obj members)).parts = members.map fun m => ofSorted m.2 := by
  rw [ofSorted, parts, ofMembers_eq_map, List.map_map]
  rfl

/-! ### Heights -/

theorem heightOfItems_le_iff {items : List Node} {k : Nat} :
    heightOfItems items ≤ k ↔ ∀ n ∈ items, n.height ≤ k := by
  induction items with
  | nil => simp [heightOfItems]
  | cons n rest ih => rw [heightOfItems, max_le_iff, ih, List.forall_mem_cons]

theorem heightOfMembers_le_iff {members : List (Key × Node)} {k : Nat} :
    heightOfMembers members ≤ k ↔ ∀ m ∈ members, m.2.height ≤ k := by
  induction members with
  | nil => simp [heightOfMembers]
  | cons m rest ih => rw [heightOfMembers, max_le_iff, ih, List.forall_mem_cons]

/-- A tree is higher than its parts, and no higher than it has to be for that. -/
theorem height_le_iff {n : Node} {k : Nat} : n.height ≤ k + 1 ↔ ∀ m ∈ n.parts, m.height ≤ k := by
  cases n with
  | array span tooDeep items stop =>
    rw [height, Nat.add_le_add_iff_right, heightOfItems_le_iff, parts]
  | object span tooDeep members stop =>
    rw [height, Nat.add_le_add_iff_right, heightOfMembers_le_iff, parts, List.forall_mem_map]
  | _ => simp [height, parts]

theorem height_pos (n : Node) : 0 < n.height := by
  cases n <;> exact Nat.succ_pos _

/-- A part is lower than the whole. -/
theorem height_lt_of_mem_parts {n m : Node} (h : m ∈ n.parts) : m.height < n.height := by
  obtain ⟨k, hk⟩ := Nat.exists_eq_add_one_of_ne_zero n.height_pos.ne'
  rw [hk]
  exact Nat.lt_succ_of_le (height_le_iff.mp hk.le m h)

/-- A tree is not higher than one that has a part at least as high for each of its parts. -/
theorem height_le_of_parts {n n' : Node}
    (h : ∀ m ∈ n.parts, ∃ m' ∈ n'.parts, m.height ≤ m'.height) : n.height ≤ n'.height := by
  obtain ⟨k, hk⟩ := Nat.exists_eq_add_one_of_ne_zero n'.height_pos.ne'
  rw [hk]
  refine height_le_iff.mpr fun m hm => ?_
  obtain ⟨m', hm', low⟩ := h m hm
  exact low.trans (height_le_iff.mp hk.le m' hm')

/-! ### Values of trees -/

theorem mem_of_itemsToJson {items : List Node} {values : List Json}
    (h : itemsToJson items = .ok values) : ∀ j ∈ values, ∃ n ∈ items, n.toJson = .ok j := by
  induction items generalizing values with
  | nil =>
    cases h
    exact fun j hj => absurd hj List.not_mem_nil
  | cons n rest ih =>
    rw [itemsToJson] at h
    obtain ⟨value, hvalue, h⟩ := bind_eq_ok.mp h
    obtain ⟨later, hlater, h⟩ := bind_eq_ok.mp h
    cases h
    refine List.forall_mem_cons.mpr ⟨⟨n, List.mem_cons_self, hvalue⟩, fun j hj => ?_⟩
    obtain ⟨m, hm, value⟩ := ih hlater j hj
    exact ⟨m, List.mem_cons_of_mem n hm, value⟩

theorem mem_of_membersToJson {members : List (Key × Node)} {values : List (String × Json)}
    (h : membersToJson members = .ok values) :
    ∀ e ∈ values, ∃ m ∈ members, m.2.toJson = .ok e.2 := by
  induction members generalizing values with
  | nil =>
    cases h
    exact fun e he => absurd he List.not_mem_nil
  | cons m rest ih =>
    rw [membersToJson] at h
    obtain ⟨name, -, h⟩ := bind_eq_ok.mp h
    obtain ⟨value, hvalue, h⟩ := bind_eq_ok.mp h
    obtain ⟨later, hlater, h⟩ := bind_eq_ok.mp h
    cases h
    refine List.forall_mem_cons.mpr ⟨⟨m, List.mem_cons_self, hvalue⟩, fun e he => ?_⟩
    obtain ⟨m', hm', value⟩ := ih hlater e he
    exact ⟨m', List.mem_cons_of_mem m hm', value⟩

/-- Induction over a tree that has a value, with a hypothesis for each part of the value: it is that of
a part of the tree. -/
@[elab_as_elim]
theorem toJson_induction {motive : (n : Node) → (j : Json) → n.toJson = .ok j → Prop}
    (scalar : ∀ span value, motive (.scalar span value) value.toJson rfl)
    (array : ∀ span tooDeep items stop values h, (∀ j ∈ values, ∃ n ∈ items, ∃ hj, motive n j hj) →
      motive (.array span tooDeep items stop) (.arr values) h)
    (object : ∀ span tooDeep members stop values h,
      (∀ e ∈ values, ∃ m ∈ members, ∃ he, motive m.2 e.2 he) →
        motive (.object span tooDeep members stop) (.obj (Dict.ofList values)) h)
    {n : Node} {j : Json} (h : n.toJson = .ok j) : motive n j h := by
  induction hk : n.height using Nat.strong_induction_on generalizing n j with
  | _ k ih =>
    have part : ∀ {m : Node} {j : Json}, m ∈ n.parts → (hj : m.toJson = .ok j) → motive m j hj :=
      fun hm hj => ih _ (hk ▸ height_lt_of_mem_parts hm) hj rfl
    cases n with
    | scalar span value =>
      cases h
      exact scalar span value
    | array span tooDeep items stop =>
      have steps := h
      rw [toJson] at steps
      obtain ⟨_, -, steps⟩ := bind_eq_ok.mp steps
      obtain ⟨values, hvalues, steps⟩ := bind_eq_ok.mp steps
      obtain ⟨_, -, steps⟩ := bind_eq_ok.mp steps
      cases steps
      refine array span tooDeep items stop values h fun j hj => ?_
      obtain ⟨m, hm, value⟩ := mem_of_itemsToJson hvalues j hj
      exact ⟨m, hm, value, part hm value⟩
    | object span tooDeep members stop =>
      have steps := h
      rw [toJson] at steps
      obtain ⟨_, -, steps⟩ := bind_eq_ok.mp steps
      obtain ⟨values, hvalues, steps⟩ := bind_eq_ok.mp steps
      obtain ⟨_, -, steps⟩ := bind_eq_ok.mp steps
      cases steps
      refine object span tooDeep members stop values h fun e he => ?_
      obtain ⟨m, hm, value⟩ := mem_of_membersToJson hvalues e he
      exact ⟨m, hm, value, part (List.mem_map_of_mem hm) value⟩
    | unholdable start isString fault => cases h
    | broken b => cases h

/-- The value of a tree is canonical. -/
theorem canonical_of_toJson {n : Node} {j : Json} (h : n.toJson = .ok j) : j.Canonical := by
  induction h using toJson_induction with
  | scalar span value =>
    cases value with
    | null => exact .null
    | bool b => exact .bool b
    | int n => exact .int n
    | float x => exact .float x
    | str s => exact .str s
  | array span tooDeep items stop values _ ih =>
    refine .arr fun j hj => ?_
    obtain ⟨_, _, _, canonical⟩ := ih j hj
    exact canonical
  | object span tooDeep members stop values _ ih =>
    refine .obj (Dict.ordered_ofList values) fun e he => ?_
    obtain ⟨_, _, _, canonical⟩ := ih e (Dict.mem_of_mem_ofList he)
    exact canonical

/-- The value of a tree is not higher than the tree; a repeated name may make it lower. -/
theorem height_ofSorted_le_of_toJson {n : Node} {j : Json} (h : n.toJson = .ok j) :
    (ofSorted j).height ≤ n.height := by
  induction h using toJson_induction with
  | scalar span value => cases value <;> exact le_rfl
  | array span tooDeep items stop values _ ih =>
    refine height_le_of_parts ?_
    rw [parts_ofSorted_arr]
    refine List.forall_mem_map.mpr fun j hj => ?_
    obtain ⟨m, hm, -, low⟩ := ih j hj
    exact ⟨m, hm, low⟩
  | object span tooDeep members stop values _ ih =>
    refine height_le_of_parts ?_
    rw [parts_ofSorted_obj]
    refine List.forall_mem_map.mpr fun e he => ?_
    obtain ⟨m, hm, -, low⟩ := ih e (Dict.mem_of_mem_ofList he)
    exact ⟨m.2, List.mem_map_of_mem hm, low⟩

end Blockware.Json.Node
